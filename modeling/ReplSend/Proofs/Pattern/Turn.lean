import ReplSend.Proofs.Pattern.Options

/-!
# Reading a group turn by turn

Each turn takes a character at least, so the reading does not hang on the limit
(`readGroup_limit`). A turn within a group is the same when a closing parenthesis and more text
follow the group (`Embeds.turn`), and so is the whole reading of it (`readGroup_append`), unless
options for the whole pattern stand at its start: those may not stand anywhere else
(`readGroup_eq_malformed`).
-/

namespace ReplSend.Pattern

variable {named : Text → Option Char} {n m : Nat} {r inner : Reading} {s s' : Seen} {p : Pattern}
  {c : Char} {rest t u v closing : Text} {next : Turn}

theorem orMalformed_eq_ok {α : Type} {o : Option α} {a : α} :
    orMalformed o = .ok a ↔ o = some a := by
  cases o with
  | none => exact ⟨nofun, nofun⟩
  | some b => exact ⟨fun h => by cases h; rfl, fun h => by cases h; rfl⟩

theorem readGroup_nil : readGroup named n r s [] = .ok (r.pattern, s, []) := by
  cases n <;> rfl

/-! ## The rest of a group by its next turn -/

section

variable (n t)

theorem readGroup_of_close (h : r.turn named s c t = .ok .close) :
    readGroup named (n + 1) r s (c :: t) = .ok (r.pattern, s, c :: t) := by
  simp only [readGroup, h]

theorem readGroup_of_go {r' : Reading} (h : r.turn named s c t = .ok (.go r' s' rest)) :
    readGroup named (n + 1) r s (c :: t) = readGroup named n r' s' rest := by
  simp only [readGroup, h]

theorem readGroup_of_enter {e : Enclosure} {s₁ s₂ : Seen} {rest' : Text}
    (h : r.turn named s c t = .ok (.enter e inner s₁ rest))
    (hinner : readGroup named n inner s₁ rest = .ok (p, s₂, ')' :: rest')) :
    readGroup named (n + 1) r s (c :: t) =
      readGroup named n (r.push ⟨(e.close p s₂).1, .plain⟩) (e.close p s₂).2 rest' := by
  simp only [readGroup, h, hinner]

theorem readGroup_of_inner_error {e : Enclosure} {s₁ : Seen} {f : Fault}
    (h : r.turn named s c t = .ok (.enter e inner s₁ rest))
    (hinner : readGroup named n inner s₁ rest = .error f) :
    readGroup named (n + 1) r s (c :: t) = .error f := by
  simp only [readGroup, h, hinner]

theorem readGroup_of_error {f : Fault} (h : r.turn named s c t = .error f) :
    readGroup named (n + 1) r s (c :: t) = .error f := by
  simp only [readGroup, h]

end

/-- The turns of a group that can be read, and what comes of each. -/
theorem readGroup_cons_eq_ok (h : readGroup named (n + 1) r s (c :: t) = .ok (p, s', closing)) :
    (r.turn named s c t = .ok .close ∧ r.pattern = p ∧ s = s' ∧ closing = c :: t) ∨
    (∃ r' s₁ rest, r.turn named s c t = .ok (.go r' s₁ rest) ∧
      readGroup named n r' s₁ rest = .ok (p, s', closing)) ∨
    ∃ e inner s₁ rest q s₂ rest', r.turn named s c t = .ok (.enter e inner s₁ rest) ∧
      readGroup named n inner s₁ rest = .ok (q, s₂, ')' :: rest') ∧
      readGroup named n (r.push ⟨(e.close q s₂).1, .plain⟩) (e.close q s₂).2 rest' =
        .ok (p, s', closing) := by
  rw [readGroup] at h
  split at h
  · cases h
  · rename_i hturn
    cases h
    exact .inl ⟨hturn, rfl, rfl, rfl⟩
  · rename_i r' s₁ rest hturn
    exact .inr (.inl ⟨r', s₁, rest, hturn, h⟩)
  · rename_i e inner s₁ rest hturn
    split at h
    · rename_i q s₂ rest' hinner
      exact .inr (.inr ⟨e, inner, s₁, rest, q, s₂, rest', hturn, hinner, h⟩)
    · cases h
    · cases h

/-! ## Turns and the length of the text -/

/-- What is left after the turn is no longer than the text given. -/
def Turn.Within (t : Text) : Turn → Prop
  | .close => True
  | .go _ _ rest => rest.length ≤ t.length
  | .enter _ _ _ rest => rest.length ≤ t.length

theorem Turn.Within.mono (h : next.Within u) (hut : u.length ≤ t.length) : next.Within t := by
  cases next with
  | close => trivial
  | go r s rest => exact Nat.le_trans h hut
  | enter e inner s rest => exact Nat.le_trans h hut

theorem within_bar? (h : r.bar? s t = some next) : next.Within t := by
  unfold Reading.bar? at h
  split at h <;> cases h
  exact Nat.le_refl _

theorem within_reference? (h : r.reference? s n t = some next) : next.Within t := by
  unfold Reading.reference? at h
  split at h <;> cases h
  exact Nat.le_refl _

theorem within_escapeTurn? {e : Escape} (h : r.escapeTurn? s (e, t) = some next) :
    next.Within t := by
  cases e with
  | piece piece =>
    cases h
    exact Nat.le_refl _
  | reference n => exact within_reference? h

theorem within_openingTurn? {op : Opening} (h : r.openingTurn? s (op, t) = some next) :
    next.Within t := by
  cases op with
  | group name =>
    obtain ⟨_, -, rfl⟩ := Option.map_eq_some_iff.1 h
    exact Nat.le_refl _
  | reference name =>
    obtain ⟨n, -, h⟩ := Option.bind_eq_some_iff.1 h
    exact within_reference? h
  | condition called =>
    obtain ⟨_, -, h⟩ := Option.bind_eq_some_iff.1 h
    dsimp only at h
    split at h <;> cases h
    exact Nat.le_refl _
  | everywhere on =>
    dsimp only [Reading.openingTurn?] at h
    split at h <;> cases h
    exact Nat.le_refl _
  | _ =>
    cases h
    exact Nat.le_refl _

theorem within_repeatTurn? {least : Nat} {most : Option Nat}
    (h : r.repeatTurn? s least most t = some next) : next.Within t := by
  obtain ⟨_, -, rfl⟩ := Option.map_eq_some_iff.1 h
  exact length_of_greed t

/-- A turn takes its first character, and maybe more. -/
theorem within_turn (h : r.turn named s c t = .ok next) : next.Within t := by
  rw [Reading.turn.eq_def] at h
  split at h
  · cases h
    trivial
  split at h
  · exact within_bar? (orMalformed_eq_ok.1 h)
  split at h
  · cases h
    exact Nat.le_refl _
  split at h
  · obtain ⟨rest, hskip, rfl⟩ := Option.map_eq_some_iff.1 (orMalformed_eq_ok.1 h)
    exact length_of_skipLine? hskip
  split at h
  · cases t with
    | nil => cases h
    | cons x t =>
      obtain ⟨_, he, h⟩ := Option.bind_eq_some_iff.1 (orMalformed_eq_ok.1 h)
      have hlength := (stable_escape? r.options x).length_le he
      exact (within_escapeTurn? h).mono (Nat.le_succ_of_le hlength)
  split at h
  · obtain ⟨_, hpiece, rfl⟩ := Option.map_eq_some_iff.1 (orMalformed_eq_ok.1 h)
    exact (stable_charClass? r.options).length_le hpiece
  split at h
  · obtain ⟨_, hop, h⟩ := Option.bind_eq_some_iff.1 (orMalformed_eq_ok.1 h)
    exact (within_openingTurn? h).mono (stable_opening?.length_le hop)
  split at h
  · cases h
  · rename_i hq
    exact (within_repeatTurn? (orMalformed_eq_ok.1 h)).mono (length_of_quantifier hq)
  · cases h
    exact Nat.le_refl _

theorem length_of_readGroup (h : readGroup named n r s t = .ok (p, s', closing)) :
    closing.length ≤ t.length := by
  induction n generalizing r s t p s' closing with
  | zero =>
    cases t with
    | nil =>
      rw [readGroup_nil] at h
      cases h
      exact Nat.le_refl _
    | cons c t => cases h
  | succ n ih =>
    cases t with
    | nil =>
      rw [readGroup_nil] at h
      cases h
      exact Nat.le_refl _
    | cons c t =>
      rcases readGroup_cons_eq_ok h with ⟨-, -, -, rfl⟩ | ⟨r', s₁, rest, hturn, hread⟩ |
        ⟨e, inner, s₁, rest, q, s₂, rest', hturn, hinner, hread⟩
      · exact Nat.le_refl _
      · exact Nat.le_succ_of_le (Nat.le_trans (ih hread) (within_turn hturn))
      · have hrest : rest.length ≤ t.length := within_turn hturn
        have hclosed := ih hinner
        have hclosing := ih hread
        simp only [List.length_cons] at hclosed ⊢
        omega

/-- A group is read the same way under every limit that is not below the length of the text. -/
theorem readGroup_limit (hn : t.length ≤ n) (hm : t.length ≤ m) :
    readGroup named n r s t = readGroup named m r s t := by
  induction n generalizing m r s t with
  | zero =>
    obtain rfl := List.length_eq_zero_iff.1 (Nat.le_zero.1 hn)
    rw [readGroup_nil, readGroup_nil]
  | succ n ih =>
    cases t with
    | nil => rw [readGroup_nil, readGroup_nil]
    | cons c t =>
      obtain _ | m := m
      · cases hm
      have hn := Nat.le_of_succ_le_succ hn
      have hm := Nat.le_of_succ_le_succ hm
      cases hturn : r.turn named s c t with
      | error f => rw [readGroup_of_error _ _ hturn, readGroup_of_error _ _ hturn]
      | ok next =>
        have hwithin := within_turn hturn
        cases next with
        | close => rw [readGroup_of_close _ _ hturn, readGroup_of_close _ _ hturn]
        | go r' s₁ rest =>
          rw [readGroup_of_go _ _ hturn, readGroup_of_go _ _ hturn]
          exact ih (Nat.le_trans hwithin hn) (Nat.le_trans hwithin hm)
        | enter e inner s₁ rest =>
          have hinner : readGroup named n inner s₁ rest = readGroup named m inner s₁ rest :=
            ih (Nat.le_trans hwithin hn) (Nat.le_trans hwithin hm)
          simp only [readGroup, hturn, ← hinner]
          split
          · rename_i q s₂ rest' hread
            have hrest := Nat.le_trans (length_of_readGroup hread) hwithin
            simp only [List.length_cons] at hrest
            exact ih (by omega) (by omega)
          · rfl
          · rfl

/-! ## Reading on when more follows -/

/-- The rest of a group, which is read up to `rest`, can stand within a group: nothing in it hangs
on being the whole pattern, nor on the text's ending where it does. -/
structure Embeds (r : Reading) (t rest : Text) : Prop where
  closed : r.options.spaced = true → rest ≠ []
  plain : r.top = true → r.options.spaced = false
  options : r.top = true → r.finished = [] → r.pieces = [] → opensWithOptions t = false

def Reading.lowered (r : Reading) : Reading := { r with top := false }

theorem Reading.lowered_of_top (h : r.top = false) : r.lowered = r := by
  rw [lowered, ← h]

/-- The turn when the text goes on. -/
def Turn.extended (v : Text) : Turn → Turn
  | .close => .close
  | .go r s rest => .go r.lowered s (rest ++ ')' :: v)
  | .enter e inner s rest => .enter e inner s (rest ++ ')' :: v)

/-- What remains of the group after the turn can stand within a group, and a group that is entered
is not the whole pattern. -/
def Turn.Embeds (closing : Text) : Turn → Prop
  | .close => True
  | .go r _ t => Pattern.Embeds r t closing
  | .enter _ inner _ _ => inner.top = false

theorem Embeds.push (hf : Embeds r t closing) (piece : Piece) (t' : Text) :
    Embeds (r.push piece) t' closing :=
  ⟨hf.closed, hf.plain, fun _ _ hpieces => nomatch hpieces⟩

/-- Within the whole pattern blanks are not passed over. -/
theorem Embeds.of_spaced (hf : Embeds r t closing) (hspaced : r.options.spaced = true)
    (t' : Text) : Embeds r t' closing := by
  refine ⟨hf.closed, hf.plain, fun htop => ?_⟩
  rw [hf.plain htop] at hspaced
  cases hspaced

/-- A group within another group is never the whole pattern. -/
theorem embeds_inner (h : inner.top = false) (t t' : Text) : Embeds inner t (')' :: t') := by
  refine ⟨fun _ => List.cons_ne_nil _ _, fun htop => ?_, fun htop => ?_⟩ <;>
  · rw [h] at htop
    cases htop

/-! ### One lemma for each kind of turn -/

theorem Embeds.bar? (hf : Embeds r t closing) (h : r.bar? s u = some next) (v : Text) :
    r.lowered.bar? s (u ++ ')' :: v) = some (next.extended v) ∧ next.Embeds closing := by
  unfold Reading.bar? at h ⊢
  split at h
  · cases h
  · rename_i hbar
    cases h
    exact ⟨if_neg hbar, hf.closed, hf.plain, fun _ hfinished => nomatch hfinished⟩

theorem Embeds.reference? (hf : Embeds r t closing) (h : r.reference? s n u = some next)
    (v : Text) : r.lowered.reference? s n (u ++ ')' :: v) = some (next.extended v) ∧
      next.Embeds closing := by
  unfold Reading.reference? at h ⊢
  split at h
  · rename_i hrefers
    cases h
    exact ⟨if_pos hrefers, hf.push _ u⟩
  · cases h

theorem Embeds.escapeTurn? (hf : Embeds r t closing) {e : Escape}
    (h : r.escapeTurn? s (e, u) = some next) (v : Text) :
    r.lowered.escapeTurn? s (e, u ++ ')' :: v) = some (next.extended v) ∧
      next.Embeds closing := by
  cases e with
  | piece piece =>
    cases h
    exact ⟨rfl, hf.push piece u⟩
  | reference n => exact hf.reference? h v

theorem Embeds.openingTurn? (hf : Embeds r ('(' :: t) closing) {op : Opening}
    (hop : opening? t = some (op, u)) (h : r.openingTurn? s (op, u) = some next) (v : Text) :
    r.lowered.openingTurn? s (op, u ++ ')' :: v) = some (next.extended v) ∧
      next.Embeds closing := by
  cases op with
  | group name =>
    obtain ⟨⟨n, s₁⟩, hname, h⟩ := Option.map_eq_some_iff.1 h
    cases h
    exact ⟨Option.map_eq_some_iff.2 ⟨_, hname, rfl⟩, rfl⟩
  | reference name =>
    obtain ⟨n, hname, h⟩ := Option.bind_eq_some_iff.1 h
    obtain ⟨hstep, hnext⟩ := hf.reference? h v
    exact ⟨Option.bind_eq_some_iff.2 ⟨n, hname, hstep⟩, hnext⟩
  | condition called =>
    obtain ⟨⟨n, s₁⟩, hcalled, h⟩ := Option.bind_eq_some_iff.1 h
    dsimp only at h
    split at h
    · rename_i hrefers
      cases h
      exact ⟨Option.bind_eq_some_iff.2 ⟨_, hcalled, if_pos hrefers⟩, rfl⟩
    · cases h
  | everywhere on =>
    dsimp only [Reading.openingTurn?] at h
    split at h
    · rename_i htop
      simp only [Bool.and_eq_true, List.isEmpty_iff] at htop
      have hplain := hf.options htop.1.1 htop.1.2 htop.2
      rw [opensWithOptions_everywhere hop] at hplain
      cases hplain
    · cases h
  | comment =>
    cases h
    refine ⟨rfl, hf.closed, hf.plain, fun h1 h2 h3 => ?_⟩
    rw [← opensWithOptions_comment hop]
    exact hf.options h1 h2 h3
  | _ =>
    cases h
    exact ⟨rfl, rfl⟩

theorem Embeds.repeatTurn? (hf : Embeds r t closing) {least : Nat} {most : Option Nat}
    (h : r.repeatTurn? s least most u = some next) (v : Text) :
    r.lowered.repeatTurn? s least most (u ++ ')' :: v) = some (next.extended v) ∧
      next.Embeds closing := by
  obtain ⟨pieces, hpieces, rfl⟩ := Option.map_eq_some_iff.1 h
  have hne : pieces ≠ [] := by
    rintro rfl
    unfold repeatLast? at hpieces
    split at hpieces <;> cases hpieces
  refine ⟨?_, hf.closed, hf.plain, fun _ _ hnil => absurd hnil hne⟩
  rw [Reading.repeatTurn?, greed_close]
  exact Option.map_eq_some_iff.2 ⟨pieces, hpieces, rfl⟩

/-- A turn within a group is the same when the text goes on, unless it runs to the end of the
text. -/
theorem Embeds.turn (hf : Embeds r (c :: t) closing) (h : r.turn named s c t = .ok next)
    (hend : ∀ r' s', next = .go r' s' [] → closing = []) (v : Text) :
    r.lowered.turn named s c (t ++ ')' :: v) = .ok (next.extended v) ∧ next.Embeds closing := by
  have hoptions : r.lowered.options = r.options := rfl
  rw [Reading.turn.eq_def] at h ⊢
  rw [hoptions]
  by_cases hclose : c = ')'
  · rw [if_pos hclose] at h ⊢
    cases h
    exact ⟨rfl, trivial⟩
  rw [if_neg hclose] at h ⊢
  by_cases hbar : c = '|'
  · rw [if_pos hbar, orMalformed_eq_ok] at h ⊢
    exact hf.bar? h v
  rw [if_neg hbar] at h ⊢
  by_cases hspace : (r.options.spaced &&
      [' ', '\t', '\n', '\r', '\x0b', '\x0c'].contains c) = true
  · rw [if_pos hspace] at h ⊢
    cases h
    rw [Bool.and_eq_true] at hspace
    exact ⟨rfl, hf.of_spaced hspace.1 t⟩
  rw [if_neg hspace] at h ⊢
  by_cases hcomment : (r.options.spaced && c == '#') = true
  · rw [if_pos hcomment, orMalformed_eq_ok] at h ⊢
    rw [Bool.and_eq_true] at hcomment
    obtain ⟨rest, hskip, rfl⟩ := Option.map_eq_some_iff.1 h
    -- a comment that runs to the end of the text would take in what follows
    have hline : rest ≠ [] := fun hnil => hf.closed hcomment.1 (hend r s (by rw [hnil]))
    rw [skipLine?_append hskip hline]
    exact ⟨rfl, hf.of_spaced hcomment.1 rest⟩
  rw [if_neg hcomment] at h ⊢
  by_cases hescape : c = '\\'
  · rw [if_pos hescape] at h ⊢
    cases t with
    | nil => cases h
    | cons x t =>
      obtain ⟨⟨e, rest⟩, he, h⟩ := Option.bind_eq_some_iff.1 (orMalformed_eq_ok.1 h)
      obtain ⟨hstep, hnext⟩ := hf.escapeTurn? h v
      refine ⟨orMalformed_eq_ok.2 (Option.bind_eq_some_iff.2 ⟨_, ?_, hstep⟩), hnext⟩
      exact (stable_escape? r.options x).append he v
  rw [if_neg hescape] at h ⊢
  by_cases hclass : c = '['
  · rw [if_pos hclass, orMalformed_eq_ok] at h ⊢
    obtain ⟨⟨piece, rest⟩, hpiece, rfl⟩ := Option.map_eq_some_iff.1 h
    rw [(stable_charClass? r.options).append hpiece v]
    exact ⟨rfl, hf.push piece rest⟩
  rw [if_neg hclass] at h ⊢
  by_cases hopen : c = '('
  · rw [if_pos hopen, orMalformed_eq_ok] at h ⊢
    subst hopen
    obtain ⟨⟨op, rest⟩, hop, h⟩ := Option.bind_eq_some_iff.1 h
    rw [stable_opening?.append hop v]
    exact hf.openingTurn? hop h v
  rw [if_neg hopen] at h ⊢
  split at h
  · cases h
  · rename_i least most rest hq
    rw [quantifier_close hq v]
    dsimp only [Option.map_some, extended]
    rw [orMalformed_eq_ok] at h ⊢
    exact hf.repeatTurn? h v
  · rename_i hq
    cases h
    rw [quantifier_close hq v]
    exact ⟨rfl, hf.push _ t⟩

/-- A group is read the same way when a closing parenthesis and more text follow. -/
theorem readGroup_append (h : readGroup named n r s t = .ok (p, s', closing))
    (hf : Embeds r t closing) (hnm : n ≤ m) (v : Text) :
    readGroup named (m + 1) r.lowered s (t ++ ')' :: v) = .ok (p, s', closing ++ ')' :: v) := by
  -- on the number of turns, since a group within the group is read before the rest of it
  induction n generalizing m r s t p s' closing with
  | zero =>
    cases t with
    | nil =>
      rw [readGroup_nil] at h
      cases h
      exact readGroup_of_close m v rfl
    | cons c t => cases h
  | succ n ih =>
    obtain _ | m := m
    · cases hnm
    have hnm := Nat.le_of_succ_le_succ hnm
    cases t with
    | nil =>
      rw [readGroup_nil] at h
      cases h
      exact readGroup_of_close (m + 1) v rfl
    | cons c t =>
      rw [List.cons_append]
      rcases readGroup_cons_eq_ok h with ⟨hturn, rfl, rfl, rfl⟩ | ⟨r', s₁, rest, hturn, hread⟩ |
        ⟨e, inner, s₁, rest, q, s₂, rest', hturn, hinner, hread⟩
      · exact readGroup_of_close _ _ (hf.turn hturn nofun v).1
      · have hend : ∀ r'' s'', Turn.go r' s₁ rest = .go r'' s'' [] → closing = [] := by
          rintro _ _ ⟨⟩
          rw [readGroup_nil] at hread
          cases hread
          rfl
        obtain ⟨hstep, hnext⟩ := hf.turn hturn hend v
        rw [readGroup_of_go _ _ hstep]
        exact ih hread hnext hnm
      · obtain ⟨hstep, htop⟩ := hf.turn hturn nofun v
        have hgroup := ih hinner (embeds_inner htop rest rest') hnm
        rw [Reading.lowered_of_top htop, List.cons_append] at hgroup
        rw [readGroup_of_enter _ _ hstep hgroup]
        exact ih hread (hf.push _ rest') hnm

/-! ## When the options stand within -/

theorem turn_open :
    r.turn named s '(' t = orMalformed ((opening? t).bind (r.openingTurn? s)) := by
  cases hspaced : r.options.spaced <;> simp [Reading.turn.eq_def, hspaced]

/-- Options for the whole pattern are refused where the pattern does not start. -/
theorem readGroup_eq_malformed (h : opensWithOptions t = true) (htop : r.top = false) (v : Text) :
    readGroup named n r s (t ++ ')' :: v) = .error .malformed := by
  fun_induction opensWithOptions t generalizing n with
  | case1 t on rest hop =>
    obtain _ | n := n
    · rfl
    rw [List.cons_append]
    refine readGroup_of_error n _ ?_
    rw [turn_open, stable_opening?.append hop v]
    simp [Reading.openingTurn?, htop, orMalformed]
  | case2 t rest hop ih =>
    obtain _ | n := n
    · rfl
    have hturn : r.turn named s '(' (t ++ ')' :: v) = .ok (.go r s (rest ++ ')' :: v)) := by
      rw [turn_open, stable_opening?.append hop v]
      rfl
    rw [List.cons_append, readGroup_of_go _ _ hturn]
    exact ih h
  | case3 => cases h
  | case4 => cases h

end ReplSend.Pattern
