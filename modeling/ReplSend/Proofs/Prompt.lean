import ReplSend.Prompt

/-!
# Where a prompt shows

What a pattern of characters, sequences, choices and repetitions matches is a set of texts, whatever
stands around them (`Spells`). For the default prompt this gives the texts in which a prompt is
found: those that end in `>>> ` or `In [n]: ` and perhaps blanks (`search_default_isSome`).
-/

namespace ReplSend

/-- The second place is reached from the first by reading a text, with nothing captured. -/
structure Cursor.Reads (c : Cursor) (u : Text) (d : Cursor) : Prop where
  rest : c.rest = u ++ d.rest
  before : d.before = u.reverse ++ c.before
  captured : d.captured = c.captured

namespace Cursor.Reads

variable {c d e : Cursor} {u v : Text}

theorem nil (c : Cursor) : c.Reads [] c := ⟨rfl, rfl, rfl⟩

theorem nil_iff : c.Reads [] d ↔ d = c := by
  constructor
  · rintro ⟨hrest, hbefore, hcaptured⟩
    rcases c with ⟨b, r, k⟩
    rcases d with ⟨b', r', k'⟩
    simp_all
  · rintro rfl
    exact nil _

theorem append (h : c.Reads u d) (h' : d.Reads v e) : c.Reads (u ++ v) e where
  rest := by rw [h.rest, h'.rest, List.append_assoc]
  before := by rw [h'.before, h.before, List.reverse_append, List.append_assoc]
  captured := h'.captured.trans h.captured

/-- Two texts are read one after the other. -/
theorem append_iff : c.Reads (u ++ v) e ↔ ∃ d, c.Reads u d ∧ d.Reads v e := by
  constructor
  · intro h
    refine ⟨⟨u.reverse ++ c.before, v ++ e.rest, c.captured⟩, ⟨?_, rfl, rfl⟩, rfl, ?_, h.captured⟩
    · rw [h.rest, List.append_assoc]
    · rw [h.before, List.reverse_append, List.append_assoc]
  · rintro ⟨d, h, h'⟩
    exact h.append h'

end Cursor.Reads

namespace Pattern

variable {p q : Pattern} {L M : Text → Prop} {s : CharClass} {c d : Cursor}

/-! ## What is spelled -/

/-- The pattern matches just the texts of a set. -/
def Spells (p : Pattern) (L : Text → Prop) : Prop :=
  ∀ c d, d ∈ p.ends c ↔ ∃ u, L u ∧ c.Reads u d

theorem Spells.congr (h : Spells p L) (hL : ∀ u, L u ↔ M u) : Spells p M := fun c d => by
  simp only [h c d, hL]

theorem spells_one (s : CharClass) :
    Spells (one s) fun u => ∃ x, s.contains x = true ∧ u = [x] := by
  rintro ⟨before, rest, captured⟩ ⟨before', rest', captured'⟩
  cases rest with
  | nil =>
    refine ⟨nofun, ?_⟩
    rintro ⟨_, ⟨x, -, rfl⟩, h⟩
    cases h.rest
  | cons x xs =>
    constructor
    · intro h
      simp only [ends] at h
      split at h
      · rename_i hx
        obtain ⟨rfl, rfl, rfl⟩ := Cursor.mk.inj (List.mem_singleton.1 h)
        exact ⟨[x], ⟨x, hx, rfl⟩, rfl, rfl, rfl⟩
      · cases h
    · rintro ⟨_, ⟨y, hy, rfl⟩, h⟩
      obtain ⟨rfl, rfl⟩ := List.cons.inj h.rest
      obtain rfl := h.before
      obtain rfl : captured' = captured := h.captured
      simp [ends, hy]

theorem Spells.seq (hp : Spells p L) (hq : Spells q M) :
    Spells (seq p q) fun u => ∃ v w, L v ∧ M w ∧ u = v ++ w := by
  intro c e
  simp only [ends, List.mem_flatMap]
  constructor
  · rintro ⟨d, hd, he⟩
    obtain ⟨v, hv, hread⟩ := (hp c d).1 hd
    obtain ⟨w, hw, hread'⟩ := (hq d e).1 he
    exact ⟨v ++ w, ⟨v, w, hv, hw, rfl⟩, hread.append hread'⟩
  · rintro ⟨_, ⟨v, w, hv, hw, rfl⟩, hread⟩
    obtain ⟨d, hread, hread'⟩ := Cursor.Reads.append_iff.1 hread
    exact ⟨d, (hp c d).2 ⟨v, hv, hread⟩, (hq d e).2 ⟨w, hw, hread'⟩⟩

theorem Spells.either (hp : Spells p L) (hq : Spells q M) :
    Spells (either p q) fun u => L u ∨ M u := by
  intro c d
  simp only [ends, List.mem_append, hp c d, hq c d, or_and_right, exists_or]

/-! ### Repeated characters -/

theorem mem_rounds_one {n : Nat} : d ∈ rounds (one s).ends n c ↔
    ∃ u : Text, ((∀ x ∈ u, s.contains x = true) ∧ u.length = n) ∧ c.Reads u d := by
  induction n generalizing c with
  | zero =>
    simp only [rounds, List.mem_singleton, List.length_eq_zero_iff]
    constructor
    · rintro rfl
      exact ⟨[], ⟨nofun, rfl⟩, .nil _⟩
    · rintro ⟨_, ⟨-, rfl⟩, h⟩
      exact Cursor.Reads.nil_iff.1 h
  | succ n ih =>
    simp only [rounds, List.mem_flatMap, ih]
    constructor
    · rintro ⟨e, he, u, ⟨hu, rfl⟩, hread⟩
      obtain ⟨_, ⟨x, hx, rfl⟩, hfirst⟩ := (spells_one s c e).1 he
      exact ⟨x :: u, ⟨by simpa using ⟨hx, hu⟩, rfl⟩, hfirst.append hread⟩
    · rintro ⟨_ | ⟨x, u⟩, ⟨hu, hlength⟩, hread⟩
      · cases hlength
      · obtain ⟨e, hfirst, hread⟩ := Cursor.Reads.append_iff (u := [x]) |>.1 hread
        obtain ⟨hx, hu⟩ := List.forall_mem_cons.1 hu
        exact ⟨e, (spells_one s c e).2 ⟨[x], ⟨x, hx, rfl⟩, hfirst⟩, u,
          ⟨hu, Nat.succ.inj hlength⟩, hread⟩

/-- One step of a greedy repetition of characters: on by one character if it fits, or no further. -/
theorem further_one {n : Nat} : further (one s).ends true (n + 1) c =
    ((one s).ends c).flatMap (further (one s).ends true n) ++ [c] := by
  rcases c with ⟨before, _ | ⟨x, xs⟩, captured⟩
  · rfl
  · cases hx : s.contains x <;> simp [further, ends, hx, distinct]

theorem mem_further_one {n : Nat} : d ∈ further (one s).ends true n c ↔
    ∃ u : Text, ((∀ x ∈ u, s.contains x = true) ∧ u.length ≤ n) ∧ c.Reads u d := by
  induction n generalizing c with
  | zero =>
    simp only [further, List.mem_singleton, Nat.le_zero, List.length_eq_zero_iff]
    constructor
    · rintro rfl
      exact ⟨[], ⟨nofun, rfl⟩, .nil _⟩
    · rintro ⟨_, ⟨-, rfl⟩, h⟩
      exact Cursor.Reads.nil_iff.1 h
  | succ n ih =>
    simp only [further_one, List.mem_append, List.mem_flatMap, ih, List.mem_singleton]
    constructor
    · rintro (⟨e, he, u, ⟨hu, hlength⟩, hread⟩ | rfl)
      · obtain ⟨_, ⟨x, hx, rfl⟩, hfirst⟩ := (spells_one s c e).1 he
        exact ⟨x :: u, ⟨by simpa using ⟨hx, hu⟩, Nat.succ_le_succ hlength⟩, hfirst.append hread⟩
      · exact ⟨[], ⟨nofun, Nat.zero_le _⟩, .nil _⟩
    · rintro ⟨_ | ⟨x, u⟩, ⟨hu, hlength⟩, hread⟩
      · exact .inr (Cursor.Reads.nil_iff.1 hread)
      · obtain ⟨e, hfirst, hread⟩ := Cursor.Reads.append_iff (u := [x]) |>.1 hread
        obtain ⟨hx, hu⟩ := List.forall_mem_cons.1 hu
        exact .inl ⟨e, (spells_one s c e).2 ⟨[x], ⟨x, hx, rfl⟩, hfirst⟩, u,
          ⟨hu, Nat.le_of_succ_le_succ hlength⟩, hread⟩

theorem spells_many_one (s : CharClass) {least : Nat} {most : Option Nat}
    (hmost : ∀ m, most = some m → least ≤ m) :
    Spells (many (one s) least most .greedy) fun u => (∀ x ∈ u, s.contains x = true) ∧
      least ≤ u.length ∧ ∀ m, most = some m → u.length ≤ m := by
  intro c e
  rw [show (many (one s) least most .greedy).ends c = repeated (one s).ends least most .greedy c
    from rfl]
  simp only [repeated, reduceCtorEq, if_false, List.mem_flatMap, mem_rounds_one,
    show (Greed.greedy != Greed.lazy) = true from rfl, mem_further_one]
  constructor
  · rintro ⟨d, ⟨u, ⟨hu, rfl⟩, hread⟩, v, ⟨hv, hlength⟩, hread'⟩
    refine ⟨u ++ v, ⟨?_, by simp, fun m hm => ?_⟩, hread.append hread'⟩
    · simpa [or_imp, forall_and] using ⟨hu, hv⟩
    · have hle := hmost m hm
      subst hm
      simp only [List.length_append]
      have := Nat.le_trans hlength (Nat.min_le_left _ _)
      omega
  · rintro ⟨u, ⟨hu, hleast, hle⟩, hread⟩
    rw [← List.take_append_drop least u] at hread
    obtain ⟨d, hread, hread'⟩ := Cursor.Reads.append_iff.1 hread
    refine ⟨d, ⟨u.take least, ⟨fun x hx => hu x (List.mem_of_mem_take hx), ?_⟩, hread⟩,
      u.drop least, ⟨fun x hx => hu x (List.mem_of_mem_drop hx), ?_⟩, hread'⟩
    · simp [hleast]
    · have hrest : (u.drop least).length ≤ d.rest.length := by
        rw [hread'.rest, List.length_append]
        exact Nat.le_add_right _ _
      cases most with
      | none => exact Nat.le_succ_of_le hrest
      | some m =>
        have := hle m rfl
        simp only [List.length_drop] at hrest ⊢
        omega

theorem spells_many_one_unbounded (s : CharClass) (least : Nat) :
    Spells (many (one s) least none .greedy) fun u =>
      (∀ x ∈ u, s.contains x = true) ∧ least ≤ u.length := by
  have hspells : Spells (many (one s) least none .greedy) _ := spells_many_one s (by simp)
  refine hspells.congr fun u => ?_
  simp only [reduceCtorEq, false_imp_iff, implies_true, and_true]

/-! ## What is found -/

/-- Whether the pattern matches at a place depends on what follows. -/
def Finds (p : Pattern) (L : Text → Prop) : Prop := ∀ c, p.matchesAt c = true ↔ L c.rest

theorem matchesAt_iff : p.matchesAt c = true ↔ ∃ d, d ∈ p.ends c := by
  simp only [matchesAt, Bool.not_eq_true', List.isEmpty_eq_false_iff_exists_mem]

theorem finds_textEnd : Finds (anchor .textEnd) fun t => t = [] := by
  rintro ⟨before, _ | ⟨x, xs⟩, captured⟩
  · exact ⟨fun _ => rfl, fun _ => rfl⟩
  · exact ⟨nofun, nofun⟩

theorem Spells.finds_seq (hp : Spells p L) (hq : Finds q M) :
    Finds (Pattern.seq p q) fun t => ∃ u v, L u ∧ M v ∧ t = u ++ v := by
  intro c
  simp only [matchesAt_iff, ends, List.mem_flatMap]
  constructor
  · rintro ⟨e, d, hd, he⟩
    obtain ⟨u, hu, hread⟩ := (hp c d).1 hd
    exact ⟨u, d.rest, hu, (hq d).1 (matchesAt_iff.2 ⟨e, he⟩), hread.rest⟩
  · rintro ⟨u, v, hu, hv, hrest⟩
    have hd : (⟨u.reverse ++ c.before, v, c.captured⟩ : Cursor) ∈ p.ends c :=
      (hp _ _).2 ⟨u, hu, hrest, rfl, rfl⟩
    obtain ⟨e, he⟩ := matchesAt_iff.1 ((hq ⟨_, v, _⟩).2 hv)
    exact ⟨e, _, hd, he⟩

/-- The search succeeds if some end of the text is matched. -/
theorem Finds.search_isSome (h : Finds p L) (t : Text) :
    (p.search t).isSome = true ↔ ∃ u v, t = u ++ v ∧ L v := by
  have hfrom : ∀ (t : Text) (offset : Nat) (before : Text),
      (p.searchFrom offset before t).isSome = true ↔ ∃ u v, t = u ++ v ∧ L v := by
    intro t
    induction t with
    | nil =>
      intro offset before
      have hnil : (∃ u v, [] = u ++ v ∧ L v) ↔ L [] := by simp [and_assoc]
      rw [hnil, searchFrom, ← h ⟨before, [], []⟩]
      split <;> simp_all
    | cons x t ih =>
      intro offset before
      have hcons : (∃ u v, x :: t = u ++ v ∧ L v) ↔ L (x :: t) ∨ ∃ u v, t = u ++ v ∧ L v := by
        constructor
        · rintro ⟨_ | ⟨y, u⟩, v, huv, hv⟩
          · exact .inl (huv ▸ hv)
          · exact .inr ⟨u, v, (List.cons.inj huv).2, hv⟩
        · rintro (hv | ⟨u, v, rfl, hv⟩)
          · exact ⟨[], _, rfl, hv⟩
          · exact ⟨x :: u, v, rfl, hv⟩
      rw [hcons, searchFrom, ← h ⟨before, x :: t, []⟩]
      split
      · simp_all
      · rename_i hno
        simp only [hno, Bool.false_eq_true, false_or]
        exact ih _ _
  exact hfrom t 0 []

end Pattern

/-! ## The default prompt -/

namespace Prompt

open Pattern

/-- One character. -/
def char (x : Char) : Pattern := .one ⟨false, [.range x.toNat x.toNat], .exact⟩

/-- The pattern of the default prompt, with the line end before it and the blanks after it. -/
def default : Pattern :=
  .seq (.many (char '\r') 0 (some 1) .greedy) <| .seq (.many (char '\n') 0 (some 1) .greedy) <|
    .seq (.either
      (.seq (char '>') <| .seq (char '>') <| .seq (char '>') <| char ' ')
      (.seq (char 'I') <| .seq (char 'n') <| .seq (char ' ') <| .seq (char '[') <|
        .seq (.many (.one ⟨false, [.range 48 57], .exact⟩) 1 none .greedy) <|
        .seq (char ']') <| .seq (char ':') <| char ' ')) <|
    .seq (.many (.one ⟨false, [.range 32 32, .range 9 9], .exact⟩) 0 none .greedy)
      (.anchor .textEnd)

theorem pattern_defaultRegexp (named : Text → Option Char) :
    pattern named defaultRegexp = .ok default := rfl

/-- The text is a prompt. -/
def IsPrompt (q : Text) : Prop :=
  q = ">>> " ∨ ∃ digits : Text, digits ≠ [] ∧ (∀ x ∈ digits, x.isDigit = true) ∧
    q = "In [" ++ digits ++ "]: "

/-- A space or a tab. -/
def IsBlank (x : Char) : Prop := x = ' ' ∨ x = '\t'

theorem contains_range {first last : Nat} {x : Char} :
    (⟨false, [.range first last], .exact⟩ : CharClass).contains x = true ↔
      first ≤ x.toNat ∧ x.toNat ≤ last := by
  simp [CharClass.contains, ClassItem.contains, Casing.others]

theorem contains_char {x y : Char} :
    (⟨false, [.range x.toNat x.toNat], .exact⟩ : CharClass).contains y = true ↔ y = x := by
  rw [contains_range]
  constructor
  · rintro ⟨hle, hge⟩
    exact Char.toNat_inj.1 (Nat.le_antisymm hge hle)
  · rintro rfl
    exact ⟨Nat.le_refl _, Nat.le_refl _⟩

theorem spells_char (x : Char) : Spells (char x) fun u => u = [x] := by
  refine (spells_one _).congr fun u => ?_
  simp only [contains_char, exists_eq_left]

theorem spells_char_seq (x : Char) {q : Pattern} {M : Text → Prop} (hq : Spells q M) :
    Spells (.seq (char x) q) fun u => ∃ w, u = x :: w ∧ M w := by
  refine ((spells_char x).seq hq).congr fun u => ?_
  constructor
  · rintro ⟨_, w, rfl, hw, rfl⟩
    exact ⟨w, rfl, hw⟩
  · rintro ⟨w, rfl, hw⟩
    exact ⟨[x], w, rfl, hw, rfl⟩

theorem spells_optional (x : Char) :
    Spells (.many (char x) 0 (some 1) .greedy) fun u => u = [] ∨ u = [x] := by
  refine (spells_many_one _ fun m hm => Nat.zero_le m).congr fun u => ?_
  constructor
  · rintro ⟨hu, -, hle⟩
    rcases u with _ | ⟨y, _ | ⟨z, u⟩⟩
    · exact .inl rfl
    · obtain rfl := contains_char.1 (hu y List.mem_cons_self)
      exact .inr rfl
    · exact absurd (hle 1 rfl) (by simp)
  · rintro (rfl | rfl)
    · exact ⟨nofun, Nat.zero_le _, fun m hm => Nat.zero_le _⟩
    · refine ⟨fun y hy => contains_char.2 (List.mem_singleton.1 hy), Nat.zero_le _, fun m hm => ?_⟩
      obtain rfl := Option.some.inj hm
      exact Nat.le_refl 1

/-- The two forms of the prompt. -/
theorem spells_prompt : Spells (.either
    (.seq (char '>') <| .seq (char '>') <| .seq (char '>') <| char ' ')
    (.seq (char 'I') <| .seq (char 'n') <| .seq (char ' ') <| .seq (char '[') <|
      .seq (.many (.one ⟨false, [.range 48 57], .exact⟩) 1 none .greedy) <|
      .seq (char ']') <| .seq (char ':') <| char ' ')) IsPrompt := by
  have hdigit : ∀ x : Char, (⟨false, [.range 48 57], .exact⟩ : CharClass).contains x = true ↔
      x.isDigit = true := fun x => by
    simp [contains_range, Char.isDigit, UInt32.le_iff_toNat_le]
  refine Spells.congr (Spells.either
    (spells_char_seq _ <| spells_char_seq _ <| spells_char_seq _ <| spells_char _)
    (spells_char_seq _ <| spells_char_seq _ <| spells_char_seq _ <| spells_char_seq _ <|
      (spells_many_one_unbounded _ 1).seq <|
      spells_char_seq _ <| spells_char_seq _ <| spells_char _)) fun u => or_congr ?_ ?_
  · constructor
    · rintro ⟨_, rfl, _, rfl, _, rfl, rfl⟩
      rfl
    · rintro rfl
      exact ⟨_, rfl, _, rfl, _, rfl, rfl⟩
  · constructor
    · rintro ⟨_, rfl, _, rfl, _, rfl, _, rfl, digits, _, ⟨hdigits, hleast⟩,
        ⟨_, rfl, _, rfl, rfl⟩, rfl⟩
      exact ⟨digits, List.ne_nil_of_length_pos hleast, fun x hx => (hdigit x).1 (hdigits x hx), rfl⟩
    · rintro ⟨digits, hne, hdigits, rfl⟩
      exact ⟨_, rfl, _, rfl, _, rfl, _, rfl, digits, _,
        ⟨fun x hx => (hdigit x).2 (hdigits x hx), List.length_pos_iff.2 hne⟩,
        ⟨_, rfl, _, rfl, rfl⟩, rfl⟩

theorem finds_default : Finds default fun t => ∃ a b q z : Text, (a = [] ∨ a = ['\r']) ∧
    (b = [] ∨ b = ['\n']) ∧ IsPrompt q ∧ (∀ x ∈ z, IsBlank x) ∧ t = a ++ b ++ q ++ z := by
  have hblanks : Spells (.many (.one ⟨false, [.range 32 32, .range 9 9], .exact⟩) 0 none .greedy)
      fun z => ∀ x ∈ z, IsBlank x := by
    refine (spells_many_one_unbounded _ 0).congr fun z => ?_
    have hblank : ∀ x : Char, (⟨false, [.range 32 32, .range 9 9], .exact⟩ : CharClass).contains x =
        true ↔ IsBlank x := fun x => by
      have hspace := contains_char (x := ' ') (y := x)
      have htab := contains_char (x := '\t') (y := x)
      simp only [CharClass.contains, ClassItem.contains, Casing.others, List.any_cons, List.any_nil,
        Bool.or_false, Bool.bne_false] at hspace htab ⊢
      rw [Bool.or_eq_true, IsBlank]
      exact or_congr hspace htab
    simp only [hblank, Nat.zero_le, and_true]
  intro c
  refine ((spells_optional '\r').finds_seq ((spells_optional '\n').finds_seq
    (spells_prompt.finds_seq (hblanks.finds_seq finds_textEnd))) c).trans ?_
  constructor
  · rintro ⟨a, _, ha, ⟨b, _, hb, ⟨q, _, hq, ⟨z, _, hz, rfl, rfl⟩, rfl⟩, rfl⟩, hrest⟩
    exact ⟨a, b, q, z, ha, hb, hq, hz, by simp [hrest]⟩
  · rintro ⟨a, b, q, z, ha, hb, hq, hz, hrest⟩
    exact ⟨a, _, ha, ⟨b, _, hb, ⟨q, _, hq, ⟨z, _, hz, rfl, rfl⟩, rfl⟩, rfl⟩, by simp [hrest]⟩

/-- The text ends in a prompt, perhaps followed by blanks. -/
def Shown (t : Text) : Prop :=
  ∃ q z : Text, IsPrompt q ∧ (∀ x ∈ z, IsBlank x) ∧ q ++ z <:+ t

/-- Where the default prompt is found. -/
theorem search_default_isSome (t : Text) : (default.search t).isSome = true ↔ Shown t := by
  rw [finds_default.search_isSome]
  constructor
  · rintro ⟨u, v, rfl, a, b, q, z, -, -, hq, hz, rfl⟩
    exact ⟨q, z, hq, hz, u ++ (a ++ b), by simp⟩
  · rintro ⟨q, z, hq, hz, u, rfl⟩
    exact ⟨u, q ++ z, rfl, [], [], q, z, .inl rfl, .inl rfl, hq, hz, rfl⟩

/-! ### Texts in which a prompt shows -/

theorem Shown.of_suffix {t t' : Text} (h : Shown t) (ht : t <:+ t') : Shown t' := by
  obtain ⟨q, z, hq, hz, hsuffix⟩ := h
  exact ⟨q, z, hq, hz, hsuffix.trans ht⟩

theorem shown_prompt (t : Text) : Shown (t ++ ">>> ") :=
  ⟨">>> ", [], .inl rfl, nofun, t, rfl⟩

theorem IsPrompt.newline_not_mem {q : Text} (h : IsPrompt q) : '\n' ∉ q := by
  rcases h with rfl | ⟨digits, -, hdigits, rfl⟩
  · decide
  · simp only [List.mem_append, not_or]
    refine ⟨⟨by decide, fun hmem => ?_⟩, by decide⟩
    exact absurd (hdigits _ hmem) (by decide)

/-- A prompt stands on one line, the last. -/
theorem IsPrompt.suffix_after_newline {q z t t' : Text} (hq : IsPrompt q)
    (hz : ∀ x ∈ z, IsBlank x) (h : q ++ z <:+ t ++ '\n' :: t') : q ++ z <:+ t' := by
  have hline : '\n' ∉ q ++ z := fun hmem => by
    rcases List.mem_append.1 hmem with hmem | hmem
    · exact hq.newline_not_mem hmem
    · exact absurd (hz _ hmem) (by simp [IsBlank])
  rcases List.suffix_or_suffix_of_suffix h (List.suffix_append t ('\n' :: t')) with h | h
  · rcases List.suffix_cons_iff.1 h with heq | h
    · exact absurd (heq ▸ List.mem_cons_self) hline
    · exact h
  · exact absurd (h.subset List.mem_cons_self) hline

theorem Shown.after_newline {t t' : Text} (h : Shown (t ++ '\n' :: t')) : Shown t' := by
  obtain ⟨q, z, hq, hz, hsuffix⟩ := h
  exact ⟨q, z, hq, hz, hq.suffix_after_newline hz hsuffix⟩

theorem not_shown_nil : ¬ Shown [] := by
  rintro ⟨q, z, hq, -, hsuffix⟩
  obtain ⟨rfl, -⟩ := List.append_eq_nil_iff.1 (List.suffix_nil.1 hsuffix)
  rcases hq with h | ⟨_, -, -, h⟩ <;> cases h

/-- Right after a line end no prompt shows. -/
theorem not_shown_newline (t : Text) : ¬ Shown (t ++ ['\n']) := fun h =>
  not_shown_nil h.after_newline

end Prompt

end ReplSend
