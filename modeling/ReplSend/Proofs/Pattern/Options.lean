import ReplSend.Proofs.Pattern.Extension

/-!
# Options for the whole pattern

Options such as `(?i)` hold for the whole pattern and may be given at its start only, where just
comments stand before them. `opensWithOptions_iff` says which texts start that way.
-/

namespace ReplSend.Pattern

variable {on on' rest t u : Text} {c : Char}

/-! ## Closing marks -/

/-- No token of the text is a closing mark; a backslash and the character after it are one. -/
inductive Unclosed (mark : Char) : Text → Prop where
  | nil : Unclosed mark []
  | escape (c : Char) {t : Text} : Unclosed mark t → Unclosed mark ('\\' :: c :: t)
  | cons {c : Char} {t : Text} : c ≠ mark → c ≠ '\\' → Unclosed mark t → Unclosed mark (c :: t)

theorem until?_eq_some {mark : Char} (hmark : '\\' ≠ mark) :
    until? mark t = some (u, rest) ↔ Unclosed mark u ∧ t = u ++ mark :: rest := by
  constructor
  · intro h
    fun_induction until? mark t generalizing u rest with
    | case1 => cases h
    | case2 t =>
      cases h
      exact ⟨.nil, rfl⟩
    | case3 => cases h
    | case4 d t _ ih =>
      obtain ⟨⟨u', rest'⟩, hu, h⟩ := Option.map_eq_some_iff.1 h
      cases h
      obtain ⟨hopen, rfl⟩ := ih hu
      exact ⟨hopen.escape d, rfl⟩
    | case5 c t hc hescape ih =>
      obtain ⟨⟨u', rest'⟩, hu, h⟩ := Option.map_eq_some_iff.1 h
      cases h
      obtain ⟨hopen, rfl⟩ := ih hu
      exact ⟨hopen.cons hc hescape, rfl⟩
  · rintro ⟨hopen, rfl⟩
    induction hopen with
    | nil => exact until?_mark
    | escape c _ ih =>
      rw [List.cons_append, List.cons_append, until?_escape hmark, ih]
      rfl
    | cons hc hescape _ ih =>
      rw [List.cons_append, until?_of_ne hc hescape, ih]
      rfl

/-! ## Options and comments -/

/-- The letters of options for the whole pattern: at least one, and not both alphabets. -/
def AreOptions (on : Text) : Prop :=
  on ≠ [] ∧ (∀ x ∈ on, Options.isLetter x = true) ∧ ¬ ('a' ∈ on ∧ 'u' ∈ on)

theorem kind_of_optionsOff? {off : Text} {op : Opening}
    (h : optionsOff? on' off t = some (op, rest)) : op = .within on' off := by
  cases t with
  | nil => cases h
  | cons c t =>
    simp only [optionsOff?] at h
    split at h
    · cases h
    split at h
    · cases h
    · cases h
      rfl

theorem optionsOff?_ne_everywhere {off : Text} :
    optionsOff? on' off t ≠ some (.everywhere on, rest) := fun h => nomatch kind_of_optionsOff? h

theorem options?_ne_comment : options? t ≠ some (.comment, rest) := by
  intro h
  unfold options? optionsOn? at h
  dsimp only at h
  split at h
  · cases h
  split at h
  · cases h
  split at h
  · cases kind_of_optionsOff? h
  split at h
  · cases h
  split at h
  · cases h
  split at h
  · split at h <;> cases h
  · cases h

theorem optionsOn?_everywhere : optionsOn? on' t = some (.everywhere on, rest) ↔
    on' = on ∧ on ≠ [] ∧ t = ')' :: rest := by
  cases t with
  | nil => simp [optionsOn?]
  | cons c t =>
    by_cases hminus : c = '-'
    · subst hminus
      simp [optionsOn?, optionsOff?_ne_everywhere]
    by_cases hclose : c = ')'
    · subst hclose
      cases on' <;> simp [optionsOn?, and_comm] <;> grind
    · simp only [optionsOn?, if_neg hminus, if_neg hclose]
      grind

theorem options?_everywhere :
    options? t = some (.everywhere on, rest) ↔ AreOptions on ∧ t = on ++ ')' :: rest := by
  have hsplit := List.takeWhile_append_dropWhile (p := Options.isLetter) (l := t)
  constructor
  · intro h
    unfold options? at h
    dsimp only at h
    split at h
    · cases h
    rename_i hboth
    obtain ⟨hon, hne, hdrop⟩ := optionsOn?_everywhere.1 h
    rw [hon] at hboth hsplit
    rw [hdrop] at hsplit
    exact ⟨⟨hne, hon ▸ List.all_eq_true.1 List.all_takeWhile, by simpa using hboth⟩, hsplit.symm⟩
  · rintro ⟨⟨hne, hletters, hboth⟩, rfl⟩
    have hclose : Options.isLetter ')' = false := by decide
    have htake : (on ++ ')' :: rest).takeWhile Options.isLetter = on := by
      rw [List.takeWhile_append_of_pos hletters, List.takeWhile_cons, if_neg (by simp [hclose]),
        List.append_nil]
    have hdrop : (on ++ ')' :: rest).dropWhile Options.isLetter = ')' :: rest := by
      rw [List.dropWhile_append_of_pos hletters, List.dropWhile_cons, if_neg (by simp [hclose])]
    have hon : optionsOn? on (')' :: rest) = some (.everywhere on, rest) :=
      optionsOn?_everywhere.2 ⟨rfl, hne, rfl⟩
    simpa only [options?, htake, hdrop, hon, List.contains_iff_mem, Bool.and_eq_true,
      Option.ite_none_left_eq_some, and_true] using hboth

theorem kind_of_nameOpening? {op : Opening} (h : nameOpening? t = some (op, rest)) :
    (∃ name, op = .group (some name)) ∨ ∃ name, op = .reference name := by
  cases t with
  | nil => cases h
  | cons c t =>
    simp only [nameOpening?] at h
    split at h
    · obtain ⟨_, -, h⟩ := Option.map_eq_some_iff.1 h
      cases h
      exact .inl ⟨_, rfl⟩
    split at h
    · obtain ⟨_, -, h⟩ := Option.map_eq_some_iff.1 h
      cases h
      exact .inr ⟨_, rfl⟩
    · cases h

theorem kind_of_behindOpening? {op : Opening} (h : behindOpening? t = some (op, rest)) :
    ∃ wanted, op = .behind wanted := by
  cases t with
  | nil => cases h
  | cons c t =>
    simp only [behindOpening?] at h
    split at h
    · cases h
      exact ⟨_, rfl⟩
    split at h
    · cases h
      exact ⟨_, rfl⟩
    · cases h

/-- Options and comments have openings of their own. -/
theorem extension?_cases {op : Opening} (h : extension? c t = some (op, rest)) :
    (op ≠ .comment ∧ ∀ on, op ≠ .everywhere on) ∨
    (c = '#' ∧ op = .comment ∧ ∃ u, until? ')' t = some (u, rest)) ∨
    options? (c :: t) = some (op, rest) := by
  unfold extension? at h
  split at h
  · rename_i op' hop
    cases h
    unfold mark? at hop
    split at hop <;> cases hop <;> exact .inl ⟨nofun, nofun⟩
  split at h
  · rcases kind_of_nameOpening? h with ⟨name, rfl⟩ | ⟨name, rfl⟩ <;> exact .inl ⟨nofun, nofun⟩
  split at h
  · obtain ⟨wanted, rfl⟩ := kind_of_behindOpening? h
    exact .inl ⟨nofun, nofun⟩
  split at h
  · obtain ⟨_, -, h⟩ := Option.map_eq_some_iff.1 h
    cases h
    exact .inl ⟨nofun, nofun⟩
  split at h
  · rename_i hc
    obtain ⟨⟨u, _⟩, hu, h⟩ := Option.map_eq_some_iff.1 h
    cases h
    exact .inr (.inl ⟨hc, rfl, u, hu⟩)
  · exact .inr (.inr h)

theorem opening?_question : opening? ('?' :: c :: t) = extension? c t := rfl

theorem opening?_cases {op : Opening} (h : opening? t = some (op, rest)) :
    op = .group none ∨ ∃ c u, t = '?' :: c :: u ∧ extension? c u = some (op, rest) := by
  cases t with
  | nil =>
    cases h
    exact .inl rfl
  | cons c t =>
    simp only [opening?] at h
    split at h
    · rename_i hc
      subst hc
      cases t with
      | nil => cases h
      | cons c t => exact .inr ⟨c, t, rfl, h⟩
    · cases h
      exact .inl rfl

theorem opening?_eq_everywhere : opening? t = some (.everywhere on, rest) ↔
    AreOptions on ∧ t = '?' :: (on ++ ')' :: rest) := by
  constructor
  · intro h
    rcases opening?_cases h with h | ⟨c, u, rfl, h⟩
    · cases h
    rcases extension?_cases h with ⟨-, hne⟩ | ⟨-, h, -⟩ | h
    · exact absurd rfl (hne on)
    · cases h
    · obtain ⟨hon, hu⟩ := options?_everywhere.1 h
      exact ⟨hon, congrArg _ hu⟩
  · rintro ⟨hon, rfl⟩
    have hoptions := options?_everywhere.2 (And.intro hon (Eq.refl (on ++ ')' :: rest)))
    obtain ⟨hne, hletters, -⟩ := hon
    cases on with
    | nil => exact absurd rfl hne
    | cons c on =>
      have hc : c ∈ ['i', 'm', 's', 'x', 'a', 'u', 't'] := by
        simpa [Options.isLetter] using hletters c List.mem_cons_self
      have hletter : ∀ x ∈ ['i', 'm', 's', 'x', 'a', 'u', 't'],
          mark? x = none ∧ x ≠ 'P' ∧ x ≠ '<' ∧ x ≠ '(' ∧ x ≠ '#' := by
        simp [mark?]
      obtain ⟨hmark, hname, hbehind, hcondition, hcomment⟩ := hletter c hc
      rw [List.cons_append, opening?_question, extension?, hmark]
      simp only [if_neg hname, if_neg hbehind, if_neg hcondition, if_neg hcomment]
      exact hoptions

theorem opening?_eq_comment : opening? t = some (.comment, rest) ↔
    ∃ c : Text, Unclosed ')' c ∧ t = '?' :: '#' :: (c ++ ')' :: rest) := by
  constructor
  · intro h
    rcases opening?_cases h with h | ⟨c, u, rfl, h⟩
    · cases h
    rcases extension?_cases h with ⟨hne, -⟩ | ⟨rfl, -, c, h⟩ | h
    · exact absurd rfl hne
    · obtain ⟨hopen, rfl⟩ := (until?_eq_some (by decide)).1 h
      exact ⟨c, hopen, rfl⟩
    · exact absurd h options?_ne_comment
  · rintro ⟨c, hopen, rfl⟩
    have hclose := (until?_eq_some (by decide)).2 (And.intro hopen (Eq.refl (c ++ ')' :: rest)))
    show (until? ')' (c ++ ')' :: rest)).map _ = _
    rw [hclose]
    rfl

theorem length_of_comment (h : opening? t = some (.comment, rest)) : rest.length < t.length := by
  obtain ⟨c, -, rfl⟩ := opening?_eq_comment.1 h
  simp only [List.length_cons, List.length_append]
  omega

/-- Whether options for the whole pattern are read first, comments apart. -/
def opensWithOptions : Text → Bool
  | '(' :: t =>
    match _h : opening? t with
    | some (.everywhere _, _) => true
    | some (.comment, rest) => opensWithOptions rest
    | _ => false
  | _ => false
termination_by t => t.length
decreasing_by exact Nat.lt_succ_of_lt (length_of_comment _h)

theorem opensWithOptions_everywhere {on : Text} (h : opening? t = some (.everywhere on, rest)) :
    opensWithOptions ('(' :: t) = true := by
  rw [opensWithOptions]
  split
  · rfl
  · rename_i h'
    cases h.symm.trans h'
  · rename_i h' _
    exact absurd h (h' _ _)

theorem opensWithOptions_comment (h : opening? t = some (.comment, rest)) :
    opensWithOptions ('(' :: t) = opensWithOptions rest := by
  rw [opensWithOptions]
  split
  · rename_i h'
    cases h.symm.trans h'
  · rename_i h'
    cases h.symm.trans h'
    rfl
  · rename_i h'
    exact absurd h (h' _)

/-- A comment in a pattern. -/
def comment (c : Text) : Text := '(' :: '?' :: '#' :: (c ++ [')'])

/-- The text starts, comments apart, with options for the whole pattern. -/
def SetsOptions (t : Text) : Prop :=
  ∃ (comments : List Text) (on rest : Text), (∀ c ∈ comments, Unclosed ')' c) ∧ AreOptions on ∧
    t = comments.flatMap comment ++ '(' :: '?' :: (on ++ ')' :: rest)

theorem opensWithOptions_iff : opensWithOptions t = true ↔ SetsOptions t := by
  constructor
  · intro h
    fun_induction opensWithOptions t with
    | case1 t on rest hop =>
      obtain ⟨hon, rfl⟩ := opening?_eq_everywhere.1 hop
      exact ⟨[], on, rest, nofun, hon, rfl⟩
    | case2 t rest hop ih =>
      obtain ⟨comments, on, rest', hcomments, hon, rfl⟩ := ih h
      obtain ⟨c, hc, rfl⟩ := opening?_eq_comment.1 hop
      refine ⟨c :: comments, on, rest', ?_, hon, by simp [comment]⟩
      intro c' hc'
      rcases List.mem_cons.1 hc' with rfl | hc'
      · exact hc
      · exact hcomments c' hc'
    | case3 => cases h
    | case4 => cases h
  · rintro ⟨comments, on, rest, hcomments, hon, rfl⟩
    induction comments with
    | nil => exact opensWithOptions_everywhere (opening?_eq_everywhere.2 ⟨hon, rfl⟩)
    | cons c comments ih =>
      have hrest := ih fun c' hc' => hcomments c' (List.mem_cons_of_mem c hc')
      have hop := opening?_eq_comment.2 ⟨c, hcomments c List.mem_cons_self,
        Eq.refl ('?' :: '#' :: (c ++ ')' ::
          (comments.flatMap comment ++ '(' :: '?' :: (on ++ ')' :: rest))))⟩
      rw [← hrest, ← opensWithOptions_comment hop]
      simp [comment]

instance : Decidable (SetsOptions t) := decidable_of_iff _ opensWithOptions_iff

end ReplSend.Pattern
