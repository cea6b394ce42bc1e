import ReplSend.Source

/-!
# Outlines of texts

What holds of the line table of every text (`WellFormed`): the first line continues nothing, a
line that is continued is a code line, and the lines stand one after the other in the text. The
searches up and down the table are given by what they find, and a code line belongs to the
statement line that `statementStart` and `statementStop` give.
-/

namespace ReplSend

/-! ## Lines that open nothing -/

namespace Text

theorem dropEndWhile_append_cons {p : Char → Bool} {c : Char} (hc : p c = false) (s t : Text) :
    dropEndWhile p (s ++ c :: t) = s ++ c :: dropEndWhile p t := by
  simp only [dropEndWhile, List.reverse_append, List.reverse_cons, List.append_assoc,
    List.dropWhile_append]
  split
  · rename_i h
    rw [List.isEmpty_iff] at h
    simp [h, hc]
  · simp

theorem dropEndWhile_prefix (p : Char → Bool) (t : Text) : dropEndWhile p t <+: t := by
  have h := List.dropWhile_suffix p (l := t.reverse)
  rw [← List.reverse_prefix, List.reverse_reverse] at h
  exact h

end Text

namespace Scan

theorem isOpen_eq_false {s : Scan} : s.isOpen = false ↔ s = clean := by
  obtain ⟨d, q, j⟩ := s
  cases q <;> cases j <;> simp [isOpen, clean]

theorem isOpen_clean : clean.isOpen = false := rfl

/-- A blank character opens and closes nothing. -/
theorem read_blank {c : Char} (hc : Text.isBlank c = true) (cs : Text) :
    read clean 0 (c :: cs) = read clean 0 cs := by
  have h : ∀ x : Char, Text.isBlank x = false → c ≠ x := by
    rintro x hx rfl
    rw [hx] at hc
    cases hc
  have h1 := h '#' (by decide)
  have h2 := h '\'' (by decide)
  have h3 := h '"' (by decide)
  have h4 := h '(' (by decide)
  have h5 := h '[' (by decide)
  have h6 := h '{' (by decide)
  have h7 := h ')' (by decide)
  have h8 := h ']' (by decide)
  have h9 := h '}' (by decide)
  have h10 := h '\\' (by decide)
  simp [read, clean, isQuote, isOpeningBracket, isClosingBracket, *]

theorem read_blanks {b : Text} (hb : ∀ c ∈ b, Text.isBlank c = true) (cs : Text) :
    read clean 0 (b ++ cs) = read clean 0 cs := by
  induction b with
  | nil => rfl
  | cons c b ih =>
    rw [List.cons_append, read_blank (hb c (by simp)), ih fun d hd => hb d (by simp [hd])]

theorem read_comment (cs : Text) : read clean 0 ('#' :: cs) = clean := by
  simp [read, clean]

/-- A line that is not code is blank up to its end or to a comment. -/
theorem of_not_code {l : Text} (h : (LineKind.ofLine l).isCode = false) :
    Text.dropBlanks l = [] ∨ ∃ t, Text.dropBlanks l = '#' :: t := by
  unfold LineKind.ofLine at h
  simp only at h
  split at h
  · cases h
  split at h
  · cases h
  split at h
  · cases h
  split at h
  · cases h
  split at h
  · rename_i hempty
    exact .inl (List.isEmpty_iff.1 hempty)
  split at h
  · rename_i hcomment
    cases ht : Text.dropBlanks l with
    | nil => exact .inl rfl
    | cons c t =>
      rw [ht, List.head?_cons, Option.some.injEq] at hcomment
      exact .inr ⟨t, by rw [hcomment]⟩
  · cases h

/-- After a blank line or a comment nothing is open that was not open before it. -/
theorem next_of_not_code {l : Text} (h : (LineKind.ofLine l).isCode = false) :
    clean.next l = clean := by
  have hsplit := List.takeWhile_append_dropWhile (p := Text.isBlank) (l := l)
  have hblank : ∀ c ∈ l.takeWhile Text.isBlank, Text.isBlank c = true := fun c hc =>
    List.all_eq_true.1 List.all_takeWhile c hc
  have hread : read clean 0 (visible l) = clean := by
    rcases of_not_code h with ht | ⟨t, ht⟩ <;> unfold Text.dropBlanks at ht
    · rw [ht, List.append_nil] at hsplit
      rw [hsplit] at hblank
      have hv : ∀ c ∈ visible l, Text.isBlank c = true := fun c hc =>
        hblank c ((Text.dropEndWhile_prefix _ l).subset hc)
      simpa [read] using read_blanks hv []
    · rw [ht] at hsplit
      rw [← hsplit, visible, Text.dropEndWhile_append_cons (by decide), read_blanks hblank,
        read_comment]
  have hjoined : { clean with joined := false } = clean := rfl
  rw [next, hjoined, hread]
  rfl

end Scan

/-! ## The rows of a text -/

/-- What is open at the start of line `i`. -/
def Scan.before (s : Scan) (ls : List Text) (i : Nat) : Scan := s.after (ls.take i)

theorem Scan.before_succ {s : Scan} {ls : List Text} {i : Nat} {l : Text} (h : ls[i]? = some l) :
    s.before ls (i + 1) = (s.before ls i).next l := by
  simp [before, after, List.take_add_one, h]

/-- How many characters the lines take up, each with its newline. -/
def Text.extent : List Text → Nat
  | [] => 0
  | l :: ls => l.length + 1 + extent ls

theorem Text.extent_append (ls ms : List Text) : extent (ls ++ ms) = extent ls + extent ms := by
  induction ls with
  | nil => simp [extent]
  | cons l ls ih => simp [extent, ih, Nat.add_assoc]

theorem Text.extent_take_succ {ls : List Text} {i : Nat} {l : Text} (h : ls[i]? = some l) :
    extent (ls.take (i + 1)) = extent (ls.take i) + l.length + 1 := by
  simp [extent, List.take_add_one, h, extent_append, Nat.add_assoc]

theorem Text.extent_take_mono (ls : List Text) {i j : Nat} (h : i ≤ j) :
    extent (ls.take i) ≤ extent (ls.take j) := by
  obtain ⟨k, rfl⟩ := Nat.exists_eq_add_of_le h
  simp [List.take_add, extent_append]

theorem Text.extent_eq_length {ls : List Text} (h : ls ≠ []) :
    extent ls = (unlines ls).length + 1 := by
  induction ls with
  | nil => exact absurd rfl h
  | cons l ls ih =>
    cases ls with
    | nil => simp [extent, unlines]
    | cons l' ls =>
      have := ih (by simp)
      simp only [extent, unlines, List.length_append, List.length_cons] at this ⊢
      omega

/-- The rows are one for each line, with the state that the lines above leave open. -/
theorem Row.ofLines_getElem? (ls : List Text) (offset : Nat) (s : Scan) (i : Nat) :
    (Row.ofLines offset s ls)[i]? = ls[i]?.map fun l =>
      ⟨l, offset + Text.extent (ls.take i), .ofLine l, indentation l, (s.before ls i).isOpen⟩ := by
  induction ls generalizing offset s i with
  | nil => simp [Row.ofLines]
  | cons l ls ih =>
    cases i with
    | zero => simp [Row.ofLines, Scan.before, Scan.after, Text.extent]
    | succ i =>
      simp [Row.ofLines, ih, Scan.before, Scan.after, Text.extent, Nat.add_assoc]

namespace Outline

theorem row_ofText (t : Text) (i : Nat) :
    (ofText t).row i = (t.lines[i]?.map fun l =>
      (⟨l, Text.extent (t.lines.take i), .ofLine l, indentation l,
        (Scan.clean.before t.lines i).isOpen⟩ : Row)).getD .none := by
  simp [row, ofText, Row.ofLines_getElem?]

theorem row_ofText_of_line {t l : Text} {i : Nat} (h : t.lines[i]? = some l) :
    (ofText t).row i = ⟨l, Text.extent (t.lines.take i), .ofLine l, indentation l,
      (Scan.clean.before t.lines i).isOpen⟩ := by
  simp [row_ofText, h]

theorem row_ofText_of_no_line {t : Text} {i : Nat} (h : t.lines[i]? = none) :
    (ofText t).row i = .none := by
  simp [row_ofText, h]

theorem lineStart_of_line {t l : Text} {i : Nat} (h : t.lines[i]? = some l) :
    (ofText t).lineStart i = Text.extent (t.lines.take i) := by
  rw [lineStart, row_ofText_of_line h]

theorem lineStop_of_line {t l : Text} {i : Nat} (h : t.lines[i]? = some l) :
    (ofText t).lineStop i = Text.extent (t.lines.take i) + l.length := by
  rw [lineStop, Row.stop, row_ofText_of_line h]

theorem count_ofText (t : Text) : (ofText t).count = t.lines.length := by
  have h (ls : List Text) (offset : Nat) (s : Scan) :
      (Row.ofLines offset s ls).length = ls.length := by
    induction ls generalizing offset s with
    | nil => rfl
    | cons l ls ih => simp [Row.ofLines, ih]
  simp [count, ofText, h]

theorem isOpen_before {t : Text} {i : Nat} (hi : i < (ofText t).count) :
    (Scan.clean.before t.lines i).isOpen = (ofText t).continues i := by
  rw [count_ofText] at hi
  rw [continues, row_ofText_of_line (List.getElem?_eq_getElem hi)]

/-- What holds of the table of every text. -/
structure WellFormed (o : Outline) : Prop where
  origin : o.lineStart 0 = 0
  first : o.continues 0 = false
  /-- Only a code line leaves something open. -/
  opened : ∀ i, o.continues (i + 1) = true → o.isCode i = true
  ascending : ∀ i j, i < j → j < o.count → o.lineStop i < o.lineStart j
  inside : ∀ i, i < o.count → o.lineStop i ≤ o.size
  filled : ∀ i, (o.kind i).isCode = true → o.lineStart i < o.lineStop i

theorem ofLine_nil : LineKind.ofLine [] = .blank := by decide

theorem wellFormed_ofText (t : Text) : (ofText t).WellFormed := by
  have line {i : Nat} (h : i < (ofText t).count) : ∃ l, t.lines[i]? = some l := by
    rw [count_ofText] at h
    exact ⟨_, List.getElem?_eq_getElem h⟩
  refine ⟨?_, ?_, fun i h => ?_, fun i j hij hj => ?_, fun i hi => ?_, fun i h => ?_⟩
  · cases h : t.lines[0]? with
    | none => simp [lineStart, row_ofText_of_no_line h, Row.none]
    | some l => simp [lineStart, row_ofText_of_line h, Text.extent]
  · cases h : t.lines[0]? with
    | none => simp [continues, row_ofText_of_no_line h, Row.none]
    | some l =>
      simp [continues, row_ofText_of_line h, Scan.before, Scan.after, Scan.isOpen_clean]
  · cases hl' : t.lines[i + 1]? with
    | none => simp [continues, row_ofText_of_no_line hl', Row.none] at h
    | some l' =>
      obtain ⟨l, hl⟩ : ∃ l, t.lines[i]? = some l := by
        have := (List.getElem?_eq_some_iff.1 hl').1
        exact ⟨_, List.getElem?_eq_getElem (by omega)⟩
      simp only [continues, row_ofText_of_line hl', Scan.before_succ hl] at h
      simp only [isCode, Row.isCode, row_ofText_of_line hl, Bool.or_eq_true]
      cases hs : (Scan.clean.before t.lines i).isOpen with
      | true => exact .inl rfl
      | false =>
        cases hk : (LineKind.ofLine l).isCode with
        | true => exact .inr rfl
        | false =>
          rw [Scan.isOpen_eq_false.1 hs, Scan.next_of_not_code hk, Scan.isOpen_clean] at h
          cases h
  · obtain ⟨l', hl'⟩ := line hj
    obtain ⟨l, hl⟩ := line (Nat.lt_trans hij hj)
    have := Text.extent_take_mono t.lines (Nat.succ_le_of_lt hij)
    rw [Text.extent_take_succ hl] at this
    rw [lineStop_of_line hl, lineStart_of_line hl']
    omega
  · obtain ⟨l, hl⟩ := line hi
    rw [count_ofText] at hi
    have h1 := Text.extent_take_mono t.lines (Nat.succ_le_of_lt hi)
    rw [Text.extent_take_succ hl, List.take_length, Text.extent_eq_length t.lines_ne_nil,
      t.unlines_lines] at h1
    rw [lineStop_of_line hl]
    show _ ≤ t.length
    omega
  · cases hl : t.lines[i]? with
    | none => simp [kind, row_ofText_of_no_line hl, Row.none, LineKind.isCode] at h
    | some l =>
      simp only [kind, row_ofText_of_line hl] at h
      rw [lineStart_of_line hl, lineStop_of_line hl]
      cases l with
      | nil => rw [ofLine_nil] at h; cases h
      | cons => simp

/-! ## Searching -/

section

variable {o : Outline} {p : Row → Bool} {i j : Nat}

theorem row_eq_getElem (h : i < o.rows.size) : o.row i = o.rows[i] := by
  simp only [row, Array.getElem?_eq_getElem h]
  rfl

theorem row_of_count_le (h : o.count ≤ i) : o.row i = .none := by
  have h' : o.rows.size ≤ i := h
  simp [row, h']

theorem lt_count_of_isCode (h : o.isCode i = true) : i < o.count := by
  rcases Nat.lt_or_ge i o.count with hi | hi
  · exact hi
  · rw [isCode, row_of_count_le hi] at h
    cases h

theorem isCode_of_start (h : o.isStatementStart i = true) : o.isCode i = true := by
  simp only [isStatementStart, Row.isStatementStart, Bool.and_eq_true] at h
  simp [isCode, Row.isCode, h.2]

theorem isCode_of_continues (h : o.continues i = true) : o.isCode i = true := by
  rw [isCode, Row.isCode, show (o.row i).continues = true from h, Bool.true_or]

theorem not_start_of_not_isCode (h : o.isCode i = false) : ¬ o.isStatementStart i = true := by
  intro hs
  rw [isCode_of_start hs] at h
  cases h

theorem start_iff : o.isStatementStart i = true ↔ o.isCode i = true ∧ o.continues i = false := by
  simp only [isStatementStart, Row.isStatementStart, isCode, Row.isCode, continues]
  cases (o.row i).continues <;> simp

theorem lt_count_of_start (h : o.isStatementStart i = true) : i < o.count :=
  lt_count_of_isCode (isCode_of_start h)

theorem kind_isCode_of_start (h : o.isStatementStart i = true) : (o.kind i).isCode = true := by
  simp only [isStatementStart, Row.isStatementStart, Bool.and_eq_true] at h
  exact h.2

theorem firstFrom_eq_some :
    o.firstFrom p i = some j ↔
      i ≤ j ∧ j < o.count ∧ p (o.row j) = true ∧ ∀ k, i ≤ k → k < j → p (o.row k) = false := by
  fun_induction firstFrom o p i with
  | case1 i hi hp =>
    replace hp : p (o.row i) = true := by rw [row_eq_getElem hi]; exact hp
    constructor
    · rintro h
      cases h
      exact ⟨Nat.le_refl _, hi, hp, fun k h1 h2 => by omega⟩
    · rintro ⟨h1, -, -, h4⟩
      rcases Nat.eq_or_lt_of_le h1 with rfl | h
      · rfl
      · rw [h4 i (Nat.le_refl i) h] at hp
        cases hp
  | case2 i hi hp ih =>
    replace hp : ¬ p (o.row i) = true := by rw [row_eq_getElem hi]; exact hp
    rw [ih]
    constructor
    · rintro ⟨h1, h2, h3, h4⟩
      refine ⟨by omega, h2, h3, fun k hk hkj => ?_⟩
      rcases Nat.eq_or_lt_of_le hk with rfl | h
      · simpa using hp
      · exact h4 k h hkj
    · rintro ⟨h1, h2, h3, h4⟩
      rcases Nat.eq_or_lt_of_le h1 with rfl | h
      · exact absurd h3 hp
      · exact ⟨h, h2, h3, fun k hk => h4 k (by omega)⟩
  | case3 i hi =>
    constructor
    · intro h
      cases h
    · rintro ⟨h1, h2, -⟩
      omega

theorem firstFrom_eq_none :
    o.firstFrom p i = none ↔ ∀ k, i ≤ k → k < o.count → p (o.row k) = false := by
  fun_induction firstFrom o p i with
  | case1 i hi hp =>
    replace hp : p (o.row i) = true := by rw [row_eq_getElem hi]; exact hp
    refine ⟨fun h => (by cases h), fun h => ?_⟩
    rw [h i (Nat.le_refl i) hi] at hp
    cases hp
  | case2 i hi hp ih =>
    replace hp : ¬ p (o.row i) = true := by rw [row_eq_getElem hi]; exact hp
    rw [ih]
    refine ⟨fun h k hk hkc => ?_, fun h k hk => h k (by omega)⟩
    rcases Nat.eq_or_lt_of_le hk with rfl | h'
    · simpa using hp
    · exact h k h' hkc
  | case3 i hi => exact ⟨fun _ k h1 h2 => by omega, fun _ => rfl⟩

theorem lastUpTo_eq_some :
    o.lastUpTo p i = some j ↔
      j ≤ i ∧ p (o.row j) = true ∧ ∀ k, j < k → k ≤ i → p (o.row k) = false := by
  induction i with
  | zero =>
    cases hp : p (o.row 0) with
    | true =>
      simp only [lastUpTo, hp, ↓reduceIte, Option.some.injEq]
      refine ⟨fun h => ?_, fun ⟨h, _⟩ => by omega⟩
      subst h
      exact ⟨Nat.le_refl 0, hp, fun k h1 h2 => by omega⟩
    | false =>
      simp only [lastUpTo, hp, Bool.false_eq_true, ↓reduceIte]
      refine ⟨fun h => (by cases h), fun ⟨h1, h2, _⟩ => ?_⟩
      rw [show j = 0 by omega, hp] at h2
      cases h2
  | succ i ih =>
    cases hp : p (o.row (i + 1)) with
    | true =>
      simp only [lastUpTo, hp, ↓reduceIte, Option.some.injEq]
      refine ⟨fun h => ?_, fun ⟨h1, h2, h3⟩ => ?_⟩
      · subst h
        exact ⟨Nat.le_refl _, hp, fun k h1 h2 => by omega⟩
      · rcases Nat.eq_or_lt_of_le h1 with h | h
        · exact h.symm
        · rw [h3 _ h (Nat.le_refl _)] at hp
          cases hp
    | false =>
      simp only [lastUpTo, hp, Bool.false_eq_true, ↓reduceIte, ih]
      refine ⟨fun ⟨h1, h2, h3⟩ => ⟨by omega, h2, fun k hk hki => ?_⟩, fun ⟨h1, h2, h3⟩ => ?_⟩
      · rcases Nat.eq_or_lt_of_le hki with rfl | h
        · exact hp
        · exact h3 k hk (by omega)
      · have hne : j ≠ i + 1 := by
          rintro rfl
          rw [hp] at h2
          cases h2
        exact ⟨by omega, h2, fun k hk hki => h3 k hk (by omega)⟩

theorem lastBefore_eq_some :
    o.lastBefore p i = some j ↔
      j < i ∧ p (o.row j) = true ∧ ∀ k, j < k → k < i → p (o.row k) = false := by
  cases i with
  | zero => simp [lastBefore]
  | succ i => simp only [lastBefore, lastUpTo_eq_some, Nat.lt_succ_iff]

theorem lastBefore_eq_none :
    o.lastBefore p i = none ↔ ∀ k, k < i → p (o.row k) = false := by
  constructor
  · intro h
    induction i with
    | zero => exact fun k hk => by omega
    | succ i ih =>
      intro k hk
      cases i with
      | zero =>
        obtain rfl : k = 0 := by omega
        simpa [lastBefore, lastUpTo] using h
      | succ i =>
        simp only [lastBefore, lastUpTo] at h
        split at h
        · cases h
        · rename_i hp
          rcases Nat.eq_or_lt_of_le (Nat.le_of_lt_succ hk) with rfl | hlt
          · simpa using hp
          · exact ih h k hlt
  · intro h
    cases hj : o.lastBefore p i with
    | none => rfl
    | some j =>
      obtain ⟨hji, hp, -⟩ := lastBefore_eq_some.1 hj
      rw [h j hji] at hp
      cases hp

/-! ## Statement lines -/

theorem continues_of_statementStart_lt {k : Nat} (h : o.statementStart i < k) (hk : k ≤ i) :
    o.continues k = true := by
  fun_induction statementStart o i with
  | case1 => omega
  | case2 i hc ih =>
    rcases Nat.eq_or_lt_of_le hk with rfl | hk
    · exact hc
    · exact ih h (by omega)
  | case3 => omega

theorem continues_of_le_statementStop {k : Nat} (h : i < k) (hk : k ≤ o.statementStop i) :
    o.continues k = true := by
  fun_induction statementStop o i with
  | case1 i hc ih =>
    rcases Nat.eq_or_lt_of_le h with rfl | h
    · exact hc.2
    · exact ih h hk
  | case2 => omega

theorem not_continues_after_statementStop (o : Outline) (i : Nat) :
    o.continues (o.statementStop i + 1) = false := by
  fun_induction statementStop o i with
  | case1 i hc ih => exact ih
  | case2 i hc =>
    rcases Nat.lt_or_ge (i + 1) o.count with h | h
    · simpa [h] using hc
    · rw [continues, row_of_count_le h]
      rfl

theorem le_statementStop_of_continues {k : Nat}
    (h : ∀ m, i < m → m ≤ k → o.continues m = true) : k ≤ o.statementStop i := by
  rcases Nat.lt_or_ge (o.statementStop i) k with hlt | hge
  · have hc := h _ (Nat.lt_succ_of_le (o.le_statementStop i)) hlt
    rw [not_continues_after_statementStop] at hc
    cases hc
  · exact hge

theorem statementStart_eq_self (h : o.continues i = false) : o.statementStart i = i := by
  cases i with
  | zero => rfl
  | succ i => simp [statementStart, h]

theorem le_statementStop_statementStart (o : Outline) (i : Nat) :
    i ≤ o.statementStop (o.statementStart i) :=
  le_statementStop_of_continues fun _ h hk => continues_of_statementStart_lt h hk

/-- A statement line starts at or below any start above it. -/
theorem le_statementStart (hi : o.isStatementStart i = true) (hij : i ≤ j) :
    i ≤ o.statementStart j := by
  rcases Nat.lt_or_ge (o.statementStart j) i with h | h
  · have hc := continues_of_statementStart_lt h hij
    rw [(start_iff.1 hi).2] at hc
    cases hc
  · exact h

/-- The lines of one statement end above the next start. -/
theorem statementStop_lt (hj : o.isStatementStart j = true) (hij : i < j) :
    o.statementStop i < j := by
  rcases Nat.lt_or_ge (o.statementStop i) j with h | h
  · exact h
  · have hc := continues_of_le_statementStop hij h
    rw [(start_iff.1 hj).2] at hc
    cases hc

theorem WellFormed.isStatementStart_statementStart (h : o.WellFormed) (hi : o.isCode i = true) :
    o.isStatementStart (o.statementStart i) = true := by
  fun_induction statementStart o i with
  | case1 => exact start_iff.2 ⟨hi, h.first⟩
  | case2 i hc ih => exact ih (h.opened i hc)
  | case3 i hc => exact start_iff.2 ⟨hi, by simpa using hc⟩

theorem isCode_statementStop (hi : o.isCode i = true) : o.isCode (o.statementStop i) = true := by
  rcases Nat.eq_or_lt_of_le (o.le_statementStop i) with h | h
  · rw [← h]
    exact hi
  · exact isCode_of_continues (continues_of_le_statementStop h (Nat.le_refl _))

/-! ## Code lines -/

theorem nextCode_eq_some :
    o.nextCode i = some j ↔
      i ≤ j ∧ o.isCode j = true ∧ ∀ k, i ≤ k → k < j → o.isCode k = false := by
  rw [nextCode, firstFrom_eq_some]
  exact ⟨fun ⟨h1, _, h3, h4⟩ => ⟨h1, h3, h4⟩,
    fun ⟨h1, h2, h3⟩ => ⟨h1, lt_count_of_isCode h2, h2, h3⟩⟩

theorem nextCode_self (h : o.isCode i = true) : o.nextCode i = some i :=
  nextCode_eq_some.2 ⟨Nat.le_refl i, h, fun k h1 h2 => by omega⟩

/-- The first code line after a gap continues nothing. -/
theorem WellFormed.start_of_nextCode (h : o.WellFormed) (hi : o.continues i = false)
    (hj : o.nextCode i = some j) : o.isStatementStart j = true := by
  obtain ⟨h1, h2, h3⟩ := nextCode_eq_some.1 hj
  refine start_iff.2 ⟨h2, ?_⟩
  rcases Nat.eq_or_lt_of_le h1 with rfl | hlt
  · exact hi
  · obtain ⟨k, rfl⟩ : ∃ k, j = k + 1 := ⟨j - 1, by omega⟩
    cases hc : o.continues (k + 1) with
    | false => rfl
    | true => rw [← h.opened k hc, h3 k (by omega) (by omega)]

/-! ## Offsets -/

theorem lineStart_le_lineStop (o : Outline) (i : Nat) : o.lineStart i ≤ o.lineStop i :=
  Nat.le_add_right _ _

theorem WellFormed.lineStart_lt (h : o.WellFormed) (hij : i < j) (hj : j < o.count) :
    o.lineStart i < o.lineStart j := by
  have h1 := h.ascending i j hij hj
  have h2 := o.lineStart_le_lineStop i
  omega

theorem WellFormed.lineStart_lt_size (h : o.WellFormed) (hi : o.isStatementStart i = true) :
    o.lineStart i < o.size := by
  have h1 := h.filled i (kind_isCode_of_start hi)
  have h2 := h.inside i (lt_count_of_start hi)
  omega

/-- As many rows as start no later than an offset come first. -/
theorem lt_countP_start {rs : List Row} (hrs : rs.Pairwise fun r r' => r.start < r'.start)
    (hi : i < rs.length) (p : Int) :
    i < rs.countP (fun r => decide ((r.start : Int) ≤ p)) ↔ (rs[i].start : Int) ≤ p := by
  induction rs generalizing i with
  | nil => simp at hi
  | cons a rs ih =>
    obtain ⟨ha, hrs⟩ := List.pairwise_cons.1 hrs
    by_cases hap : (a.start : Int) ≤ p
    · rw [List.countP_cons_of_pos (by simpa using hap)]
      cases i with
      | zero => simp [hap]
      | succ i =>
        rw [Nat.add_lt_add_iff_right, ih hrs (by simpa using hi), List.getElem_cons_succ]
    · have hnone : (a :: rs).countP (fun r => decide ((r.start : Int) ≤ p)) = 0 := by
        rw [List.countP_eq_zero]
        intro r hr
        rw [decide_eq_true_eq]
        rcases List.mem_cons.1 hr with rfl | hr
        · exact hap
        · have := ha r hr
          omega
      have hle : a.start ≤ ((a :: rs)[i]).start := by
        cases i with
        | zero => exact Nat.le_refl _
        | succ i => exact Nat.le_of_lt (ha _ (List.getElem_mem _))
      rw [hnone]
      omega

theorem lineAt_le (o : Outline) (p : Int) : o.lineAt p ≤ o.count - 1 := by
  have hle := List.countP_le_length
    (p := fun r : Row => decide ((r.start : Int) ≤ p)) (l := o.rows.toList)
  rw [Array.length_toList] at hle
  exact Nat.sub_le_sub_right hle 1

theorem lineAt_lt_count (t : Text) (p : Int) : (ofText t).lineAt p < (ofText t).count := by
  have hpos : 0 < (ofText t).count := by
    rw [count_ofText]
    exact List.length_pos_iff.2 t.lines_ne_nil
  have hle := (ofText t).lineAt_le p
  omega

/-- An offset is on a line or below it exactly if the line starts no later. -/
theorem WellFormed.le_lineAt_iff (h : o.WellFormed) (h0 : 0 < i) (hi : i < o.count) (p : Int) :
    i ≤ o.lineAt p ↔ (o.lineStart i : Int) ≤ p := by
  have hlen : i < o.rows.toList.length := by simpa [count] using hi
  have hrow : o.lineStart i = (o.rows.toList[i]).start := by
    rw [lineStart, row_eq_getElem hi]
    rfl
  have hpw : o.rows.toList.Pairwise fun r r' => r.start < r'.start := by
    rw [List.pairwise_iff_getElem]
    intro k m hk hm hkm
    have hk' : k < o.count := by simpa [count] using hk
    have hm' : m < o.count := by simpa [count] using hm
    have := h.lineStart_lt hkm hm'
    rwa [lineStart, lineStart, row_eq_getElem hk', row_eq_getElem hm'] at this
  rw [hrow, ← lt_countP_start hpw hlen p, lineAt]
  omega

/-- The cursor at the start of a line is on that line. -/
theorem WellFormed.lineAt_lineStart (h : o.WellFormed) (hi : i < o.count) :
    o.lineAt (o.lineStart i) = i := by
  have hle := o.lineAt_le (o.lineStart i)
  rcases Nat.lt_trichotomy i (o.lineAt (o.lineStart i)) with hlt | heq | hgt
  · have hcount : o.lineAt (o.lineStart i) < o.count := by omega
    have hstart := h.lineStart_lt hlt hcount
    have hback := (h.le_lineAt_iff (by omega) hcount (o.lineStart i)).1 (Nat.le_refl _)
    omega
  · exact heq.symm
  · have hge := (h.le_lineAt_iff (by omega) hi (o.lineStart i)).2 (Int.le_refl _)
    omega

end

end Outline

end ReplSend
