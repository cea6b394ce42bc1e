import Mathlib.Logic.Relation
import ReplSend.Locate.Statement
import ReplSend.Proofs.Source

/-!
# Siblings and parts

The climb to the start of a statement and the walk to its end take the same steps. `Sibling a b`:
the statements at `a` and `b` are equally indented with only deeper ones between; the search down
(`nextSibling`) and the search up (`previousSibling`) find exactly these. `nextPart a` is the
sibling that goes on with the statement at `a`: a clause, or what a decorator decorates. A
statement runs through its parts (`Parts`) to the end of the last one (`Ends`), and the climb goes
up along parts only (`parts_of_resolveStart`).
-/

namespace ReplSend.Outline

variable {o : Outline} {a b c e s i j : Nat}

/-! ## The block under a statement -/

/-- The block goes down to every code line that only deeper statements lead to. -/
theorem WellFormed.le_blockStopFrom (h : o.WellFormed) {base stop m : Nat} (hm : o.isCode m = true)
    (hdeep : ∀ k, i ≤ k → k ≤ m → o.isStatementStart k = true → base < o.indent k)
    (hstop : o.statementStart m < i → m ≤ stop) : m ≤ o.blockStopFrom base stop i := by
  have hstart := h.isStatementStart_statementStart hm
  have hle := o.statementStart_le m
  fun_induction blockStopFrom o base stop i with
  | case1 stop i hi hs ih =>
    refine ih (fun k hk => hdeep k (by omega)) fun hlt => hstop ?_
    have hne : o.statementStart m ≠ i := by
      rintro rfl
      rw [hstart] at hs
      cases hs
    omega
  | case2 stop i hi hs hbase =>
    have hs' : o.isStatementStart i = true := by simpa using hs
    rcases Nat.lt_or_ge m i with hlt | hge
    · exact hstop (by omega)
    · have := hdeep i (Nat.le_refl i) hge hs'
      omega
  | case3 stop i hi hs hbase ih =>
    have hs' : o.isStatementStart i = true := by simpa using hs
    refine ih (fun k hk => hdeep k (by omega)) fun hlt => ?_
    rcases Nat.lt_or_ge m i with hmi | him
    · have := o.le_statementStop i
      omega
    · have heq : o.statementStart m = i := by
        have := le_statementStart hs' him
        omega
      rw [← heq]
      exact o.le_statementStop_statementStart m
  | case4 stop i hi =>
    have := lt_count_of_isCode hm
    exact hstop (by omega)

/-- The block ends above every statement that is not deeper. -/
theorem blockStopFrom_lt {base stop k : Nat} (hk : o.isStatementStart k = true)
    (hbase : o.indent k ≤ base) (hstop : stop < k) (hi : i ≤ k) :
    o.blockStopFrom base stop i < k := by
  fun_induction blockStopFrom o base stop i with
  | case1 stop i hic hs ih =>
    have hne : i ≠ k := by
      rintro rfl
      rw [hk] at hs
      cases hs
    exact ih hstop (by omega)
  | case2 => exact hstop
  | case3 stop i hic hs hdeep ih =>
    have hne : i ≠ k := by
      rintro rfl
      omega
    exact ih (statementStop_lt hk (by omega)) (by omega)
  | case4 => exact hstop

/-- The block ends with a whole statement line. -/
theorem blockStopFrom_eq (base stop i : Nat) :
    o.blockStopFrom base stop i = stop ∨
      ∃ k, i ≤ k ∧ o.isStatementStart k = true ∧
        o.blockStopFrom base stop i = o.statementStop k := by
  fun_induction blockStopFrom o base stop i with
  | case1 stop i hi hs ih =>
    rcases ih with h | ⟨k, h1, h2, h3⟩
    · exact .inl h
    · exact .inr ⟨k, by omega, h2, h3⟩
  | case2 => exact .inl rfl
  | case3 stop i hi hs hbase ih =>
    rcases ih with h | ⟨k, h1, h2, h3⟩
    · exact .inr ⟨i, Nat.le_refl i, by simpa using hs, h⟩
    · exact .inr ⟨k, by omega, h2, h3⟩
  | case4 => exact .inl rfl

theorem blockStop_eq (hs : o.isStatementStart s = true) :
    ∃ k, s ≤ k ∧ o.isStatementStart k = true ∧ o.blockStop s = o.statementStop k := by
  rcases o.blockStopFrom_eq (o.indent s) (o.statementStop s) (o.statementStop s + 1) with
    h | ⟨k, h1, h2, h3⟩
  · exact ⟨s, Nat.le_refl s, hs, h⟩
  · have := o.le_statementStop s
    exact ⟨k, by omega, h2, h3⟩

theorem statementStop_le_blockStop (o : Outline) (s : Nat) :
    o.statementStop s ≤ o.blockStop s := by
  rcases o.blockStopFrom_eq (o.indent s) (o.statementStop s) (o.statementStop s + 1) with
    h | ⟨k, h1, -, h3⟩
  · exact Nat.le_of_eq h.symm
  · have := o.le_statementStop k
    rw [blockStop, h3]
    omega

theorem le_blockStop_self (o : Outline) (s : Nat) : s ≤ o.blockStop s :=
  Nat.le_trans (o.le_statementStop s) (o.statementStop_le_blockStop s)

theorem isCode_blockStop (hs : o.isStatementStart s = true) : o.isCode (o.blockStop s) = true := by
  obtain ⟨k, -, hk, heq⟩ := blockStop_eq hs
  rw [heq]
  exact isCode_statementStop (isCode_of_start hk)

theorem not_continues_after_blockStop (hs : o.isStatementStart s = true) :
    o.continues (o.blockStop s + 1) = false := by
  obtain ⟨k, -, -, heq⟩ := blockStop_eq hs
  rw [heq]
  exact o.not_continues_after_statementStop k

theorem blockStop_lt (hk : o.isStatementStart j = true) (hsj : s < j)
    (hind : o.indent j ≤ o.indent s) : o.blockStop s < j := by
  have := statementStop_lt hk hsj
  exact blockStopFrom_lt hk hind this this

/-- A statement nested in a block is deeper than the block. -/
theorem indent_lt_of_le_blockStop (hk : o.isStatementStart j = true) (hsj : s < j)
    (hj : j ≤ o.blockStop s) : o.indent s < o.indent j := by
  rcases Nat.lt_or_ge (o.indent s) (o.indent j) with h | h
  · exact h
  · have := blockStop_lt hk hsj h
    omega

theorem WellFormed.le_blockStop (h : o.WellFormed) (hs : o.isStatementStart s = true)
    (hi : o.isCode i = true) (hsi : s ≤ i)
    (hdeep : ∀ k, s < k → k ≤ i → o.isStatementStart k = true → o.indent s < o.indent k) :
    i ≤ o.blockStop s := by
  have hstop := o.le_statementStop s
  refine h.le_blockStopFrom hi (fun k hk => hdeep k (by omega)) fun hlt => ?_
  have h1 := le_statementStart hs hsi
  have h2 := h.isStatementStart_statementStart hi
  have heq : o.statementStart i = s := by
    rcases Nat.eq_or_lt_of_le h1 with heq | hlt'
    · exact heq.symm
    · have := statementStop_lt h2 hlt'
      omega
  rw [← heq]
  exact o.le_statementStop_statementStart i

/-! ## Siblings -/

/-- The statements at `a` and `b` are equally indented, with only deeper ones between. -/
structure Sibling (o : Outline) (a b : Nat) : Prop where
  lt : a < b
  upper : o.isStatementStart a = true
  lower : o.isStatementStart b = true
  indent_eq : o.indent b = o.indent a
  deeper : ∀ k, a < k → k < b → o.isStatementStart k = true → o.indent a < o.indent k

theorem WellFormed.nextSibling_eq_some (h : o.WellFormed) (ha : o.isStatementStart a = true) :
    o.nextSibling a = some b ↔ o.Sibling a b := by
  rw [nextSibling, Option.filter_eq_some_iff, firstFrom_eq_some, decide_eq_true_eq]
  constructor
  · rintro ⟨⟨h1, -, h3, h4⟩, h5⟩
    have := o.le_blockStop_self a
    refine ⟨by omega, ha, h3, h5, fun k hak hkb hk => ?_⟩
    rcases Nat.lt_or_ge (o.blockStop a) k with hlt | hge
    · have hk' := h4 k hlt hkb
      rw [show (o.row k).isStatementStart = true from hk] at hk'
      cases hk'
    · exact indent_lt_of_le_blockStop hk hak hge
  · intro hab
    have hlt := blockStop_lt hab.lower hab.lt (Nat.le_of_eq hab.indent_eq)
    refine ⟨⟨hlt, lt_count_of_start hab.lower, hab.lower, fun k hk hkb => ?_⟩, hab.indent_eq⟩
    cases hs : (o.row k).isStatementStart with
    | false => rfl
    | true =>
      have := o.le_blockStop_self a
      have hle : k ≤ o.blockStop a :=
        h.le_blockStop ha (isCode_of_start hs) (by omega)
          fun m h1 h2 => hab.deeper m h1 (by omega)
      omega

theorem previousSibling_eq_some (hb : o.isStatementStart b = true) :
    o.previousSibling b = some a ↔ o.Sibling a b := by
  simp only [previousSibling, Option.filter_eq_some_iff, lastBefore_eq_some, decide_eq_true_eq,
    Bool.and_eq_true, Bool.and_eq_false_iff, decide_eq_false_iff_not]
  constructor
  · rintro ⟨⟨h1, ⟨h2, -⟩, h4⟩, h5⟩
    refine ⟨h1, h2, hb, h5.symm, fun k hak hkb hk => ?_⟩
    rcases h4 k hak hkb with hn | hn
    · rw [show (o.row k).isStatementStart = true from hk] at hn
      cases hn
    · have hk' : (o.row k).indent = o.indent k := rfl
      omega
  · intro hab
    have hle : (o.row a).indent ≤ o.indent b := Nat.le_of_eq hab.indent_eq.symm
    refine ⟨⟨hab.lt, ⟨hab.upper, hle⟩, fun k hak hkb => ?_⟩, hab.indent_eq.symm⟩
    cases hs : (o.row k).isStatementStart with
    | false => exact .inl rfl
    | true =>
      have h1 := hab.deeper k hak hkb hs
      have h2 : (o.row k).indent = o.indent k := rfl
      have h3 := hab.indent_eq
      exact .inr (by omega)

/-! ## Parts -/

/-- The sibling below that goes on with the statement at `a`. -/
def nextPart (o : Outline) (a : Nat) : Option Nat :=
  (o.nextSibling a).filter fun b => o.kind b = .clause ∨ o.kind a = .decorator

theorem WellFormed.nextPart_eq_some (h : o.WellFormed) (ha : o.isStatementStart a = true) :
    o.nextPart a = some b ↔ o.Sibling a b ∧ (o.kind b = .clause ∨ o.kind a = .decorator) := by
  rw [nextPart, Option.filter_eq_some_iff, h.nextSibling_eq_some ha, decide_eq_true_eq]

theorem nextPart_bounds (hab : o.nextPart a = some b) : a < b ∧ b < o.count := by
  have h1 := (Option.filter_eq_some_iff.1 (Option.filter_eq_some_iff.1 hab).1).1
  have h2 := firstFrom_bounds h1
  have h3 := o.le_blockStop_self a
  omega

/-- `b` is reached from `a` along parts of one statement. -/
def Parts (o : Outline) : Nat → Nat → Prop :=
  Relation.ReflTransGen fun a b => o.nextPart a = some b

/-- The statement that starts at `s` ends on line `e`. -/
def Ends (o : Outline) (s e : Nat) : Prop :=
  ∃ c, o.Parts s c ∧ o.nextPart c = none ∧ e = o.blockStop c

theorem Parts.to_last (hab : o.Parts a b) (hac : o.Parts a c) (hc : o.nextPart c = none) :
    o.Parts b c := by
  have hunique : Relator.RightUnique fun a b => o.nextPart a = some b := by
    intro x y z hy hz
    rw [hy, Option.some.injEq] at hz
    exact hz
  rcases Relation.ReflTransGen.total_of_right_unique hunique hab hac with h | h
  · exact h
  · rcases Relation.ReflTransGen.cases_head h with rfl | ⟨d, hd, -⟩
    · exact .refl
    · rw [hc] at hd
      cases hd

theorem Parts.ends (hab : o.Parts a b) (he : o.Ends a e) : o.Ends b e := by
  obtain ⟨c, hac, hc, rfl⟩ := he
  exact ⟨c, hab.to_last hac hc, hc, rfl⟩

theorem Ends.unique {e' : Nat} (h : o.Ends s e) (h' : o.Ends s e') : e = e' := by
  obtain ⟨c, hsc, hc, rfl⟩ := h
  obtain ⟨c', hsc', hc', rfl⟩ := h'
  rcases Relation.ReflTransGen.cases_head (Parts.to_last hsc hsc' hc') with rfl | ⟨d, hd, -⟩
  · rfl
  · rw [hc] at hd
    cases hd

/-! ## The walk down -/

/-- The walk down always stops, at the end of the statement. -/
theorem exists_closing (o : Outline) (first : Nat) {limit : Nat} (hl : o.count - a < limit) :
    ∃ e, o.closing first limit a = .ok e ∧ o.Ends a e := by
  induction limit generalizing a with
  | zero => omega
  | succ limit ih =>
    cases hn : o.nextPart a with
    | none =>
      refine ⟨o.blockStop a, ?_, a, .refl, hn, rfl⟩
      unfold closing
      split
      · rename_i j hj
        have : ¬ (o.kind j = .clause ∨ o.kind a = .decorator) := by
          simpa [nextPart, hj] using hn
        simp [this]
      · rfl
    | some b =>
      obtain ⟨hlt, hb⟩ := nextPart_bounds hn
      obtain ⟨e, he, c, hbc, hc, hec⟩ := ih (a := b) (by omega)
      refine ⟨e, ?_, c, .head hn hbc, hc, hec⟩
      obtain ⟨hs, hcond⟩ := Option.filter_eq_some_iff.1 hn
      unfold closing
      simp only [hs]
      rw [if_pos (by simpa using hcond), he]

theorem exists_statementEnd (o : Outline) (s : Nat) :
    ∃ e, o.statementEnd s = .ok e ∧ o.Ends s e :=
  o.exists_closing s (by omega)

theorem statementEnd_eq_ok : o.statementEnd s = .ok e ↔ o.Ends s e := by
  obtain ⟨e', h', he⟩ := o.exists_statementEnd s
  rw [h', Except.ok.injEq]
  constructor
  · rintro rfl
    exact he
  · exact he.unique

/-! ## The climb -/

theorem WellFormed.of_previousStatement (h : o.WellFormed) (hj : o.previousStatement i = some j) :
    o.isStatementStart j = true ∧ j < i ∧
      ∀ k, j < k → k < i → o.isStatementStart k = false := by
  obtain ⟨m, hm, rfl⟩ := Option.map_eq_some_iff.1 hj
  obtain ⟨hmi, hcode, hnone⟩ := lastBefore_eq_some.1 hm
  refine ⟨h.isStatementStart_statementStart hcode, previousStatement_lt hj, fun k hk hki => ?_⟩
  cases hs : o.isStatementStart k with
  | false => rfl
  | true =>
    rcases Nat.lt_or_ge m k with hmk | hkm
    · exact absurd hs (not_start_of_not_isCode (hnone k hmk hki))
    · have := le_statementStart hs hkm
      omega

theorem topDecorator_lt {column : Nat} {found : Option Nat}
    (h : o.topDecorator column found i = some a) : found = some a ∨ a < i := by
  fun_induction topDecorator o column found i with
  | case1 => exact .inl h
  | case2 found i j hj hdec ih =>
    have hlt := previousStatement_lt hj
    rcases ih h with heq | hlt'
    · cases heq
      exact .inr hlt
    · exact .inr (by omega)
  | case3 => exact .inl h

/-- A climb goes up. -/
theorem climb_lt (h : o.climb i = .ok (some a)) : a < i := by
  have header (hd : o.decoratorAbove i = some a) : a < i := by
    rcases topDecorator_lt hd with hn | hlt
    · cases hn
    · exact hlt
  unfold climb at h
  split at h
  · split at h
    · cases h
    · rename_i hj
      cases h
      exact lastBefore_lt (Option.filter_eq_some_iff.1 hj).1
  · exact header (by simpa using h)
  · exact header (by simpa using h)
  · cases h

/-- The decorators stacked above a statement lead down to it. -/
theorem WellFormed.parts_of_topDecorator (h : o.WellFormed) {found : Option Nat}
    (hi : o.isStatementStart i = true)
    (ha : o.topDecorator (o.indent i) found i = some a) :
    found = some a ∨ o.isStatementStart a = true ∧ o.Parts a i := by
  generalize hcol : o.indent i = column at ha
  fun_induction topDecorator o column found i with
  | case1 => exact .inl ha
  | case2 found i j hj hdec ih =>
    obtain ⟨hjs, hji, hnone⟩ := h.of_previousStatement hj
    have hsib : o.Sibling j i := by
      refine ⟨hji, hjs, hi, by rw [hcol, hdec.2], fun k hk hki hks => ?_⟩
      rw [hnone k hk hki] at hks
      cases hks
    have hpart : o.nextPart j = some i := (h.nextPart_eq_some hjs).2 ⟨hsib, .inr hdec.1⟩
    rcases ih hjs hdec.2 ha with heq | ⟨has, haj⟩
    · cases heq
      exact .inr ⟨hjs, .single hpart⟩
    · exact .inr ⟨has, haj.tail hpart⟩
  | case3 => exact .inl ha

theorem WellFormed.parts_of_climb (h : o.WellFormed) (hb : o.isStatementStart b = true)
    (ha : o.climb b = .ok (some a)) : o.isStatementStart a = true ∧ o.Parts a b := by
  have header (hd : o.decoratorAbove b = some a) :
      o.isStatementStart a = true ∧ o.Parts a b := by
    rcases h.parts_of_topDecorator hb hd with hn | hp
    · cases hn
    · exact hp
  unfold climb at ha
  split at ha
  · rename_i hk
    split at ha
    · cases ha
    · rename_i hp
      cases ha
      have hsib := (previousSibling_eq_some hb).1 hp
      exact ⟨hsib.upper, .single ((h.nextPart_eq_some hsib.upper).2 ⟨hsib, .inl hk⟩)⟩
  · exact header (by simpa using ha)
  · exact header (by simpa using ha)
  · cases ha

/-- The climb stays within the statement and stops where no step is left. -/
theorem WellFormed.parts_of_settle (h : o.WellFormed) {line limit : Nat}
    (hb : o.isStatementStart b = true) (hs : o.settle line limit b = .ok s) :
    o.isStatementStart s = true ∧ o.Parts s b ∧ o.climb s = .ok none := by
  fun_induction settle o line limit b with
  | case1 => cases hs
  | case2 => cases hs
  | case3 limit b hc =>
    cases hs
    exact ⟨hb, .refl, hc⟩
  | case4 => cases hs
  | case5 limit b a hc hlt ih =>
    obtain ⟨ha, hab⟩ := h.parts_of_climb hb hc
    obtain ⟨h1, h2, h3⟩ := ih ha hs
    exact ⟨h1, h2.trans hab, h3⟩

theorem WellFormed.parts_of_resolveStart (h : o.WellFormed) (hi : o.isCode i = true)
    (hs : o.resolveStart i = .ok s) :
    o.isStatementStart s = true ∧ o.Parts s (o.statementStart i) ∧ o.climb s = .ok none :=
  h.parts_of_settle (h.isStatementStart_statementStart hi) hs

/-- A statement that nothing is above of resolves to itself. -/
theorem resolveStart_of_settled (hs : o.isStatementStart s = true) (hc : o.climb s = .ok none) :
    o.resolveStart s = .ok s := by
  simp [resolveStart, statementStart_eq_self (start_iff.1 hs).2, settle, hc]

end ReplSend.Outline
