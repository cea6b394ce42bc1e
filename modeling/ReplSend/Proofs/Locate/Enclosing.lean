import Mathlib.Data.Nat.Find
import Mathlib.Order.Bounds.Defs
import ReplSend.Proofs.Locate.Definition

/-!
# The innermost definition

A definition encloses a code line if its block reaches down to it (`Encloses`), that is if it is
less indented than every statement on the way (`encloses_iff`). The search up keeps the least
indentation that it has passed (`Passed`), so it finds the innermost header (`headerAbove_eq_some`);
and it may end at the unindented statement around the line, as nothing above that reaches into it
(`Encloses.ge`). What is located is the block of the innermost header, from the top of its
decorators on (`definition_innermost`).
-/

namespace ReplSend.Outline

variable {o : Outline} {header : LineKind} {d floor h i j m s : Nat} {least : Option Nat}

/-- The statement at `h` is of the given kind, and its block reaches down to line `i`. -/
structure Encloses (o : Outline) (header : LineKind) (h i : Nat) : Prop where
  start : o.isStatementStart h = true
  kind : o.kind h = header
  le : h ≤ i
  reaches : i ≤ o.blockStop h

theorem WellFormed.encloses_iff (hw : o.WellFormed) (hi : o.isCode i = true) :
    o.Encloses header h i ↔ o.isStatementStart h = true ∧ o.kind h = header ∧ h ≤ i ∧
      ∀ k, h < k → k ≤ i → o.isStatementStart k = true → o.indent h < o.indent k := by
  constructor
  · rintro ⟨hs, hk, hle, hreach⟩
    exact ⟨hs, hk, hle, fun k hhk hki hks => indent_lt_of_le_blockStop hks hhk (by omega)⟩
  · rintro ⟨hs, hk, hle, hdeep⟩
    exact ⟨hs, hk, hle, hw.le_blockStop hs hi hle hdeep⟩

/-! ## The search up -/

/-- An indentation is less than `least` if it is less than that of every statement after line `m` up
to line `i`. -/
def Passed (o : Outline) (least : Option Nat) (m i : Nat) : Prop :=
  ∀ x, (∀ n ∈ least, x < n) ↔ ∀ k, m < k → k ≤ i → o.isStatementStart k = true → x < o.indent k

theorem passed_none (o : Outline) (i : Nat) : o.Passed none i i := by
  refine fun x => ⟨fun _ k hk hki => ?_, fun _ => nofun⟩
  omega

/-- The least indentation when line `i` is passed too. -/
def leastWith (o : Outline) (least : Option Nat) (i : Nat) : Option Nat :=
  if o.isStatementStart i then
    some (match least with
      | none => o.indent i
      | some n => min n (o.indent i))
  else least

theorem Passed.up (hp : o.Passed least (j + 1) i) (hj : j + 1 ≤ i) :
    o.Passed (o.leastWith least (j + 1)) j i := by
  intro x
  have hsplit : (∀ k, j < k → k ≤ i → o.isStatementStart k = true → x < o.indent k) ↔
      (o.isStatementStart (j + 1) = true → x < o.indent (j + 1)) ∧
        ∀ k, j + 1 < k → k ≤ i → o.isStatementStart k = true → x < o.indent k := by
    refine ⟨fun h => ⟨h (j + 1) (by omega) hj, fun k hk => h k (by omega)⟩, ?_⟩
    rintro ⟨hhere, hbelow⟩ k hk hki hs
    rcases Nat.eq_or_lt_of_le hk with rfl | hlt
    · exact hhere hs
    · exact hbelow k hlt hki hs
  rw [hsplit, ← hp x]
  unfold leastWith
  cases o.isStatementStart (j + 1) with
  | false => simp
  | true => cases least with
    | none => simp
    | some n =>
      simp only [Option.mem_some_iff, forall_eq', Nat.lt_min, forall_const, if_true]
      exact and_comm

/-- The indentation is less than what was passed. -/
def isLess (least : Option Nat) (x : Nat) : Bool :=
  match least with
  | none => true
  | some n => decide (x < n)

/-- The search stops where a definition encloses line `i`. -/
theorem WellFormed.stops_iff (hw : o.WellFormed) (hi : o.isCode i = true) (hm : m ≤ i)
    (hp : o.Passed least m i) :
    (o.isStatementStart m && decide (o.kind m = header) && isLess least (o.indent m)) = true ↔
      o.Encloses header m i := by
  have hless : isLess least (o.indent m) = true ↔ ∀ n ∈ least, o.indent m < n := by
    cases least <;> simp [isLess]
  rw [hw.encloses_iff hi, Bool.and_eq_true, Bool.and_eq_true, decide_eq_true_eq, hless, hp]
  exact ⟨fun h => ⟨h.1.1, h.1.2, hm, h.2⟩, fun h => ⟨⟨h.1, h.2.1⟩, h.2.2.2⟩⟩

/-- The search up to line `floor` finds the innermost header from there on. -/
theorem WellFormed.headerAbove_eq_some (hw : o.WellFormed) (hi : o.isCode i = true) (hm : m ≤ i)
    (hp : o.Passed least m i) : o.headerAbove header floor least m = some h ↔
      floor ≤ h ∧ h ≤ m ∧ o.Encloses header h i ∧
        ∀ k, h < k → k ≤ m → ¬ o.Encloses header k i := by
  fun_induction headerAbove o header floor least m with
  | case1 m least hlt =>
    constructor
    · intro hfound
      cases hfound
    · omega
  | case2 m least hge deeper hhere =>
    have henc : o.Encloses header m i := (hw.stops_iff hi hm hp).1 hhere
    constructor
    · intro heq
      cases heq
      exact ⟨by omega, Nat.le_refl h, henc, fun k hk hkh => by omega⟩
    · rintro ⟨-, hle, -, hnone⟩
      rcases Nat.eq_or_lt_of_le hle with rfl | hlt
      · rfl
      · exact absurd henc (hnone m hlt (Nat.le_refl m))
  | case3 least hge deeper hnot =>
    have hnone : ¬ o.Encloses header 0 i := fun henc => hnot ((hw.stops_iff hi hm hp).2 henc)
    constructor
    · intro hfound
      cases hfound
    · rintro ⟨-, hle, henc, -⟩
      obtain rfl := Nat.le_zero.1 hle
      exact absurd henc hnone
  | case4 least j hge deeper least' hnot ih =>
    have hnone : ¬ o.Encloses header (j + 1) i := fun henc =>
      hnot ((hw.stops_iff hi hm hp).2 henc)
    rw [ih (by omega) (hp.up hm)]
    constructor
    · rintro ⟨hfloor, hle, henc, hinner⟩
      refine ⟨hfloor, by omega, henc, fun k hk hkj => ?_⟩
      rcases Nat.eq_or_lt_of_le hkj with rfl | hlt
      · exact hnone
      · exact hinner k hk (by omega)
    · rintro ⟨hfloor, hle, henc, hinner⟩
      rcases Nat.eq_or_lt_of_le hle with rfl | hlt
      · exact absurd henc hnone
      · exact ⟨hfloor, by omega, henc, fun k hk hkj => hinner k hk (by omega)⟩

/-! ## The floor of the search -/

/-- Nothing above an unindented statement encloses a line in or below it. -/
theorem Encloses.ge (henc : o.Encloses header h i) (hs : o.isStatementStart s = true)
    (hmargin : o.indent s = 0) (hsi : s ≤ i) : s ≤ h := by
  rcases Nat.lt_or_ge h s with hlt | hge
  · have hreach := henc.reaches
    have := indent_lt_of_le_blockStop hs hlt (by omega)
    omega
  · exact hge

theorem WellFormed.enclosingHeader_eq_some (hw : o.WellFormed) (hi : o.isCode i = true)
    {found : Option Nat} (hf : o.enclosingHeader i header = .ok found) :
    found = some h ↔ IsGreatest {h | o.Encloses header h i} h := by
  unfold enclosingHeader at hf
  rw [nextCode_self hi] at hf
  dsimp only at hf
  split at hf
  · rename_i r e htop
    cases hf
    obtain ⟨s, hs, hr, -⟩ := topBounds_eq_ok.1 htop
    have hstart := hw.start_of_topStartFrom (hw.parts_of_resolveStart hi hs).1 hr
    rw [hw.headerAbove_eq_some hi (Nat.le_refl i) (o.passed_none i)]
    constructor
    · rintro ⟨-, -, henc, hinner⟩
      exact ⟨henc, fun k hk => Nat.le_of_not_lt fun hlt => hinner k hlt hk.le hk⟩
    · rintro ⟨henc, hgreatest⟩
      refine ⟨henc.ge hstart (indent_of_topStartFrom hr) (topBounds_le htop), henc.le, henc, ?_⟩
      exact fun k hk _ hk' => Nat.not_le_of_lt hk (hgreatest hk')
  · cases hf

/-! ## The header on the line -/

theorem headerOnLine_eq_some (hi : o.isCode i = true)
    (hd : ¬ (o.isStatementStart i = true ∧ o.kind i = .decorator)) :
    o.headerOnLine i header = some h ↔
      h = i ∧ o.isStatementStart i = true ∧ o.kind i = header := by
  unfold headerOnLine
  split
  · rename_i hcont
    simp [start_iff, hcont]
  rename_i hcont
  have hstart : o.isStatementStart i = true := start_iff.2 ⟨hi, Bool.not_eq_true _ ▸ hcont⟩
  have hkind : o.kind i ≠ .decorator := fun hk => hd ⟨hstart, hk⟩
  split
  · rename_i hk
    simp [hstart, hk, eq_comm]
  · rename_i hk
    rw [underDecorators, if_neg hkind, Option.filter_some, if_neg (by simpa using hk)]
    constructor
    · intro hfound
      cases hfound
    · rintro ⟨-, -, hkind⟩
      exact absurd hkind hk

/-- The header that is found is the innermost one. -/
theorem WellFormed.findHeader_eq_some (hw : o.WellFormed) (hi : o.isCode i = true)
    (hd : ¬ (o.isStatementStart i = true ∧ o.kind i = .decorator)) {found : Option Nat}
    (hf : o.findHeader i header = .ok found) :
    found = some h ↔ IsGreatest {h | o.Encloses header h i} h := by
  unfold findHeader at hf
  split at hf
  · rename_i k hk
    cases hf
    obtain ⟨rfl, hstart, hkind⟩ := (headerOnLine_eq_some hi hd).1 hk
    have henc : o.Encloses header k k := ⟨hstart, hkind, Nat.le_refl k, o.le_blockStop_self k⟩
    rw [Option.some.injEq]
    constructor
    · rintro rfl
      exact ⟨henc, fun j hj => hj.le⟩
    · rintro ⟨hh, hgreatest⟩
      exact Nat.le_antisymm (hgreatest henc) hh.le
  · exact hw.enclosingHeader_eq_some hi hf

/-! ## The decorators above the header -/

/-- The decorator at `d` stands directly above the statement at `i`, equally indented. -/
structure Decorates (o : Outline) (d i : Nat) : Prop where
  decorator : o.kind d = .decorator
  upper : o.isStatementStart d = true
  lower : o.isStatementStart i = true
  indent_eq : o.indent d = o.indent i
  lt : d < i
  between : ∀ k, d < k → k < i → o.isStatementStart k = false

theorem WellFormed.decorates_iff (hw : o.WellFormed) (hi : o.isStatementStart i = true) :
    o.Decorates d i ↔ o.previousStatement i = some d ∧ o.kind d = .decorator ∧
      o.indent d = o.indent i := by
  constructor
  · intro h
    refine ⟨?_, h.decorator, h.indent_eq⟩
    cases hp : o.previousStatement i with
    | none =>
      have hcode := lastBefore_eq_none.1 (Option.map_eq_none_iff.1 hp) d h.lt
      exact absurd h.upper (not_start_of_not_isCode hcode)
    | some j =>
      obtain ⟨hj, hji, hnone⟩ := hw.of_previousStatement hp
      rcases Nat.lt_trichotomy d j with hlt | rfl | hgt
      · rw [h.between j hlt hji] at hj
        cases hj
      · rfl
      · have hupper := h.upper
        rw [hnone d hgt h.lt] at hupper
        cases hupper
  · rintro ⟨hp, hk, hind⟩
    obtain ⟨hd, hdi, hnone⟩ := hw.of_previousStatement hp
    exact ⟨hk, hd, hi, hind, hdi, hnone⟩

/-- The statement at `s` is the topmost of the decorators stacked above the one at `h`, or that one
itself if there are none. -/
structure TopOf (o : Outline) (s h : Nat) : Prop where
  stack : Relation.ReflTransGen o.Decorates s h
  top : ∀ d, ¬ o.Decorates d s

theorem WellFormed.topDecorator_spec (hw : o.WellFormed) (found : Option Nat)
    (hi : o.isStatementStart i = true) :
    (o.topDecorator (o.indent i) found i = found ∧ ∀ d, ¬ o.Decorates d i) ∨
      ∃ s, o.topDecorator (o.indent i) found i = some s ∧ o.TopOf s i := by
  generalize hcol : o.indent i = column
  fun_induction topDecorator o column found i with
  | case1 found i hp =>
    refine .inl ⟨rfl, fun d hd => ?_⟩
    have hprevious := ((hw.decorates_iff hi).1 hd).1
    rw [hp] at hprevious
    cases hprevious
  | case2 found i j hj hdec ih =>
    have hdecorates : o.Decorates j i :=
      (hw.decorates_iff hi).2 ⟨hj, hdec.1, hdec.2.trans hcol.symm⟩
    right
    rcases ih hdecorates.upper hdec.2 with ⟨hsame, htop⟩ | ⟨s, hs, htop⟩
    · exact ⟨j, hsame, .single hdecorates, htop⟩
    · exact ⟨s, hs, htop.stack.tail hdecorates, htop.top⟩
  | case3 found i j hj hdec =>
    refine .inl ⟨rfl, fun d hd => ?_⟩
    obtain ⟨hprevious, hkind, hind⟩ := (hw.decorates_iff hi).1 hd
    obtain rfl := Option.some.inj (hj.symm.trans hprevious)
    exact hdec ⟨hkind, hind.trans hcol⟩

theorem WellFormed.topOf_headStart (hw : o.WellFormed) (hh : o.isStatementStart h = true) :
    o.TopOf (o.headStart h) h := by
  unfold headStart decoratorAbove
  rcases hw.topDecorator_spec none hh with ⟨hnone, htop⟩ | ⟨s, hs, htop⟩
  · rw [hnone]
    exact ⟨.refl, htop⟩
  · rw [hs]
    exact htop

theorem TopOf.le (h : o.TopOf s i) : s ≤ i := by
  obtain ⟨hstack, -⟩ := h
  induction hstack with
  | refl => exact Nat.le_refl s
  | tail _ hdecorates ih => exact Nat.le_of_lt (Nat.lt_of_le_of_lt ih hdecorates.lt)

/-! ## The definition -/

theorem Encloses.exists_innermost (henc : o.Encloses header h i) :
    ∃ g, IsGreatest {h | o.Encloses header h i} g := by
  classical
  exact ⟨Nat.findGreatest (o.Encloses header · i) i, Nat.findGreatest_spec henc.le henc,
    fun k hk => Nat.le_findGreatest hk.le hk⟩

/-- A definition cannot be located only if the unindented statement around the line cannot. -/
theorem definition_eq_error (hi : o.isCode i = true) {f : LocateFault}
    (hf : o.definition i header = .error f) : o.topStatement i = .error f := by
  have hheader := definition_error_iff.1 hf
  unfold findHeader at hheader
  split at hheader
  · cases hheader
  unfold enclosingHeader at hheader
  rw [nextCode_self hi] at hheader
  dsimp only at hheader
  split at hheader
  · cases hheader
  · rename_i f' htop
    obtain rfl := Except.error.inj hheader
    exact topStatement_eq_error.2 (.inr ⟨i, codeLine_eq_ok.2 (nextCode_self hi), htop⟩)

/-- What is located around a code line that is not the first one of a decorator, unless the
unindented statement there cannot be: the definition of the innermost header whose block reaches
down to the line, from the top of its decorators to the end of its block, with the line in it.
There is none only if no block of such a header reaches so far. -/
theorem definition_innermost (t : Text) {header : LineKind} {i : Nat} {p : Int}
    (hp : (ofText t).lineAt p = i) (hi : (ofText t).isCode i = true)
    (hd : ¬ ((ofText t).isStatementStart i = true ∧ (ofText t).kind i = .decorator)) :
    (∀ f, (ofText t).definition ((ofText t).lineAt p) header = .error f →
      (ofText t).topStatement ((ofText t).lineAt p) = .error f) ∧
    ∀ found, (ofText t).definition ((ofText t).lineAt p) header = .ok found →
      (found = none ↔ ∀ h, ¬ (ofText t).Encloses header h i) ∧
      ∀ h, IsGreatest {h | (ofText t).Encloses header h i} h →
        ∃ s blk, (ofText t).TopOf s h ∧ found = some blk ∧ blk = (ofText t).block
          (if header = .classHeader then .defclass else .defun) s ((ofText t).blockStop h) ∧
        blk.HasLine i := by
  have hw := wellFormed_ofText t
  rw [hp]
  refine ⟨fun f => definition_eq_error hi, fun found hf => ?_⟩
  rw [definition_eq] at hf
  cases hheader : (ofText t).findHeader i header with
  | error e =>
    rw [hheader] at hf
    cases hf
  | ok f =>
    rw [hheader] at hf
    obtain rfl := Except.ok.inj hf
    have hspec : ∀ h, f = some h ↔ IsGreatest {h | (ofText t).Encloses header h i} h :=
      fun h => hw.findHeader_eq_some hi hd hheader
    constructor
    · rw [Option.map_eq_none_iff]
      constructor
      · rintro rfl h henc
        obtain ⟨g, hg⟩ := henc.exists_innermost
        cases (hspec g).2 hg
      · intro hnone
        cases hf' : f with
        | none => rfl
        | some h => exact absurd ((hspec h).1 hf').1 (hnone h)
    · intro h hh
      obtain rfl := (hspec h).2 hh
      have htop := hw.topOf_headStart hh.1.start
      have hle := htop.le
      exact ⟨_, _, htop, rfl, rfl, hasLine_block.2 ⟨Nat.le_trans hle hh.1.le, hh.1.reaches⟩⟩

/-- Methods with decorators, in a class; the cursor is on a continuation line of the second. -/
def nestedText : Text :=
  "@a\nclass C:\n  def f(self): pass\n  @b\n  @c\n  def g(self):\n    x = (1,\n2)\n"

theorem definition_innermost_nested :
    (ofText nestedText).lineAt 70 = 7 ∧ (ofText nestedText).isCode 7 = true ∧
      (ofText nestedText).isStatementStart 7 = false ∧
      (ofText nestedText).definition 7 .defHeader = .ok (some ⟨.defun, 32, 71, 4, 8⟩) ∧
      ∃ h, (ofText nestedText).Encloses .defHeader h 7 := by
  have hline : (ofText nestedText).lineAt 70 = 7 := by decide +kernel
  have hcode : (ofText nestedText).isCode 7 = true := by decide +kernel
  have hcont : (ofText nestedText).isStatementStart 7 = false := by decide +kernel
  have hfound : (ofText nestedText).definition ((ofText nestedText).lineAt 70) .defHeader =
      .ok (some ⟨.defun, 32, 71, 4, 8⟩) := by decide +kernel
  have hspec := ((definition_innermost nestedText hline hcode
    fun h => Bool.false_ne_true (hcont.symm.trans h.1)).2 _ hfound).1
  refine ⟨hline, hcode, hcont, hline ▸ hfound, Classical.byContradiction fun hnone => ?_⟩
  cases hspec.2 fun h henc => hnone ⟨h, henc⟩

end ReplSend.Outline
