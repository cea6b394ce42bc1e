import ReplSend.Locate.Definition
import ReplSend.Proofs.Locate.Nesting

/-!
# The lines of a definition

A definition is found by its header (`findHeader`), which is a statement line of the kind that was
asked for (`start_of_findHeader`). It starts at the topmost decorator of the header (`headStart`)
and ends with the block of the header, as a statement does that has these parts
(`parts_headStart`).
-/

namespace ReplSend.Outline

variable {o : Outline} {header : LineKind} {a b h i : Nat}

/-- The header of the definition at line `i`: the one that the line shows or decorates, or the one
that encloses it. -/
def findHeader (o : Outline) (i : Nat) (header : LineKind) : Except LocateFault (Option Nat) :=
  match o.headerOnLine i header with
  | some h => .ok (some h)
  | none => o.enclosingHeader i header

/-- The first line of a definition with this header. -/
def headStart (o : Outline) (h : Nat) : Nat := (o.decoratorAbove h).getD h

theorem definition_eq (o : Outline) (i : Nat) (header : LineKind) :
    o.definition i header = (o.findHeader i header).map (Option.map fun h =>
      o.block (if header = .classHeader then .defclass else .defun) (o.headStart h)
        (o.blockStop h)) := by
  unfold definition findHeader
  cases o.headerOnLine i header with
  | some h => rfl
  | none => cases o.enclosingHeader i header <;> rfl

theorem definition_eq_some {blk : Block} :
    o.definition i header = .ok (some blk) ↔ ∃ h, o.findHeader i header = .ok (some h) ∧
      blk = o.block (if header = .classHeader then .defclass else .defun) (o.headStart h)
        (o.blockStop h) := by
  rw [definition_eq]
  rcases o.findHeader i header with e | _ | h <;> simp [Except.map, eq_comm]

theorem definition_error_iff {f : LocateFault} :
    o.definition i header = .error f ↔ o.findHeader i header = .error f := by
  rw [definition_eq]
  cases o.findHeader i header <;> simp [Except.map]

/-! ## The header -/

theorem underDecorators_of_decorator (h : o.kind i = .decorator) :
    o.underDecorators i = (o.nextCode (o.statementStop i + 1)).bind fun j =>
      if o.indent j = o.indent i then o.underDecorators j else none := by
  rw [underDecorators, if_pos h]
  split
  · rename_i hn
    rw [hn]
    rfl
  · rename_i j hj
    rw [hj]
    rfl

theorem WellFormed.start_of_underDecorators (hw : o.WellFormed) (hi : o.continues i = false)
    (hh : o.underDecorators i = some h) : o.continues h = false := by
  fun_induction underDecorators o i with
  | case1 => cases hh
  | case2 i hk j hj hind ih =>
    have hstart := hw.start_of_nextCode (o.not_continues_after_statementStop i) hj
    exact ih (start_iff.1 hstart).2 hh
  | case3 => cases hh
  | case4 =>
    cases hh
    exact hi

theorem WellFormed.start_of_headerOnLine (hw : o.WellFormed) (hc : header.isCode = true)
    (hh : o.headerOnLine i header = some h) :
    o.isStatementStart h = true ∧ o.kind h = header := by
  have start (hcont : o.continues h = false) (hk : o.kind h = header) :
      o.isStatementStart h = true := by
    refine start_iff.2 ⟨?_, hcont⟩
    rw [isCode, Row.isCode, show (o.row h).kind = header from hk, hc, Bool.or_true]
  unfold headerOnLine at hh
  split at hh
  · cases hh
  rename_i hcont
  split at hh
  · rename_i hk
    cases hh
    exact ⟨start (by simpa using hcont) hk, hk⟩
  · obtain ⟨hunder, hk⟩ := Option.filter_eq_some_iff.1 hh
    have hk : o.kind h = header := by simpa using hk
    exact ⟨start (hw.start_of_underDecorators (by simpa using hcont) hunder) hk, hk⟩

theorem start_of_headerAbove {floor : Nat} {least : Option Nat}
    (hh : o.headerAbove header floor least i = some h) :
    o.isStatementStart h = true ∧ o.kind h = header := by
  fun_induction headerAbove o header floor least i with
  | case1 => cases hh
  | case2 least i hi deeper hfound =>
    simp only [Bool.and_eq_true, decide_eq_true_eq] at hfound
    cases hh
    exact hfound.1
  | case3 => cases hh
  | case4 least i hi deeper least' hfound ih => exact ih hh

/-- The header that is found is a statement line of the kind that was asked for. -/
theorem WellFormed.start_of_findHeader (hw : o.WellFormed) (hc : header.isCode = true)
    (hh : o.findHeader i header = .ok (some h)) :
    o.isStatementStart h = true ∧ o.kind h = header := by
  unfold findHeader at hh
  split at hh
  · rename_i h' hline
    cases hh
    exact hw.start_of_headerOnLine hc hline
  · unfold enclosingHeader at hh
    split at hh
    · cases hh
    split at hh
    · exact start_of_headerAbove (Except.ok.inj hh)
    · cases hh

/-! ## From the decorators to the end -/

/-- The decorators of a definition lead down to its header. -/
theorem WellFormed.parts_headStart (hw : o.WellFormed) (hh : o.isStatementStart h = true) :
    o.isStatementStart (o.headStart h) = true ∧ o.Parts (o.headStart h) h := by
  unfold headStart
  cases hd : o.decoratorAbove h with
  | none => exact ⟨hh, .refl⟩
  | some d =>
    rcases hw.parts_of_topDecorator hh hd with hn | hp
    · cases hn
    · exact hp

end ReplSend.Outline
