import ReplSend.Proofs.Dedenting
import ReplSend.Proofs.Locate.Enclosing
import ReplSend.Proofs.Locate.Group
import ReplSend.Proofs.Sending
import ReplSend.Proofs.Waiting

/-!
# Stepping on leaves the unit

After a unit the cursor goes on to the next code line, or to the end of the text if there is none.
A unit that is located from a code line reaches down to that line (`reaches_of_locates`), and none
is located where no code line follows (`not_locates_of_none`). So the cursor is below the unit
and the unit is not located again, unless it ends with the last line of the text: then the cursor
stays on that line (`leaves_of_locates`).
-/

namespace ReplSend

namespace Outline

variable {o : Outline} {blk : Block} {header : LineKind} {e h i j : Nat}

/-! ## How far down a unit reaches -/

theorem le_of_underDecorators (hh : o.underDecorators i = some h) : i ≤ h := by
  fun_induction underDecorators o i with
  | case1 => cases hh
  | case2 i _ j hj _ ih =>
    have := ih hh
    have := (nextCode_eq_some.1 hj).1
    have := o.le_statementStop i
    omega
  | case3 => cases hh
  | case4 =>
    cases hh
    exact Nat.le_refl _

theorem le_of_headerOnLine (hh : o.headerOnLine i header = some h) : i ≤ h := by
  unfold headerOnLine at hh
  split at hh
  · cases hh
  split at hh
  · cases hh
    exact Nat.le_refl _
  · exact le_of_underDecorators (Option.filter_eq_some_iff.1 hh).1

theorem WellFormed.reaches_of_findHeader (hw : o.WellFormed) (hi : o.isCode i = true)
    (hf : o.findHeader i header = .ok (some h)) : i ≤ o.blockStop h := by
  unfold findHeader at hf
  split at hf
  · rename_i h' hline
    cases hf
    have := le_of_headerOnLine hline
    have := o.le_blockStop_self h
    omega
  · exact ((hw.enclosingHeader_eq_some hi hf).1 rfl).1.reaches

/-- No definition is found where no code line follows. -/
theorem WellFormed.findHeader_of_none (hw : o.WellFormed) (hc : header.isCode = true)
    (hi : o.nextCode i = none) : o.findHeader i header ≠ .ok (some h) := by
  intro hf
  unfold findHeader at hf
  split at hf
  · rename_i h' hline
    cases hf
    have hcode := isCode_of_start (hw.start_of_headerOnLine hc hline).1
    have hnone := firstFrom_eq_none.1 hi h (le_of_headerOnLine hline) (lt_count_of_isCode hcode)
    exact absurd hcode (Bool.eq_false_iff.1 hnone)
  · rw [enclosingHeader, hi] at hf
    cases hf

/-! ## The end of the text -/

/-- The end of the text is on its last line. -/
theorem WellFormed.lineAt_size (hw : o.WellFormed) : o.lineAt o.size = o.count - 1 := by
  refine Nat.le_antisymm (o.lineAt_le o.size) ?_
  rcases Nat.eq_zero_or_pos (o.count - 1) with h0 | h0
  · rw [h0]
    exact Nat.zero_le _
  · have hinside := hw.inside (o.count - 1) (by omega)
    have hends := o.lineStart_le_lineStop (o.count - 1)
    exact (hw.le_lineAt_iff h0 (by omega) o.size).2 (by omega)

theorem WellFormed.nextStatementStart_lt (hw : o.WellFormed) (hb : blk.lastLine < o.count) :
    blk.lastLine ≤ o.lineAt (o.nextStatementStart blk) ∧
      (o.isCode (o.lineAt (o.nextStatementStart blk)) = true ∨
        o.nextCode (o.lineAt (o.nextStatementStart blk)) = none) := by
  unfold nextStatementStart
  cases hj : o.nextCode blk.lastLine with
  | some j =>
    obtain ⟨hle, hcode, -⟩ := nextCode_eq_some.1 hj
    rw [hw.lineAt_lineStart (lt_count_of_isCode hcode)]
    exact ⟨hle, .inl hcode⟩
  | none =>
    rw [hw.lineAt_size]
    refine ⟨by omega, .inr (firstFrom_eq_none.2 fun k hk hlt => ?_)⟩
    exact firstFrom_eq_none.1 hj k (by omega) hlt

theorem nextStatementStart_eq_size (hb : blk.lastLine = o.count) :
    o.nextStatementStart blk = o.size := by
  have hnone : o.nextCode blk.lastLine = none := firstFrom_eq_none.2 fun k hk hlt => by omega
  rw [nextStatementStart, hnone]

end Outline

/-! ## Units, one after the other -/

namespace Buffer

variable {b : Buffer} {blk : Block} {selection : Selection}

/-- A unit that is located from a code line reaches down to that line. -/
theorem Locates.reaches (h : b.Locates selection blk)
    (hcode : b.outline.isCode (b.outline.lineAt b.point) = true) :
    b.currentLine ≤ blk.lastLine := by
  have hw : b.outline.WellFormed := Outline.wellFormed_ofText b.text
  have hself := Outline.nextCode_self hcode
  have hheader {header : LineKind}
      (hb : b.outline.definition (b.outline.lineAt b.point) header = .ok (some blk)) :
      b.currentLine ≤ blk.lastLine := by
    obtain ⟨k, hk, rfl⟩ := Outline.definition_eq_some.1 hb
    exact Nat.succ_le_succ (hw.reaches_of_findHeader hcode hk)
  have htop {top : Block}
      (hb : b.outline.topStatement (b.outline.lineAt b.point) = .ok top) :
      top.HasLine (b.outline.lineAt b.point) := by
    obtain ⟨j, hj, hline⟩ := hw.laminar.topStatement_holds _ _ hb
    obtain rfl := Option.some.inj (hself.symm.trans hj)
    exact hline
  cases selection with
  | statement =>
    obtain ⟨j, hj, hline⟩ := hw.laminar.statement_holds _ _ h
    obtain rfl := Option.some.inj (hself.symm.trans hj)
    exact hline.2
  | topStatement => exact (htop h).2
  | defun => exact hheader h
  | defclass => exact hheader h
  | group =>
    obtain ⟨top, hb, hwithin⟩ := hw.grouped.holds _ _ h
    exact (hwithin _ (htop hb)).2
  | cell => cases h
  | region => cases h
  | buffer => cases h

/-- No unit is located where no code line follows. -/
theorem not_locates_of_none (hnone : b.outline.nextCode (b.outline.lineAt b.point) = none) :
    ¬ b.Locates selection blk := by
  have hw : b.outline.WellFormed := Outline.wellFormed_ofText b.text
  have hheader {header : LineKind} (hc : header.isCode = true) :
      b.outline.definition (b.outline.lineAt b.point) header ≠ .ok (some blk) := by
    intro hb
    obtain ⟨k, hk, -⟩ := Outline.definition_eq_some.1 hb
    exact hw.findHeader_of_none hc hnone hk
  have htop {top : Block} :
      b.outline.topStatement (b.outline.lineAt b.point) ≠ .ok top := by
    intro hb
    obtain ⟨j, hj, -⟩ := hw.laminar.topStatement_holds _ _ hb
    cases hnone.symm.trans hj
  intro h
  cases selection with
  | statement =>
    obtain ⟨j, hj, -⟩ := hw.laminar.statement_holds _ _ h
    cases hnone.symm.trans hj
  | topStatement => exact htop h
  | defun => exact hheader rfl h
  | defclass => exact hheader rfl h
  | group =>
    obtain ⟨top, hb, -⟩ := hw.grouped.holds _ _ h
    exact htop hb
  | cell => cases h
  | region => cases h
  | buffer => cases h

end Buffer

/-! ## What a step sends -/

section

variable {τ : Type} {w w' : World τ} {b b' : Buffer} {blk blk' : Block} {selection : Selection}
  {t : Text} {o : Outcome}

theorem World.block_of_fragment (h : b.Locates selection blk)
    (hf : w.fragment b selection = .ok (blk', t)) : blk = blk' := by
  rw [fragment_of_locates h] at hf
  split at hf
  · rcases hd : dedented (blk.textIn b.text) with f | u
    · rw [hd] at hf
      cases hf
    · rw [hd] at hf
      exact (Prod.mk.inj (Except.ok.inj hf)).1
  · exact (Prod.mk.inj (Except.ok.inj hf)).1

/-- What is sent for a selection that stands for units of statements is made of a located unit. -/
theorem World.locates_of_fragment (hunits : b'.Locates selection blk')
    (hf : w.fragment b selection = .ok (blk, t)) : b.Locates selection blk := by
  suffices hlocates : ∃ found, b.Locates selection found by
    obtain ⟨found, hfound⟩ := hlocates
    exact block_of_fragment hfound hf ▸ hfound
  cases selection with
  | statement =>
    cases hb : b.outline.statement (b.outline.lineAt b.point) with
    | ok found => exact ⟨found, hb⟩
    | error f => rw [fragment, hb] at hf; cases hf
  | topStatement =>
    cases hb : b.outline.topStatement (b.outline.lineAt b.point) with
    | ok found => exact ⟨found, hb⟩
    | error f => rw [fragment, hb] at hf; cases hf
  | defun =>
    rcases hb : b.outline.definition (b.outline.lineAt b.point) .defHeader with f | _ | found
    · rw [fragment, hb] at hf; cases hf
    · rw [fragment, hb] at hf; cases hf
    · exact ⟨found, hb⟩
  | defclass =>
    rcases hb : b.outline.definition (b.outline.lineAt b.point) .classHeader with f | _ | found
    · rw [fragment, hb] at hf; cases hf
    · rw [fragment, hb] at hf; cases hf
    · exact ⟨found, hb⟩
  | group =>
    cases hb : b.outline.group (b.outline.lineAt b.point) with
    | ok found => exact ⟨found, hb⟩
    | error f => rw [fragment, hb] at hf; cases hf
  | cell => cases hunits
  | region => cases hunits
  | buffer => cases hunits

variable [Clock τ]

theorem Act.point_of_sendBlock {step keepMain : Bool}
    (h : sendBlock b blk t step keepMain w = (.ok o, w')) :
    o.point = if step then (b.outline.nextStatementStart blk : Int) else b.point := by
  obtain ⟨n, u, -, h⟩ := bind_eq_ok h
  obtain ⟨c, v, -, h⟩ := bind_eq_ok h
  cases h
  rfl

/-- A step goes on behind the unit. -/
theorem Act.point_of_send (hlocates : b.Locates selection blk)
    (h : send b selection true w = (.ok o, w')) : o.point = b.outline.nextStatementStart blk := by
  obtain ⟨-, -, -, -, hf, -⟩ := send_eq_ok h
  obtain rfl := World.block_of_fragment hlocates hf
  rw [send_apply, hf] at h
  cases selection with
  | buffer => cases hlocates
  | _ => exact point_of_sendBlock h

end

/-- The buffer with the cursor behind a block, at the next code line or the end of the text. -/
def Buffer.stepped (b : Buffer) (blk : Block) : Buffer :=
  { b with point := b.outline.nextStatementStart blk }

/-- After a located unit the cursor is below it, and the unit is not located again, nor sent again
by the next step; but if the unit ends with the last line of the text, the cursor is at the end of
the text, on the unit's last line. -/
theorem leaves_of_locates {τ : Type} [Clock τ] {b : Buffer} {blk : Block} {selection : Selection}
    (h : b.Locates selection blk) :
    blk.lastLine ≤ b.outline.count ∧
    (blk.lastLine < b.outline.count → blk.lastLine < (b.stepped blk).currentLine ∧
      ¬ (b.stepped blk).Locates selection blk) ∧
    (blk.lastLine = b.outline.count → (b.stepped blk).point = b.text.length ∧
      (b.stepped blk).currentLine = blk.lastLine) ∧
    ∀ (w v w' v' : World τ) (o o' : Outcome), Act.send b selection true w = (.ok o, w') →
      o.block = blk ∧ { b with point := o.point } = b.stepped blk ∧
      (blk.lastLine < b.outline.count →
        Act.send { b with point := o.point } selection true v = (.ok o', v') →
        o'.block ≠ blk) := by
  have hw : b.outline.WellFormed := Outline.wellFormed_ofText b.text
  obtain ⟨s, e, kind, hwhole, hblk⟩ := h.whole
  have hlast : blk.lastLine ≤ b.outline.count := by
    have := Outline.lt_count_of_isCode hwhole.last
    rw [hblk]
    exact this
  have hleaves (hlt : blk.lastLine < b.outline.count) :
      blk.lastLine < (b.stepped blk).currentLine ∧ ¬ (b.stepped blk).Locates selection blk := by
    obtain ⟨hbelow, hnext⟩ := hw.nextStatementStart_lt hlt
    have hline : blk.lastLine < (b.stepped blk).currentLine := Nat.lt_succ_of_le hbelow
    refine ⟨hline, fun hagain => ?_⟩
    rcases hnext with hcode | hnone
    · have := hagain.reaches hcode
      omega
    · exact Buffer.not_locates_of_none hnone hagain
  refine ⟨hlast, hleaves, fun heq => ?_, fun w v w' v' o o' ho => ?_⟩
  · have hsize := Outline.nextStatementStart_eq_size heq
    refine ⟨congrArg Nat.cast hsize, ?_⟩
    have hline : (b.stepped blk).currentLine = b.outline.count - 1 + 1 := by
      rw [← hw.lineAt_size, ← hsize]
      rfl
    have hpos : 0 < blk.lastLine := by rw [hblk]; exact Nat.succ_pos e
    omega
  · obtain ⟨-, -, -, -, hf, -⟩ := Act.send_eq_ok ho
    have hbuffer : { b with point := o.point } = b.stepped blk := by
      rw [Act.point_of_send h ho]
      rfl
    refine ⟨(World.block_of_fragment h hf).symm, hbuffer, fun hlt ho' hsame => (hleaves hlt).2 ?_⟩
    obtain ⟨-, -, -, -, hf', -⟩ := Act.send_eq_ok ho'
    rw [← hbuffer, ← hsame]
    exact World.locates_of_fragment h hf'

/-- A conditional, then a blank line and a comment above the next statement. -/
def branching : Buffer := ⟨"if x:\n    y\n\n# c\nz = 1", 0, "a.py", none, "utf-8"⟩

theorem leaves_of_locates_branch : branching.Locates .statement ⟨.statement, 0, 11, 1, 2⟩ ∧
    2 < (branching.stepped ⟨.statement, 0, 11, 1, 2⟩).currentLine ∧
      ¬ (branching.stepped ⟨.statement, 0, 11, 1, 2⟩).Locates .statement
        ⟨.statement, 0, 11, 1, 2⟩ := by
  have hb : branching.Locates .statement ⟨.statement, 0, 11, 1, 2⟩ := by decide +kernel
  exact ⟨hb, (leaves_of_locates (τ := Float) hb).2.1 (by decide +kernel)⟩

/-- A statement with no line below. -/
def single : Buffer := ⟨"x = 1", 0, "a.py", none, "utf-8"⟩

/-- The step ends on the statement's own line, where the statement is located again. -/
theorem not_leaves_single : ∃ blk, single.Locates .statement blk ∧
    (∃ j, single.outline.nextCode (single.outline.lineAt single.point) = some j ∧
      blk.HasLine j) ∧
    ¬ blk.lastLine < (single.stepped blk).currentLine ∧
    (single.stepped blk).Locates .statement blk := by
  have hb : single.Locates .statement ⟨.statement, 0, 5, 1, 1⟩ ∧
      single.outline.nextCode (single.outline.lineAt single.point) = some 0 ∧
      ¬ 1 < (single.stepped ⟨.statement, 0, 5, 1, 1⟩).currentLine ∧
      (single.stepped ⟨.statement, 0, 5, 1, 1⟩).Locates .statement ⟨.statement, 0, 5, 1, 1⟩ := by
    decide +kernel
  exact ⟨_, hb.1, ⟨0, hb.2.1, by decide⟩, hb.2.2⟩

end ReplSend
