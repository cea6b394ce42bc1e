import ReplSend.Proofs.Dedenting
import ReplSend.Proofs.Locate.Group

/-!
# What locating answers

Whatever the text and the cursor, the search for a unit of statements ends. If it fails, the fault
is in the text, and no limit of a walk was met (`Answering`). If it does not, the unit is made of
whole lines and cuts no statement line (`Uncut`).
-/

namespace ReplSend

namespace Outline

/-- Locating ends, and fails only for a fault in the text. -/
structure Answering (o : Outline) : Prop where
  /-- The climb to the start of a statement does not meet its limit: with a wider one it answers
  the same. -/
  climbs : ∀ i limit, o.isCode i = true → o.count < limit →
    o.settle i limit (o.statementStart i) = o.resolveStart i
  /-- Neither does the walk to the end of a statement, and it always finds one. -/
  walks : ∀ s limit, o.count < limit →
    ∃ e, o.closing s limit s = .ok e ∧ o.statementEnd s = .ok e
  statement : ∀ (p : Int) (f : LocateFault), o.statement (o.lineAt p) = .error f →
    f = .noStatement ∧ o.nextCode (o.lineAt p) = none ∨ o.Astray f
  topStatement : ∀ (p : Int) (f : LocateFault), o.topStatement (o.lineAt p) = .error f →
    f = .noStatement ∧ o.nextCode (o.lineAt p) = none ∨ o.Astray f
  /-- Where there is no definition, none is found: that is no fault. -/
  definition : ∀ (p : Int) (header : LineKind) (f : LocateFault),
    o.definition (o.lineAt p) header = .error f → o.Astray f
  group : ∀ (p : Int) (f : LocateFault), o.group (o.lineAt p) = .error f →
    f = .noStatement ∧ o.nextCode (o.lineAt p) = none ∨ o.Astray f

theorem WellFormed.answering {o : Outline} (hw : o.WellFormed) : o.Answering := by
  constructor
  · intro i limit hi hl
    have hlt := lt_count_of_start (hw.isStatementStart_statementStart hi)
    apply settle_of_lt
    · omega
    · omega
  · intro s limit hl
    obtain ⟨e, hclosing, he⟩ := o.exists_closing s (show o.count - s < limit by omega)
    exact ⟨e, hclosing, statementEnd_eq_ok.2 he⟩
  · intro p f hf
    exact hw.fault_of_statement hf
  · intro p f hf
    exact hw.fault_of_topStatement hf
  · intro p header f hf
    exact hw.astray_of_definition hf
  · intro p f hf
    exact hw.fault_of_group hf

/-- Locating in any text ends, and fails only for a fault in the text. -/
theorem answering_ofText (t : Text) : (ofText t).Answering := (wellFormed_ofText t).answering

/-- The clause is less indented than all that is above it. -/
example : (ofText " x\nelse: y").statement 1 = .error (.noOpener 2) := by decide +kernel

example : (ofText " x\n y").group 1 = .error (.unenclosed 1) := by decide +kernel

end Outline

/-- The block is made of whole lines of the text, from one that starts a statement to one that no
line below continues. -/
structure Block.Uncut (blk : Block) (t : Text) : Prop where
  first : 0 < blk.firstLine
  ordered : blk.firstLine ≤ blk.lastLine
  last : blk.lastLine ≤ (Outline.ofText t).count
  /-- The block starts on a code line that does not continue the line above it. -/
  start : (Outline.ofText t).isStatementStart (blk.firstLine - 1) = true
  /-- The line below the block, if any, does not continue it. -/
  closed : blk.lastLine < (Outline.ofText t).count →
    (Outline.ofText t).continues blk.lastLine = false
  text : blk.textIn t = Text.unlines
    ((t.lines.drop (blk.firstLine - 1)).take (blk.lastLine + 1 - blk.firstLine))

theorem Outline.Whole.uncut {t : Text} {s e : Nat} {kind : BlockKind}
    (h : (Outline.ofText t).Whole s e) : ((Outline.ofText t).block kind s e).Uncut t := by
  have he := Outline.lt_count_of_isCode h.last
  have hse := h.le
  constructor
  · show 0 < s + 1
    omega
  · show s + 1 ≤ e + 1
    omega
  · show e + 1 ≤ (Outline.ofText t).count
    omega
  · exact h.start
  · intro _
    exact h.closed
  · rw [Outline.textIn_block hse he]
    show _ = Text.unlines ((t.lines.drop s).take (e + 1 + 1 - (s + 1)))
    rw [Nat.add_sub_add_right]

/-- A located statement, unindented statement, definition or group is made of whole lines. -/
theorem uncut_of_locates {b : Buffer} {selection : Selection} {blk : Block}
    (h : b.Locates selection blk) : blk.Uncut b.text := by
  obtain ⟨s, e, kind, hwhole, rfl⟩ := h.whole
  exact hwhole.uncut

/-- The method ends in a string with text at the margin. -/
theorem uncut_of_locates_string : quoting.Locates .defun ⟨.defun, 9, 53, 2, 5⟩ ∧
    Block.Uncut ⟨.defun, 9, 53, 2, 5⟩ quoting.text := by
  have hb : quoting.Locates .defun ⟨.defun, 9, 53, 2, 5⟩ := by decide +kernel
  exact ⟨hb, uncut_of_locates hb⟩

end ReplSend
