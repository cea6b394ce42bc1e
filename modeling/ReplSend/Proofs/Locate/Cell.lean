import ReplSend.Locate.Cell
import ReplSend.Proofs.Locate.Unit

/-!
# Cells lie between boundaries

A line is governed by the last boundary at or above it (`Governs`), and nothing else decides what
cell it is in: the lines below that boundary, up to the next one or, below the last boundary, up to
the blank lines at the end of the text (`CellEnds`). So the cells of a text are apart, no line of
one is a boundary, and all lines that a boundary governs are in the same one (`cell_ofText`).
-/

namespace ReplSend.Outline

variable {o : Outline} {boundary beginning : Text → Bool} {b i k last next : Nat}

/-! ## Boundaries -/

/-- Line `b` is the last boundary at or above line `i`. -/
structure Governs (o : Outline) (boundary : Text → Bool) (b i : Nat) : Prop where
  le : b ≤ i
  holds : boundary (o.row b).text = true
  between : ∀ k, b < k → k ≤ i → boundary (o.row k).text = false

/-- Line `next` is the first boundary below line `b`. -/
structure NextBoundary (o : Outline) (boundary : Text → Bool) (b next : Nat) : Prop where
  lt : b < next
  inside : next < o.count
  holds : boundary (o.row next).text = true
  between : ∀ k, b < k → k < next → boundary (o.row k).text = false

theorem lastUpTo_boundary :
    o.lastUpTo (fun r => boundary r.text) i = some b ↔ o.Governs boundary b i := by
  rw [lastUpTo_eq_some]
  exact ⟨fun ⟨h1, h2, h3⟩ => ⟨h1, h2, h3⟩, fun ⟨h1, h2, h3⟩ => ⟨h1, h2, h3⟩⟩

theorem firstFrom_boundary :
    o.firstFrom (fun r => boundary r.text) (b + 1) = some next ↔
      o.NextBoundary boundary b next := by
  rw [firstFrom_eq_some]
  exact ⟨fun ⟨h1, h2, h3, h4⟩ => ⟨h1, h2, h3, h4⟩, fun ⟨h1, h2, h3, h4⟩ => ⟨h1, h2, h3, h4⟩⟩

/-- A boundary governs the lines from itself down to the next boundary. -/
theorem Governs.of_before (h : o.Governs boundary b i) (hbk : b ≤ k) (hk : k < o.count)
    (hnext : ∀ next, o.NextBoundary boundary b next → k < next) : o.Governs boundary b k := by
  refine ⟨hbk, h.holds, fun j hbj hjk => Bool.eq_false_iff.2 fun hj => ?_⟩
  cases hfirst : o.firstFrom (fun r => boundary r.text) (b + 1) with
  | none =>
    rw [firstFrom_eq_none.1 hfirst j hbj (by omega)] at hj
    cases hj
  | some next =>
    have hn := firstFrom_boundary.1 hfirst
    have hlt := hnext next hn
    rw [hn.between j hbj (by omega)] at hj
    cases hj

/-! ## The lines of a cell -/

/-- The cell below boundary `b` ends with line `last`, which is the boundary itself if the cell has
no line. -/
inductive CellEnds (o : Outline) (boundary : Text → Bool) (b : Nat) : Nat → Prop
  | above {next : Nat} (h : o.NextBoundary boundary b next) : CellEnds o boundary b (next - 1)
  /-- Only blank lines that stand alone are left out at the end of the text. -/
  | atEnd {last : Nat} (hnone : ∀ next, ¬ o.NextBoundary boundary b next) (hle : b ≤ last)
      (hlt : last < o.count) (hlast : last = b ∨ o.isBlank last = false)
      (hbelow : ∀ k, last < k → k < o.count → o.isBlank k = true) : CellEnds o boundary b last

theorem CellEnds.bounds (h : o.CellEnds boundary b last) : b ≤ last ∧ last < o.count := by
  cases h with
  | above h =>
    have h1 := h.lt
    have h2 := h.inside
    omega
  | atEnd _ hle hlt => exact ⟨hle, hlt⟩

/-- No line of a cell is a boundary. -/
theorem CellEnds.not_boundary (h : o.CellEnds boundary b last) (hbk : b < k) (hk : k ≤ last) :
    boundary (o.row k).text = false := by
  cases h with
  | above h => exact h.between k hbk (by omega)
  | atEnd hnone _ hlt =>
    have hfirst : o.firstFrom (fun r => boundary r.text) (b + 1) = none :=
      Option.eq_none_iff_forall_ne_some.2 fun next hn => hnone next (firstFrom_boundary.1 hn)
    exact firstFrom_eq_none.1 hfirst k hbk (by omega)

theorem lastNonBlank_bounds (hb : b < o.count) : b ≤ o.lastNonBlank (b + 1) ∧
    o.lastNonBlank (b + 1) < o.count ∧
    (o.lastNonBlank (b + 1) = b ∨ o.isBlank (o.lastNonBlank (b + 1)) = false) ∧
    ∀ k, o.lastNonBlank (b + 1) < k → k < o.count → o.isBlank k = true := by
  unfold lastNonBlank
  split
  · rename_i i hi
    obtain ⟨hlt, hnot, hblank⟩ := lastBefore_eq_some.1 hi
    rw [Nat.add_sub_cancel]
    refine ⟨Nat.le_max_right i b, by omega, ?_, fun k hk hkc => ?_⟩
    · rcases Nat.le_total i b with hib | hbi
      · exact .inl (Nat.max_eq_right hib)
      · rw [Nat.max_eq_left hbi]
        exact .inr (by simpa [isBlank] using hnot)
    · simpa [isBlank] using hblank k (by omega) hkc
  · rename_i hnone
    rw [Nat.add_sub_cancel]
    refine ⟨Nat.le_refl b, hb, .inl rfl, fun k _ hkc => ?_⟩
    simpa [isBlank] using lastBefore_eq_none.1 hnone k hkc

/-- The last line of the cell below boundary `b`. -/
def cellLast (o : Outline) (boundary : Text → Bool) (b : Nat) : Nat :=
  match o.firstFrom (fun r => boundary r.text) (b + 1) with
  | some next => next - 1
  | none => o.lastNonBlank (b + 1)

theorem cellEnds_cellLast (hb : b < o.count) : o.CellEnds boundary b (o.cellLast boundary b) := by
  unfold cellLast
  split
  · rename_i next hn
    exact .above (firstFrom_boundary.1 hn)
  · rename_i hnone
    obtain ⟨hle, hlt, hlast, hbelow⟩ := lastNonBlank_bounds hb
    refine .atEnd (fun next hn => ?_) hle hlt hlast hbelow
    cases hnone.symm.trans (firstFrom_boundary.2 hn)

/-! ## The block of a cell -/

/-- The block of the lines below line `b` down to line `last`; without such lines it is empty, at
the start of the line below `b` or at the end of the text. -/
def cellBlock (o : Outline) (b last : Nat) : Block :=
  if b < last then o.block .cell (b + 1) last
  else
    let offset := if b + 1 < o.count then o.lineStart (b + 1) else o.size
    ⟨.cell, offset, offset, b + 2, b + 1⟩

theorem hasLine_cellBlock : (o.cellBlock b last).HasLine k ↔ b < k ∧ k ≤ last := by
  unfold cellBlock
  split
  · exact hasLine_block
  · simp only [Block.HasLine]
    omega

theorem textIn_cellBlock {t : Text} (hb : b ≤ last) (hlast : last < (ofText t).count) :
    ((ofText t).cellBlock b last).textIn t =
      Text.unlines ((t.lines.drop (b + 1)).take (last - b)) := by
  unfold cellBlock
  split
  · rw [textIn_block (by omega) hlast, Nat.add_sub_add_right]
  · rw [show last - b = 0 by omega, List.take_zero]
    simp [Block.textIn, Text.slice, Text.unlines]

/-! ## Cells -/

theorem cell_of_governs (h : o.Governs boundary b i) : o.cell boundary beginning i =
    if beginning (o.row b).text then .ok (o.cellBlock b (o.cellLast boundary b))
    else .error .noCell := by
  unfold cell
  rw [lastUpTo_boundary.2 h]
  dsimp only
  cases beginning (o.row b).text with
  | false => rfl
  | true =>
    rw [if_neg (by decide), if_pos rfl, cellBlock]
    show (if o.cellLast boundary b < b + 1 then _ else _) = _
    rcases Nat.lt_or_ge b (o.cellLast boundary b) with hlt | hge
    · rw [if_neg (by omega), if_pos hlt]
      rfl
    · have hempty : ¬ b < o.cellLast boundary b := by omega
      rw [if_pos (by omega), if_neg hempty]

theorem cell_of_not_governs (h : ∀ b, ¬ o.Governs boundary b i) :
    o.cell boundary beginning i = .error .noCell := by
  have hnone : o.lastUpTo (fun r => boundary r.text) i = none :=
    Option.eq_none_iff_forall_ne_some.2 fun b hb => h b (lastUpTo_boundary.1 hb)
  rw [cell, hnone]

/-- There is a cell at an offset unless no boundary governs its line, or one that begins no cell.
It is made of the lines below the boundary down to where `CellEnds` says, none of them is a
boundary, and it is the cell at every offset down to the next boundary. -/
theorem cell_ofText (boundary beginning : Text → Bool) (t : Text) (p : Int) :
    ((∃ f, (ofText t).cell boundary beginning ((ofText t).lineAt p) = .error f) ↔
      ∀ b, (ofText t).Governs boundary b ((ofText t).lineAt p) →
        beginning ((ofText t).row b).text = false) ∧
    (∀ f, (ofText t).cell boundary beginning ((ofText t).lineAt p) = .error f → f = .noCell) ∧
    ∀ b, (ofText t).Governs boundary b ((ofText t).lineAt p) →
      beginning ((ofText t).row b).text = true →
      ∃ last blk, (ofText t).CellEnds boundary b last ∧ blk = (ofText t).cellBlock b last ∧
        (ofText t).cell boundary beginning ((ofText t).lineAt p) = .ok blk ∧
        blk.textIn t = Text.unlines ((t.lines.drop (b + 1)).take (last - b)) ∧
        (∀ k, blk.HasLine k → boundary ((ofText t).row k).text = false) ∧
        ∀ q, b ≤ (ofText t).lineAt q →
          (∀ next, (ofText t).NextBoundary boundary b next → (ofText t).lineAt q < next) →
          (ofText t).cell boundary beginning ((ofText t).lineAt q) = .ok blk := by
  have hcount := lineAt_lt_count t p
  generalize hi : (ofText t).lineAt p = i at hcount
  refine ⟨?_, fun f hf => ?_, fun b hb hbegins => ?_⟩
  · constructor
    · rintro ⟨f, hf⟩ b hb
      rw [cell_of_governs hb] at hf
      refine Bool.eq_false_iff.2 fun hbegins => ?_
      rw [if_pos hbegins] at hf
      cases hf
    · intro h
      by_cases hgoverned : ∃ b, (ofText t).Governs boundary b i
      · obtain ⟨b, hb⟩ := hgoverned
        exact ⟨.noCell, by rw [cell_of_governs hb, h b hb]; rfl⟩
      · exact ⟨.noCell, cell_of_not_governs fun b hb => hgoverned ⟨b, hb⟩⟩
  · by_cases hgoverned : ∃ b, (ofText t).Governs boundary b i
    · obtain ⟨b, hb⟩ := hgoverned
      rw [cell_of_governs hb] at hf
      split at hf
      · cases hf
      · exact (Except.error.inj hf).symm
    · rw [cell_of_not_governs fun b hb => hgoverned ⟨b, hb⟩] at hf
      exact (Except.error.inj hf).symm
  · have hle := hb.le
    have hends : (ofText t).CellEnds boundary b ((ofText t).cellLast boundary b) :=
      cellEnds_cellLast (by omega)
    have hcell : ∀ k, (ofText t).Governs boundary b k → (ofText t).cell boundary beginning k =
        .ok ((ofText t).cellBlock b ((ofText t).cellLast boundary b)) := fun k hk => by
      rw [cell_of_governs hk, if_pos hbegins]
    refine ⟨_, _, hends, rfl, hcell i hb, textIn_cellBlock hends.bounds.1 hends.bounds.2,
      fun k hk => ?_, fun q hbq hnext => ?_⟩
    · obtain ⟨hbk, hkl⟩ := hasLine_cellBlock.1 hk
      exact hends.not_boundary hbk hkl
    · exact hcell _ (hb.of_before hbq (lineAt_lt_count t q) hnext)

/-- A blank line above a boundary belongs to the cell, one at the end of the text does not. -/
example :
    let cell := (ofText "## a\nx = 1\n\n## b\ny = 2\n\n").cell (("##" : Text).isPrefixOf ·)
      (("##" : Text).isPrefixOf ·)
    (cell 1).toOption = some ⟨.cell, 5, 11, 2, 3⟩ ∧
      (cell 3).toOption = some ⟨.cell, 17, 22, 5, 5⟩ := by
  decide +kernel

end ReplSend.Outline
