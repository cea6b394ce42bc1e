import ReplSend.Locate.Group
import ReplSend.Proofs.Locate.Definition
import ReplSend.Proofs.Text.Lines

/-!
# Units are whole statement lines

A statement, an unindented statement, a definition and a group, wherever they are located from,
begin on a line that begins a statement and end above a line that continues none (`Whole`). Their
text is that of their lines (`lines_textIn_block`). Nothing in a statement or a definition stands
left of its first line but lines that continue the ones above (`Aligned`).
-/

namespace ReplSend.Outline

variable {o : Outline} {blk : Block} {c e h i j r s stop : Nat}

/-- The lines `s` to `e` are whole statement lines. -/
structure Whole (o : Outline) (s e : Nat) : Prop where
  start : o.isStatementStart s = true
  le : s ≤ e
  last : o.isCode e = true
  closed : o.continues (e + 1) = false

/-- No statement in the lines `s` to `e` is less indented than the first. -/
def Aligned (o : Outline) (s e : Nat) : Prop :=
  ∀ k, s ≤ k → k ≤ e → o.isStatementStart k = true → o.indent s ≤ o.indent k

theorem WellFormed.whole_of_parts (hw : o.WellFormed) (hs : o.isStatementStart s = true)
    (hsc : o.Parts s c) : o.Whole s (o.blockStop c) := by
  have hc := (hw.parts_lower hsc hs).1
  have h1 := o.le_blockStop_self s
  have h2 := hw.blockStop_le_of_parts hsc hs
  exact ⟨hs, by omega, isCode_blockStop hc, not_continues_after_blockStop hc⟩

theorem WellFormed.aligned_of_parts (hw : o.WellFormed) (hs : o.isStatementStart s = true)
    (hsc : o.Parts s c) : o.Aligned s (o.blockStop c) := by
  intro k hsk hkc hk
  rcases hw.indent_of_parts hs hsc hk hsk hkc with hlt | hp
  · exact Nat.le_of_lt hlt
  · exact Nat.le_of_eq (hw.parts_lower hp hs).2.2.symm

theorem WellFormed.whole_of_ends (hw : o.WellFormed) (hs : o.isStatementStart s = true)
    (he : o.Ends s e) : o.Whole s e := by
  obtain ⟨c, hsc, -, rfl⟩ := he
  exact hw.whole_of_parts hs hsc

/-! ## Located units -/

theorem WellFormed.whole_of_statement (hw : o.WellFormed) (hb : o.statement i = .ok blk) :
    ∃ s e, o.Whole s e ∧ o.Aligned s e ∧ blk = o.block .statement s e := by
  obtain ⟨j, s, e, hl, -, rfl⟩ := hw.located_of_statement hb
  obtain ⟨c, hsc, -, rfl⟩ := hl.ends
  exact ⟨s, _, hw.whole_of_parts hl.start hsc, hw.aligned_of_parts hl.start hsc, rfl⟩

theorem WellFormed.whole_of_definition (hw : o.WellFormed) {header : LineKind}
    (hh : header.isHeader = true) (hb : o.definition i header = .ok (some blk)) :
    ∃ s e kind, o.Whole s e ∧ o.Aligned s e ∧ blk = o.block kind s e := by
  obtain ⟨h, hfound, rfl⟩ := definition_eq_some.1 hb
  have hcode : header.isCode = true := by cases header <;> first | rfl | cases hh
  obtain ⟨hstart, hparts⟩ := hw.parts_headStart (hw.start_of_findHeader hcode hfound).1
  exact ⟨_, _, _, hw.whole_of_parts hstart hparts, hw.aligned_of_parts hstart hparts, rfl⟩

theorem WellFormed.whole_of_topBounds (hw : o.WellFormed) (hj : o.isCode j = true)
    (hb : o.topBounds j = .ok (r, e)) : o.Whole r e ∧ r ≤ j ∧ j ≤ e := by
  obtain ⟨s, hs, hr, he⟩ := topBounds_eq_ok.1 hb
  have hstart := (hw.parts_of_resolveStart hj hs).1
  have htop := hw.start_of_topStartFrom hstart hr
  have hl : o.LocatedTop j j s r e := ⟨nextCode_self hj, hs, htop, indent_of_topStartFrom hr, he,
    topStartFrom_le hr, hw.le_of_topStartFrom hstart hr he⟩
  have hholds : (o.block .topStatement r e).HasLine j := hw.hasLine_top hl
  exact ⟨hw.whole_of_ends htop he, hasLine_block.1 hholds⟩

theorem WellFormed.whole_of_topStatement (hw : o.WellFormed) (hb : o.topStatement i = .ok blk) :
    ∃ s e, o.Whole s e ∧ blk = o.block .topStatement s e := by
  obtain ⟨j, s, r, e, hl, rfl⟩ := hw.located_of_topStatement hb
  exact ⟨r, e, hw.whole_of_ends hl.start hl.ends, rfl⟩

/-- A group ends where one of its statements ends. -/
theorem WellFormed.stop_of_groupStop (hw : o.WellFormed) {limit : Nat} (hc : o.isCode stop = true)
    (hcont : o.continues (stop + 1) = false) (he : o.groupStop limit stop = .ok e) :
    stop ≤ e ∧ o.isCode e = true ∧ o.continues (e + 1) = false := by
  fun_induction groupStop o limit stop with
  | case1 => cases he
  | case2 =>
    cases he
    exact ⟨Nat.le_refl _, hc, hcont⟩
  | case3 => cases he
  | case4 limit stop j hj s e' hb ih =>
    have hnext : o.nextCode (stop + 1) = some j := by
      unfold joinedBelow at hj
      split at hj
      · exact (Option.filter_eq_some_iff.1 hj).1
      · cases hj
    obtain ⟨hle, hcode, -⟩ := nextCode_eq_some.1 hnext
    obtain ⟨hwhole, -, hje⟩ := hw.whole_of_topBounds hcode hb
    obtain ⟨h1, h2, h3⟩ := ih hwhole.last hwhole.closed he
    exact ⟨by omega, h2, h3⟩

/-- A group starts where one of its statements starts. -/
theorem WellFormed.start_of_groupStart (hw : o.WellFormed) (hs : o.isStatementStart s = true)
    (hr : o.groupStart s = .ok r) : r ≤ s ∧ o.isStatementStart r = true := by
  fun_induction groupStart o s with
  | case1 =>
    cases hr
    exact ⟨Nat.le_refl _, hs⟩
  | case2 s j hj s' e hb ih =>
    have hup : o.lastBefore Row.isCode s = some j := by
      unfold joinedAbove at hj
      split at hj
      · exact (Option.filter_eq_some_iff.1 hj).1
      · cases hj
    obtain ⟨hlt, hcode, -⟩ := lastBefore_eq_some.1 hup
    obtain ⟨hwhole, hle, -⟩ := hw.whole_of_topBounds hcode hb
    obtain ⟨h1, h2⟩ := ih hwhole.start hr
    exact ⟨by omega, h2⟩
  | case3 => cases hr

theorem WellFormed.whole_of_group (hw : o.WellFormed) (hb : o.group i = .ok blk) :
    ∃ s e, o.Whole s e ∧ blk = o.block .group s e := by
  simp only [group, bind_eq_ok, codeLine_eq_ok] at hb
  obtain ⟨j, hj, ⟨s, e⟩, hse, last, hlast, first, hfirst, hblk⟩ := hb
  cases hblk
  obtain ⟨hwhole, -, -⟩ := hw.whole_of_topBounds (nextCode_eq_some.1 hj).2.1 hse
  obtain ⟨h1, h2, h3⟩ := hw.stop_of_groupStop hwhole.last hwhole.closed hlast
  obtain ⟨h4, h5⟩ := hw.start_of_groupStart hwhole.start hfirst
  have hle := hwhole.le
  exact ⟨first, last, ⟨h5, by omega, h2, h3⟩, rfl⟩

/-! ## The text of a unit -/

theorem textIn_block {t : Text} {kind : BlockKind} (hse : s ≤ e) (he : e < (ofText t).count) :
    ((ofText t).block kind s e).textIn t = Text.unlines ((t.lines.drop s).take (e + 1 - s)) := by
  rw [count_ofText] at he
  obtain ⟨l, hl⟩ : ∃ l, t.lines[e]? = some l := ⟨_, List.getElem?_eq_getElem he⟩
  obtain ⟨m, hm⟩ : ∃ m, t.lines[s]? = some m := ⟨_, List.getElem?_eq_getElem (by omega)⟩
  have hinside : (ofText t).lineStop e ≤ t.length :=
    (wellFormed_ofText t).inside e (by rwa [count_ofText])
  have htake : t.take ((ofText t).lineStop e) = Text.unlines (t.lines.take (e + 1)) := by
    rw [lineStop_of_line hl, ← Text.take_unlines hl, t.unlines_lines]
  have hsame : (t.lines.take (e + 1)).take s = t.lines.take s := by
    rw [List.take_take, Nat.min_eq_left (by omega)]
  rw [Block.textIn, block, Text.slice_nonneg _ hinside, htake, lineStart_of_line hm, ← hsame,
    Text.drop_unlines (by rw [List.length_take]; omega), List.drop_take]

/-- The lines of a unit's text are its lines. -/
theorem lines_textIn_block {t : Text} {kind : BlockKind} (hse : s ≤ e)
    (he : e < (ofText t).count) :
    Text.lines (((ofText t).block kind s e).textIn t) = (t.lines.drop s).take (e + 1 - s) := by
  rw [textIn_block hse he]
  refine Text.lines_unlines ?_ fun l hl => ?_
  · rw [count_ofText] at he
    exact List.ne_nil_of_length_pos (by rw [List.length_take, List.length_drop]; omega)
  · exact Text.newline_not_mem_of_mem_lines (List.mem_of_mem_drop (List.mem_of_mem_take hl))

end ReplSend.Outline
