import ReplSend.Buffer
import ReplSend.Proofs.Locate.Unit

/-!
# Offsets and lines

The lines of a text leave nothing out: each starts just behind the newline that ends the one above
(`lineStart_succ`), and the last one ends with the text (`lineStop_of_last`). So an offset within
the text lies between the ends of one line and of no other, and the count of the lines that start
no later finds that line (`lineAt_eq_iff`). `Charted` is what follows for a buffer: its lines, cut
out by their offsets, make up its text, and a line that is gone to is the line of the cursor.
-/

namespace ReplSend

namespace Outline

variable {o : Outline} {t : Text} {i j k : Nat} {p q : Int}

/-! ## Lines one below the other -/

theorem texts_ofText (t : Text) : (ofText t).rows.toList.map Row.text = t.lines := by
  refine List.ext_getElem? fun i => ?_
  simp only [ofText, List.getElem?_map, Row.ofLines_getElem?, Option.map_map]
  exact congrFun Option.map_id t.lines[i]?

theorem lineStart_succ (hi : i + 1 < (ofText t).count) :
    (ofText t).lineStart (i + 1) = (ofText t).lineStop i + 1 := by
  rw [count_ofText] at hi
  have hl := List.getElem?_eq_getElem (Nat.lt_of_succ_lt hi)
  rw [lineStart_of_line (List.getElem?_eq_getElem hi), lineStop_of_line hl,
    Text.extent_take_succ hl]

theorem lineStop_of_last (hi : i + 1 = (ofText t).count) : (ofText t).lineStop i = t.length := by
  rw [count_ofText] at hi
  have hl := List.getElem?_eq_getElem (show i < t.lines.length by omega)
  have hall := Text.extent_take_succ hl
  rw [hi, List.take_length, Text.extent_eq_length t.lines_ne_nil, t.unlines_lines] at hall
  rw [lineStop_of_line hl]
  exact (Nat.succ.inj hall).symm

/-- A line that is not the last one ends at a newline. -/
theorem getElem?_lineStop (hi : i + 1 < (ofText t).count) :
    t[(ofText t).lineStop i]? = some '\n' := by
  rw [count_ofText] at hi
  have hl := List.getElem?_eq_getElem (Nat.lt_of_succ_lt hi)
  have habove : t.lines.take (i + 1) ≠ [] :=
    List.ne_nil_of_length_pos (by rw [List.length_take]; omega)
  have hbelow : t.lines.drop (i + 1) ≠ [] :=
    List.ne_nil_of_length_pos (by rw [List.length_drop]; omega)
  have hlength : (Text.unlines (t.lines.take (i + 1))).length = (ofText t).lineStop i := by
    have hextent := Text.extent_eq_length habove
    rw [Text.extent_take_succ hl, ← lineStop_of_line hl] at hextent
    exact (Nat.succ.inj hextent).symm
  have hsplit := Text.unlines_append habove hbelow
  rw [List.take_append_drop, t.unlines_lines] at hsplit
  have hplace := congrArg (·[(ofText t).lineStop i]?) hsplit
  rw [hplace, ← hlength, List.getElem?_append_right (Nat.le_refl _), Nat.sub_self]
  rfl

/-! ## The line of an offset -/

/-- The offset lies between the ends of line `i`; a newline stands at the end of its line. -/
structure Spans (o : Outline) (i : Nat) (p : Int) : Prop where
  inside : i < o.count
  starts : (o.lineStart i : Int) ≤ p
  stops : p ≤ (o.lineStop i : Int)

theorem WellFormed.spans_unique (hw : o.WellFormed) (hi : o.Spans i p) (hj : o.Spans j p) :
    i = j := by
  have apart : ∀ {i j : Nat}, o.Spans i p → o.Spans j p → ¬ i < j := by
    intro i j hi hj hij
    have := hw.ascending i j hij hj.inside
    have := hi.stops
    have := hj.starts
    omega
  exact Nat.le_antisymm (Nat.le_of_not_lt (apart hj hi)) (Nat.le_of_not_lt (apart hi hj))

theorem spans_lineAt (t : Text) (p : Int) :
    (ofText t).Spans ((ofText t).lineAt p) (max 0 (min p t.length)) := by
  have hw := wellFormed_ofText t
  have hcount := lineAt_lt_count t p
  generalize hi : (ofText t).lineAt p = i at hcount
  have hinside : (ofText t).lineStop i ≤ t.length := hw.inside i hcount
  have hends := (ofText t).lineStart_le_lineStop i
  refine ⟨hcount, ?_, ?_⟩
  · rcases Nat.eq_zero_or_pos i with rfl | h0
    · rw [hw.origin]
      omega
    · have := (hw.le_lineAt_iff h0 hcount p).1 (Nat.le_of_eq hi.symm)
      omega
  · rcases Nat.lt_or_ge (i + 1) (ofText t).count with hlt | hge
    · have hnot := mt (hw.le_lineAt_iff (Nat.succ_pos i) hlt p).2 (by omega)
      rw [lineStart_succ hlt] at hnot
      omega
    · rw [lineStop_of_last (Nat.le_antisymm hcount hge)]
      omega

/-- The line of an offset is the one between whose ends the offset lies, once it is held within the
text. -/
theorem lineAt_eq_iff : (ofText t).lineAt p = i ↔
    (ofText t).Spans i (max 0 (min p t.length)) := by
  constructor
  · rintro rfl
    exact spans_lineAt t p
  · exact (wellFormed_ofText t).spans_unique (spans_lineAt t p)

theorem lineAt_natCast_eq_iff (hk : k ≤ t.length) :
    (ofText t).lineAt k = i ↔ (ofText t).Spans i k := by
  have hheld : max 0 (min (k : Int) t.length) = k := by omega
  rw [lineAt_eq_iff, hheld]

theorem WellFormed.lineAt_mono (hw : o.WellFormed) (hpq : p ≤ q) : o.lineAt p ≤ o.lineAt q := by
  rcases Nat.eq_zero_or_pos (o.lineAt p) with h0 | h0
  · omega
  · have hcount : o.lineAt p < o.count := by
      have := o.lineAt_le p
      omega
    have hstart := (hw.le_lineAt_iff h0 hcount p).1 (Nat.le_refl _)
    exact (hw.le_lineAt_iff h0 hcount q).2 (Int.le_trans hstart hpq)

end Outline

/-! ## Buffers -/

namespace Buffer

/-- The line table of a buffer fits its text. -/
structure Charted (b : Buffer) : Prop where
  /-- An offset, held within the text, lies between the ends of the line it is found on, and of no
  other. -/
  lineAt : ∀ (p : Int) (i : Nat), b.outline.lineAt p = i ↔
    b.outline.Spans i (max 0 (min p b.text.length))
  /-- Between its ends stands the line. -/
  substring : ∀ i, i < b.outline.count →
    b.substring (b.outline.lineStart i) (b.outline.lineStop i) = (b.outline.row i).text
  /-- No line holds a newline, and joined by newlines the lines are the text. -/
  newlineless : ∀ r ∈ b.outline.rows.toList, '\n' ∉ r.text
  joined : Text.unlines (b.outline.rows.toList.map Row.text) = b.text
  monotone : ∀ p q : Int, p ≤ q → b.outline.lineAt p ≤ b.outline.lineAt q
  /-- Going to a line, counted from one, puts the cursor at the start of that line, or of the first
  or the last one for a number out of range, and changes nothing else. -/
  atLine : ∀ n : Int, ∃ i, i < b.outline.count ∧
    (i : Int) + 1 = max 1 (min n b.outline.count) ∧
    b.atLine n = { b with point := b.outline.lineStart i } ∧ (b.atLine n).currentLine = i + 1

variable {b : Buffer} {i : Nat}

theorem moveTo_lineStart (hi : i < b.outline.count) :
    b.moveTo (b.outline.lineStart i) = { b with point := b.outline.lineStart i } := by
  have hinside : b.outline.lineStop i ≤ b.text.length :=
    (Outline.wellFormed_ofText b.text).inside i hi
  have hends := b.outline.lineStart_le_lineStop i
  have hheld : max 0 (min (b.outline.lineStart i : Int) b.text.length) =
      b.outline.lineStart i := by omega
  rw [moveTo, hheld]

/-- The line table of every buffer fits its text. -/
theorem charted (b : Buffer) : b.Charted := by
  have hw : b.outline.WellFormed := Outline.wellFormed_ofText b.text
  have htexts : b.outline.rows.toList.map Row.text = b.text.lines := Outline.texts_ofText b.text
  refine ⟨fun p i => Outline.lineAt_eq_iff, fun i hi => ?_, fun r hr => ?_, ?_,
    fun p q => hw.lineAt_mono, fun n => ?_⟩
  · have hcut : (b.outline.block .buffer i i).textIn b.text = _ :=
      Outline.textIn_block (Nat.le_refl i) hi
    have hlt : i < b.text.lines.length := by rwa [← Outline.count_ofText]
    rw [Nat.add_sub_cancel_left, List.drop_eq_getElem_cons hlt, List.take_succ_cons,
      List.take_zero] at hcut
    rw [outline, Outline.row_ofText_of_line (List.getElem?_eq_getElem hlt)]
    exact hcut
  · have hline := List.mem_map_of_mem (f := Row.text) hr
    rw [htexts] at hline
    exact Text.newline_not_mem_of_mem_lines hline
  · rw [htexts, b.text.unlines_lines]
  · have hpos : 0 < b.outline.count := Nat.zero_lt_of_lt (Outline.lineAt_lt_count b.text 0)
    obtain ⟨i, hi⟩ : ∃ i : Nat, max 0 (min (n - 1) ((b.outline.count : Int) - 1)) = i :=
      ⟨_, (Int.toNat_of_nonneg (by omega)).symm⟩
    have hcount : i < b.outline.count := by omega
    have hpoint : b.atLine n = { b with point := b.outline.lineStart i } := by
      rw [atLine, hi, Int.toNat_natCast, moveTo_lineStart hcount]
    refine ⟨i, hcount, by omega, hpoint, ?_⟩
    rw [hpoint]
    exact congrArg (· + 1) (hw.lineAt_lineStart hcount)

/-- Offsets on a newline, on an empty line and out of range. -/
example : [-3, 2, 3, 4, 5, 9].map (Outline.ofText "ab\n\nc").lineAt = [0, 0, 1, 2, 2, 2] := by
  decide +kernel

end Buffer

end ReplSend
