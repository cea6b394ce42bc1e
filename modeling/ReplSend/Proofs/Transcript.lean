import Mathlib.Data.List.DropRight
import Mathlib.Order.Bounds.Defs
import ReplSend.Transcript

/-!
# The end of a transcript

The walk back through the parts of a transcript collects just the last characters of its text
(`flatten_ends`), and it reads no part more than it takes to hold that many
(`length_ends_le_iff`). Both are inductions on the parts: the count that is left is positive
whenever a part is cut, as the walk goes on only while it is.
-/

namespace ReplSend.Transcript

variable {t : Transcript} {size : Int} {parts : List Text}

@[simp] theorem text_empty : empty.text = [] := rfl

@[simp] theorem text_append (t : Transcript) (chunk : Text) :
    (t.append chunk).text = t.text ++ chunk := by
  simp [append, text]

theorem flatten_ends (h : 0 < size) (parts : List Text) :
    (ends size parts).reverse.flatten =
      parts.reverse.flatten.drop (parts.reverse.flatten.length - size.toNat) := by
  induction parts generalizing size with
  | nil => simp [ends]
  | cons part parts ih =>
    rw [ends, List.reverse_cons, List.flatten_append, List.flatten_singleton,
      Text.sliceFrom_neg part h, List.reverse_cons, List.flatten_append, List.flatten_singleton,
      List.length_append, List.drop_append]
    generalize hbefore : parts.reverse.flatten = before at ih ⊢
    split
    · -- The part holds all that is wanted.
      rename_i hfull
      have hnone : before.drop (before.length + part.length - size.toNat) = [] :=
        List.drop_eq_nil_of_le (by omega)
      have hstart : before.length + part.length - size.toNat - before.length =
          part.length - size.toNat := by omega
      rw [hnone, hstart]
      rfl
    · rename_i hmore
      have hrest : before.length - (size - part.length).toNat =
          before.length + part.length - size.toNat := by omega
      have hstart : before.length + part.length - size.toNat - before.length =
          part.length - size.toNat := by omega
      rw [ih (by omega), hrest, hstart]

theorem tail_eq (h : 0 < size) :
    t.tail size = t.text.drop (t.text.length - size.toNat) :=
  flatten_ends h t.latest

theorem tail_suffix (h : 0 < size) : t.tail size <:+ t.text := by
  rw [tail_eq h]
  exact List.drop_suffix ..

/-! ## How far the walk goes -/

/-- The walk reads at most so many parts exactly if there are no more, or they hold enough. -/
theorem length_ends_le_iff {k : Nat} (h : 0 < size) :
    (ends size parts).length ≤ k ↔
      parts.length ≤ k ∨ size ≤ (parts.take k).flatten.length := by
  induction parts generalizing size k with
  | nil => simp [ends]
  | cons part parts ih =>
    rw [ends, List.length_cons, List.length_cons]
    cases k with
    | zero =>
      rw [List.take_zero, List.flatten_nil, List.length_nil]
      omega
    | succ k =>
      rw [List.take_succ_cons, List.flatten_cons, List.length_append]
      split
      · rw [List.length_nil]
        omega
      · rename_i hmore
        have hrest : (ends (size - part.length) parts).length ≤ k ↔
            parts.length ≤ k ∨ size - part.length ≤ (parts.take k).flatten.length :=
          ih (by omega)
        omega

/-! ## Parts in the order in which they came -/

/-- The transcript to which these parts were added, one after the other. -/
def ofParts (parts : List Text) : Transcript := parts.foldl append empty

theorem latest_foldl_append (t : Transcript) (parts : List Text) :
    (parts.foldl append t).latest = parts.reverse ++ t.latest := by
  induction parts generalizing t with
  | nil => rfl
  | cons part parts ih =>
    rw [List.foldl_cons, ih, append, List.reverse_cons, List.append_assoc, List.singleton_append]

theorem latest_ofParts (parts : List Text) : (ofParts parts).latest = parts.reverse := by
  rw [ofParts, latest_foldl_append, empty, List.append_nil]

theorem text_ofParts (parts : List Text) : (ofParts parts).text = parts.flatten := by
  rw [text, latest_ofParts, List.reverse_reverse]

/-- What parts hold does not depend on their order. -/
theorem length_flatten_take_reverse (parts : List Text) (k : Nat) :
    (parts.reverse.take k).flatten.length = (parts.rtake k).flatten.length := by
  rw [List.rtake_eq_reverse_take_reverse, List.length_flatten, List.length_flatten,
    List.map_reverse, List.sum_reverse]

/-- The end of a transcript is made of the last characters of all its parts together, or of all
characters when there are fewer. To find it the walk reads the fewest of the last parts that hold
that many, or all parts. -/
theorem tail_ofParts (parts : List Text) {n : Nat} (h : 1 ≤ n) :
    (ofParts parts).text = parts.flatten ∧
      (ofParts parts).tail n = (ofParts parts).text.rtake n ∧
      ((ofParts parts).tail n).length = min n (ofParts parts).text.length ∧
      IsLeast {k | k = parts.length ∨ n ≤ (parts.rtake k).flatten.length}
        (ends n (ofParts parts).latest).length := by
  have hsize : (0 : Int) < n := by omega
  have htail : (ofParts parts).tail n = (ofParts parts).text.rtake n := by
    rw [tail_eq hsize, Int.toNat_natCast, List.rtake]
  have hread {k : Nat} : (ends n (ofParts parts).latest).length ≤ k ↔
      parts.length ≤ k ∨ n ≤ (parts.rtake k).flatten.length := by
    rw [length_ends_le_iff hsize, latest_ofParts, List.length_reverse,
      length_flatten_take_reverse, Int.ofNat_le]
  refine ⟨text_ofParts parts, htail, ?_, ?_, ?_⟩
  · rw [htail, List.rtake, List.length_drop]
    omega
  · rcases hread.1 (Nat.le_refl _) with hall | henough
    · exact .inl (Nat.le_antisymm (hread.2 (.inl (Nat.le_refl _))) hall)
    · exact .inr henough
  · rintro k (rfl | henough)
    · exact hread.2 (.inl (Nat.le_refl _))
    · exact hread.2 (.inr henough)

/-- The four characters reach over a part that is empty into the middle of another one. -/
def spanning : List Text := ["old", "abc", [], "de", "f"]

theorem tail_ofParts_spanning : 1 ≤ 4 ∧ (ofParts spanning).tail 4 = "cdef" ∧
    IsLeast {k | k = spanning.length ∨ 4 ≤ (spanning.rtake k).flatten.length} 4 := by
  have hpos : 1 ≤ 4 := by decide
  obtain ⟨htext, htail, -, hread⟩ := tail_ofParts spanning hpos
  refine ⟨hpos, ?_, hread⟩
  rw [htext] at htail
  exact htail

/-- A count that is not positive cuts the last part at its wrong end. -/
example : (ofParts ["abc", "de"]).tail 0 = "de" ∧ (ofParts ["abc", "de"]).tail (-1) = "e" := by
  decide

end ReplSend.Transcript
