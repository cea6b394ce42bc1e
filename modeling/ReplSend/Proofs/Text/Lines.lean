import ReplSend.Proofs.Source

/-!
# Cutting and joining lines

Lines without newlines come back when they are joined and cut again (`lines_unlines`), so a text
is as good as its lines. The offsets at which lines start and end cut a text between lines
(`drop_unlines`, `take_unlines`), and any other offset within a line (`lines_take`).
-/

namespace ReplSend.Text

theorem newline_not_mem_of_mem_lines {t l : Text} (h : l ∈ lines t) : '\n' ∉ l := by
  induction t generalizing l with
  | nil =>
    rw [lines, List.mem_singleton] at h
    rw [h]
    exact List.not_mem_nil
  | cons c t ih =>
    rw [lines] at h
    split at h
    · rcases List.mem_cons.1 h with rfl | h
      · exact List.not_mem_nil
      · exact ih h
    · rename_i hc
      obtain ⟨m, ms, hm⟩ := List.exists_cons_of_ne_nil (lines_ne_nil t)
      rw [hm] at h ih
      rcases List.mem_cons.1 h with rfl | h
      · rw [List.mem_cons, not_or]
        exact ⟨Ne.symm hc, ih List.mem_cons_self⟩
      · exact ih (List.mem_cons_of_mem m h)

theorem lines_of_newline_not_mem {l : Text} (h : '\n' ∉ l) : lines l = [l] := by
  induction l with
  | nil => rfl
  | cons c l ih =>
    rw [List.mem_cons, not_or] at h
    rw [lines, if_neg (Ne.symm h.1), ih h.2]

theorem lines_append_newline (a b : Text) : lines (a ++ '\n' :: b) = lines a ++ lines b := by
  induction a with
  | nil => simp [lines]
  | cons c a ih =>
    rw [List.cons_append, lines, ih, lines]
    split
    · rfl
    · obtain ⟨l, ls, hl⟩ := List.exists_cons_of_ne_nil (lines_ne_nil a)
      rw [hl]
      rfl

theorem lines_unlines {ls : List Text} (hne : ls ≠ []) (h : ∀ l ∈ ls, '\n' ∉ l) :
    lines (unlines ls) = ls := by
  induction ls with
  | nil => exact absurd rfl hne
  | cons l ls ih =>
    obtain ⟨hl, hls⟩ := List.forall_mem_cons.1 h
    by_cases hnil : ls = []
    · rw [hnil]
      exact lines_of_newline_not_mem hl
    · rw [unlines_cons hnil, lines_append_newline, lines_of_newline_not_mem hl, ih hnil hls]
      rfl

/-- The empty lines at the end of a text are its newlines at the end. -/
theorem lines_append_replicate {t : Text} (h : '\n' ∉ t) (k : Nat) :
    lines (t ++ List.replicate k '\n') = t :: List.replicate k [] := by
  induction k with
  | zero => rw [List.replicate_zero, List.append_nil, lines_of_newline_not_mem h]; rfl
  | succ k ih =>
    have hlast : t ++ List.replicate (k + 1) '\n' = (t ++ List.replicate k '\n') ++ '\n' :: [] := by
      rw [List.replicate_succ', List.append_assoc]
    rw [hlast, lines_append_newline, ih, List.replicate_succ', List.cons_append]
    rfl

/-! ## Cutting between lines -/

theorem unlines_append {ls ms : List Text} (hl : ls ≠ []) (hm : ms ≠ []) :
    unlines (ls ++ ms) = unlines ls ++ '\n' :: unlines ms := by
  induction ls with
  | nil => exact absurd rfl hl
  | cons l ls ih =>
    by_cases hnil : ls = []
    · rw [hnil]
      exact unlines_cons hm
    · rw [List.cons_append, unlines_cons (List.append_ne_nil_of_left_ne_nil hnil ms), ih hnil,
        unlines_cons hnil, List.append_assoc]
      rfl

theorem drop_unlines {ls : List Text} {k : Nat} (hk : k < ls.length) :
    (unlines ls).drop (extent (ls.take k)) = unlines (ls.drop k) := by
  rcases Nat.eq_zero_or_pos k with rfl | hpos
  · rfl
  have htake : ls.take k ≠ [] := List.ne_nil_of_length_pos (by rw [List.length_take]; omega)
  have hdrop : ls.drop k ≠ [] := List.ne_nil_of_length_pos (by rw [List.length_drop]; omega)
  have hsplit := unlines_append htake hdrop
  rw [List.take_append_drop] at hsplit
  rw [hsplit, extent_eq_length htake, ← List.drop_drop, List.drop_left]
  rfl

/-- Up to a place in a line stand the lines above it and what the line has before that place. -/
theorem take_extent_add {ls : List Text} {k m : Nat} {l : Text} (hl : ls[k]? = some l)
    (hm : m ≤ l.length) :
    (unlines ls).take (extent (ls.take k) + m) = unlines (ls.take k ++ [l.take m]) := by
  induction ls generalizing k with
  | nil => cases hl
  | cons a ls ih =>
    cases k with
    | zero =>
      obtain rfl : a = l := Option.some.inj hl
      rw [List.take_zero, extent, Nat.zero_add, List.nil_append, unlines]
      by_cases hnil : ls = []
      · rw [hnil, unlines]
      · rw [unlines_cons hnil, List.take_append_of_le_length hm]
    | succ k =>
      have hne : ls ≠ [] := by
        rintro rfl
        cases hl
      have hplace : extent (a :: ls.take k) + m = a.length + (extent (ls.take k) + m + 1) := by
        rw [extent]
        omega
      rw [List.take_succ_cons, hplace, unlines_cons hne, List.take_length_add_append,
        List.take_succ_cons, ih hl, List.cons_append, unlines_cons (by simp)]

theorem take_unlines {ls : List Text} {k : Nat} {l : Text} (hl : ls[k]? = some l) :
    (unlines ls).take (extent (ls.take k) + l.length) = unlines (ls.take (k + 1)) := by
  rw [take_extent_add hl (Nat.le_refl _), List.take_length, List.take_add_one, hl,
    Option.toList_some]

theorem lines_take {t l : Text} {k m : Nat} (hl : (lines t)[k]? = some l) (hm : m ≤ l.length) :
    lines (t.take (extent ((lines t).take k) + m)) = (lines t).take k ++ [l.take m] := by
  have htake := take_extent_add hl hm
  rw [t.unlines_lines] at htake
  rw [htake]
  refine lines_unlines (List.append_ne_nil_of_right_ne_nil _ (List.cons_ne_nil _ _)) fun x hx => ?_
  rcases List.mem_append.1 hx with hx | hx
  · exact newline_not_mem_of_mem_lines (List.mem_of_mem_take hx)
  · rw [List.mem_singleton.1 hx]
    exact fun h => newline_not_mem_of_mem_lines (List.mem_of_getElem? hl) (List.mem_of_mem_take h)

end ReplSend.Text
