import ReplSend.Echo

/-!
# Echoes cut in the middle

A text is cut for display at more separators than the newlines that join its lines again, and an
empty last line does not show (`displayLines_unlines`). So the cut text has the lines that were
kept, but for an empty one at its end: too few to be cut again, or as many as make it cut the same
way (`truncate_spec`).
-/

namespace ReplSend

namespace Text

variable {l t : Text} {c : Char} {ls : List Text}

/-- The lines without an empty last one. -/
def dropEmptyLast (ls : List Text) : List Text :=
  if ls.getLast? = some [] then ls.dropLast else ls

theorem dropEmptyLast_append_cons (hl : l ≠ []) (ls ms : List Text) :
    dropEmptyLast (ls ++ l :: ms) = ls ++ l :: dropEmptyLast ms := by
  cases ms with
  | nil => rw [dropEmptyLast, List.getLast?_concat, if_neg (by simpa using hl)]; rfl
  | cons m ms =>
    have hlast : (ls ++ l :: m :: ms).getLast? = (m :: ms).getLast? := by
      rw [List.getLast?_append, List.getLast?_cons_cons, List.getLast?_cons, Option.some_or]
    rw [dropEmptyLast, dropEmptyLast, hlast]
    split
    · rw [List.dropLast_append_of_ne_nil (List.cons_ne_nil _ _),
        List.dropLast_cons_of_ne_nil (List.cons_ne_nil _ _)]
    · rfl

theorem dropEmptyLast_eq_or (ls : List Text) : dropEmptyLast ls = ls ∨
    (dropEmptyLast ls).length + 1 = ls.length := by
  unfold dropEmptyLast
  split
  · rename_i hlast
    rw [List.length_dropLast]
    exact .inr (Nat.sub_add_cancel (List.length_pos_of_mem (List.mem_of_getLast? hlast)))
  · exact .inl rfl

theorem length_dropEmptyLast_le (ls : List Text) : (dropEmptyLast ls).length ≤ ls.length := by
  rcases dropEmptyLast_eq_or ls with hall | hless
  · exact Nat.le_of_eq (congrArg _ hall)
  · omega

/-! ## Lines for display -/

/-- The line holds nothing that ends a line. -/
def Unbroken (l : Text) : Prop := ∀ c ∈ l, isLineSeparator c = false

theorem displayLines_newline (t : Text) : displayLines ('\n' :: t) = [] :: displayLines t := by
  rw [displayLines, if_pos (by decide)]
  intro _ h
  cases h

/-- A character that ends no line goes to the front of the first line. -/
theorem displayLines_cons (hc : isLineSeparator c = false) (t : Text) :
    displayLines (c :: t) =
      (c :: (displayLines t).headD []) :: (displayLines t).tail := by
  have hreturn : c ≠ '\r' := by
    rintro rfl
    cases hc
  rw [displayLines, if_neg (by rw [hc]; decide)]
  · cases displayLines t <;> rfl
  · exact fun _ h => absurd h hreturn

theorem unbroken_of_mem_displayLines (h : l ∈ displayLines t) : Unbroken l := by
  fun_induction displayLines t generalizing l with
  | case1 => cases h
  | case2 cs ih =>
    rcases List.mem_cons.1 h with rfl | h
    · exact nofun
    · exact ih h
  | case3 c cs hcs hc ih =>
    rcases List.mem_cons.1 h with rfl | h
    · exact nofun
    · exact ih h
  | case4 c cs hcs hc hnil ih =>
    rw [List.mem_singleton.1 h]
    intro d hd
    rw [List.mem_singleton.1 hd]
    exact Bool.eq_false_iff.2 hc
  | case5 c cs hcs hc first rest hrest ih =>
    rw [hrest] at ih
    rcases List.mem_cons.1 h with rfl | h
    · intro d hd
      rcases List.mem_cons.1 hd with rfl | hd
      · exact Bool.eq_false_iff.2 hc
      · exact ih List.mem_cons_self d hd
    · exact ih (List.mem_cons_of_mem _ h)

theorem displayLines_append_newline (hl : Unbroken l) (t : Text) :
    displayLines (l ++ '\n' :: t) = l :: displayLines t := by
  induction l with
  | nil => exact displayLines_newline t
  | cons c l ih =>
    obtain ⟨hc, hl⟩ := List.forall_mem_cons.1 hl
    rw [List.cons_append, displayLines_cons hc, ih hl]
    rfl

theorem displayLines_of_unbroken (hl : Unbroken l) (hne : l ≠ []) : displayLines l = [l] := by
  induction l with
  | nil => exact absurd rfl hne
  | cons c l ih =>
    obtain ⟨hc, hl⟩ := List.forall_mem_cons.1 hl
    rw [displayLines_cons hc]
    by_cases hnil : l = []
    · rw [hnil, displayLines]
      rfl
    · rw [ih hl hnil]
      rfl

/-- Lines that are joined show again, but for an empty last one. -/
theorem displayLines_unlines (h : ∀ l ∈ ls, Unbroken l) :
    displayLines (unlines ls) = dropEmptyLast ls := by
  induction ls with
  | nil => rfl
  | cons l ls ih =>
    obtain ⟨hl, hls⟩ := List.forall_mem_cons.1 h
    cases ls with
    | nil =>
      by_cases hnil : l = []
      · rw [hnil]
        rfl
      · rw [unlines, displayLines_of_unbroken hl hnil, dropEmptyLast, if_neg (by simpa using hnil)]
    | cons m ls =>
      rw [unlines_cons (List.cons_ne_nil m ls), displayLines_append_newline hl, ih hls,
        dropEmptyLast, dropEmptyLast, List.getLast?_cons_cons,
        List.dropLast_cons_of_ne_nil (List.cons_ne_nil m ls)]
      split <;> rfl

end Text

namespace Echo

open Text (displayLines unlines dropEmptyLast Unbroken)

variable {head tail : Nat} {ls : List Text} {t : Text}

/-! ## Cutting -/

/-- The text is longer than what is to be kept of it, and something is. -/
def Cuts (head tail : Nat) (t : Text) : Prop :=
  0 < head + tail ∧ head + tail < (displayLines t).length

/-- The first lines, the marker and the last lines. -/
def kept (head tail : Nat) (ls : List Text) : List Text :=
  ls.take head ++ ellipsis :: ls.drop (ls.length - tail)

theorem truncate_of_cuts (h : Cuts head tail t) :
    truncate head tail t = unlines (kept head tail (displayLines t)) := by
  obtain ⟨hpos, hlt⟩ := h
  have hcut : ¬ ((head : Int) + tail ≤ 0 ∨ ((displayLines t).length : Int) ≤ head + tail) := by
    omega
  simp only [truncate, if_neg hcut, kept, Text.sliceTo_natCast, List.append_assoc,
    List.singleton_append]
  congr 3
  split
  · rename_i htail
    rw [Text.sliceFrom_neg _ htail, Int.toNat_natCast]
  · obtain rfl : tail = 0 := by omega
    rw [Nat.sub_zero, List.drop_length]

theorem truncate_of_not_cuts (h : ¬ Cuts head tail t) : truncate head tail t = t := by
  unfold Cuts at h
  have hwhole : (head : Int) + tail ≤ 0 ∨ ((displayLines t).length : Int) ≤ head + tail := by
    omega
  simp only [truncate, if_pos hwhole]

theorem length_kept (h : head + tail ≤ ls.length) :
    (kept head tail ls).length = head + tail + 1 := by
  rw [kept, List.length_append, List.length_take, List.length_cons, List.length_drop]
  omega

/-- What was kept is kept again. -/
theorem kept_kept (h : head + tail ≤ ls.length) :
    kept head tail (kept head tail ls) = kept head tail ls := by
  have hfirst : (ls.take head).length = head := List.length_take_of_le (by omega)
  have hfront : (kept head tail ls).take head = ls.take head := List.take_left' hfirst
  have hback : (kept head tail ls).drop (head + 1) = ls.drop (ls.length - tail) := by
    rw [kept, ← List.drop_drop, List.drop_left' hfirst]
    rfl
  rw [kept, length_kept h, hfront, show head + tail + 1 - tail = head + 1 by omega, hback]
  rfl

theorem unbroken_ellipsis : Unbroken ellipsis := by
  intro c hc
  have hdots : ellipsis = List.replicate 3 '.' := by decide
  rw [hdots] at hc
  rw [List.eq_of_mem_replicate hc]
  decide

theorem unbroken_of_mem_kept {l : Text} (h : l ∈ kept head tail (displayLines t)) :
    Unbroken l := by
  rcases List.mem_append.1 h with h | h
  · exact Text.unbroken_of_mem_displayLines (List.mem_of_mem_take h)
  rcases List.mem_cons.1 h with rfl | h
  · exact unbroken_ellipsis
  · exact Text.unbroken_of_mem_displayLines (List.mem_of_mem_drop h)

/-- The lines of a text that was cut are those that were kept. -/
theorem displayLines_truncate (h : Cuts head tail t) :
    displayLines (truncate head tail t) = dropEmptyLast (kept head tail (displayLines t)) := by
  rw [truncate_of_cuts h, Text.displayLines_unlines fun l => unbroken_of_mem_kept]

theorem truncate_truncate (head tail : Nat) (t : Text) :
    truncate head tail (truncate head tail t) = truncate head tail t := by
  by_cases hcut : Cuts head tail t
  · by_cases hagain : Cuts head tail (truncate head tail t)
    · have hle : head + tail ≤ (displayLines t).length := Nat.le_of_lt hcut.2
      have hlines := displayLines_truncate hcut
      have hlong := hagain.2
      rw [hlines] at hlong
      have hlength := length_kept hle
      -- With an empty last line there would be too few lines to be cut again.
      rcases Text.dropEmptyLast_eq_or (kept head tail (displayLines t)) with hall | hless
      · rw [truncate_of_cuts hagain, hlines, hall, kept_kept hle, truncate_of_cuts hcut]
      · omega
    · exact truncate_of_not_cuts hagain
  · rw [truncate_of_not_cuts hcut, truncate_of_not_cuts hcut]

/-- The text `r` is what is left of the text `t` when its middle is cut out. -/
structure Truncated (head tail : Nat) (t r : Text) : Prop where
  few : (displayLines r).length ≤ head + tail + 1
  first : (displayLines r).take head = (displayLines t).take head
  marker : (displayLines r)[head]? = some ellipsis
  last : (displayLines r).drop (head + 1) =
    dropEmptyLast ((displayLines t).drop ((displayLines t).length - tail))

/-- A text is cut if it is longer than what is to be kept and something is; what is left of it is
not cut any further. Any other text stays as it is. -/
theorem truncate_spec (head tail : Nat) (t : Text) :
    truncate head tail (truncate head tail t) = truncate head tail t ∧
      (Cuts head tail t → Truncated head tail t (truncate head tail t)) ∧
      (¬ Cuts head tail t → truncate head tail t = t) := by
  refine ⟨truncate_truncate head tail t, fun h => ?_, truncate_of_not_cuts⟩
  have hle : head + tail ≤ (displayLines t).length := Nat.le_of_lt h.2
  have hfirst : ((displayLines t).take head).length = head := List.length_take_of_le (by omega)
  have hlines := displayLines_truncate h
  have hfew := Text.length_dropEmptyLast_le (kept head tail (displayLines t))
  rw [← hlines, length_kept hle] at hfew
  rw [kept, Text.dropEmptyLast_append_cons (by decide)] at hlines
  refine ⟨hfew, ?_, ?_, ?_⟩
  · rw [hlines, List.take_left' hfirst]
  · rw [hlines, List.getElem?_append_right (Nat.le_of_eq hfirst), hfirst, Nat.sub_self]
    rfl
  · rw [hlines, ← List.drop_drop, List.drop_left' hfirst]
    rfl

/-- Lines end at separators of different kinds, and the last one kept is empty. -/
example : truncate 1 2 "a\x0bb\r\nc\n\n" = "a\n...\nc\n" ∧
    truncate 1 2 "a\n...\nc\n" = "a\n...\nc\n" := by
  decide +kernel

end Echo

end ReplSend
