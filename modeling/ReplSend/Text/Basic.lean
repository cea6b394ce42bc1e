/-!
# Texts

A text is a list of characters, so that an offset counts code points and a theorem about texts is
a theorem about lists. `Text.lines` cuts a text at its newlines and `Text.unlines` joins lines
again: the two are inverse on texts (`unlines_lines`), and no line holds a newline.
-/

namespace ReplSend

abbrev Text := List Char

instance : Coe String Text := ⟨String.toList⟩

namespace Text

/-- The string with these characters. -/
def asString (t : Text) : String := String.ofList t

/-! ### Lines -/

/-- The lines of a text, cut at `'\n'`; there is always at least one. -/
def lines : Text → List Text
  | [] => [[]]
  | c :: cs =>
    if c = '\n' then [] :: lines cs
    else match lines cs with
      | [] => [[c]]
      | l :: ls => (c :: l) :: ls

/-- The lines joined by newlines. -/
def unlines : List Text → Text
  | [] => []
  | [l] => l
  | l :: ls => l ++ '\n' :: unlines ls

theorem lines_ne_nil (t : Text) : lines t ≠ [] := by
  cases t with
  | nil => simp [lines]
  | cons c cs =>
    unfold lines
    split
    · simp
    · split <;> simp

theorem unlines_cons {l : Text} {ls : List Text} (h : ls ≠ []) :
    unlines (l :: ls) = l ++ '\n' :: unlines ls := by
  cases ls with
  | nil => exact absurd rfl h
  | cons => rfl

theorem unlines_lines (t : Text) : unlines (lines t) = t := by
  induction t with
  | nil => rfl
  | cons c cs ih =>
    by_cases hc : c = '\n'
    · subst hc
      rw [lines, if_pos rfl, unlines_cons (lines_ne_nil cs), ih]
      rfl
    · rw [lines, if_neg hc]
      cases hl : lines cs with
      | nil => exact absurd hl (lines_ne_nil cs)
      | cons l ls =>
        rw [hl] at ih
        cases ls with
        | nil => simpa [unlines] using ih
        | cons => simpa [unlines] using ih

/-! ### Cutting -/

/-- The text without the given opening, if it opens that way. -/
def dropOpening? (opening t : Text) : Option Text :=
  if opening.isPrefixOf t then some (t.drop opening.length) else none

/-- The text contains `part` as a run of consecutive characters. -/
def hasPart (part : Text) : Text → Bool
  | [] => part.isEmpty
  | c :: cs => part.isPrefixOf (c :: cs) || hasPart part cs

/-- The text without the characters of the class at its end. -/
def dropEndWhile (p : Char → Bool) (t : Text) : Text := (t.reverse.dropWhile p).reverse

/-- The text without the characters of the class at either end. -/
def trimBoth (p : Char → Bool) (t : Text) : Text := dropEndWhile p (t.dropWhile p)

/-- `n` spaces. -/
def spaces (n : Nat) : Text := List.replicate n ' '

/-- The bound that a signed index stands for in a sequence of the given length: negative ones
count from the end, and all are held within the sequence. -/
def bound (length : Nat) (i : Int) : Nat :=
  if i < 0 then (length + i).toNat else min i.toNat length

/-- The part between two signed indices. -/
def slice {α : Type} (xs : List α) (start stop : Int) : List α :=
  (xs.take (bound xs.length stop)).drop (bound xs.length start)

/-- The part before a signed index. -/
def sliceTo {α : Type} (xs : List α) (stop : Int) : List α := xs.take (bound xs.length stop)

/-- The part from a signed index on. -/
def sliceFrom {α : Type} (xs : List α) (start : Int) : List α := xs.drop (bound xs.length start)

theorem slice_nonneg {α : Type} (xs : List α) {a b : Nat} (hb : b ≤ xs.length) :
    slice xs a b = (xs.take b).drop a := by
  have ha : bound xs.length (a : Int) = min a xs.length := by
    simp [bound, Int.not_lt.mpr (Int.natCast_nonneg a)]
  have hb' : bound xs.length (b : Int) = b := by
    simp [bound, Int.not_lt.mpr (Int.natCast_nonneg b), Nat.min_eq_left hb]
  rw [slice, ha, hb']
  rcases Nat.le_total a xs.length with h | h
  · rw [Nat.min_eq_left h]
  · rw [Nat.min_eq_right h, List.drop_eq_nil_of_le (by rw [List.length_take]; omega),
      List.drop_eq_nil_of_le (by rw [List.length_take]; omega)]

theorem sliceTo_natCast {α : Type} (xs : List α) (n : Nat) : sliceTo xs n = xs.take n := by
  have hn : bound xs.length (n : Int) = min n xs.length := by
    rw [bound, if_neg (Int.not_lt.mpr (Int.natCast_nonneg n)), Int.toNat_natCast]
  rw [sliceTo, hn]
  exact List.take_eq_take_min.symm

/-- A negative index leaves that many at the end. -/
theorem sliceFrom_neg {α : Type} (xs : List α) {n : Int} (h : 0 < n) :
    sliceFrom xs (-n) = xs.drop (xs.length - n.toNat) := by
  have hn : bound xs.length (-n) = xs.length - n.toNat := by
    rw [bound, if_pos (by omega)]
    omega
  rw [sliceFrom, hn]

/-! ### Numbers -/

/-- The decimal digits of a natural number. -/
def ofNat (n : Nat) : Text := Nat.toDigits 10 n

/-- The decimal digits of an integer, with a minus sign when it is negative. -/
def ofInt : Int → Text
  | .ofNat n => ofNat n
  | .negSucc n => '-' :: ofNat (n + 1)

/-- The value of decimal digits, most significant first. -/
def natOfDigits (ds : List Nat) : Nat := ds.foldl (fun n d => 10 * n + d) 0

end Text

end ReplSend
