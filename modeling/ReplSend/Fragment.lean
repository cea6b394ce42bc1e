import ReplSend.Line

/-!
# Fragments

A fragment is a piece of source on its way to an interpreter. `dedent` moves it to the left margin
so that it can stand alone; a region that cannot be moved is wrapped in a guard instead.
-/

namespace ReplSend.Fragment

open Text (lines unlines)

def isCodeLine (line : Text) : Bool := (LineKind.ofLine line).isCode

/-- The first code line. -/
def firstCode? (ls : List Text) : Option Text := ls.find? isCodeLine

/-- The first code line, counted from zero, that is indented less than `shift`. -/
def shallower? (shift : Nat) (ls : List Text) : Option Nat :=
  ls.findIdx? fun l => isCodeLine l && decide (indentation l < shift)

/-- The line moved left by `shift` columns, or as far as its indentation allows; what is left of
the indentation is spaces. -/
def shiftLeft (shift : Nat) (line : Text) : Text :=
  (Text.expandTabs tabWidth 0 (line.takeWhile Text.isTabOrSpace)).drop shift ++
    line.dropWhile Text.isTabOrSpace

theorem shiftLeft_eq (shift : Nat) (line : Text) : shiftLeft shift line =
    Text.spaces (indentation line - shift) ++ line.dropWhile Text.isTabOrSpace := by
  have hblank : ∀ c ∈ line.takeWhile Text.isTabOrSpace, Text.isTabOrSpace c = true := fun c hc =>
    List.all_eq_true.1 List.all_takeWhile c hc
  rw [shiftLeft, expandTabs_blanks hblank, Text.spaces, List.drop_replicate]
  rfl

/-- The fragment moved left by the indentation of its first code line. It fails, with the number
of the line counted from one, if a later code line is indented less. -/
def dedent (t : Text) : Except Nat Text :=
  match firstCode? (lines t) with
  | none => .ok t
  | some first =>
    let shift := indentation first
    match shallower? shift (lines t) with
    | some i => .error (i + 1)
    | none => .ok (if shift = 0 then t else unlines ((lines t).map (shiftLeft shift)))

/-- The fragment moved right; empty lines stay empty. -/
def indent (columns : Nat) (t : Text) : Text :=
  unlines ((lines t).map fun l => if l.isEmpty then l else Text.spaces columns ++ l)

/-- The line that makes an indented region a statement. -/
def guardLine : Text := "if True:\n"

/-- The region under a guard, if its first code line is indented. -/
def guarded (t : Text) : Text :=
  match firstCode? (lines t) with
  | some first => if indentation first > 0 then guardLine ++ t else t
  | none => t

theorem guarded_eq (t : Text) : guarded t = t ∨ guarded t = guardLine ++ t := by
  unfold guarded
  split
  · split
    · exact .inr rfl
    · exact .inl rfl
  · exact .inl rfl

/-- The comment line that names an encoding. -/
def cookie (encoding : Text) : Text := "# -*- coding: " ++ encoding ++ " -*-\n"

def withCookie (t encoding : Text) : Text := cookie encoding ++ t

end ReplSend.Fragment
