import ReplSend.Fragment

/-!
# Loading a file

A long fragment reaches the interpreter through a file and a one-line command that loads it.
`command` writes that line. `strip` removes what sending adds to a fragment (the command, the
encoding cookie, the guard and blank lines at the top), again and again until nothing is left to
remove, so that a second `strip` changes nothing.
-/

namespace ReplSend.Loader

open Text (lines unlines)

/-- A triple-quoted literal. -/
def literal (t : Text) : Text := "'''" ++ t ++ "'''"

/-- Drops top-level main guards from the parsed file. -/
def mainFilter : Text :=
  "__block.body = [__node for __node in __block.body if not (isinstance(__node, ast.If) and " ++
  "ast.unparse(__node.test).replace('\"', \"'\") == \"__name__ == '__main__'\")];"

/-- The line that loads and runs the file at `path`. A last bare expression is evaluated apart, so
that its value is shown. -/
def command (path encoding : Text) (keepMain delete : Bool) : Text :=
  "import sys, codecs, os, ast;" ++
  "__pyfile = codecs.open(" ++ literal path ++ ", encoding=" ++ literal encoding ++ ");" ++
  "__code = __pyfile.read().encode(" ++ literal encoding ++ ");" ++
  "__pyfile.close();" ++
  (if delete then "os.remove(" ++ literal path ++ ");" else []) ++
  "__block = ast.parse(__code, " ++ literal path ++ ", mode='exec');" ++
  (if keepMain then [] else mainFilter) ++
  "__last = __block.body[-1] if len(__block.body) > 0 else None;" ++
  "__isexpr = isinstance(__last, ast.Expr);" ++
  "_ = __block.body.pop() if __isexpr else None;" ++
  "exec(compile(__block, " ++ literal path ++ ", mode='exec'));" ++
  "eval(compile(ast.Expression(__last.value), " ++ literal path ++
  ", mode='eval')) if __isexpr else None"

/-! ### Removing what sending adds -/

/-- The text without the opening, or the text itself. -/
def dropOptional (opening t : Text) : Text := (Text.dropOpening? opening t).getD t

/-- The line starts as a loading command does. -/
def isCommand (line : Text) : Bool :=
  match Text.dropOpening? "import " line with
  | none => false
  | some rest =>
    match Text.dropOpening? "codecs, os" (dropOptional "sys, " rest) with
    | none => false
    | some rest => (";__pyfile = codecs.open" : Text).isPrefixOf (dropOptional ", ast" rest)

/-- The line starts as the last part of an old loading command does. -/
def isExec (line : Text) : Bool := ("exec(compile(" : Text).isPrefixOf line

/-- The text with the lines of a kind emptied. -/
def emptyLines (p : Text → Bool) (t : Text) : Text :=
  unlines ((lines t).map fun l => if p l then [] else l)

/-- A character that the name of an encoding can hold. -/
def isEncodingChar (c : Char) : Bool := c == '-' || c == '.' || Text.isWord c

/-- The text without a name between two marks at its start, nor the newline after them. -/
def dropNamed (opening closing t : Text) : Text :=
  match Text.dropOpening? opening t with
  | none => t
  | some rest =>
    if (rest.takeWhile isEncodingChar).isEmpty then t
    else match Text.dropOpening? closing (rest.dropWhile isEncodingChar) with
      | none => t
      | some rest => dropOptional ['\n'] rest

/-- The text without an encoding cookie at its start. -/
def dropCookie (t : Text) : Text := dropNamed "# -*- coding: " " -*-" t

/-- The text without a guard line at its start. -/
def dropGuard (t : Text) : Text := dropOptional Fragment.guardLine t

/-- The text without the lines of spaces and tabs at its start. -/
def dropBlankLines (t : Text) : Text :=
  match _h : t.dropWhile Text.isTabOrSpace with
  | '\n' :: rest => dropBlankLines rest
  | _ => t
termination_by t.length
decreasing_by
  have h1 := (List.dropWhile_sublist Text.isTabOrSpace (l := t)).length_le
  rw [_h, List.length_cons] at h1
  exact h1

/-- One round of removals. -/
def stripOnce (t : Text) : Text :=
  dropBlankLines (dropGuard (dropCookie (emptyLines isExec (emptyLines isCommand t))))

/-! ### A round that changes the text shortens it -/

/-- A function that leaves a text alone or shortens it. -/
def Shrinks (f : Text → Text) : Prop := ∀ t, f t = t ∨ (f t).length < t.length

theorem Shrinks.comp {f g : Text → Text} (hf : Shrinks f) (hg : Shrinks g) :
    Shrinks fun t => f (g t) := by
  intro t
  rcases hg t with h | h
  · simpa only [h] using hf t
  · right
    rcases hf (g t) with h' | h'
    · simpa only [h'] using h
    · exact Nat.lt_trans h' h

theorem length_of_dropOpening? {p t r : Text} (h : Text.dropOpening? p t = some r) :
    r.length + p.length = t.length := by
  unfold Text.dropOpening? at h
  split at h
  · rename_i hp
    have := (List.isPrefixOf_iff_prefix.1 hp).length_le
    simp only [Option.some.injEq] at h
    subst h
    simp
    omega
  · simp at h

theorem dropOptional_length_le (p t : Text) : (dropOptional p t).length ≤ t.length := by
  unfold dropOptional
  cases h : Text.dropOpening? p t with
  | none => simp
  | some r => have := length_of_dropOpening? h; simp; omega

theorem shrinks_dropOptional {p : Text} (hp : 0 < p.length) : Shrinks (dropOptional p) := by
  intro t
  unfold dropOptional
  cases h : Text.dropOpening? p t with
  | none => simp
  | some r =>
    right
    have := length_of_dropOpening? h
    simp
    omega

theorem shrinks_dropGuard : Shrinks dropGuard :=
  shrinks_dropOptional (by decide)

theorem shrinks_dropNamed {opening closing : Text} (ho : 0 < opening.length) :
    Shrinks (dropNamed opening closing) := by
  intro t
  unfold dropNamed
  cases h : Text.dropOpening? opening t with
  | none => simp
  | some r =>
    simp only
    split
    · simp
    · split
      · simp
      · rename_i r' h'
        right
        have h1 := length_of_dropOpening? h
        have h2 := length_of_dropOpening? h'
        have h3 := dropOptional_length_le ['\n'] r'
        have h4 := (List.dropWhile_sublist isEncodingChar (l := r)).length_le
        omega

theorem shrinks_dropCookie : Shrinks dropCookie := shrinks_dropNamed (by decide)

theorem shrinks_dropBlankLines : Shrinks dropBlankLines := by
  intro t
  fun_induction dropBlankLines t with
  | case1 t rest h ih =>
    have h1 := (List.dropWhile_sublist Text.isTabOrSpace (l := t)).length_le
    rw [h, List.length_cons] at h1
    rcases ih with h | h
    · rw [h]; right; omega
    · right; omega
  | case2 => simp

theorem unlines_map_shrinks {g : Text → Text} (hg : ∀ l, g l = l ∨ (g l).length < l.length)
    (ls : List Text) :
    ls.map g = ls ∨ (unlines (ls.map g)).length < (unlines ls).length := by
  induction ls with
  | nil => simp
  | cons l ls ih =>
    cases ls with
    | nil => simpa [unlines] using hg l
    | cons l' ls =>
      simp only [List.map_cons, List.cons.injEq, unlines, List.length_append,
        List.length_cons] at ih ⊢
      rcases hg l with h1 | h1
      · rcases ih with h2 | h2
        · exact .inl ⟨h1, h2⟩
        · right; rw [h1]; omega
      · rcases ih with h2 | h2
        · right; rw [h2.1, h2.2]; omega
        · right; omega

theorem shrinks_emptyLines (p : Text → Bool) : Shrinks (emptyLines p) := by
  intro t
  unfold emptyLines
  have hg : ∀ l : Text, (if p l then [] else l) = l ∨
      (if p l then [] else l : Text).length < l.length := by
    intro l
    by_cases h : p l
    · cases l <;> simp [h]
    · simp [h]
  rcases unlines_map_shrinks hg (lines t) with h | h
  · left; rw [h, Text.unlines_lines]
  · right; rwa [Text.unlines_lines] at h

theorem shrinks_stripOnce : Shrinks stripOnce :=
  shrinks_dropBlankLines.comp <| shrinks_dropGuard.comp <| shrinks_dropCookie.comp <|
    (shrinks_emptyLines isExec).comp (shrinks_emptyLines isCommand)

/-- The text without what sending adds to it. -/
def strip (t : Text) : Text :=
  if _h : stripOnce t = t then t else strip (stripOnce t)
termination_by t.length
decreasing_by exact (shrinks_stripOnce t).resolve_left _h

end ReplSend.Loader
