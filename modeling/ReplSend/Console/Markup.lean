import ReplSend.Console.Page
import ReplSend.Table
import ReplSend.Text.Case

/-!
# Markup

Texts with tags in square brackets, such as `[red]…[/red]`. A tag opens with a lower-case letter,
`#`, `@` or a slash; any other bracket is text. An opening tag holds until a closing tag of its
name, or to the end; a closing tag without a name closes the latest tag. Backslashes before a tag
stand for half their number, and an odd one makes the tag text.
-/

namespace ReplSend.Console

inductive Markup where
  | text (t : Text)
  | opening (name : Text)
  /-- Without a name it closes the latest tag. -/
  | closing (name : Text)
  deriving DecidableEq, Repr

namespace Markup

/-! ### Reading -/

/-- The short names of styles. -/
def shortNames : Table Text :=
  [("b", "bold"), ("d", "dim"), ("i", "italic"), ("u", "underline"), ("r", "reverse"),
   ("c", "conceal"), ("s", "strike"), ("uu", "underline2"), ("o", "overline")]

/-- The name by which a style is known, whatever way it is written. -/
def styleName (written : Text) : Text :=
  let name := Text.lowerAscii (Text.strip written)
  (shortNames.get? name).getD name

/-- The markup that the inside of a tag stands for; what follows an equals sign does not matter. -/
def ofTag (inside : Text) : Markup :=
  match inside.takeWhile (· != '=') with
  | '/' :: name => if Text.allBlank name then closing [] else closing (styleName name)
  | name => opening (styleName name)

/-- The inside of a tag and what follows it, after the opening bracket. -/
def tag? : Text → Option (Text × Text)
  | [] => none
  | c :: cs =>
    if c.isLower || c == '#' || c == '/' || c == '@' then
      match cs.dropWhile fun c => c != '[' && c != ']' with
      | ']' :: rest => some (c :: cs.takeWhile fun c => c != '[' && c != ']', rest)
      | _ => none
    else none

theorem length_lt_of_tag? {t inside rest : Text} (h : tag? t = some (inside, rest)) :
    rest.length < t.length := by
  cases t with
  | nil => cases h
  | cons c cs =>
    have hle := (List.dropWhile_sublist (l := cs) fun c => c != '[' && c != ']').length_le
    simp only [tag?] at h
    split at h
    · split at h
      · next hd =>
        rw [hd] at hle
        cases h
        simp only [List.length_cons] at hle ⊢
        omega
      · cases h
    · cases h

/-- Text outside of tags; a backslash before an opening bracket falls away. -/
def unescape : Text → Text
  | '\\' :: '[' :: cs => '[' :: unescape cs
  | c :: cs => c :: unescape cs
  | [] => []

def backslashes (n : Nat) : Text := List.replicate n '\\'

/-- The markup of a text, after some text outside of tags (its end first) and some backslashes. -/
def parseFrom (before : Text) (slashes : Nat) (t : Text) : List Markup :=
  match t with
  | [] => [text (unescape (before.reverse ++ backslashes slashes))]
  | c :: cs =>
    if c = '\\' then parseFrom before (slashes + 1) cs
    else if c = '[' then
      match h : tag? cs with
      | some (inside, rest) =>
        have := length_lt_of_tag? h
        text (unescape before.reverse) :: text (backslashes (slashes / 2)) ::
          (if slashes % 2 = 0 then ofTag inside else text ('[' :: inside ++ [']'])) ::
            parseFrom [] 0 rest
      | none => parseFrom (c :: backslashes slashes ++ before) 0 cs
    else parseFrom (c :: backslashes slashes ++ before) 0 cs
termination_by t.length
decreasing_by all_goals (simp only [List.length_cons]; omega)

def parse (t : Text) : List Markup := parseFrom [] 0 t

/-! ### Printing -/

/-- The text without its tags, the latest open one first among those that are open; nothing if a
tag is closed that is not open. -/
def textFrom? (opened : List Text) : List Markup → Option Text
  | [] => some []
  | text t :: ms => (textFrom? opened ms).map (t ++ ·)
  | opening name :: ms => textFrom? (name :: opened) ms
  | closing name :: ms =>
    match name, opened with
    | [], [] => none
    | [], _ :: opened => textFrom? opened ms
    | name, opened => if opened.contains name then textFrom? (opened.erase name) ms else none

def text? (ms : List Markup) : Option Text := textFrom? [] ms

end Markup

/-- A text with markup as it is printed. -/
def markedPage? (t : Text) : Option Text := (Markup.text? (Markup.parse t)).map page

end ReplSend.Console
