import ReplSend.Text.Basic

/-!
# Path names

Path names with slashes. In the normal form repeated slashes and components `.` are gone, as is a
slash at the end; two leading slashes stay two, more become one; `..` stays.
-/

namespace ReplSend.Path

/-- The parts between slashes. -/
def split : Text → List Text
  | [] => [[]]
  | c :: cs =>
    if c = '/' then [] :: split cs
    else match split cs with
      | [] => [[c]]
      | p :: ps => (c :: p) :: ps

/-- The components that count. -/
def components (path : Text) : List Text := (split path).filter fun c => !c.isEmpty && c != ['.']

/-- The slashes that a path starts with in normal form. -/
def root (path : Text) : Text :=
  match (path.takeWhile (· == '/')).length with
  | 0 => []
  | 2 => ['/', '/']
  | _ => ['/']

def isAbsolute (path : Text) : Bool := path.head? = some '/'

/-- The path with this root and these components. -/
def ofComponents (root : Text) (cs : List Text) : Text :=
  if root.isEmpty && cs.isEmpty then ['.'] else root ++ List.intercalate ['/'] cs

/-- The normal form. -/
def normal (path : Text) : Text := ofComponents (root path) (components path)

/-- The last component; nothing for a root or an empty path. -/
def name (path : Text) : Text := (components path).getLast?.getD []

/-- The path without its last component. -/
def parent (path : Text) : Text := ofComponents (root path) (components path).dropLast

/-- A path seen from a directory. -/
def join (directory path : Text) : Text :=
  if isAbsolute path then normal path
  else ofComponents (root directory) (components directory ++ components path)

/-- The components without those that a later `..` takes back. -/
def collapse (cs : List Text) : List Text :=
  (cs.foldl (fun (out : List Text) c => if c = ['.', '.'] then out.drop 1 else c :: out) []).reverse

/-- The absolute path, seen from a directory, with every `..` taken back. -/
def resolve (directory path : Text) : Text :=
  let p := join directory path
  ofComponents ['/'] (collapse (components p))

end ReplSend.Path
