import ReplSend.Path
import ReplSend.Table
import ReplSend.Text.Codec

/-!
# Hosts

What can be seen of the machine: its directories and files, which of them can be executed, the
environment, the encodings and the names of characters. Paths are relative to the current directory
unless they start with a slash.
-/

namespace ReplSend

inductive FileFault where
  | missing
  | isDirectory
  | notDirectory
  deriving DecidableEq, Repr

structure Host where
  /-- The current directory, an absolute path. -/
  current : Text
  directories : List Text
  files : Table Bytes
  executables : List Text
  environment : Table Text
  /-- The path of the file that a long fragment is put into. -/
  temporary : Text
  codecs : Codecs
  /-- The character of a name. -/
  named : Text → Option Char

namespace Host

/-- The directory is one that the host lists or one above it. -/
def isDirectoryAt (h : Host) (path : Text) : Bool :=
  path == ['/'] || h.directories.contains path ||
    (h.directories ++ h.files.names ++ h.executables).any fun p => (path ++ ['/']).isPrefixOf p

/-- Follows components from an absolute directory; every one but the last has to be a directory. -/
def follow (h : Host) (path : Text) : List Text → Except FileFault Text
  | [] => .ok path
  | c :: cs =>
    if !h.isDirectoryAt path then
      .error (if (h.files.get? path).isSome || h.executables.contains path then .notDirectory
        else .missing)
    else if c = ['.', '.'] then follow h (Path.parent path) cs
    else follow h (Path.ofComponents ['/'] (Path.components path ++ [c])) cs

/-- The absolute path that a path leads to. -/
def find (h : Host) (path : Text) : Except FileFault Text :=
  if Path.isAbsolute path then h.follow ['/'] (Path.components path)
  else h.follow h.current (Path.components path)

def isDirectory (h : Host) (path : Text) : Bool :=
  match h.find path with
  | .ok p => h.isDirectoryAt p
  | .error _ => false

/-- The bytes of a file. -/
def read (h : Host) (path : Text) : Except FileFault Bytes :=
  match h.find path with
  | .error e => .error e
  | .ok p =>
    match h.files.get? p with
    | some bytes => .ok bytes
    | none =>
      if h.isDirectoryAt p then .error .isDirectory
      else if h.executables.contains p then .ok []
      else .error .missing

def read? (h : Host) (path : Text) : Option Bytes := (h.read path).toOption

def isExecutable (h : Host) (path : Text) : Bool :=
  match h.find path with
  | .ok p => h.executables.contains p && path.getLast? ≠ some '/'
  | .error _ => false

/-- The absolute path without `..`. -/
def resolve (h : Host) (path : Text) : Text := Path.resolve h.current path

/-- The path with a leading `~` replaced by the home directory. -/
def expandHome (h : Host) (path : Text) : Text :=
  match Path.components path, Path.root path with
  | ['~'] :: cs, [] =>
    match h.environment.get? "HOME" with
    | some home => Path.join home (Path.ofComponents [] cs)
    | none => path
  | _, _ => Path.normal path

/-- The parts of a search path. -/
def searchPath (path : Text) : List Text :=
  path.foldr (fun c parts => match parts with
    | [] => [[c]]
    | p :: ps => if c = ':' then [] :: p :: ps else (c :: p) :: ps) [[]]

/-- A name looked up in a directory of the search path. -/
def inDirectory (directory name : Text) : Text :=
  if directory.isEmpty || directory.getLast? = some '/' then directory ++ name
  else directory ++ '/' :: name

/-- The executable that a name stands for: a name with a slash as it is given, any other in the
directories of the search path. -/
def executable? (h : Host) (name : Text) : Option Text :=
  if name.contains '/' then if h.isExecutable name then some name else none
  else
    match h.environment.get? "PATH" with
    | none => none
    | some path =>
      if path.isEmpty then none
      else ((searchPath path).map (inDirectory · name)).find? h.isExecutable

end Host

end ReplSend
