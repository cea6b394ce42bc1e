import ReplSend.Table

/-!
# Command line arguments

The grammar of options. An option is given by its long name or by its letter; its value follows
after an equals sign, right after the letter, or in the next argument, whatever that looks like.
Letters without values can be joined. Of two values for one option the later counts. Two hyphens
alone end the options.
-/

namespace ReplSend

/-- An option that a command knows. -/
structure KnownOption where
  /-- The long name with its hyphens. -/
  name : Text
  letter : Option Char
  takesValue : Bool
  deriving DecidableEq, Repr

inductive UsageFault where
  | unknownOption (name : Text)
  | missingValue (name : Text)
  /-- A value for an option that takes none. -/
  | needlessValue (name : Text)
  | badValue (name value : Text)
  | unknownCommand (name : Text)
  | missingCommand
  | missingFile
  | extraArgument (argument : Text)
  /-- The file does not exist or is a directory. -/
  | unusableFile (path : Text)
  deriving DecidableEq, Repr

def UsageFault.message : UsageFault → Text
  | unknownOption name => "No such option: " ++ name
  | missingValue name => "Option " ++ name ++ " requires an argument"
  | needlessValue name => "Option " ++ name ++ " does not take a value"
  | badValue name value => "Invalid value for " ++ name ++ (": " : Text) ++ value
  | unknownCommand name => "No such command: " ++ name
  | missingCommand => "Missing command"
  | missingFile => "Missing argument: FILE"
  | extraArgument argument => "Got unexpected extra argument: " ++ argument
  | unusableFile path => "Not a file that can be read: " ++ path

/-- Arguments with the options told apart from the rest. -/
structure Arguments where
  /-- The values of the options that are given; a flag has an empty one. -/
  options : Table Text
  others : List Text
  deriving DecidableEq, Repr

namespace Arguments

def none : Arguments := ⟨[], []⟩

def isGiven (a : Arguments) (name : Text) : Bool := (a.options.get? name).isSome

def put (a : Arguments) (option : Text × Text) : Arguments :=
  { a with options := a.options.put option.1 option.2 }

/-- An option starts with a hyphen; a lone hyphen is none. -/
def isOption (argument : Text) : Bool := argument.head? = some '-' && argument != ['-']

/-- What one argument sets, and the option that waits for the next argument as its value. -/
structure Parsed where
  set : List (Text × Text)
  waiting : Option Text

/-- Letters joined to one argument. -/
def letters (known : List KnownOption) : Text → Except UsageFault Parsed
  | [] => .ok ⟨[], Option.none⟩
  | c :: cs =>
    match known.find? (·.letter = some c) with
    | Option.none => .error (.unknownOption ['-', c])
    | some o =>
      if !o.takesValue then (letters known cs).map fun p => { p with set := (o.name, []) :: p.set }
      else if cs.isEmpty then .ok ⟨[], some o.name⟩
      else .ok ⟨[(o.name, cs)], Option.none⟩

/-- One argument that is an option, or several by their letters. -/
def option (known : List KnownOption) (argument : Text) : Except UsageFault Parsed :=
  let name := argument.takeWhile (· != '=')
  match known.find? (·.name = name), argument.dropWhile (· != '=') with
  | some o, _ :: value =>
    if o.takesValue then .ok ⟨[(o.name, value)], Option.none⟩ else .error (.needlessValue name)
  | some o, [] => .ok (if o.takesValue then ⟨[], some o.name⟩ else ⟨[(o.name, [])], Option.none⟩)
  | Option.none, _ =>
    if ['-', '-'].isPrefixOf argument then .error (.unknownOption name)
    else letters known (argument.drop 1)

/-- Reads arguments after some that have been read. Unless options may be `mixed` with other
arguments, the first other one ends them. -/
def readAfter (known : List KnownOption) (mixed : Bool) (a : Arguments) :
    List Text → Except UsageFault Arguments
  | [] => .ok a
  | argument :: rest =>
    if argument = ['-', '-'] then .ok { a with others := a.others ++ rest }
    else if isOption argument then
      match option known argument with
      | .error e => .error e
      | .ok p =>
        let a := p.set.foldl put a
        match p.waiting, rest with
        | Option.none, rest => readAfter known mixed a rest
        | some name, value :: rest => readAfter known mixed (a.put (name, value)) rest
        | some name, [] => .error (.missingValue name)
    else if mixed then readAfter known mixed { a with others := a.others ++ [argument] } rest
    else .ok { a with others := a.others ++ argument :: rest }
termination_by arguments => arguments.length

def read (known : List KnownOption) (mixed : Bool) (arguments : List Text) :
    Except UsageFault Arguments :=
  readAfter known mixed none arguments

end Arguments

end ReplSend
