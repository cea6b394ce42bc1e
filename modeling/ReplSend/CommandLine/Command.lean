import ReplSend.Block
import ReplSend.CommandLine.Arguments
import ReplSend.Text.Numeral

/-!
# Commands

What the command line asks for: the version, the place of a unit, a send, or the target that the
sends of a file go to.
-/

namespace ReplSend

/-- A place in a file and the unit to take there. -/
structure Place where
  file : Text
  /-- Counted from one. -/
  line : Nat
  unit : BlockKind
  deriving DecidableEq, Repr

inductive Command where
  | version
  | locate (place : Place)
  /-- `timeout` is how long to wait for the prompt, `transcript` asks for the whole transcript. -/
  | send (place : Place) (interpreter : Text) (timeout : Float) (keepMain transcript : Bool)
  | sessions (file : Text) (dedicated : Bool)

namespace Command

def versionFlag : KnownOption := ⟨"--version", some 'V', false⟩

def placeOptions : List KnownOption :=
  [⟨"--line", some 'l', true⟩, ⟨"--unit", some 'u', true⟩]

def sendOptions : List KnownOption :=
  placeOptions ++
    [⟨"--interpreter", some 'i', true⟩, ⟨"--timeout", none, true⟩, ⟨"--send-main", none, false⟩,
     ⟨"--transcript", none, false⟩]

def sessionsOptions : List KnownOption := [⟨"--dedicated", none, false⟩]

/-- The one argument of a command. -/
def file (a : Arguments) : Except UsageFault Text :=
  match a.others with
  | [] => .error .missingFile
  | [f] => .ok f
  | _ :: extra :: _ => .error (.extraArgument extra)

/-- The value of an option, or a default. -/
def value {α : Type} (a : Arguments) (name : Text) (default : α) (read : Text → Option α) :
    Except UsageFault α :=
  match a.options.get? name with
  | none => .ok default
  | some t =>
    match read t with
    | some x => .ok x
    | none => .error (.badValue name t)

/-- A line number, one or more. -/
def line? (t : Text) : Option Nat := do
  let n ← Text.typedInt? t
  if 1 ≤ n then return n.toNat else none

def place (a : Arguments) : Except UsageFault Place := do
  let line ← value a "--line" 1 line?
  let unit ← value a "--unit" .statement BlockKind.ofName?
  return ⟨← file a, line, unit⟩

/-- A command by its name, with its own arguments. -/
def ofName (name : Text) (arguments : List Text) : Except UsageFault Command :=
  if name = "locate" then do
    return .locate (← place (← Arguments.read placeOptions true arguments))
  else if name = "send" then do
    let a ← Arguments.read sendOptions true arguments
    let timeout ← value a "--timeout" 10.0 Text.typedFloat?
    return .send (← place a) ((a.options.get? "--interpreter").getD []) timeout
      (a.isGiven "--send-main") (a.isGiven "--transcript")
  else if name = "sessions" then do
    let a ← Arguments.read sessionsOptions true arguments
    return .sessions (← file a) (a.isGiven "--dedicated")
  else .error (.unknownCommand name)

/-- The command that some arguments give. A question for the version wins over what follows it. -/
def ofArguments (arguments : List Text) : Except UsageFault Command := do
  let a ← Arguments.read [versionFlag] false arguments
  if a.isGiven versionFlag.name then return .version
  match a.others with
  | [] => throw .missingCommand
  | name :: rest => ofName name rest

/-- The file that a command reads. -/
def readFile? : Command → Option Text
  | locate p => some p.file
  | send p .. => some p.file
  | version | sessions .. => none

end Command

end ReplSend
