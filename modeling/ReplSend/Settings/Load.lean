import ReplSend.Settings.Basic
import ReplSend.Settings.Coerce
import ReplSend.Settings.Dotenv
import ReplSend.Text.Encoding

/-!
# Loading settings

A setting comes from the first of these that has it: the overrides, the environment, the file of
assignments, the defaults. Names are compared without regard to case; in the environment and the
file they carry a common beginning. Every field is checked, and all faults are reported in the
order of the fields.
-/

namespace ReplSend.Settings

/-- What every name in the environment starts with. -/
def namespaceMark : Text := "pyrelay_"

inductive LoadFault where
  /-- Fields with a value that cannot be used. -/
  | invalid (fields : List (Text × FieldFault))
  /-- A list that is not written as JSON. -/
  | unreadableList
  /-- The file of assignments is not UTF-8. -/
  | undecodable
  /-- A rule cannot deal with a value. -/
  | excessive
  deriving DecidableEq

/-- A value, or every fault that was found instead. -/
inductive Checked (α : Type) where
  | ok (a : α)
  | faulty (fields : List (Text × FieldFault))

namespace Checked

/-- Applies a checked function to one more checked value; the faults of both add up. -/
def apply {α β : Type} (f : Checked (α → β)) (a : Checked α) : Checked β :=
  match f, a with
  | ok f, ok a => ok (f a)
  | ok _, faulty e => faulty e
  | faulty e, ok _ => faulty e
  | faulty e, faulty e' => faulty (e ++ e')

def map {α β : Type} (f : α → β) : Checked α → Checked β
  | ok a => ok (f a)
  | faulty e => faulty e

def ofExcept {α : Type} (field : Text) : Except FieldFault α → Checked α
  | .ok a => ok a
  | .error e => faulty [(field, e)]

end Checked

/-- The values that were given, by the names of fields. -/
abbrev Given := List (Text × Value)

def Given.get? (g : Given) (field : Text) : Option Value := (g.find? (·.1 = field)).map (·.2)

/-! ### Rules for single fields -/

/-- A field with a rule that looks at its value; the default if the value is not given. -/
def field {α : Type} (g : Given) (name : Text) (default : α) (read : Value → Except FieldFault α) :
    Checked α :=
  match g.get? name with
  | none => .ok default
  | some v => .ofExcept name (read v)

/-- A directory can be anything but blank. -/
def directory (v : Value) : Except FieldFault Text := do
  let t ← Coerce.text v
  if Text.allBlank t then throw .refused else return t

/-- The rule for fields that hold patterns. -/
def checkPattern (named : Text → Option Char) (t : Text) : Except FieldFault Text :=
  match Pattern.parse named t with
  | .ok _ => .ok t
  | .error .excessive => .error .excessive
  | .error _ => .error .refused

def regexp (named : Text → Option Char) (v : Value) : Except FieldFault Text :=
  Coerce.text v >>= checkPattern named

/-- A number that is not negative. -/
def duration (v : Value) : Except FieldFault Float := do
  let x ← Coerce.float v
  if x < 0.0 then throw .belowLeast else return x

/-- A positive number. -/
def interval (v : Value) : Except FieldFault Float := do
  let x ← Coerce.float v
  if x ≤ 0.0 then throw .notAboveLeast else return x

/-- A number of lines. -/
def lineCount (v : Value) : Except FieldFault Nat := do
  let n ← Coerce.int v
  if n < 0 then throw .belowLeast else return n.toNat

/-- A list of texts; a faulty item is named by its position. -/
def textList (g : Given) (name : Text) (default : List Text) : Checked (List Text) :=
  match g.get? name with
  | none => .ok default
  | some (.list items) =>
    items.zipIdx.foldr (fun (v, i) rest =>
      ((Checked.ofExcept (name ++ '.' :: Text.ofNat i) (Coerce.text v)).map List.cons).apply rest)
      (.ok [])
  | some _ => .faulty [(name, .notList)]

def hiddenWord : Text := "when-shell-not-visible"

/-- A truth value or the word for the third choice. A value that is neither has two faults. -/
def echoChoice (g : Given) (name : Text) : Checked EchoOutput :=
  match g.get? name with
  | none => .ok .whenHidden
  | some v =>
    match v, Coerce.bool v with
    | _, .ok b => .ok (if b then .always else .never)
    | .text t, .error e =>
      if t = hiddenWord then .ok .whenHidden
      else .faulty [(name ++ ".bool", e), (name ++ ".literal['" ++ hiddenWord ++ "']", .notChoice)]
    | _, .error e =>
      .faulty [(name ++ ".bool", e), (name ++ ".literal['" ++ hiddenWord ++ "']", .notChoice)]

/-! ### All fields -/

def ofGiven (named : Text → Option Char) (g : Given) : Checked (Settings Float) :=
  Checked.ok Settings.mk
    |>.apply (field g "interpreter" default.interpreter Coerce.text)
    |>.apply (textList g "interpreter_args" default.interpreterArgs)
    |>.apply (field g "starting_directory" default.startingDirectory directory)
    |>.apply (field g "dedicated" default.dedicated Coerce.bool)
    |>.apply (field g "prompt_regexp" default.promptRegexp (regexp named))
    |>.apply (field g "encoding" default.encoding Coerce.text)
    |>.apply (field g "ready_timeout" default.readyTimeout duration)
    |>.apply (field g "poll_interval" default.pollInterval interval)
    |>.apply (field g "echo_input" default.echoInput Coerce.bool)
    |>.apply (echoChoice g "echo_output")
    |>.apply (field g "echo_input_lines_head" default.echoHead lineCount)
    |>.apply (field g "echo_input_lines_tail" default.echoTail lineCount)
    |>.apply (field g "cell_boundary_regexp" default.cellBoundary (regexp named))
    |>.apply (field g "codecell_beginning_regexp" default.cellBeginning (regexp named))
    |>.apply (field g "log_level" default.logLevel Coerce.text)

/-! ### Where values come from -/

/-- The field that a name in the environment stands for. -/
def fieldName? (name : Text) : Option Text :=
  Text.dropOpening? namespaceMark (Text.lowerAscii name)

/-- The values that named texts give; of two for one field the later. The list among the fields
has to be written as JSON. -/
def ofNamed (named : Table (Option Text)) : Except LoadFault Given :=
  let given := named.foldl (fun (g : Table (Option Text)) (name, t) =>
    (fieldName? name).elim g (g.put · t)) []
  let g : Given := given.filterMap fun (f, t) => t.map fun t => (f, .text t)
  match g.get? "interpreter_args" with
  | some (.text t) =>
    match Value.parse? t with
    | some v => .ok (("interpreter_args", v) :: g)
    | none => .error .unreadableList
  | _ => .ok g

/-- The assignments of a file. -/
def ofFile (environment : Table Text) : Option Bytes → Except LoadFault Given
  | none => .ok []
  | some bytes =>
    match Encoding.decode? .utf8 bytes with
    | some t => ofNamed (Dotenv.assignments environment (Encoding.newlines t))
    | none => .error .undecodable

/-- Overrides by the names of the fields; of two for one field the later. -/
def ofOverrides (overrides : List (Text × Value)) : Given :=
  overrides.reverse.map fun (name, v) => (Text.lowerAscii name, v)

/-- The settings from overrides, environment and file. -/
def load (named : Text → Option Char) (overrides : List (Text × Value)) (environment : Table Text)
    (file : Option Bytes) : Except LoadFault (Settings Float) := do
  let env ← ofNamed (environment.map fun (name, t) => (name, some t))
  let assigned ← ofFile environment file
  match ofGiven named (ofOverrides overrides ++ env ++ assigned) with
  | .ok s => return s
  | .faulty fields =>
    throw (if fields.any (·.2 = .excessive) then .excessive else .invalid fields)

end ReplSend.Settings
