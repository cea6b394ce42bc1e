import ReplSend.Host
import ReplSend.Locate.Fault
import ReplSend.Settings.Load
import ReplSend.Text.Quoted

/-!
# Failures

Why an operation fails, by cause, and the words in which the causes are told.
-/

namespace ReplSend

inductive Failure where
  | settings (fault : Settings.LoadFault)
  | locate (fault : LocateFault)
  /-- A line of a fragment is indented less than the fragment's first line. -/
  | shallow (line : Nat)
  | noDirectory (path : Text)
  | noInterpreter (name : Text)
  | notStarted (executable reason : Text)
  | dead (session : Text)
  | noInput (session : Text)
  | inputRefused (session : Text)
  | busy (session : Text)
  | badPattern (fault : Pattern.Fault)
  | unknownEncoding
  | unencodable
  | undecodable
  | file (fault : FileFault)
  | badValue
  | badKey
  | badMarkup
  deriving DecidableEq

/-- The classes of failures that callers tell apart. -/
inductive FailureClass where
  | configuration
  | navigation
  | malformedBlock
  | noActiveBlock
  | sessionUnavailable
  | sessionBusy
  /-- A fault outside the program's own concerns. -/
  | foreign
  deriving DecidableEq, Repr

namespace Failure

def kind : Failure → FailureClass
  | settings (.invalid _) => .configuration
  | settings _ => .foreign
  | locate f => if f.isOutside then .noActiveBlock else .navigation
  | shallow _ => .malformedBlock
  | noDirectory _ | noInterpreter _ | notStarted .. => .configuration
  | dead _ | noInput _ | inputRefused _ => .sessionUnavailable
  | busy _ => .sessionBusy
  | badPattern _ | unknownEncoding | unencodable | undecodable | file _ | badValue | badKey
  | badMarkup => .foreign

def message : Failure → Text
  | settings (.invalid fields) =>
    Text.unlines (fields.map fun (name, fault) => name ++ (": " : Text) ++ fault.name)
  | locate f => f.message
  | shallow line =>
    "Can't send the region: line " ++ Text.ofNat line ++ " is indented less than its first line"
  | noDirectory path => "Starting directory " ++ Text.quoted path ++ " is not a directory"
  | noInterpreter name => "Python interpreter " ++ Text.quoted name ++ " could not be found"
  | notStarted executable reason => "Cannot start " ++ executable ++ ": " ++ reason
  | dead name => "Session " ++ name ++ " has no live process"
  | noInput name => "Session " ++ name ++ " has no input stream"
  | inputRefused name => "Session " ++ name ++ " stopped accepting input"
  | busy name => "Session " ++ name ++ " is still capturing the previous send"
  | _ => []

end Failure

end ReplSend
