import ReplSend.CommandLine.Report

/-!
# The program

Reads what a command line needs from the machine, runs it and prints the report. The program
starts no processes, so no interpreter is ever found from here.
-/

namespace ReplSend.Machine

/-- The bytes of a file, if it can be read. -/
def fileBytes? (path : Text) : IO (Option Bytes) := do
  try
    return some (← IO.FS.readBinFile path.asString).toList
  catch _ => return none

/-- The variables in a block of assignments, each ended by a zero byte. -/
def environment (block : Bytes) : Table Text :=
  let assignments := ((Encoding.utf8.decode? block).getD []).splitOn (Char.ofNat 0)
  assignments.map fun t => (t.takeWhile (· != '='), (t.dropWhile (· != '=')).drop 1)

/-- The machine as far as a command line looks at it: some files and the environment. -/
def host (files : List Text) : IO Host := do
  let current := (← IO.currentDir).toString.toList
  let mut contents : Table Bytes := []
  for path in files do
    if let some bytes ← fileBytes? path then
      contents := contents.put (Path.join current path) bytes
  let given := environment ((← fileBytes? "/proc/self/environ").getD [])
  return ⟨current, [current], contents, [], given, "/tmp/fragment", .basic, fun _ => none⟩

/-- Runs a command line and gives its exit code. -/
def run (arguments : List Text) : IO Nat := do
  let named := match Command.ofArguments arguments with
    | .ok c => c.readFile?.toList
    | .error _ => []
  let r := Report.ofArguments (← host (".env" :: named)) [] arguments
  IO.print r.printed.asString
  return r.ending.exitCode

end ReplSend.Machine

def main (arguments : List String) : IO UInt32 := do
  return (← ReplSend.Machine.run (arguments.map String.toList)).toUInt32
