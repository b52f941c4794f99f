import PageScheme.Command.Running

/-!
# The program

Reads the files that the command line names, runs the command, and prints what comes of it. The log
gives the time since the program was started.
-/
namespace PageScheme.Command

/-- The bytes of an opened file; what can be opened and not read is a folder. -/
def contentOf (handle : IO.FS.Handle) : IO Entry := do
  try
    return .file (← handle.readBinToEnd).toList
  catch _ =>
    return .folder

def lookUp (name : String) : IO (Option Entry) := do
  try
    return some (← contentOf (← IO.FS.Handle.mk name .read))
  catch
    | .permissionDenied .. => return some .locked
    | _ => return none

def folderFor (line : List String) : IO Folder := do
  let entries ← (filesNamed line).mapM fun name => do
    return (← lookUp (plainName name)).map fun entry => (plainName name, entry)
  return ⟨entries.filterMap id⟩

def report (outcome : Outcome) : IO UInt32 := do
  IO.print outcome.output
  IO.eprint (outcome.diagnostics (toString (← IO.monoMsNow)))
  if let some fault := outcome.fault? then
    IO.eprintln fault.text
  return outcome.status.toUInt32

end PageScheme.Command

open PageScheme.Command in
def main (line : List String) : IO UInt32 := do
  report (run .usual (← folderFor line) line)
