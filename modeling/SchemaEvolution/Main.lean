import SchemaEvolution.CommandLine.Command

/-! The command line. No database is attached to it: a statement that would be sent
   fails the run, while scripts, checks and dry runs need none. -/
namespace SchemaEvolution.CommandLine

def detached : Connection where
  adapter := .sqlite
  accept := fun _ => .error (.connection "no database is attached")
  select := fun _ => .error (.connection "no database is attached")

def offline : Host where
  connection := detached
  program := fun _ _ _ => .notStarted "no program can be started"
  unwritable := fun _ => none

def readInput (path : String) : IO (String × Except String String) := do
  try
    return (path, .ok (← IO.FS.readFile path))
  catch e =>
    return (path, .error (toString e))

def environmentOf (files : List (String × Except String String)) : Environment where
  host := offline
  file := fun path => (files.lookup path).getD (.error "not read")
  seconds := ⟨false, .zero⟩

def writeOutput (path text : String) : IO String := do
  try
    IO.FS.writeFile path text
    return ""
  catch e =>
    return (Trouble.ofFailure (.io (toString e))).outcome "" |>.stderr

def perform (words : List String) : IO UInt32 := do
  let inputs := ((Invocation.read words).map fun i => i.command.inputs).getD []
  let files ← inputs.mapM readInput
  let outcome := run (environmentOf files) words
  let failures ← outcome.written.mapM fun f => writeOutput f.1 f.2
  let stderr := outcome.stderr ++ String.join failures
  (← IO.getStdout).putStr outcome.stdout
  (← IO.getStderr).putStr stderr
  return UInt32.ofNat (if stderr.isEmpty then outcome.exit else max 1 outcome.exit)

end SchemaEvolution.CommandLine

def main (words : List String) : IO UInt32 := SchemaEvolution.CommandLine.perform words
