import SchemaEvolution.CommandLine.Arguments
import SchemaEvolution.Delta.Reader
import SchemaEvolution.Migration

/-! Carrying out a command: what it prints and how it exits. -/
namespace SchemaEvolution.CommandLine

structure Environment where
  host : World
  /-- The text of a file, or why it cannot be read. -/
  file : String → Except String String
  /-- The seconds that a run takes. -/
  seconds : Decimal.Double

/-- Status 0 is success, 1 a failure or a pending delta, 2 a command not understood. -/
structure Outcome where
  exit : Nat
  stdout : String := ""
  stderr : String := ""
  written : List (String × String) := []
  deriving DecidableEq, Repr

def logLine (e : LogEntry) : String :=
  let level := e.level.name
  String.ofList (List.replicate (5 - level.length) ' ') ++ level ++ " " ++ e.message
    ++ String.join (e.fields.map fun f => " " ++ f.1 ++ "=" ++ f.2) ++ "\n"

def shownEntry (verbose : Bool) (e : LogEntry) : String :=
  if verbose || e.level ≠ .debug then logLine e else ""

def logged (verbose : Bool) (trace : List Event) : String :=
  String.join (trace.map fun
    | .log e => shownEntry verbose e
    | _ => "")

def infoLine (message : String) : String := logLine ⟨.info, message, []⟩

structure Trouble where
  message : String
  causes : List String := []
  deriving DecidableEq, Repr

def causesOf : Failure → List String
  | .execution source _ _ => source.message :: causesOf source
  | .io text => [text]
  | _ => []

def Trouble.ofFailure (f : Failure) : Trouble := ⟨f.message, causesOf f⟩

def Trouble.outcome (stdout : String) (t : Trouble) : Outcome where
  exit := 1
  stdout := stdout
  stderr := "Error: " ++ causeReport t.message t.causes ++ "\n"

def loadDelta (env : Environment) (path : String) : Except Trouble Delta :=
  match env.file path with
  | .error reason => .error ⟨reason, []⟩
  | .ok text =>
    match Delta.parse? text with
    | some d => .ok d
    | none => .error (.ofFailure .unreadable)

def loadOptions (env : Environment) (path : Option String) : Except Trouble MigrationOptions :=
  match path with
  | none => .ok {}
  | some path =>
    match env.file path with
    | .error reason => .error (.ofFailure (.io reason))
    | .ok text =>
      match MigrationOptions.parse? text with
      | some o => .ok o
      | none => .error (.ofFailure .unreadable)

def runScript (env : Environment) (verbose : Bool) (flags : RenderFlags) (adapter : Adapter)
    (sql : Bool) : Except Trouble Outcome := do
  let d ← loadDelta env flags.delta
  let options : RenderOptions := { RenderOptions.ofAdapter adapter with
    bulk := flags.bulk, inlineIndexes := flags.inlineIndexes }
  let script ← (d.render options).mapError .ofFailure
  let shown :=
    if sql then String.join ((Sql.scriptStatements adapter script).map (· ++ ";\n"))
    else script.printed
  return { exit := 0, stdout := shownEntry verbose (Migration.renderedEntry script) ++ shown }

def runCheck (env : Environment) (verbose : Bool) (delta : String) : Except Trouble Outcome := do
  let d ← loadDelta env delta
  let adapter := env.host.database.adapter
  let script ← (Migration.script d {} adapter).mapError .ofFailure
  let pending ← (Migration.differs d {} adapter).mapError .ofFailure
  let debug := shownEntry verbose (Migration.renderedEntry script)
  return if pending then { exit := 1, stdout := debug ++ "Delta has pending changes.\n" }
    else { exit := 0, stdout := debug ++ "Schema is up to date.\n" }

def reportLine (env : Environment) (r : MigrationResult) : String :=
  match r.report with
  | some _ =>
    logLine ⟨.info, "Timing report written", [("time", scriptNumberLayout.write env.seconds)]⟩
  | none => ""

def writtenReport (env : Environment) (o : MigrationOptions) (r : MigrationResult) :
    List (String × String) :=
  match o.logFile, r.report with
  | some path, some report => [(path, report.text env.seconds)]
  | _, _ => []

def migrateOutcome (env : Environment) (verbose : Bool) (d : Delta) (o : MigrationOptions) :
    Outcome :=
  let opening :=
    if o.dryRun then infoLine "Dry run mode - SQL will be printed but not executed." else ""
  let (result, session) := (Migration.migrate d o env.host).outcome
  let start := opening ++ logged verbose session.trace
  match result with
  | .error f => (Trouble.ofFailure f).outcome start
  | .ok r =>
    let closing := infoLine (if r.applied then "Delta applied." else "Nothing to apply.")
    { exit := 0
      stdout := start ++ r.output.getD "" ++ reportLine env r ++ closing
      written := writtenReport env o r }

def runApply (env : Environment) (verbose : Bool) (flags : RenderFlags)
    (optionsFile : Option String) (given : MigrationOptions) : Except Trouble Outcome := do
  let d ← loadDelta env flags.delta
  let file ← loadOptions env optionsFile
  return migrateOutcome env verbose d (overrideOptions flags given file)

def Invocation.run (env : Environment) (i : Invocation) : Outcome :=
  let outcome := match i.command with
    | .apply flags optionsFile given => runApply env i.verbose flags optionsFile given
    | .script flags adapter sql => runScript env i.verbose flags adapter sql
    | .check delta => runCheck env i.verbose delta
  match outcome with
  | .ok o => o
  | .error t => t.outcome ""

def Command.inputs : Command → List String
  | .apply flags optionsFile _ => flags.delta :: optionsFile.toList
  | .script flags _ _ => [flags.delta]
  | .check delta => [delta]

def run (env : Environment) (words : List String) : Outcome :=
  match Invocation.read words with
  | some i => i.run env
  | none => { exit := 2 }

end SchemaEvolution.CommandLine
