import SchemaEvolution.Options
import SchemaEvolution.Run.Dispatch
import SchemaEvolution.Run.Excerpt
import SchemaEvolution.Run.Guard
import SchemaEvolution.Sql.Statement

/-! Applying a script: the query before, every step, the raw statements, the query
   after. The first failure ends the run, attributed to its script line. -/
namespace SchemaEvolution

def MigrationOptions.dispatch (o : MigrationOptions) : Dispatch :=
  ⟨o.dryRun, o.alterExtra, o.externalScript⟩

def truthText (b : Bool) : String := if b then "true" else "false"

def Step.announcement (dryRun : Bool) (s : Step) : LogEntry :=
  let subject := [("table", s.operation.table), ("kind", s.operation.kindName)]
  if dryRun then ⟨.debug, "Capturing operation", subject⟩
  else ⟨.info, "Applying operation", subject ++ [("line", s.line.repr)]⟩

def wrapperEntry (sql : String) : LogEntry :=
  ⟨.debug, "Executing wrapper statement", [("sql", sql)]⟩

def rawEntry (sql : String) : LogEntry := ⟨.info, "Executing raw statement", [("sql", sql)]⟩

structure ExecutionResult where
  applied : Bool
  captured : Option String
  deriving DecidableEq, Repr

namespace Execution

/-- A statement that the user gives belongs to no line. A live run announces it. -/
def given (o : MigrationOptions) (w : World) (script : Script) (entry : LogEntry) (sql : String) :
    Run Unit := do
  unless o.dryRun do Run.emit (.log entry)
  Run.mapFailure (·.attribute script 0) (o.dispatch.given w sql)

def wrapper (o : MigrationOptions) (w : World) (script : Script) (sql : Option String) : Run Unit :=
  match sql with
  | none => return ()
  | some sql => given o w script (wrapperEntry sql) sql

def placed (o : MigrationOptions) (w : World) (script : Script) (s : Sql.PlacedStatement) :
    Run Unit :=
  Run.mapFailure (·.attribute script s.line) (o.dispatch.generated w s.sql)

def step (o : MigrationOptions) (w : World) (script : Script) (s : Step) : Run Unit := do
  Run.emit (.log (s.announcement o.dryRun))
  (Sql.stepStatements w.database.adapter s).forM (placed o w script)

def raw (o : MigrationOptions) (w : World) (script : Script) (sql : String) : Run Unit :=
  given o w script (rawEntry sql) sql

def rawStatements (o : MigrationOptions) (w : World) (script : Script) :
    List RawStatement → Run Bool
  | [] => return false
  | s :: rest => do
    let pass ← s.passes w.database o.debug
    if pass then raw o w script s.sql
    let more ← rawStatements o w script rest
    return pass || more

def run (o : MigrationOptions) (w : World) (script : Script) (statements : List RawStatement) :
    Run ExecutionResult := do
  wrapper o w script o.preQuery
  script.steps.forM (step o w script)
  let rawApplied ← rawStatements o w script statements
  wrapper o w script o.postQuery
  return ⟨!script.isEmpty || rawApplied, o.dispatch.capturedText (← get).toSession⟩

end Execution

end SchemaEvolution
