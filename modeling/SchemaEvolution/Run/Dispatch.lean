import SchemaEvolution.Run.Host
import SchemaEvolution.Sql.Recognise

/-! Where a generated statement goes. It is observed as generated and then decorated;
   a dry run captures it if it is structural, a live run skips comments, hands ALTER
   TABLE to the external script if there is one, and sends the rest. -/
namespace SchemaEvolution

structure Dispatch where
  dryRun : Bool
  alterExtra : Option String := none
  externalScript : Option String := none
  deriving DecidableEq, Repr

namespace Dispatch

/-- The extra text follows every ALTER statement. -/
def decorate (d : Dispatch) (sql : String) : String :=
  match d.alterExtra with
  | some extra => if Sql.isAlter sql then sql ++ "," ++ extra else sql
  | none => sql

/-- The external script and the table it is told, for a statement that goes there. -/
def scriptTarget? (d : Dispatch) (sql : String) : Option (String × String) := do
  return (← d.externalScript, ← Sql.alterTableTarget sql)

def runScript (w : World) (script sql table : String) : Run Unit := do
  let past ← Run.past
  Run.log .info "Running external script" [("script", script), ("table", table)]
  Run.deliver (.program script table) sql
  match w.program past script sql table with
  | .success => return ()
  | .failed status => throw (.externalScript script status sql)
  | .notStarted reason => throw (.io reason)

def sendLive (d : Dispatch) (w : World) (sql : String) : Run Unit :=
  if Sql.isComment sql then
    Run.log .warn "Skipping comment (unsupported operation)" [("comment", sql)]
  else
    match d.scriptTarget? sql with
    | some (script, table) => runScript w script sql table
    | none => do
      Run.log .debug "Executing SQL" [("sql", sql)]
      w.database.execute sql

def captureDry (sql : String) : Run Unit :=
  if Sql.isStructural sql then Run.capture sql else Run.log .debug "Not captured" [("sql", sql)]

def generated (d : Dispatch) (w : World) (sql : String) : Run Unit := do
  Run.emit (.observe sql)
  if d.dryRun then captureDry (d.decorate sql) else d.sendLive w (d.decorate sql)

/-- A statement given by the user, which is neither observed nor decorated. -/
def given (d : Dispatch) (w : World) (sql : String) : Run Unit :=
  if d.dryRun then Run.capture sql else w.database.execute sql

def capturedText (d : Dispatch) (s : Session) : Option String :=
  if d.dryRun then some (String.join (s.captured.map (· ++ "\n"))) else none

end Dispatch

end SchemaEvolution
