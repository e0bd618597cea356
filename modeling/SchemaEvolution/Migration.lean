import SchemaEvolution.Json.Printer
import SchemaEvolution.Rendering
import SchemaEvolution.Run.Execution

/-! Migrating: a delta is rendered for the adapter of a connection and applied, with
   an optional report file. -/
namespace SchemaEvolution

structure Report where
  applied : Bool
  captured : Option String
  deriving DecidableEq, Repr

/-- The report document, with the seconds that the run took. -/
def Report.toJson (r : Report) (seconds : Decimal.Double) : Json :=
  .record [("result", .array [.bool r.applied, .ofOption .ofString r.captured]),
    ("time", .number (.real seconds))]

def Report.text (r : Report) (seconds : Decimal.Double) : String :=
  (r.toJson seconds).writeIndented 0

structure MigrationResult where
  applied : Bool
  output : Option String
  report : Option Report
  deriving DecidableEq, Repr

def MigrationOptions.renderOptions (o : MigrationOptions) (a : Adapter) : RenderOptions :=
  { RenderOptions.ofAdapter a with bulk := o.bulk, inlineIndexes := o.inlineIndexes }

namespace Migration

def script (d : Delta) (o : MigrationOptions) (a : Adapter) : Rendered Script :=
  d.render (o.renderOptions a)

def differs (d : Delta) (o : MigrationOptions) (a : Adapter) : Rendered Bool := do
  return !(← script d o a).isEmpty || !d.statements.isEmpty

def renderedEntry (s : Script) : LogEntry :=
  ⟨.debug, "Rendered schema delta",
    [("pre", (s.inPhase .pre).length.repr), ("main", (s.inPhase .main).length.repr),
      ("post", (s.inPhase .post).length.repr)]⟩

def startedEntry (a : Adapter) (s : Script) : LogEntry :=
  ⟨.debug, "Rendered delta", [("adapter", a.name), ("lines", s.lineCount.repr)]⟩

def finishedEntry (o : MigrationOptions) (result : ExecutionResult) : LogEntry :=
  ⟨.info, if o.dryRun then "Dry run finished" else "Migration finished",
    [("applied", truthText result.applied)]⟩

def reportEntry (path : String) : LogEntry := ⟨.debug, "Wrote migration report", [("path", path)]⟩

def execute (d : Delta) (o : MigrationOptions) (w : World) : Run ExecutionResult := do
  let rendered ← Run.ofExcept (script d o w.database.adapter)
  Run.emit (.log (renderedEntry rendered))
  Run.emit (.log (startedEntry w.database.adapter rendered))
  let result ← Execution.run o w rendered d.statements
  Run.emit (.log (finishedEntry o result))
  return result

def migrate (d : Delta) (o : MigrationOptions) (w : World) : Run MigrationResult := do
  let result ← execute d o w
  match o.logFile with
  | none => return ⟨result.applied, result.captured, none⟩
  | some path =>
    match w.unwritable path with
    | some reason => throw (.io reason)
    | none =>
      Run.emit (.log (reportEntry path))
      return ⟨result.applied, result.captured, some ⟨result.applied, result.captured⟩⟩

end Migration

end SchemaEvolution
