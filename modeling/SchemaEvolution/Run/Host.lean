import SchemaEvolution.Adapter
import SchemaEvolution.Run.Trace

/-! The outside world of a run: a database, programs and files. What the database and the programs
   say may depend on all that was sent before: what was welcome once may be turned down later. -/
namespace SchemaEvolution

/-- Every answer is given the deliveries that were made before. -/
structure Database where
  adapter : Adapter
  accept : List Delivery → String → Except Failure Unit
  select : List Delivery → String → Except Failure (Option String)

inductive ProgramEnd where
  | success
  | failed (status : String)
  | notStarted (reason : String)
  deriving DecidableEq, Repr

structure World where
  database : Database
  /-- Runs a program on a statement and a table name. -/
  program : List Delivery → String → String → String → ProgramEnd
  /-- Why nothing can be written to a file, if so. -/
  unwritable : String → Option String

/- Without a memory: the same answer whenever the same is asked. -/

structure Connection where
  adapter : Adapter
  accept : String → Except Failure Unit
  select : String → Except Failure (Option String)

structure Host where
  connection : Connection
  program : String → String → String → ProgramEnd
  unwritable : String → Option String

def Connection.database (c : Connection) : Database :=
  ⟨c.adapter, fun _ => c.accept, fun _ => c.select⟩

def Host.world (h : Host) : World := ⟨h.connection.database, fun _ => h.program, h.unwritable⟩

instance : Coe Connection Database := ⟨Connection.database⟩
instance : Coe Host World := ⟨Host.world⟩

namespace Database

def execute (b : Database) (sql : String) : Run Unit := do
  let past ← Run.past
  Run.emit (.execute sql)
  Run.deliver .connection sql
  Run.ofExcept (b.accept past sql)

def ask (b : Database) (sql : String) : Run (Except Failure (Option String)) := do
  let past ← Run.past
  Run.emit (.query sql)
  return b.select past sql

end Database

end SchemaEvolution
