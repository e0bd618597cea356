import SchemaEvolution.Failure

/-! What happens while a delta is applied: events in order, the statements that a dry
   run captures, and those that leave the program. A failure keeps all that happened
   before it. -/
namespace SchemaEvolution

inductive LogLevel where
  | debug
  | info
  | warn
  deriving DecidableEq, Repr

def LogLevel.name : LogLevel → String
  | debug => "DEBUG"
  | info => "INFO"
  | warn => "WARN"

structure LogEntry where
  level : LogLevel
  message : String
  fields : List (String × String) := []
  deriving DecidableEq, Repr

inductive Event where
  | observe (sql : String)
  | execute (sql : String)
  | query (sql : String)
  | log (entry : LogEntry)
  deriving DecidableEq, Repr

structure Session where
  trace : List Event := []
  captured : List String := []
  deriving DecidableEq, Repr

/-- Who is given a statement: the database, or a program that is told a table. -/
inductive Receiver where
  | connection
  | program (script table : String)
  deriving DecidableEq, Repr

structure Delivery where
  receiver : Receiver
  sql : String
  deriving DecidableEq, Repr

structure Journal extends Session where
  delivered : List Delivery := []
  deriving DecidableEq, Repr

abbrev Run := ExceptT Failure (StateM Journal)

namespace Run

def emit (e : Event) : Run Unit := modify fun j => { j with trace := j.trace ++ [e] }

def log (level : LogLevel) (message : String) (fields : List (String × String)) : Run Unit :=
  emit (.log ⟨level, message, fields⟩)

def capture (sql : String) : Run Unit := modify fun j => { j with captured := j.captured ++ [sql] }

def deliver (receiver : Receiver) (sql : String) : Run Unit :=
  modify fun j => { j with delivered := j.delivered ++ [⟨receiver, sql⟩] }

def past : Run (List Delivery) := return (← get).delivered

def ofExcept (r : Except Failure α) : Run α := ExceptT.mk (pure r)

/-- Rewords a failure; what happened before it stays. -/
def mapFailure (f : Failure → Failure) (act : Run α) : Run α :=
  ExceptT.mk (do
    match ← act.run with
    | .ok a => pure (.ok a)
    | .error e => pure (.error (f e)))

def outcome (act : Run α) (s : Session := {}) : Except Failure α × Journal := act.run.run ⟨s, []⟩

end Run

end SchemaEvolution
