import SchemaEvolution.Delta.Basic
import SchemaEvolution.Run.CauseChain
import SchemaEvolution.Run.Host
import SchemaEvolution.Text.Blank

/-! Guards decide whether a raw statement runs. A guard that fails is never fatal: its
   statement is left out and a warning is logged. -/
namespace SchemaEvolution

/-- Why a guard gave no answer: a message and its causes, outermost first. -/
structure GuardError where
  message : String
  causes : List String := []
  deriving DecidableEq, Repr

def GuardError.report (debug : Bool) (e : GuardError) : String :=
  if debug then causeReport e.message e.causes else e.message

def GuardError.ofChain (messages : List String) : GuardError :=
  match messages.reverse with
  | [] => ⟨"", []⟩
  | message :: causes => ⟨message, causes⟩

/-- A value other than none, the empty text, zero, `f` and `false`, apart from case
   and surrounding blanks. -/
def isTruthy (value : String) : Bool :=
  let plain := (String.ofList (Text.trim value.toList)).toLower
  !(["", "0", "f", "false"].contains plain)

def Predicate.evaluate (b : Database) : Predicate → Run (Except GuardError Bool)
  | answer pass => return .ok pass
  | failure messages => return .error (.ofChain messages)
  | panic message => return .error ⟨"guard panicked: " ++ message.getD "unknown panic", []⟩
  | ask query next => do (next (← b.ask query)).evaluate b

def Guard.evaluate (b : Database) : Guard → Run (Except GuardError Bool)
  | query sql => do
    match ← b.ask sql with
    | .ok value => return .ok ((value.map isTruthy).getD false)
    | .error e => return .error ⟨e.message, []⟩
  | predicate p => p.evaluate b

def RawStatement.skipWarning (s : RawStatement) (debug : Bool) (e : GuardError) : LogEntry :=
  ⟨.warn, "\x60" ++ s.sql ++ "\x60 is not executed: " ++ e.report debug, [("sql", s.sql)]⟩

def RawStatement.passes (b : Database) (debug : Bool) (s : RawStatement) : Run Bool :=
  match s.guard with
  | none => return true
  | some guard => do
    match ← guard.evaluate b with
    | .ok pass => return pass
    | .error e =>
      Run.emit (.log (s.skipWarning debug e))
      return false

end SchemaEvolution
