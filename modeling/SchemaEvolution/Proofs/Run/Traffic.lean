import Mathlib.Data.List.Basic
import SchemaEvolution.Proofs.Run.Inquiry
import SchemaEvolution.Run.Execution

/-! The statements that a run captures and delivers, in a dry run and in a live one. Both
   are told here of every part of a run at once: what a dry run shows is not sent. -/
namespace SchemaEvolution

def Delivery.executed? (d : Delivery) : Option String :=
  match d.receiver with
  | .connection => some d.sql
  | .program _ _ => none

namespace Run

/-- Whatever was delivered before, the action captures and delivers these statements. Its events
    tell of exactly those that the database is given. -/
def Sends (act : Run α) (result : Except Failure α) (captured : List String)
    (delivered : List Delivery) : Prop :=
  ∃ trace, trace.filterMap Event.executed? = delivered.filterMap Delivery.executed? ∧
    ∀ past, Yields past act result ⟨⟨trace, captured⟩, delivered⟩

theorem sends_pure (a : α) : Sends (pure a) (.ok a) [] [] := ⟨[], rfl, fun _ => yields_pure a⟩

theorem sends_emit {e : Event} (quiet : e.executed? = none) : Sends (emit e) (.ok ()) [] [] := by
  refine ⟨[e], ?_, fun _ => yields_emit e⟩
  simp [quiet]

theorem sends_log (level : LogLevel) (message : String) (fields : List (String × String)) :
    Sends (log level message fields) (.ok ()) [] [] := sends_emit rfl

theorem sends_capture (sql : String) : Sends (capture sql) (.ok ()) [sql] [] :=
  ⟨[], rfl, fun _ => yields_capture sql⟩

theorem sends_deliver_program (script table sql : String) :
    Sends (deliver (.program script table) sql) (.ok ()) [] [⟨.program script table, sql⟩] :=
  ⟨[], rfl, fun _ => yields_deliver _ sql⟩

namespace Sends

variable {act : Run α} {next : α → Run β} {a : α} {r : Except Failure β}
  {shown more : List String} {sent later : List Delivery}

theorem bind (first : Sends act (.ok a) shown sent) (second : Sends (next a) r more later) :
    Sends (act >>= next) r (shown ++ more) (sent ++ later) := by
  obtain ⟨trace, told, yields⟩ := first
  obtain ⟨trace', told', yields'⟩ := second
  refine ⟨trace ++ trace', ?_, fun past => (yields past).bind (yields' _)⟩
  rw [List.filterMap_append, List.filterMap_append, told, told']

theorem after_silence (first : Sends act (.ok a) [] []) (second : Sends (next a) r more later) :
    Sends (act >>= next) r more later := first.bind second

theorem before_silence (first : Sends act (.ok a) shown sent) (second : Sends (next a) r [] []) :
    Sends (act >>= next) r shown sent := by
  have both := first.bind second
  rw [List.append_nil, List.append_nil] at both
  exact both

theorem after_past {last : Run β} (second : Sends last r more later) :
    Sends (Run.past >>= fun _ => last) r more later := by
  obtain ⟨trace, told, yields⟩ := second
  exact ⟨trace, told, fun past => (yields past).after_past⟩

theorem followed_by {last : Run β} (first : Sends act (.ok a) shown sent)
    (second : Sends last r more later) :
    Sends (act >>= fun _ => last) r (shown ++ more) (sent ++ later) := first.bind second

theorem mapFailure (inner : Sends act (.ok a) shown sent) (f : Failure → Failure) :
    Sends (mapFailure f act) (.ok a) shown sent := by
  obtain ⟨trace, told, yields⟩ := inner
  exact ⟨trace, told, fun past => (yields past).mapFailure f⟩

end Sends

end Run

open Run (Sends)

theorem Database.sends_execute {b : Database} {sql : String}
    (accepted : ∀ past, b.accept past sql = .ok ()) :
    Sends (b.execute sql) (.ok ()) [] [⟨.connection, sql⟩] := by
  refine ⟨[.execute sql], rfl, fun past => ?_⟩
  rw [← accepted past]
  exact b.yields_execute sql

theorem RawStatement.sends_passes {b : Database} (steady : b.Steady) (debug : Bool)
    (s : RawStatement) :
    Sends (s.passes b debug) (.ok (s.allowed (b.select []))) [] [] := by
  have silent := fun e member => (s.quiet_inquiry (b.select []) debug e member).1
  refine ⟨_, List.filterMap_eq_nil_iff.mpr silent, fun past => ?_⟩
  rw [← steady past]
  exact s.yields_passes b debug

end SchemaEvolution
