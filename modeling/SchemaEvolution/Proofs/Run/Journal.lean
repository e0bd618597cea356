import SchemaEvolution.Run.Host

/-! Actions only ever add to the journal. What one adds, and what it results in, depends on
   nothing but what was delivered before, so actions in a row add up. -/
namespace SchemaEvolution

namespace Journal

def append (a b : Journal) : Journal :=
  ⟨⟨a.trace ++ b.trace, a.captured ++ b.captured⟩, a.delivered ++ b.delivered⟩

instance : Append Journal := ⟨append⟩

theorem append_eq (a b : Journal) :
    a ++ b = ⟨⟨a.trace ++ b.trace, a.captured ++ b.captured⟩, a.delivered ++ b.delivered⟩ := rfl

theorem append_empty (a : Journal) : a ++ ({} : Journal) = a := by
  simp [append_eq]

theorem append_assoc (a b c : Journal) : a ++ b ++ c = a ++ (b ++ c) := by
  simp [append_eq]

end Journal

namespace Run

/-- After these deliveries the action gives the result and adds this to the journal. -/
def Yields (past : List Delivery) (act : Run α) (result : Except Failure α) (more : Journal) :
    Prop :=
  ∀ j, j.delivered = past → act.run.run j = (result, j ++ more)

variable {past : List Delivery}

theorem yields_pure (a : α) : Yields past (pure a) (.ok a) {} := by
  intro j _
  rw [Journal.append_empty]
  rfl

theorem yields_ofExcept (r : Except Failure α) : Yields past (ofExcept r) r {} := by
  intro j _
  rw [Journal.append_empty]
  rfl

theorem yields_past (past : List Delivery) : Yields past Run.past (.ok past) {} := by
  intro j same
  rw [Journal.append_empty, ← same]
  rfl

theorem yields_emit (e : Event) : Yields past (emit e) (.ok ()) ⟨⟨[e], []⟩, []⟩ := by
  intro j _
  simp [Journal.append_eq]
  rfl

theorem yields_capture (sql : String) : Yields past (capture sql) (.ok ()) ⟨⟨[], [sql]⟩, []⟩ := by
  intro j _
  simp [Journal.append_eq]
  rfl

theorem yields_deliver (receiver : Receiver) (sql : String) :
    Yields past (deliver receiver sql) (.ok ()) ⟨⟨[], []⟩, [⟨receiver, sql⟩]⟩ := by
  intro j _
  simp [Journal.append_eq]
  rfl

theorem Yields.outcome {act : Run α} {result : Except Failure α} {m : Journal}
    (yields : Yields [] act result m) : act.outcome = (result, m) := yields {} rfl

namespace Yields

variable {act : Run α} {next : α → Run β} {a : α} {m n : Journal} {r : Except Failure β}

theorem run_bind (first : Yields past act (.ok a) m) {j : Journal} (before : j.delivered = past) :
    (act >>= next).run.run j = (next a).run.run (j ++ m) := by
  change (ExceptT.bindCont next (act.run.run j).1).run (act.run.run j).2 = _
  rw [first j before]
  rfl

theorem bind (first : Yields past act (.ok a) m)
    (second : Yields (past ++ m.delivered) (next a) r n) :
    Yields past (act >>= next) r (m ++ n) := by
  intro j before
  rw [first.run_bind before, second _ (congrArg (· ++ m.delivered) before), Journal.append_assoc]

theorem bind_quiet (first : Yields past act (.ok a) m) (quiet : m.delivered = [])
    (second : Yields past (next a) r n) : Yields past (act >>= next) r (m ++ n) := by
  refine first.bind ?_
  rw [quiet, List.append_nil]
  exact second

theorem after_emit {e : Event} {last : Run β} (second : Yields past last r n) :
    Yields past (emit e >>= fun _ => last) r ⟨⟨e :: n.trace, n.captured⟩, n.delivered⟩ :=
  (yields_emit e).bind_quiet rfl second

theorem before_silence (first : Yields past act (.ok a) m)
    (second : ∀ past, Yields past (next a) r {}) : Yields past (act >>= next) r m := by
  have both := first.bind (second _)
  rw [Journal.append_empty] at both
  exact both

theorem stop {e : Failure} (first : Yields past act (.error e) m) :
    Yields past (act >>= next) (.error e) m := by
  intro j before
  change (ExceptT.bindCont next (act.run.run j).1).run (act.run.run j).2 = _
  rw [first j before]
  rfl

theorem mapFailure {result : Except Failure α} (inner : Yields past act result m)
    (f : Failure → Failure) : Yields past (mapFailure f act) (result.mapError f) m := by
  intro j before
  rw [Run.mapFailure, ExceptT.run_mk, StateT.run_bind, inner j before]
  cases result <;> rfl

theorem after_past {next : List Delivery → Run β} (second : Yields past (next past) r n) :
    Yields past (Run.past >>= next) r n := by
  intro j before
  rw [(yields_past past).run_bind before, Journal.append_empty, second j before]

end Yields

end Run

namespace Database

variable {past : List Delivery}

theorem yields_execute (b : Database) (sql : String) :
    Run.Yields past (b.execute sql) (b.accept past sql)
      ⟨⟨[.execute sql], []⟩, [⟨.connection, sql⟩]⟩ := by
  refine Run.Yields.after_past (Run.Yields.after_emit (n := ⟨⟨[], []⟩, [_]⟩) ?_)
  exact (Run.yields_deliver _ sql).before_silence fun _ => Run.yields_ofExcept _

theorem yields_ask (b : Database) (sql : String) :
    Run.Yields past (b.ask sql) (.ok (b.select past sql)) ⟨⟨[.query sql], []⟩, []⟩ := by
  refine Run.Yields.after_past ?_
  exact (Run.yields_emit _).before_silence fun _ => Run.yields_pure _

end Database

end SchemaEvolution
