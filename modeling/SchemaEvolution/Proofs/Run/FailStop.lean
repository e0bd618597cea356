import SchemaEvolution.Proofs.Run.Outgoing

/-! A live run ends with the first statement that the database rejects. Up to there it is
   the run over a database that rejects nothing, and nothing at all happens afterwards. -/
namespace SchemaEvolution

namespace World

/-- The same world, if it turned nothing down. -/
def welcoming (w : World) : World where
  database := { w.database with accept := fun _ _ => .ok () }
  program := fun _ _ _ _ => .success
  unwritable := w.unwritable

theorem answer_welcoming (w : World) (past : List Delivery) (d : Delivery) :
    w.welcoming.answer past d = .ok () := by
  obtain ⟨receiver, sql⟩ := d
  cases receiver <;> rfl

end World

namespace Execution

variable {o : MigrationOptions} {w : World} {script : Script}

theorem chosen_welcoming (w : World) (past : List Delivery) (ss : List RawStatement) :
    RawStatement.chosen w.welcoming.database past ss = RawStatement.chosen w.database past ss := by
  induction ss generalizing past with
  | nil => rfl
  | cons s ss ih =>
    rw [RawStatement.chosen, RawStatement.chosen, ih, ih]
    rfl

theorem rawMoves_welcoming (o : MigrationOptions) (w : World) (past : List Delivery)
    (ss : List RawStatement) :
    rawMoves o w.welcoming.database past ss = rawMoves o w.database past ss := by
  induction ss generalizing past with
  | nil => rfl
  | cons s ss ih =>
    rw [rawMoves, rawMoves, ih, ih]
    rfl

theorem outcome_welcoming (live : o.dryRun = false) (w : World) (statements : List RawStatement) :
    let past := beforeRaw o w.database.adapter script
    (run o w.welcoming script statements).outcome =
      (.ok ⟨!script.isEmpty || !(RawStatement.chosen w.database past statements).isEmpty, none⟩,
        Move.journal (moves o w.database script statements)) := by
  have same : moves o w.welcoming.database script statements =
      moves o w.database script statements := by
    unfold moves
    rw [rawMoves_welcoming]
    rfl
  rcases outcome_live live w.welcoming script statements with
    ⟨_, ran⟩ | ⟨_, _, _, d, e, _, _, _, rejected, _⟩
  · rw [same, chosen_welcoming] at ran
    exact ran
  · rw [w.answer_welcoming] at rejected
    contradiction

theorem direct_moves (noScript : o.externalScript = none) {b : Database}
    (statements : List RawStatement) : ∀ m ∈ moves o b script statements, m.Direct := by
  unfold moves scriptMoves
  simp only [List.forall_mem_append]
  refine ⟨⟨direct_wrapperMoves _, fun m member => ?_⟩, direct_rawMoves _, direct_wrapperMoves _⟩
  exact (ofScript_of_mem m member).direct noScript

section NoScript

variable {a : Adapter} {b : Database} (noScript : o.externalScript = none)

include noScript

theorem executed_scriptMoves :
    (Move.journal (scriptMoves o a script)).executed =
      o.preQuery.toList
        ++ (Sql.scriptStatements a script).filterMap (Sql.outgoing? o.alterExtra) := by
  rw [scriptMoves, Move.journal_append, Journal.executed_append, executed_wrapperMoves,
    Move.OfScript.executed_eq (d := o.dispatch) noScript ofScript_of_mem, observed_steps]
  rfl

theorem executed_moves (steady : b.Steady) (statements : List RawStatement) :
    (Move.journal (moves o b script statements)).executed =
      o.preQuery.toList
        ++ (Sql.scriptStatements b.adapter script).filterMap (Sql.outgoing? o.alterExtra)
        ++ (statements.filter (·.allowed (b.select []))).map RawStatement.sql
        ++ o.postQuery.toList := by
  simp only [moves, Move.journal_append, Journal.executed_append, executed_scriptMoves noScript,
    executed_rawMoves, executed_wrapperMoves, RawStatement.chosen_of_steady steady,
    List.append_assoc]

end NoScript

theorem observed_scriptMoves {a : Adapter} :
    (Move.journal (scriptMoves o a script)).observed = Sql.scriptStatements a script := by
  rw [scriptMoves, Move.journal_append, Journal.observed_append, observed_wrapperMoves,
    observed_steps, List.nil_append]

theorem observed_later {b : Database} (past : List Delivery) (statements : List RawStatement) :
    (Move.journal (rawMoves o b past statements ++ wrapperMoves o.postQuery)).observed = [] := by
  rw [Move.journal_append, Journal.observed_append, observed_rawMoves, observed_wrapperMoves,
    List.append_nil]

theorem observed_moves {b : Database} (statements : List RawStatement) :
    (Move.journal (moves o b script statements)).observed =
      Sql.scriptStatements b.adapter script := by
  rw [moves, Move.journal_append, Journal.observed_append, observed_scriptMoves, observed_later,
    List.append_nil]

/-- Where a run ends that gets as far as a statement: all that it has sent before, and all that it
    has shown to the observer. The script's statements are shown in order, and those that come
    before and after it are not. -/
inductive EndsAt (o : MigrationOptions) (generated later : List String) :
    List String → String → List String → Prop
  | first {sql : String} (given : o.preQuery = some sql) : EndsAt o generated later [] sql []
  | script {seen unseen : List String} {p sql : String} (whole : generated = seen ++ p :: unseen)
      (sent : Sql.outgoing? o.alterExtra p = some sql) :
      EndsAt o generated later
        (o.preQuery.toList ++ seen.filterMap (Sql.outgoing? o.alterExtra)) sql (seen ++ [p])
  | later {earlier rest : List String} {sql : String} (whole : later = earlier ++ sql :: rest) :
      EndsAt o generated later
        (o.preQuery.toList ++ generated.filterMap (Sql.outgoing? o.alterExtra) ++ earlier) sql
        generated

theorem append_split {xs ys before after : List α} {x : α}
    (whole : xs ++ ys = before ++ x :: after) :
    (∃ rest, xs = before ++ x :: rest ∧ after = rest ++ ys) ∨
      ∃ first, before = xs ++ first ∧ ys = first ++ x :: after := by
  rcases List.append_eq_append_iff.mp whole with ⟨first, cut, rest⟩ | ⟨first, cut, rest⟩
  · exact .inr ⟨first, cut, rest⟩
  · cases first with
    | nil => exact .inr ⟨[], by simpa using cut.symm, rest.symm⟩
    | cons y first =>
      obtain ⟨rfl, rfl⟩ := List.cons.inj rest
      exact .inl ⟨first, cut, rfl⟩

section Ending

variable {a : Adapter} {b : Database} {made unmade : List Move} {m : Move} {sql : String}

theorem endsAt_first {generated later : List String}
    (split : wrapperMoves o.preQuery = made ++ m :: unmade)
    (delivered : m.delivery = some ⟨.connection, sql⟩) :
    EndsAt o generated later (Move.journal made).executed sql
      (Move.journal (made ++ [m])).observed := by
  cases pre : o.preQuery with
  | none =>
    rw [pre] at split
    exact absurd split.symm (by simp [wrapperMoves])
  | some first =>
    rw [pre] at split
    obtain ⟨rfl, rfl, _⟩ : made = [] ∧ m = .given (wrapperEntry first) first ∧ unmade = [] := by
      have whole : [Move.given (wrapperEntry first) first] = made ++ m :: unmade := split
      simpa [eq_comm] using List.singleton_eq_append_iff.mp whole
    have same : first = sql := congrArg Delivery.sql (Option.some.inj delivered)
    rw [← same]
    exact .first pre

theorem endsAt_script (noScript : o.externalScript = none) {later : List String}
    {shown : List Move} (split : script.steps.flatMap (stepMoves o a) = shown ++ m :: unmade)
    (delivered : m.delivery = some ⟨.connection, sql⟩) :
    let made := wrapperMoves o.preQuery ++ shown
    EndsAt o (Sql.scriptStatements a script) later (Move.journal made).executed sql
      (Move.journal (made ++ [m])).observed := by
  intro made
  have moves : ∀ n ∈ shown ++ m :: unmade, n.OfScript o.dispatch a := split ▸ ofScript_of_mem
  rw [List.forall_mem_append, List.forall_mem_cons] at moves
  obtain ⟨p, seen, sent⟩ := moves.2.1.shown_of_delivery noScript delivered
  have whole : Sql.scriptStatements a script =
      (Move.journal shown).observed ++ p :: (Move.journal unmade).observed := by
    rw [← observed_steps o, split, List.append_cons, Move.journal_append, Move.journal_append,
      Journal.observed_append, Journal.observed_append, seen, ← List.append_cons]
  rw [Move.journal_append, Move.journal_append, Move.journal_append, Journal.executed_append,
    Journal.observed_append, Journal.observed_append, executed_wrapperMoves, observed_wrapperMoves,
    Move.OfScript.executed_eq noScript moves.1, seen]
  exact .script whole sent

theorem endsAt_later (noScript : o.externalScript = none) (steady : b.Steady)
    {past : List Delivery} {statements : List RawStatement} {earlier : List Move}
    (split : rawMoves o b past statements ++ wrapperMoves o.postQuery = earlier ++ m :: unmade)
    (delivered : m.delivery = some ⟨.connection, sql⟩) :
    let passing := (statements.filter (·.allowed (b.select []))).map RawStatement.sql
    let made := scriptMoves o a script ++ earlier
    EndsAt o (Sql.scriptStatements a script) (passing ++ o.postQuery.toList)
      (Move.journal made).executed sql (Move.journal (made ++ [m])).observed := by
  intro passing made
  have direct : ∀ n ∈ earlier ++ m :: unmade, n.Direct := by
    rw [← split, List.forall_mem_append]
    exact ⟨direct_rawMoves statements, direct_wrapperMoves o.postQuery⟩
  have whole : passing ++ o.postQuery.toList =
      (Move.journal earlier).executed ++ sql :: (Move.journal unmade).executed := by
    have sent := congrArg (fun ms => (Move.journal ms).executed) split
    rw [List.forall_mem_append, List.forall_mem_cons] at direct
    simpa [Move.journal_append, Journal.executed_append, executed_rawMoves, executed_wrapperMoves,
      RawStatement.chosen_of_steady steady, Move.executed_cons direct.2.1, delivered] using sent
  have silent : (Move.journal (earlier ++ [m])).observed = [] := by
    have all := observed_later (o := o) (b := b) past statements
    rw [split, List.append_cons, Move.journal_append, Journal.observed_append] at all
    exact (List.append_eq_nil_iff.mp all).1
  rw [List.append_assoc, Move.journal_append, Move.journal_append, Journal.executed_append,
    Journal.observed_append, executed_scriptMoves noScript, observed_scriptMoves, silent,
    List.append_nil]
  exact .later whole

theorem endsAt_of_split (noScript : o.externalScript = none) (steady : b.Steady)
    {statements : List RawStatement}
    (split : moves o b script statements = made ++ m :: unmade)
    (delivered : m.delivery = some ⟨.connection, sql⟩) :
    let passing := (statements.filter (·.allowed (b.select []))).map RawStatement.sql
    EndsAt o (Sql.scriptStatements b.adapter script) (passing ++ o.postQuery.toList)
      (Move.journal made).executed sql (Move.journal (made ++ [m])).observed := by
  rcases append_split split with ⟨rest, inScript, _⟩ | ⟨earlier, rfl, inLater⟩
  · rcases append_split inScript with ⟨_, inPre, _⟩ | ⟨shown, rfl, inSteps⟩
    · exact endsAt_first inPre delivered
    · exact endsAt_script noScript inSteps delivered
  · exact endsAt_later noScript steady inLater delivered

end Ending

/-- Over a database that accepts everything a run sends the statement before, all of the
    script but remarks, the raw statements that are let through, and the statement after.
    A database that rejects some of these stops the run at the first of them: what
    happened is exactly what happened in the other run up to there. The observer has then seen
    nothing if the statement comes before the script, the script up to the statement if it is of
    the script, and else all of the script. -/
theorem live_run_stops_at_rejection (o : MigrationOptions) {w : World} (steady : w.database.Steady)
    (script : Script) (statements : List RawStatement) :
    let o := { o with dryRun := false, externalScript := none }
    let generated := Sql.scriptStatements w.database.adapter script
    let passing := (statements.filter (·.allowed (w.database.select []))).map RawStatement.sql
    let all := o.preQuery.toList ++ generated.filterMap (Sql.outgoing? o.alterExtra) ++ passing
      ++ o.postQuery.toList
    let free := (run o w.welcoming script statements).outcome
    let actual := (run o w script statements).outcome
    (∃ applied, free.1 = .ok ⟨applied, none⟩) ∧ free.2.executed = all ∧
      free.2.observed = generated ∧
      (w.Accepts [] (toDatabase all) ∧ actual = free ∨
        ∃ before sql after e line, all = before ++ sql :: after ∧
          w.Accepts [] (toDatabase before) ∧
          w.database.accept (toDatabase before) sql = .error e ∧
          (∃ failure, actual.1 = .error failure ∧
            failure = .execution e (excerpt script.lines line) line ∧
            failure.message = e.message ++ "\n" ++ excerpt script.lines line) ∧
          actual.2.executed = before ++ [sql] ∧
          actual.2.trace.getLast? = some (.execute sql) ∧
          (∃ undone, free.2.trace = actual.2.trace ++ undone) ∧
          EndsAt o generated (passing ++ o.postQuery.toList) before sql actual.2.observed) := by
  intro o generated passing all free actual
  let ms := moves o w.database script statements
  have direct : ∀ m ∈ ms, m.Direct := direct_moves rfl statements
  have sent : (Move.journal ms).executed = all := executed_moves rfl steady statements
  have seen : (Move.journal ms).observed = generated := observed_moves statements
  have welcome : free = (.ok ⟨_, none⟩, Move.journal ms) := outcome_welcoming rfl w statements
  refine ⟨⟨_, by rw [welcome]⟩, by rw [welcome, sent], by rw [welcome, seen], ?_⟩
  rcases outcome_live (o := o) rfl w script statements with
    ⟨accepted, ran⟩ | ⟨made, m, unmade, d, e, split, delivered, accepted, rejected, ran⟩
  · left
    rw [← sent, Move.toDatabase_executed direct, welcome]
    exact ⟨accepted, ran⟩
  · right
    -- The moves that were made are those before the rejected one, and that one.
    have stop : ms = (made ++ [m]) ++ unmade := by rw [← List.append_cons, ← split]
    rw [stop, List.forall_mem_append, List.forall_mem_append, List.forall_mem_singleton] at direct
    obtain ⟨⟨directMade, directStop⟩, _⟩ := direct
    obtain ⟨receiver, sql⟩ := d
    obtain rfl : receiver = .connection := directStop.receiver _ delivered
    have upTo : (Move.journal (made ++ [m])).executed = (Move.journal made).executed ++ [sql] := by
      rw [Move.journal_append, Journal.executed_append, Move.executed_cons directStop, delivered]
      rfl
    have ran : actual = (.error (e.attribute script m.line), Move.journal (made ++ [m])) := ran
    refine ⟨(Move.journal made).executed, sql, (Move.journal unmade).executed, e, m.line, ?_⟩
    rw [Move.toDatabase_executed directMade]
    refine ⟨?_, accepted, rejected, ?_, ?_, ?_, ?_, ?_⟩
    · rw [← sent, stop, Move.journal_append, Journal.executed_append, upTo, ← List.append_cons]
    · exact ⟨e.attribute script m.line, by rw [ran], rfl, rfl⟩
    · rw [ran, upTo]
    · rw [ran]
      simp [Move.journal, Move.events, delivered, Delivery.event]
    · rw [welcome, ran, stop, Move.journal_append]
      exact ⟨(Move.journal unmade).trace, rfl⟩
    · rw [ran]
      exact endsAt_of_split rfl steady split delivered

/-- It turns down what it was given before. -/
def wary : World where
  database :=
    { adapter := .mysql
      accept := fun past sql =>
        if past.contains ⟨.connection, sql⟩ then .error (.connection "done before") else .ok ()
      select := fun _ _ => .ok none }
  program := fun _ _ _ _ => .success
  unwritable := fun _ => none

/-- Sent for the second time, a statement stops the run. The remark in between is shown to the
    observer but not sent. -/
theorem wary_stops_run :
    let drop : Operation := .alter "t" (.removeColumn "a")
    let script := Script.assemble [] [drop, .alter "t" (.removeConstraint .exclusion "e"), drop] []
    let o : MigrationOptions :=
      { preQuery := some "BEGIN", postQuery := some "COMMIT", alterExtra := some "LOCK=NONE" }
    let plain := "ALTER TABLE \x60t\x60 DROP COLUMN \x60a\x60"
    let sent := plain ++ ",LOCK=NONE"
    let free := (run o wary.welcoming script [⟨"ANALYZE", none⟩]).outcome
    let actual := (run o wary script [⟨"ANALYZE", none⟩]).outcome
    free.2.executed = ["BEGIN", sent, sent, "ANALYZE", "COMMIT"] ∧
      actual.1 = .error (.execution (.connection "done before") (excerpt script.lines 3) 3) ∧
      actual.2.executed = ["BEGIN", sent, sent] ∧
      actual.2.observed =
        [plain, "-- exclusion constraint e on t is not supported by mysql", plain] := by
  intro drop script o plain sent free actual
  have steady : wary.database.Steady := fun _ => rfl
  obtain ⟨_, all, _, _⟩ := live_run_stops_at_rejection o steady script [⟨"ANALYZE", none⟩]
  refine ⟨all.trans ?_, ?_, ?_, ?_⟩
  all_goals decide +kernel

end Execution

end SchemaEvolution
