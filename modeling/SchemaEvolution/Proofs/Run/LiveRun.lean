import SchemaEvolution.Proofs.Run.DryRun
import SchemaEvolution.Proofs.Run.Moves

/-! The moves of a live run, part by part. They are known before the run starts: only the
   answers to queries go into them. -/
namespace SchemaEvolution

open Run (Makes)

/-- What is logged of a generated statement before it is sent, or in place of that. The external
    script has an entry of its own. -/
def Dispatch.notices (d : Dispatch) (sql : String) : List Event :=
  if Sql.isComment sql then
    [.log ⟨.warn, "Skipping comment (unsupported operation)", [("comment", sql)]⟩]
  else
    match d.scriptTarget? sql with
    | some _ => []
    | none => [.log ⟨.debug, "Executing SQL", [("sql", sql)]⟩]

namespace Move

def given (entry : LogEntry) (sql : String) : Move where
  before := [.log entry]
  delivery := some ⟨.connection, sql⟩

/-- A statement that comes from the script. A mere remark is skipped. -/
def generated (d : Dispatch) (s : Sql.PlacedStatement) : Move :=
  let sql := d.decorate s.sql
  { line := s.line
    before := .observe s.sql :: d.notices sql
    delivery := if Sql.isComment sql then none else some (d.delivery sql) }

end Move

namespace Execution

def wrapperMoves (sql : Option String) : List Move :=
  sql.toList.map fun sql => .given (wrapperEntry sql) sql

def stepMoves (o : MigrationOptions) (a : Adapter) (s : Step) : List Move :=
  .note (.log (s.announcement false)) :: (Sql.stepStatements a s).map (.generated o.dispatch)

def rawMoves (o : MigrationOptions) (b : Database) (past : List Delivery) :
    List RawStatement → List Move
  | [] => []
  | s :: rest =>
    ⟨0, s.inquiry (b.select past) o.debug, none⟩ ::
      if s.allowed (b.select past) then
        .given (rawEntry s.sql) s.sql :: rawMoves o b (past ++ [⟨.connection, s.sql⟩]) rest
      else rawMoves o b past rest

def scriptMoves (o : MigrationOptions) (a : Adapter) (script : Script) : List Move :=
  wrapperMoves o.preQuery ++ script.steps.flatMap (stepMoves o a)

/-- What was delivered when the first guard is asked. -/
def beforeRaw (o : MigrationOptions) (a : Adapter) (script : Script) : List Delivery :=
  Move.deliveries (scriptMoves o a script)

def moves (o : MigrationOptions) (b : Database) (script : Script)
    (statements : List RawStatement) : List Move :=
  scriptMoves o b.adapter script
    ++ (rawMoves o b (beforeRaw o b.adapter script) statements ++ wrapperMoves o.postQuery)

end Execution

namespace Dispatch

variable {d : Dispatch} {w : World} {past : List Delivery}

theorem yields_runScript (script sql table : String) :
    Run.Yields past (runScript w script sql table) (w.answer past ⟨.program script table, sql⟩)
      ⟨⟨[Delivery.event ⟨.program script table, sql⟩], []⟩, [⟨.program script table, sql⟩]⟩ := by
  refine Run.Yields.after_past (Run.Yields.after_emit (n := ⟨⟨[], []⟩, [_]⟩) ?_)
  refine (Run.yields_deliver _ sql).before_silence fun _ => ?_
  unfold World.answer
  dsimp only
  cases w.program past script sql table with
  | success => exact Run.yields_pure ()
  | failed status => exact Run.yields_ofExcept (.error _)
  | notStarted reason => exact Run.yields_ofExcept (.error _)

theorem yields_sendLive (sql : String) :
    let delivery := if Sql.isComment sql then none else some (d.delivery sql)
    Run.Yields past (d.sendLive w sql) (Move.answer w past { delivery })
      ⟨⟨d.notices sql ++ delivery.toList.map Delivery.event, []⟩, delivery.toList⟩ := by
  unfold sendLive notices delivery Move.answer
  cases Sql.isComment sql with
  | true => exact Run.yields_emit _
  | false =>
    cases d.scriptTarget? sql with
    | some told => exact yields_runScript told.1 sql told.2
    | none => exact (w.database.yields_execute sql).after_emit

theorem yields_generated (live : d.dryRun = false) (s : Sql.PlacedStatement) :
    Run.Yields past (d.generated w s.sql) ((Move.generated d s).answer w past)
      ⟨⟨(Move.generated d s).events, []⟩, (Move.generated d s).delivery.toList⟩ := by
  unfold generated
  rw [if_neg (by simp [live])]
  exact (yields_sendLive (d.decorate s.sql)).after_emit

end Dispatch

namespace Execution

variable {o : MigrationOptions} {w : World} {script : Script} {past : List Delivery}

theorem makes_given (live : o.dryRun = false) (entry : LogEntry) (sql : String) :
    Makes w script past (given o w script entry sql) () [.given entry sql] := by
  have sent : o.dispatch.given w sql = w.database.execute sql := by
    unfold Dispatch.given
    exact if_neg (by simp [MigrationOptions.dispatch, live])
  unfold given
  dsimp only
  rw [if_neg (by simp [live]), sent]
  have executed : Run.Yields past _ _ _ :=
    (w.database.yields_execute sql).mapFailure (·.attribute script 0)
  exact Run.makes_move (m := .given entry sql) executed.after_emit

theorem makes_wrapper (live : o.dryRun = false) (sql : Option String) :
    Makes w script past (wrapper o w script sql) () (wrapperMoves sql) := by
  cases sql with
  | none => exact Run.makes_pure ()
  | some sql => exact makes_given live (wrapperEntry sql) sql

theorem makes_placed (live : o.dryRun = false) (s : Sql.PlacedStatement) :
    Makes w script past (placed o w script s) () [.generated o.dispatch s] :=
  Run.makes_move (m := .generated o.dispatch s) ((Dispatch.yields_generated live s).mapFailure _)

theorem makes_step (live : o.dryRun = false) (s : Step) :
    Makes w script past (step o w script s) () (stepMoves o w.database.adapter s) := by
  have placements (past : List Delivery) : Makes w script past
      ((Sql.stepStatements w.database.adapter s).forM (placed o w script)) ()
      ((Sql.stepStatements w.database.adapter s).map (.generated o.dispatch)) := by
    rw [List.map_eq_flatMap]
    exact Makes.forM (fun _ p => makes_placed live p) _
  unfold step stepMoves
  rw [live]
  exact (Run.makes_emit _).followed_by (placements _)

theorem makes_rawStatements (live : o.dryRun = false) (ss : List RawStatement) :
    Makes w script past (rawStatements o w script ss)
      (!(RawStatement.chosen w.database past ss).isEmpty) (rawMoves o w.database past ss) := by
  induction ss generalizing past with
  | nil => exact Run.makes_pure false
  | cons s ss ih =>
    have asked : Makes w script past (s.passes w.database o.debug)
        (s.allowed (w.database.select past))
        [⟨0, s.inquiry (w.database.select past) o.debug, none⟩] :=
      Run.makes_quiet (s.yields_passes w.database o.debug)
    unfold rawStatements rawMoves RawStatement.chosen
    refine asked.bind ?_
    rw [show Move.deliveries [_] = [] from rfl, List.append_nil]
    dsimp only
    cases allowed : s.allowed (w.database.select past) with
    | true =>
      have sent : Makes w script past (raw o w script s.sql) () [.given (rawEntry s.sql) s.sql] :=
        makes_given live (rawEntry s.sql) s.sql
      exact sent.followed_by (ih.before_silence fun _ => Run.makes_pure true)
    | false => exact ih.before_silence fun _ => Run.makes_pure _

theorem makes_run (live : o.dryRun = false) (statements : List RawStatement) :
    let chosen := RawStatement.chosen w.database (beforeRaw o w.database.adapter script) statements
    Makes w script [] (run o w script statements) ⟨!script.isEmpty || !chosen.isEmpty, none⟩
      (moves o w.database script statements) := by
  intro chosen
  let applied := !script.isEmpty || !chosen.isEmpty
  have told (j : Journal) : o.dispatch.capturedText j.toSession = none := by
    unfold Dispatch.capturedText
    exact if_neg (by simp [MigrationOptions.dispatch, live])
  have result (past : List Delivery) : Makes w script past
      (get >>= fun j : Journal =>
        pure ⟨applied, o.dispatch.capturedText j.toSession⟩ : Run ExecutionResult)
      ⟨applied, none⟩ [] := by
    intro j before
    rw [← told j]
    exact Run.yields_pure _ j before
  unfold run moves scriptMoves
  rw [List.append_assoc]
  -- The four parts of a run, each from what those before it have delivered.
  refine (makes_wrapper live o.preQuery).followed_by ?_
  refine (Makes.forM (fun _ s => makes_step live s) script.steps).followed_by ?_
  rw [List.nil_append, ← Move.deliveries_append]
  refine (makes_rawStatements live statements).bind ?_
  exact (makes_wrapper live o.postQuery).before_silence result

/-- A live run makes all its moves, or it fails with the first that is turned down. -/
theorem outcome_live (live : o.dryRun = false) (w : World) (script : Script)
    (statements : List RawStatement) :
    let chosen := RawStatement.chosen w.database (beforeRaw o w.database.adapter script) statements
    let ms := moves o w.database script statements
    let outcome := (run o w script statements).outcome
    w.Accepts [] (Move.deliveries ms) ∧
        outcome = (.ok ⟨!script.isEmpty || !chosen.isEmpty, none⟩, Move.journal ms) ∨
      ∃ made m unmade d e, ms = made ++ m :: unmade ∧ m.delivery = some d ∧
        w.Accepts [] (Move.deliveries made) ∧ w.answer (Move.deliveries made) d = .error e ∧
        outcome = (.error (e.attribute script m.line), Move.journal (made ++ [m])) := by
  intro chosen ms outcome
  let applied := !script.isEmpty || !chosen.isEmpty
  have ran : outcome = ((w.play script [] ms).1.map fun _ => ⟨applied, none⟩,
      Move.journal (w.play script [] ms).2) := (makes_run live statements).outcome
  rcases w.play_cases script [] ms with
    ⟨accepted, played⟩ | ⟨made, m, unmade, d, e, split, delivered, accepted, rejected, played⟩
  · rw [played] at ran
    exact .inl ⟨accepted, ran⟩
  · rw [played] at ran
    exact .inr ⟨made, m, unmade, d, e, split, delivered, accepted, rejected, ran⟩

end Execution

end SchemaEvolution
