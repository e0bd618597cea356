import SchemaEvolution.Proofs.Run.Traffic
import SchemaEvolution.Proofs.Sql.Shape

/-! A dry run shows what a live run sends. Every part of a run is described for both
   modes at once, by what it would show and what it would send. -/
namespace SchemaEvolution

open Run (Sends)

/-- The database accepts every statement, and the external script, if there is one, always
    succeeds. What guards are told has nothing to do with what was sent. -/
structure World.Willing (w : World) (external : Option String) : Prop where
  accepts : ∀ past sql, w.database.accept past sql = .ok ()
  succeeds : ∀ script ∈ external, ∀ past sql table, w.program past script sql table = .success
  steady : w.database.Steady

namespace Dispatch

def shown (d : Dispatch) (sqls : List String) : List String := if d.dryRun then sqls else []

def sent (d : Dispatch) (ds : List Delivery) : List Delivery := if d.dryRun then [] else ds

def delivery (d : Dispatch) (sql : String) : Delivery :=
  match d.scriptTarget? sql with
  | some (script, table) => ⟨.program script table, sql⟩
  | none => ⟨.connection, sql⟩

/-- The generated statements that are not mere remarks, as they are sent. -/
def dispatched (d : Dispatch) (sqls : List String) : List String :=
  (sqls.map d.decorate).filter fun sql => !Sql.isComment sql

@[simp] theorem shown_nil (d : Dispatch) : d.shown [] = [] := ite_self []

@[simp] theorem sent_nil (d : Dispatch) : d.sent [] = [] := ite_self []

theorem shown_append (d : Dispatch) (a b : List String) :
    d.shown (a ++ b) = d.shown a ++ d.shown b := by
  unfold shown
  split <;> simp

theorem sent_append (d : Dispatch) (a b : List Delivery) :
    d.sent (a ++ b) = d.sent a ++ d.sent b := by
  unfold sent
  split <;> simp

/-- What comes of generated statements in a dry run and in a live one. -/
def captures (d : Dispatch) (sqls : List String) : List String :=
  d.shown ((sqls.map d.decorate).filter Sql.isStructural)

def deliveries (d : Dispatch) (sqls : List String) : List Delivery :=
  d.sent ((d.dispatched sqls).map d.delivery)

theorem filter_dispatched (d : Dispatch) (sqls : List String) :
    (d.dispatched sqls).filter Sql.isStructural =
      (sqls.map d.decorate).filter Sql.isStructural := by
  rw [dispatched, List.filter_filter]
  refine List.filter_congr fun sql _ => ?_
  cases comment : Sql.isComment sql with
  | false => simp
  | true => simp [Sql.isStructural_of_isComment comment]

theorem captures_append (d : Dispatch) (a b : List String) :
    d.captures (a ++ b) = d.captures a ++ d.captures b := by
  rw [captures, List.map_append, List.filter_append, shown_append]
  rfl

theorem dispatched_append (d : Dispatch) (a b : List String) :
    d.dispatched (a ++ b) = d.dispatched a ++ d.dispatched b := by
  rw [dispatched, List.map_append, List.filter_append]
  rfl

theorem deliveries_append (d : Dispatch) (a b : List String) :
    d.deliveries (a ++ b) = d.deliveries a ++ d.deliveries b := by
  rw [deliveries, dispatched_append, List.map_append, sent_append]
  rfl

variable {d : Dispatch} {w : World} {sql : String}

theorem sends_runScript {script table : String}
    (success : ∀ past, w.program past script sql table = .success) :
    Sends (runScript w script sql table) (.ok ()) [] [⟨.program script table, sql⟩] := by
  unfold runScript
  simp only [success]
  refine Sends.after_past ?_
  exact (Run.sends_log _ _ _).after_silence
    ((Run.sends_deliver_program script table sql).bind (Run.sends_pure ()))

theorem mem_externalScript {script table : String}
    (target : d.scriptTarget? sql = some (script, table)) : script ∈ d.externalScript := by
  obtain ⟨external, given, target⟩ := Option.bind_eq_some_iff.mp target
  obtain ⟨_, _, same⟩ := Option.bind_eq_some_iff.mp target
  obtain ⟨rfl, _⟩ := Prod.mk.inj (Option.some.inj same)
  exact given

theorem sends_sendLive (willing : w.Willing d.externalScript) :
    Sends (d.sendLive w sql) (.ok ()) []
      (([sql].filter fun sql => !Sql.isComment sql).map d.delivery) := by
  unfold sendLive
  split
  next comment =>
    have none : [sql].filter (fun sql => !Sql.isComment sql) = [] := by simp [comment]
    rw [none]
    exact Run.sends_log _ _ _
  next other =>
    have one : [sql].filter (fun sql => !Sql.isComment sql) = [sql] := by simp [other]
    rw [one, List.map_singleton, delivery]
    cases target : d.scriptTarget? sql with
    | none =>
      have accepted (past : List Delivery) := willing.accepts past sql
      exact (Run.sends_log _ _ _).after_silence (Database.sends_execute accepted)
    | some told =>
      have given := mem_externalScript target
      exact sends_runScript fun past => willing.succeeds told.1 given past sql told.2

theorem sends_captureDry (sql : String) :
    Sends (captureDry sql) (.ok ()) ([sql].filter Sql.isStructural) [] := by
  unfold captureDry
  split
  next structural =>
    have one : [sql].filter Sql.isStructural = [sql] := by simp [structural]
    rw [one]
    exact Run.sends_capture sql
  next other =>
    have none : [sql].filter Sql.isStructural = [] := by simp [other]
    rw [none]
    exact Run.sends_log _ _ _

theorem sends_generated (willing : w.Willing d.externalScript) (sql : String) :
    Sends (d.generated w sql) (.ok ()) (d.captures [sql]) (d.deliveries [sql]) := by
  refine (Run.sends_emit rfl).after_silence ?_
  unfold captures deliveries shown sent
  split
  · exact sends_captureDry _
  · exact sends_sendLive willing

theorem sends_given (willing : w.Willing d.externalScript) (sql : String) :
    Sends (d.given w sql) (.ok ()) (d.shown [sql]) (d.sent [⟨.connection, sql⟩]) := by
  unfold given shown sent
  split
  · exact Run.sends_capture sql
  · exact Database.sends_execute fun past => willing.accepts past sql

end Dispatch

namespace Execution

variable {o : MigrationOptions} {w : World} (script : Script)

/-- What users give goes to the database, never to the external script. -/
def toDatabase (sqls : List String) : List Delivery := sqls.map fun sql => ⟨.connection, sql⟩

theorem toDatabase_append (a b : List String) :
    toDatabase (a ++ b) = toDatabase a ++ toDatabase b := List.map_append

theorem sends_nothing : Sends (pure ()) (.ok ()) (o.dispatch.shown []) (o.dispatch.sent []) := by
  rw [Dispatch.shown_nil, Dispatch.sent_nil]
  exact Run.sends_pure ()

theorem sends_given (willing : w.Willing o.externalScript) (entry : LogEntry) (sql : String) :
    Sends (given o w script entry sql) (.ok ()) (o.dispatch.shown [sql])
      (o.dispatch.sent (toDatabase [sql])) := by
  have given := (Dispatch.sends_given (d := o.dispatch) willing sql).mapFailure
    (·.attribute script 0)
  unfold Execution.given
  dsimp only
  split
  · exact given
  · exact (Run.sends_emit rfl).after_silence given

theorem sends_wrapper (willing : w.Willing o.externalScript) (sql : Option String) :
    Sends (wrapper o w script sql) (.ok ()) (o.dispatch.shown sql.toList)
      (o.dispatch.sent (toDatabase sql.toList)) := by
  cases sql with
  | none => exact sends_nothing
  | some sql => exact sends_given script willing (wrapperEntry sql) sql

theorem sends_raw (willing : w.Willing o.externalScript) (sql : String) :
    Sends (raw o w script sql) (.ok ()) (o.dispatch.shown [sql])
      (o.dispatch.sent (toDatabase [sql])) := sends_given script willing (rawEntry sql) sql

theorem sends_placed (willing : w.Willing o.externalScript) (ps : List Sql.PlacedStatement) :
    Sends (ps.forM (placed o w script)) (.ok ())
      (o.dispatch.captures (ps.map Sql.PlacedStatement.sql))
      (o.dispatch.deliveries (ps.map Sql.PlacedStatement.sql)) := by
  induction ps with
  | nil => exact sends_nothing
  | cons p ps ih =>
    have first : Sends (placed o w script p) (.ok ()) (o.dispatch.captures [p.sql])
        (o.dispatch.deliveries [p.sql]) :=
      (Dispatch.sends_generated willing p.sql).mapFailure _
    have both := first.followed_by ih
    rw [← Dispatch.captures_append, ← Dispatch.deliveries_append] at both
    exact both

theorem sends_step (willing : w.Willing o.externalScript) (s : Step) :
    Sends (step o w script s) (.ok ())
      (o.dispatch.captures (Sql.statements w.database.adapter s.operation))
      (o.dispatch.deliveries (Sql.statements w.database.adapter s.operation)) := by
  have placed := sends_placed script willing (Sql.stepStatements w.database.adapter s)
  rw [Sql.sql_stepStatements] at placed
  exact (Run.sends_emit rfl).after_silence placed

theorem sends_steps (willing : w.Willing o.externalScript) (steps : List Step) :
    let sqls := steps.flatMap fun s => Sql.statements w.database.adapter s.operation
    Sends (steps.forM (step o w script)) (.ok ()) (o.dispatch.captures sqls)
      (o.dispatch.deliveries sqls) := by
  induction steps with
  | nil => exact sends_nothing
  | cons s steps ih =>
    have both := (sends_step script willing s).followed_by ih
    rw [← Dispatch.captures_append, ← Dispatch.deliveries_append] at both
    exact both

theorem sends_rawStatements (willing : w.Willing o.externalScript) (ss : List RawStatement) :
    let answers := w.database.select []
    let passing := (ss.filter (·.allowed answers)).map RawStatement.sql
    Sends (rawStatements o w script ss) (.ok (ss.any (·.allowed answers)))
      (o.dispatch.shown passing) (o.dispatch.sent (toDatabase passing)) := by
  induction ss with
  | nil =>
    have none : Sends (rawStatements o w script []) (.ok false) [] [] := Run.sends_pure false
    simpa [toDatabase] using none
  | cons s ss ih =>
    intro answers passing
    have rest (pass : Bool) :
        Sends (rawStatements o w script ss >>= fun more => pure (pass || more))
          (.ok (pass || ss.any (·.allowed answers))) _ _ :=
      ih.before_silence (Run.sends_pure _)
    unfold rawStatements
    refine (s.sends_passes willing.steady o.debug).after_silence ?_
    dsimp only
    -- The guard itself is silent, so only a statement that passes makes a difference.
    cases allowed : s.allowed answers with
    | true =>
      have all := (sends_raw script willing s.sql).followed_by (rest true)
      rw [← Dispatch.shown_append, ← Dispatch.sent_append, ← toDatabase_append] at all
      simpa [passing, allowed, answers] using all
    | false => simpa [passing, allowed, answers] using rest false

theorem scriptStatements_eq (a : Adapter) (script : Script) :
    Sql.scriptStatements a script = script.steps.flatMap fun s => Sql.statements a s.operation := by
  simp only [Sql.scriptStatements, Sql.sql_stepStatements]

/-- What a run gives in either mode: its result, and a trace that tells of all that the
    database is sent. -/
theorem outcome_run (willing : w.Willing o.externalScript) (statements : List RawStatement) :
    let answers := w.database.select []
    let passing := (statements.filter (·.allowed answers)).map RawStatement.sql
    let generated := Sql.scriptStatements w.database.adapter script
    let captured := o.dispatch.shown o.preQuery.toList ++ o.dispatch.captures generated
      ++ o.dispatch.shown (passing ++ o.postQuery.toList)
    let delivered := o.dispatch.sent (toDatabase o.preQuery.toList)
      ++ o.dispatch.deliveries generated
      ++ o.dispatch.sent (toDatabase (passing ++ o.postQuery.toList))
    let applied := !script.isEmpty || statements.any (·.allowed answers)
    ∃ trace, trace.filterMap Event.executed? = delivered.filterMap Delivery.executed? ∧
      (run o w script statements).outcome =
        (.ok ⟨applied, o.dispatch.capturedText ⟨trace, captured⟩⟩,
          ⟨⟨trace, captured⟩, delivered⟩) := by
  obtain ⟨before, toldBefore, pre⟩ := sends_wrapper script willing o.preQuery
  obtain ⟨during, toldDuring, steps⟩ := sends_steps script willing script.steps
  obtain ⟨asked, toldAsked, raws⟩ := sends_rawStatements script willing statements
  obtain ⟨after, toldAfter, post⟩ := sends_wrapper script willing o.postQuery
  rw [← scriptStatements_eq] at toldDuring
  refine ⟨before ++ during ++ (asked ++ after), ?_, ?_⟩
  · simp only [List.filterMap_append, toldBefore, toldDuring, toldAsked, toldAfter,
      Dispatch.sent_append, toDatabase_append]
  · rw [Run.outcome, run, (pre _).run_bind rfl, (steps _).run_bind rfl, (raws _).run_bind rfl,
      (post _).run_bind rfl]
    simp only [Journal.append_eq, Dispatch.shown_append, Dispatch.sent_append, toDatabase_append,
      List.nil_append, List.append_assoc, scriptStatements_eq]
    rfl

theorem commentOn_of_left_out (d : Dispatch) (a : Adapter) {sql : String}
    (member : sql ∈ d.dispatched (Sql.scriptStatements a script))
    (left : Sql.isStructural sql = false) : a = .postgres ∧ Sql.Starts "COMMENT ON " sql := by
  obtain ⟨decorated, sent⟩ := List.mem_filter.mp member
  obtain ⟨plain, generated, rfl⟩ := List.mem_map.mp decorated
  have shape := (Sql.shape_scriptStatements a script plain generated).decorate d
  exact shape.commentOn_of_left_out (by simpa using sent) left

/-- A dry run sends nothing, cannot fail, and shows line by line what a live run sends,
    but for generated statements that are not structural. Only PostgreSQL has such. -/
theorem dry_run_shows_live_run (willing : w.Willing o.externalScript)
    (statements : List RawStatement) :
    let live := (run { o with dryRun := false } w script statements).outcome
    let dry := (run { o with dryRun := true } w script statements).outcome
    let generated := o.dispatch.dispatched (Sql.scriptStatements w.database.adapter script)
    let before := o.preQuery.toList
    let after := (statements.filter (·.allowed (w.database.select []))).map RawStatement.sql
      ++ o.postQuery.toList
    let shown := before ++ generated.filter Sql.isStructural ++ after
    (∃ applied, live.1 = .ok ⟨applied, none⟩ ∧
        dry.1 = .ok ⟨applied, some (String.join (shown.map (· ++ "\n")))⟩) ∧
      live.2.delivered =
        toDatabase before ++ generated.map o.dispatch.delivery ++ toDatabase after ∧
      dry.2.delivered = [] ∧ (∀ sql, .execute sql ∉ dry.2.trace) ∧
      (w.database.adapter ≠ .postgres → generated.filter Sql.isStructural = generated) ∧
      ∀ sql ∈ generated, Sql.isStructural sql = false → ∃ rest, sql = "COMMENT ON " ++ rest := by
  intro live dry generated before after shown
  let applied := !script.isEmpty || statements.any (·.allowed (w.database.select []))
  obtain ⟨liveTrace, _, liveOutcome⟩ :=
    outcome_run (o := { o with dryRun := false }) script willing statements
  obtain ⟨dryTrace, told, dryOutcome⟩ :=
    outcome_run (o := { o with dryRun := true }) script willing statements
  have shownAll : shown = before ++
      ((Sql.scriptStatements w.database.adapter script).map o.dispatch.decorate).filter
        Sql.isStructural ++ after := by
    rw [← Dispatch.filter_dispatched]
  have lived : live = (.ok ⟨applied, none⟩, ⟨⟨liveTrace, []⟩,
      toDatabase before ++ generated.map o.dispatch.delivery ++ toDatabase after⟩) := liveOutcome
  have dried : dry = (.ok ⟨applied, some (String.join (shown.map (· ++ "\n")))⟩,
      ⟨⟨dryTrace, shown⟩, []⟩) := by
    rw [shownAll]
    exact dryOutcome
  refine ⟨⟨applied, by rw [lived], by rw [dried]⟩, by rw [lived], by rw [dried], ?_, ?_, ?_⟩
  · intro sql member
    rw [dried] at member
    have executed : sql ∈ dryTrace.filterMap Event.executed? :=
      List.mem_filterMap.mpr ⟨_, member, rfl⟩
    rw [told] at executed
    exact absurd executed List.not_mem_nil
  · intro other
    refine List.filter_eq_self.mpr fun sql member => ?_
    cases structural : Sql.isStructural sql with
    | true => rfl
    | false => exact absurd (commentOn_of_left_out script _ _ member structural).1 other
  · intro sql member left
    exact (commentOn_of_left_out script _ _ member left).2

/-- Everything is welcome to it, and no query finds a value. -/
def eagerHost : Host := ⟨⟨.postgres, fun _ => .ok (), fun _ => .ok none⟩, fun _ _ _ => .success,
  fun _ => none⟩

theorem eagerHost_deliveries :
    let script : Script :=
      ⟨[⟨.main, 1, .alter "t" (.removeColumn "a")⟩, ⟨.main, 3, .changeTableComment "t" none⟩], []⟩
    let o : MigrationOptions := { preQuery := some "BEGIN", externalScript := some "tool" }
    (run o eagerHost script []).outcome.2.delivered =
      [⟨.connection, "BEGIN"⟩,
        ⟨.program "tool" "t", "ALTER TABLE \x22t\x22 DROP COLUMN \x22a\x22"⟩,
        ⟨.connection, "COMMENT ON TABLE \x22t\x22 IS NULL"⟩] := by
  intro script o
  have willing : eagerHost.world.Willing o.externalScript :=
    ⟨fun _ _ => rfl, fun _ _ _ _ _ => rfl, fun _ => rfl⟩
  refine (dry_run_shows_live_run script willing []).2.1.trans ?_
  decide +kernel

end Execution

end SchemaEvolution
