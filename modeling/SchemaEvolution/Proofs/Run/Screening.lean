import SchemaEvolution.Proofs.Run.Inquiry
import SchemaEvolution.Run.Execution

/-! Guards only choose. A run over guarded statements does what a run over those that pass
   does, without their guards. All that is left of the guards are queries and warnings. -/
namespace SchemaEvolution

def Event.asks : Event → Bool
  | .query _ => true
  | .log entry => entry.level = .warn ∧ entry.fields.map Prod.fst = ["sql"]
  | _ => false

namespace Journal

def asked (j : Journal) : List Event := j.trace.filter Event.asks

/-- A journal without what guards left in it. -/
def unasked (j : Journal) : Journal := { j with trace := j.trace.filter fun e => !e.asks }

theorem asked_append (a b : Journal) : (a ++ b).asked = a.asked ++ b.asked :=
  List.filter_append ..

theorem unasked_append (a b : Journal) : (a ++ b).unasked = a.unasked ++ b.unasked := by
  simp [unasked, append_eq]

theorem unasked_of_asked_nil {j : Journal} (silent : j.asked = []) : j.unasked = j := by
  have kept : j.trace.filter (fun e => !e.asks) = j.trace := by
    rw [List.filter_eq_self]
    intro e member
    have quiet := List.filter_eq_nil_iff.1 silent e member
    simpa using quiet
  rw [unasked, kept]

end Journal

namespace Run

/-- The action asks no guard, whatever was delivered before. -/
def Plain (act : Run α) : Prop :=
  ∀ past, ∃ result m, Yields past act result m ∧ m.asked = []

theorem plain_pure (a : α) : Plain (pure a) := fun _ => ⟨.ok a, {}, yields_pure a, rfl⟩

theorem plain_ofExcept (r : Except Failure α) : Plain (ofExcept r) :=
  fun _ => ⟨r, {}, yields_ofExcept r, rfl⟩

theorem plain_past : Plain past := fun past => ⟨.ok past, {}, yields_past past, rfl⟩

theorem plain_emit {e : Event} (other : e.asks = false) : Plain (emit e) := by
  intro past
  refine ⟨_, _, yields_emit e, ?_⟩
  simp [Journal.asked, other]

theorem plain_capture (sql : String) : Plain (capture sql) :=
  fun _ => ⟨_, _, yields_capture sql, rfl⟩

theorem plain_deliver (receiver : Receiver) (sql : String) : Plain (deliver receiver sql) :=
  fun _ => ⟨_, _, yields_deliver receiver sql, rfl⟩

namespace Plain

theorem bind {act : Run α} {next : α → Run β} (first : Plain act)
    (second : ∀ a, Plain (next a)) : Plain (act >>= next) := by
  intro past
  obtain ⟨result, m, yields, silent⟩ := first past
  cases result with
  | error e => exact ⟨_, m, yields.stop, silent⟩
  | ok a =>
    obtain ⟨result', n, yields', silent'⟩ := second a (past ++ m.delivered)
    refine ⟨result', m ++ n, yields.bind yields', ?_⟩
    rw [Journal.asked_append, silent, silent', List.append_nil]

theorem mapFailure {act : Run α} (inner : Plain act) (f : Failure → Failure) :
    Plain (mapFailure f act) := by
  intro past
  obtain ⟨result, m, yields, silent⟩ := inner past
  exact ⟨_, m, yields.mapFailure f, silent⟩

theorem forM {f : α → Run Unit} (each : ∀ x, Plain (f x)) (xs : List α) : Plain (xs.forM f) := by
  induction xs with
  | nil => exact plain_pure ()
  | cons x xs ih => exact (each x).bind fun _ => ih

end Plain

/-- Whatever was delivered before, both actions come to the same and do the same, except that the
    first one also asks the guards of statements. It asks them one after the other, all of them
    unless it fails. -/
def Screens (inquiry : RawStatement → List Event) (ss : List RawStatement) (act act' : Run α) :
    Prop :=
  ∀ past, ∃ result m asked, Yields past act result m ∧ Yields past act' result m.unasked ∧
    m.asked = asked.flatMap inquiry ∧ asked <+: ss ∧ ∀ a, result = .ok a → asked = ss

theorem Plain.screens {inquiry : RawStatement → List Event} {act : Run α} (plain : Plain act) :
    Screens inquiry [] act act := by
  intro past
  obtain ⟨result, m, yields, silent⟩ := plain past
  refine ⟨result, m, [], yields, ?_, silent, List.prefix_rfl, fun _ _ => rfl⟩
  rw [Journal.unasked_of_asked_nil silent]
  exact yields

theorem Screens.bind {inquiry : RawStatement → List Event} {ss ts : List RawStatement}
    {act act' : Run α} {next next' : α → Run β} (first : Screens inquiry ss act act')
    (second : ∀ a, Screens inquiry ts (next a) (next' a)) :
    Screens inquiry (ss ++ ts) (act >>= next) (act' >>= next') := by
  intro past
  obtain ⟨result, m, asked, guarded, bare, told, front, all⟩ := first past
  cases result with
  | error e =>
    have shorter := front.trans (List.prefix_append ss ts)
    exact ⟨_, m, asked, guarded.stop, bare.stop, told, shorter, nofun⟩
  | ok a =>
    obtain rfl := all a rfl
    -- Both were sent the same so far, so they go on from the same past.
    obtain ⟨result', n, asked', guarded', bare', told', front', all'⟩ :=
      second a (past ++ m.delivered)
    refine ⟨result', m ++ n, asked ++ asked', guarded.bind guarded', ?_, ?_, ?_, ?_⟩
    · rw [Journal.unasked_append]
      exact bare.bind bare'
    · rw [Journal.asked_append, told, told', List.flatMap_append]
    · exact (List.prefix_append_right_inj asked).2 front'
    · intro b ok
      rw [all' b ok]

end Run

open Run (Plain Screens)

theorem Database.plain_execute (b : Database) (sql : String) : Plain (b.execute sql) :=
  fun _ => ⟨_, _, b.yields_execute sql, rfl⟩

/- Nothing but the raw statements has guards. -/

namespace Dispatch

variable {w : World}

theorem plain_runScript (script sql table : String) : Plain (runScript w script sql table) := by
  refine Run.plain_past.bind fun past => ?_
  refine (Run.plain_emit rfl).bind fun _ => ?_
  refine (Run.plain_deliver _ sql).bind fun _ => ?_
  cases w.program past script sql table with
  | success => exact Run.plain_pure ()
  | failed status => exact Run.plain_ofExcept (.error _)
  | notStarted reason => exact Run.plain_ofExcept (.error _)

theorem plain_sendLive (d : Dispatch) (sql : String) : Plain (d.sendLive w sql) := by
  unfold sendLive
  split
  · exact Run.plain_emit rfl
  · split
    · exact plain_runScript _ _ _
    · exact (Run.plain_emit rfl).bind fun _ => w.database.plain_execute sql

theorem plain_captureDry (sql : String) : Plain (captureDry sql) := by
  unfold captureDry
  split
  · exact Run.plain_capture sql
  · exact Run.plain_emit rfl

theorem plain_generated (d : Dispatch) (sql : String) : Plain (d.generated w sql) := by
  refine (Run.plain_emit rfl).bind fun _ => ?_
  split
  · exact plain_captureDry _
  · exact d.plain_sendLive _

theorem plain_given (d : Dispatch) (sql : String) : Plain (d.given w sql) := by
  unfold given
  split
  · exact Run.plain_capture sql
  · exact w.database.plain_execute sql

end Dispatch

namespace Execution

variable (o : MigrationOptions) (w : World) (script : Script)

theorem plain_given {entry : LogEntry} (other : (Event.log entry).asks = false) (sql : String) :
    Plain (given o w script entry sql) := by
  have sent := (o.dispatch.plain_given (w := w) sql).mapFailure (·.attribute script 0)
  unfold given
  dsimp only
  split
  · exact sent
  · exact (Run.plain_emit other).bind fun _ => sent

theorem plain_wrapper (sql : Option String) : Plain (wrapper o w script sql) := by
  cases sql with
  | none => exact Run.plain_pure ()
  | some sql => exact plain_given o w script rfl sql

theorem plain_placed (s : Sql.PlacedStatement) : Plain (placed o w script s) :=
  (o.dispatch.plain_generated s.sql).mapFailure _

theorem plain_step (s : Step) : Plain (step o w script s) := by
  have silent : (Event.log (s.announcement o.dryRun)).asks = false := by
    unfold Step.announcement
    cases o.dryRun <;> rfl
  exact (Run.plain_emit silent).bind fun _ => Plain.forM (plain_placed o w script) _

theorem plain_raw (sql : String) : Plain (raw o w script sql) := plain_given o w script rfl sql

end Execution

/-- A statement passes without a guard, if the query of its guard finds a value that says
    yes, or if its predicate does. -/
inductive RawStatement.Passes (b : Database) (s : RawStatement) : Prop
  | unguarded (free : s.guard = none)
  | query (query value : String) (guard : s.guard = some (.query query))
    (found : b.select [] query = .ok (some value))
    (truthy : (String.ofList (Text.trim value.toList)).toLower ∉ ["", "0", "f", "false"])
  | predicate (p : Predicate) (guard : s.guard = some (.predicate p))
    (holds : (p.evaluate b).outcome.1 = .ok (.ok true))

def RawStatement.withoutGuard (s : RawStatement) : RawStatement := { s with guard := none }

theorem isTruthy_iff (value : String) :
    isTruthy value = true ↔
      (String.ofList (Text.trim value.toList)).toLower ∉ ["", "0", "f", "false"] := by
  unfold isTruthy
  rw [Bool.not_eq_true', ← Bool.not_eq_true, List.contains_iff_mem]

namespace Guard

theorem outcome_evaluate (b : Database) (g : Guard) :
    (g.evaluate b).outcome.1 = .ok (g.answer (b.select [])) :=
  congrArg Prod.fst (g.yields_evaluate b).outcome

theorem answer_query_iff {answers : Answers} {query : String} :
    (Guard.query query).answer answers = .ok true ↔
      ∃ value, answers query = .ok (some value) ∧ isTruthy value = true := by
  unfold answer
  dsimp only
  cases answers query with
  | error e => simp
  | ok value => cases value <;> simp

end Guard

namespace RawStatement

variable {b : Database} {s : RawStatement} {g : Guard}

theorem allowed_iff_answer {answers : Answers} (guard : s.guard = some g) :
    s.allowed answers = true ↔ g.answer answers = .ok true := by
  rw [allowed, guard]
  dsimp only
  cases g.answer answers <;> simp [Except.toOption]

theorem allowed_iff_passes : s.allowed (b.select []) = true ↔ s.Passes b := by
  constructor
  · intro allowed
    cases guard : s.guard with
    | none => exact .unguarded guard
    | some g =>
      have answer := (allowed_iff_answer guard).1 allowed
      cases g with
      | query query =>
        obtain ⟨value, found, truthy⟩ := Guard.answer_query_iff.1 answer
        exact .query query value guard found ((isTruthy_iff value).1 truthy)
      | predicate p =>
        refine .predicate p guard ?_
        rw [← answer]
        exact (Guard.predicate p).outcome_evaluate b
  · intro passes
    cases passes with
    | unguarded free => rw [allowed, free]
    | query query value guard found truthy =>
      rw [allowed_iff_answer guard, Guard.answer_query_iff]
      exact ⟨value, found, (isTruthy_iff value).2 truthy⟩
    | predicate p guard holds =>
      rw [allowed_iff_answer guard]
      exact Except.ok.inj (((Guard.predicate p).outcome_evaluate b).symm.trans holds)

instance : DecidablePred (Passes b) := fun _ => decidable_of_iff _ allowed_iff_passes

def passing (b : Database) (ss : List RawStatement) : List RawStatement :=
  (ss.filter fun s => s.Passes b).map withoutGuard

theorem passing_cons_of_allowed (allowed : s.allowed (b.select []) = true)
    (ss : List RawStatement) : passing b (s :: ss) = s.withoutGuard :: passing b ss := by
  simp [passing, allowed_iff_passes.1 allowed]

theorem passing_cons_of_not_allowed (refused : s.allowed (b.select []) = false)
    (ss : List RawStatement) : passing b (s :: ss) = passing b ss := by
  have fails : ¬ s.Passes b := by simp [← allowed_iff_passes, refused]
  simp [passing, fails]

theorem asks_inquiry (answers : Answers) (debug : Bool) (s : RawStatement) :
    ∀ e ∈ s.inquiry answers debug, e.asks = true := by
  intro e member
  rcases mem_inquiry member with ⟨sql, rfl⟩ | ⟨error, rfl⟩
  · rfl
  · rfl

theorem inquiry_of_error {e : GuardError} (guard : s.guard = some g)
    (failed : (g.evaluate b).outcome.1 = .ok (.error e)) (debug : Bool) :
    ¬ s.Passes b ∧ s.inquiry (b.select []) debug =
      g.inquiry (b.select []) ++ [.log (s.skipWarning debug e)] := by
  have answer : g.answer (b.select []) = .error e :=
    Except.ok.inj ((g.outcome_evaluate b).symm.trans failed)
  constructor
  · intro passes
    have yes := (allowed_iff_answer guard).1 (allowed_iff_passes.2 passes)
    rw [answer] at yes
    contradiction
  · rw [inquiry, guard]
    dsimp only
    rw [answer]

theorem screens_passes (steady : b.Steady) (debug : Bool) (s : RawStatement) :
    Screens (fun s => s.inquiry (b.select []) debug) [s] (s.passes b debug)
      (pure (s.allowed (b.select []))) := by
  intro past
  have asked : Run.Yields past _ _ _ := s.yields_passes b debug
  rw [steady past] at asked
  refine ⟨.ok (s.allowed (b.select [])), _, [s], asked, ?_, ?_, List.prefix_rfl, ?_⟩
  · have nothing : (s.inquiry (b.select []) debug).filter (fun e => !e.asks) = [] := by
      rw [List.filter_eq_nil_iff]
      intro e member
      simp [s.asks_inquiry (b.select []) debug e member]
    rw [Journal.unasked, nothing]
    exact Run.yields_pure _
  · rw [List.flatMap_singleton]
    exact List.filter_eq_self.2 (s.asks_inquiry (b.select []) debug)
  · exact fun _ _ => rfl

end RawStatement

namespace Execution

open RawStatement (passing)

variable (o : MigrationOptions) (w : World) (script : Script)

/-- What is done about a statement once its guard has answered, and about those after it. -/
def rawRest (s : RawStatement) (rest : Run Bool) (pass : Bool) : Run Bool := do
  if pass then raw o w script s.sql
  let more ← rest
  return pass || more

theorem rawRest_false (s : RawStatement) (rest : Run Bool) :
    rawRest o w script s rest false = rest := by
  simp [rawRest]

theorem screens_rawRest {inquiry : RawStatement → List Event} {ss : List RawStatement}
    {rest rest' : Run Bool} (later : Screens inquiry ss rest rest') (s : RawStatement)
    (pass : Bool) :
    Screens inquiry ss (rawRest o w script s rest pass) (rawRest o w script s rest' pass) := by
  have ending := later.bind fun more => (Run.plain_pure (pass || more)).screens
  rw [List.append_nil] at ending
  unfold rawRest
  dsimp only
  split
  · exact (plain_raw o w script s.sql).screens.bind fun _ => ending
  · exact ending

theorem screens_rawStatements (steady : w.database.Steady) (ss : List RawStatement) :
    Screens (fun s => s.inquiry (w.database.select []) o.debug) ss (rawStatements o w script ss)
      (rawStatements o w script (passing w.database ss)) := by
  induction ss with
  | nil => exact (Run.plain_pure false).screens
  | cons s ss ih =>
    have both : Screens (fun s => s.inquiry (w.database.select []) o.debug) (s :: ss)
        (s.passes w.database o.debug >>= rawRest o w script s (rawStatements o w script ss))
        (pure (s.allowed (w.database.select [])) >>=
          rawRest o w script s (rawStatements o w script (passing w.database ss))) :=
      (s.screens_passes steady o.debug).bind (screens_rawRest o w script ih s)
    cases allowed : s.allowed (w.database.select []) with
    | true =>
      rw [RawStatement.passing_cons_of_allowed allowed]
      rw [allowed] at both
      exact both
    | false =>
      rw [RawStatement.passing_cons_of_not_allowed allowed]
      rw [allowed, pure_bind, rawRest_false] at both
      exact both

/-- A run but for its result: whether a raw statement was applied. -/
def effects (statements : List RawStatement) : Run Bool := do
  wrapper o w script o.preQuery
  script.steps.forM (step o w script)
  let rawApplied ← rawStatements o w script statements
  wrapper o w script o.postQuery
  return rawApplied

def finish (rawApplied : Bool) : Run ExecutionResult := do
  return ⟨!script.isEmpty || rawApplied, o.dispatch.capturedText (← get).toSession⟩

theorem run_eq_effects (statements : List RawStatement) :
    run o w script statements = effects o w script statements >>= finish o script := by
  simp [run, effects, finish]

theorem screens_effects (steady : w.database.Steady) (statements : List RawStatement) :
    Screens (fun s => s.inquiry (w.database.select []) o.debug) statements
      (effects o w script statements) (effects o w script (passing w.database statements)) := by
  have ending := (screens_rawStatements o w script steady statements).bind fun rawApplied =>
    ((plain_wrapper o w script o.postQuery).bind fun _ => Run.plain_pure rawApplied).screens
  rw [List.append_nil] at ending
  refine (plain_wrapper o w script o.preQuery).screens.bind fun _ => ?_
  exact (Run.Plain.forM (plain_step o w script) script.steps).screens.bind fun _ => ending

theorem outcome_run_of_effects {o : MigrationOptions} {w : World} {script : Script}
    {statements : List RawStatement} {result : Except Failure Bool} {m : Journal}
    (yields : Run.Yields [] (effects o w script statements) result m) :
    (run o w script statements).outcome =
      (result.map fun rawApplied =>
        ⟨!script.isEmpty || rawApplied, o.dispatch.capturedText m.toSession⟩, m) := by
  rw [run_eq_effects]
  cases result with
  | error e => exact yields.stop.outcome
  | ok rawApplied => exact yields.run_bind (j := {}) rfl

variable {o w script}

/-- Running guarded statements comes to the same as running those that pass, without their
    guards: the same result, the same statements sent and captured. The journals differ by
    what the guards leave, one after the other, all of them unless the run fails. A guard
    that gives no answer drops its statement and leaves one warning. -/
theorem run_passing (steady : w.database.Steady) (statements : List RawStatement) :
    let b := w.database
    let guarded := (run o w script statements).outcome
    let bare := (run o w script (passing b statements)).outcome
    bare.1 = guarded.1 ∧ bare.2 = guarded.2.unasked ∧
      (∃ asked, asked <+: statements ∧
        guarded.2.asked = asked.flatMap (fun s => s.inquiry (b.select []) o.debug) ∧
        ∀ result, guarded.1 = .ok result → asked = statements) ∧
      ∀ (s : RawStatement) (g : Guard) (e : GuardError), s.guard = some g →
        (g.evaluate b).outcome.1 = .ok (.error e) →
        ¬ s.Passes b ∧ s.inquiry (b.select []) o.debug =
          g.inquiry (b.select []) ++ [.log (s.skipWarning o.debug e)] := by
  intro b guarded bare
  obtain ⟨result, m, asked, ran, ran', told, front, all⟩ :=
    screens_effects o w script steady statements []
  have guardedRan : guarded = (_, m) := outcome_run_of_effects ran
  have bareRan : bare = (_, m.unasked) := outcome_run_of_effects ran'
  refine ⟨?_, ?_, ⟨asked, front, ?_, ?_⟩, ?_⟩
  · rw [guardedRan, bareRan]
    rfl
  · rw [guardedRan, bareRan]
  · rw [guardedRan]
    exact told
  · intro done ok
    rw [guardedRan] at ok
    cases result with
    | error e => contradiction
    | ok rawApplied => exact all rawApplied rfl
  · intro s g e guard failed
    exact RawStatement.inquiry_of_error guard failed o.debug

/-- It finds the same value whatever it is asked. -/
def monotonous : World where
  database :=
    { adapter := .sqlite
      accept := fun _ _ => .ok ()
      select := fun _ _ => .ok (some "\u00a0False ") }
  program := fun _ _ _ _ => .success
  unwritable := fun _ => none

/-- The value is read without the blanks around it, in whatever case, so it says no. -/
theorem monotonous_passes_unguarded :
    let statements : List RawStatement :=
      [⟨"DELETE FROM t", some (.query "SELECT enabled")⟩,
        ⟨"ANALYZE", some (.predicate (.failure ["no answer"]))⟩, ⟨"VACUUM", none⟩]
    let guarded := (run {} monotonous ⟨[], []⟩ statements).outcome
    let bare := (run {} monotonous ⟨[], []⟩ [⟨"VACUUM", none⟩]).outcome
    bare.1 = guarded.1 ∧ bare.2 = guarded.2.unasked ∧
      guarded.2.delivered = [⟨.connection, "VACUUM"⟩] ∧
      guarded.2.asked = [.query "SELECT enabled",
        .log ⟨.warn, "\x60ANALYZE\x60 is not executed: no answer", [("sql", "ANALYZE")]⟩] := by
  intro statements guarded bare
  have steady : monotonous.database.Steady := fun _ => rfl
  have passes : passing monotonous.database statements = [⟨"VACUUM", none⟩] := by
    unfold statements
    rw [RawStatement.passing_cons_of_not_allowed (by decide +kernel),
      RawStatement.passing_cons_of_not_allowed (by decide +kernel),
      RawStatement.passing_cons_of_allowed (by decide +kernel)]
    rfl
  obtain ⟨result, journal, _⟩ := run_passing (o := {}) steady statements
  rw [passes] at result journal
  refine ⟨result, journal, ?_, ?_⟩
  all_goals decide +kernel

end Execution

end SchemaEvolution
