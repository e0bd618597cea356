import SchemaEvolution.Migration
import SchemaEvolution.Proofs.Rendering.Plan
import SchemaEvolution.Proofs.Run.FailStop

/-! Whether there is anything to apply is asked of a delta before a migration, and told by its
   result. The answers agree, whatever the options are, and where there is nothing to apply
   nothing is sent. -/
namespace SchemaEvolution

/- What an action results in, from what its parts result in. -/

namespace Run

variable {act : Run α} {next : α → Run β} {j j' : Journal}

theorem bind_of_ok {a : α} (first : act.run.run j = (.ok a, j')) :
    (act >>= next).run.run j = (next a).run.run j' := by
  change (ExceptT.bindCont next (act.run.run j).1).run (act.run.run j).2 = _
  rw [first]
  rfl

theorem bind_of_error {e : Failure} (first : act.run.run j = (.error e, j')) :
    (act >>= next).run.run j = (.error e, j') := by
  change (ExceptT.bindCont next (act.run.run j).1).run (act.run.run j).2 = _
  rw [first]
  rfl

theorem ok_of_bind {b : β} (ok : ((act >>= next).run.run j).1 = .ok b) :
    ∃ a j', act.run.run j = (.ok a, j') ∧ ((next a).run.run j').1 = .ok b := by
  rcases first : act.run.run j with ⟨result, j'⟩
  cases result with
  | error e =>
    rw [bind_of_error first] at ok
    contradiction
  | ok a =>
    rw [bind_of_ok first] at ok
    exact ⟨a, j', rfl, ok⟩

end Run

namespace Execution

variable {o : MigrationOptions} {w : World} {script : Script}

theorem rawApplied_of_ok {ss : List RawStatement} {j : Journal} {applied : Bool}
    (ok : ((rawStatements o w script ss).run.run j).1 = .ok applied) :
    (applied = true → ss ≠ []) ∧ ((∀ s ∈ ss, s.guard = none) → applied = !ss.isEmpty) := by
  cases ss with
  | nil =>
    obtain rfl : false = applied := Except.ok.inj ok
    exact ⟨nofun, fun _ => rfl⟩
  | cons s ss =>
    refine ⟨fun _ => List.cons_ne_nil s ss, fun unguarded => ?_⟩
    have free : s.passes w.database o.debug = pure true := by
      rw [RawStatement.passes, unguarded s List.mem_cons_self]
    rw [rawStatements, free, pure_bind] at ok
    obtain ⟨_, _, _, ok⟩ := Run.ok_of_bind ok
    obtain ⟨more, _, _, ok⟩ := Run.ok_of_bind ok
    exact (Except.ok.inj ok).symm

theorem applied_of_ok {statements : List RawStatement} {result : ExecutionResult} {j : Journal}
    (ok : ((run o w script statements).run.run j).1 = .ok result) :
    ∃ rawApplied, result.applied = (!script.isEmpty || rawApplied) ∧
      (rawApplied = true → statements ≠ []) ∧
      ((∀ s ∈ statements, s.guard = none) → rawApplied = !statements.isEmpty) := by
  obtain ⟨_, _, _, ok⟩ := Run.ok_of_bind ok
  obtain ⟨_, _, _, ok⟩ := Run.ok_of_bind ok
  obtain ⟨rawApplied, _, raws, ok⟩ := Run.ok_of_bind ok
  obtain ⟨_, _, _, ok⟩ := Run.ok_of_bind ok
  rw [← Except.ok.inj ok]
  exact ⟨rawApplied, rfl, rawApplied_of_ok (congrArg Prod.fst raws)⟩

end Execution

/- What is left of a run where there is nothing to apply. -/

/-- What the database is given, be it a statement or a question. -/
def Event.contact? : Event → Option String
  | .execute sql => some sql
  | .query sql => some sql
  | _ => none

/-- A dry run captured these statements and nothing else, a live run sent them to the database
    and nothing else. -/
structure Journal.Only (dry : Bool) (sqls : List String) (j : Journal) : Prop where
  captured : j.captured = if dry then sqls else []
  delivered : j.delivered = if dry then [] else Execution.toDatabase sqls
  contacts : j.trace.filterMap Event.contact? = if dry then [] else sqls

def Journal.noted (notes : List LogEntry) : Journal := ⟨⟨notes.map .log, []⟩, []⟩

theorem Journal.Only.between_notes {dry : Bool} {sqls : List String} {j : Journal}
    (only : j.Only dry sqls) (before after : List LogEntry) :
    (noted before ++ j ++ noted after).Only dry sqls where
  captured := (List.append_nil _).trans only.captured
  delivered := (List.append_nil _).trans only.delivered
  contacts := by
    have silent (notes : List LogEntry) : (notes.map Event.log).filterMap Event.contact? = [] := by
      rw [List.filterMap_map]
      exact List.filterMap_eq_nil_iff.mpr fun _ _ => rfl
    simp only [noted, append_eq, List.filterMap_append, silent, List.append_nil, List.nil_append]
    exact only.contacts

theorem Move.only_given (entry : String → LogEntry) (sqls : List String) :
    (journal (sqls.map fun sql => given (entry sql) sql)).Only false sqls := by
  induction sqls with
  | nil => exact ⟨rfl, rfl, rfl⟩
  | cons sql sqls ih =>
    have delivered := congrArg (List.cons ⟨.connection, sql⟩) ih.delivered
    exact ⟨rfl, delivered, congrArg (List.cons sql) ih.contacts⟩

namespace Execution

variable {o : MigrationOptions} {w : World} {script : Script} {past : List Delivery}

theorem captures_wrapper (w : World) (script : Script) (dry : o.dryRun = true)
    (sql : Option String) :
    Run.Yields past (wrapper o w script sql) (.ok ()) ⟨⟨[], sql.toList⟩, []⟩ := by
  cases sql with
  | none => exact Run.yields_pure ()
  | some sql =>
    have captured : Run.Yields past (o.dispatch.given w sql) (.ok ()) ⟨⟨[], [sql]⟩, []⟩ := by
      unfold Dispatch.given
      rw [if_pos (by simp [MigrationOptions.dispatch, dry])]
      exact Run.yields_capture sql
    unfold wrapper given
    dsimp only
    rw [if_pos dry]
    exact captured.mapFailure _

theorem run_dry_around (dry : o.dryRun = true) (noSteps : script.steps = []) {j : Journal}
    (fresh : j.delivered = []) :
    let around := o.preQuery.toList ++ o.postQuery.toList
    (run o w script []).run.run j =
      (.ok ⟨!script.isEmpty || false, o.dispatch.capturedText ⟨[], j.captured ++ around⟩⟩,
        j ++ ⟨⟨[], around⟩, []⟩) := by
  have pre : Run.Yields [] _ _ _ := captures_wrapper w script dry o.preQuery
  have post : Run.Yields [] _ _ _ := captures_wrapper w script dry o.postQuery
  have steps : Run.Yields [] (script.steps.forM (step o w script)) (.ok ()) {} := by
    rw [noSteps]
    exact Run.yields_pure ()
  have raws : Run.Yields [] (rawStatements o w script []) (.ok false) {} := Run.yields_pure false
  have still (m : Journal) (silent : m.delivered = []) : (j ++ m).delivered = [] := by
    rw [Journal.append_eq, fresh, silent]
    rfl
  rw [run, pre.run_bind fresh, steps.run_bind (still _ rfl), Journal.append_empty,
    raws.run_bind (still _ rfl), Journal.append_empty, post.run_bind (still _ rfl),
    Journal.append_assoc]
  simp only [Journal.append_eq, List.append_nil]
  rfl

/-- The statements around the script are all there is, and all of them if the run succeeds. -/
theorem only_around (empty : script.isEmpty = true) {j : Journal} (uncaptured : j.captured = [])
    (fresh : j.delivered = []) :
    let around := o.preQuery.toList ++ o.postQuery.toList
    ∃ result m sqls, (run o w script []).run.run j = (result, j ++ m) ∧
      sqls <+: around ∧ m.Only o.dryRun sqls ∧
      ∀ r, result = .ok r → sqls = around ∧ r.captured = o.dispatch.capturedText ⟨[], around⟩ := by
  intro around
  have noSteps : script.steps = [] := List.isEmpty_iff.mp empty
  cases mode : o.dryRun with
  | true =>
    have ran := run_dry_around (w := w) mode noSteps fresh
    rw [uncaptured] at ran
    refine ⟨_, _, around, ran, List.prefix_rfl, ⟨rfl, rfl, rfl⟩, fun r ok => ⟨rfl, ?_⟩⟩
    exact congrArg ExecutionResult.captured (Except.ok.inj ok).symm
  | false =>
    have givens : moves o w.database script [] =
        around.map fun sql => .given (wrapperEntry sql) sql := by
      rw [moves, scriptMoves, noSteps, List.map_append]
      simp [wrapperMoves, rawMoves]
    have makes : Run.Makes w script [] _ _ _ := makes_run mode []
    have ran := makes j fresh
    have silent : o.dispatch.capturedText ⟨[], around⟩ = none := if_neg (Bool.eq_false_iff.mp mode)
    rw [givens] at ran
    rw [silent]
    rcases w.play_cases script [] (around.map fun sql => .given (wrapperEntry sql) sql) with
      ⟨_, played⟩ | ⟨made, m, unmade, _, e, split, _, _, _, played⟩
    · rw [played] at ran
      refine ⟨_, _, around, ran, List.prefix_rfl, Move.only_given _ around, fun r ok => ⟨rfl, ?_⟩⟩
      exact congrArg ExecutionResult.captured (Except.ok.inj ok).symm
    · rw [played] at ran
      rw [List.append_cons] at split
      obtain ⟨sqls, rest, whole, sent, _⟩ := List.map_eq_append_iff.mp split
      rw [← sent] at ran
      refine ⟨_, _, sqls, ran, ⟨rest, whole.symm⟩, Move.only_given _ sqls, fun r ok => ?_⟩
      contradiction

end Execution

namespace Migration

variable {d : Delta} {o : MigrationOptions} {w : World}

theorem differs_eq (d : Delta) (o : MigrationOptions) (a : Adapter) :
    differs d o a = (script d o a).map fun s => !s.isEmpty || !d.statements.isEmpty := by
  unfold differs
  cases script d o a <;> rfl

def opening (a : Adapter) (rendered : Script) : Journal :=
  .noted [renderedEntry rendered, startedEntry a rendered]

section Executing

variable {rendered : Script} {j : Journal}

theorem execute_bind (ok : script d o w.database.adapter = .ok rendered)
    (next : ExecutionResult → Run α) :
    (execute d o w >>= next).outcome =
      (Execution.run o w rendered d.statements >>= fun r =>
        Run.emit (.log (finishedEntry o r)) >>= fun _ => next r).run.run
        (opening w.database.adapter rendered) := by
  unfold execute
  rw [ok]
  simp only [bind_assoc, pure_bind]
  rfl

/-- A migration is a run of the script, to which it only adds log entries. -/
theorem outcome_migrate (ok : script d o w.database.adapter = .ok rendered) :
    let ran := (Execution.run o w rendered d.statements).run.run
      (opening w.database.adapter rendered)
    let outcome := (migrate d o w).outcome
    (∃ notes, outcome.2 = ran.2 ++ .noted notes) ∧
      ∀ result, outcome.1 = .ok result →
        ∃ execution, ran.1 = .ok execution ∧ result.applied = execution.applied ∧
          result.output = execution.captured := by
  dsimp only
  rw [migrate, execute_bind ok]
  rcases ran : (Execution.run o w rendered d.statements).run.run
    (opening w.database.adapter rendered) with ⟨result, j⟩
  cases result with
  | error e =>
    rw [Run.bind_of_error ran]
    exact ⟨⟨[], j.append_empty.symm⟩, nofun⟩
  | ok r =>
    have finished : (Run.emit (.log (finishedEntry o r))).run.run j =
      (.ok (), j ++ .noted [finishedEntry o r]) := Run.yields_emit _ j rfl
    rw [Run.bind_of_ok ran, Run.bind_of_ok finished]
    split
    next =>
      refine ⟨⟨_, rfl⟩, fun result same => ⟨r, rfl, ?_⟩⟩
      rw [← Except.ok.inj same]
      exact ⟨rfl, rfl⟩
    next path _ =>
      cases w.unwritable path with
      | some reason => exact ⟨⟨_, rfl⟩, nofun⟩
      | none =>
        refine ⟨⟨[finishedEntry o r, reportEntry path], ?_⟩, fun result same => ⟨r, rfl, ?_⟩⟩
        · have reported : (Run.emit (.log (reportEntry path))).run.run _ = _ :=
            Run.yields_emit _ (j ++ .noted [finishedEntry o r]) rfl
          rw [Run.bind_of_ok reported]
          exact Journal.append_assoc ..
        · rw [← Except.ok.inj same]
          exact ⟨rfl, rfl⟩

end Executing

theorem differs_options (d : Delta) (o o' : MigrationOptions) (a : Adapter) :
    differs d o' a = differs d o a := by
  have same : (script d o' a).map Script.isEmpty = (script d o a).map Script.isEmpty :=
    d.isEmpty_modes o'.bulk o.bulk o'.inlineIndexes o.inlineIndexes a (.ofAdapter a)
  have through (o : MigrationOptions) : differs d o a =
      ((script d o a).map Script.isEmpty).map fun empty => !empty || !d.statements.isEmpty := by
    rw [differs_eq]
    cases script d o a <;> rfl
  rw [through, through, same]

theorem differs_error_iff {a : Adapter} {f : Failure} :
    differs d o a = .error f ↔ script d o a = .error f := by
  rw [differs_eq]
  cases script d o a with
  | error e =>
    exact ⟨fun same => congrArg Except.error (Except.error.inj same),
      fun same => congrArg Except.error (Except.error.inj same)⟩
  | ok rendered => exact ⟨nofun, nofun⟩

theorem script_of_differs {a : Adapter} {b : Bool} (differs : differs d o a = .ok b) :
    ∃ rendered, script d o a = .ok rendered ∧
      (!rendered.isEmpty || !d.statements.isEmpty) = b := by
  rw [differs_eq] at differs
  cases rendering : script d o a with
  | error e =>
    rw [rendering] at differs
    contradiction
  | ok rendered =>
    rw [rendering] at differs
    exact ⟨rendered, rfl, Except.ok.inj differs⟩

theorem script_of_ok {result : MigrationResult} (ok : (migrate d o w).outcome.1 = .ok result) :
    ∃ rendered, script d o w.database.adapter = .ok rendered := by
  obtain ⟨_, _, executed, _⟩ := Run.ok_of_bind ok
  obtain ⟨rendered, _, rendering, _⟩ := Run.ok_of_bind (congrArg Prod.fst executed)
  exact ⟨rendered, congrArg Prod.fst rendering⟩

/-- Whether there is anything to apply does not depend on the options, and cannot be told
    exactly where rendering fails. A migration that succeeds has applied something only if
    there was something, and has done so for sure if there is a script or if no raw statement
    has a guard. Where there is nothing it comes to the statements around it. -/
theorem migrate_coherent (d : Delta) (o : MigrationOptions) (w : World) :
    let a := w.database.adapter
    let outcome := (migrate d o w).outcome
    let around := o.preQuery.toList ++ o.postQuery.toList
    (∀ o', differs d o' a = differs d o a) ∧
      (∀ o' f, differs d o a = .error f ↔ script d o' a = .error f) ∧
      (∀ result, outcome.1 = .ok result →
        (result.applied = true → differs d o a = .ok true) ∧
        (∀ rendered, script d o a = .ok rendered → rendered.isEmpty = false →
          result.applied = true) ∧
        ((∀ s ∈ d.statements, s.guard = none) → differs d o a = .ok result.applied)) ∧
      (differs d o a = .ok false → ∃ sqls, sqls <+: around ∧ outcome.2.Only o.dryRun sqls ∧
        ∀ result, outcome.1 = .ok result → sqls = around ∧
          result.output =
            if o.dryRun then some (String.join (around.map (· ++ "\n"))) else none) := by
  intro a outcome around
  have options (o' : MigrationOptions) : differs d o' a = differs d o a :=
    differs_options d o o' a
  refine ⟨options, fun o' f => ?_, fun result ok => ?_, fun nothing => ?_⟩
  · rw [← options o']
    exact differs_error_iff
  · obtain ⟨rendered, rendering⟩ := script_of_ok ok
    obtain ⟨execution, ran, same, _⟩ := (outcome_migrate rendering).2 result ok
    obtain ⟨rawApplied, applied, some, all⟩ := Execution.applied_of_ok ran
    have differs : differs d o a = .ok (!rendered.isEmpty || !d.statements.isEmpty) := by
      rw [differs_eq, rendering]
      rfl
    rw [same, applied, differs]
    refine ⟨fun done => ?_, fun other shown nonempty => ?_, fun unguarded => ?_⟩
    · cases Bool.or_eq_true_iff.mp done with
      | inl scripted => rw [scripted, Bool.true_or]
      | inr raw => rw [List.isEmpty_eq_false_iff.mpr (some raw), Bool.not_false, Bool.or_true]
    · obtain rfl := Except.ok.inj (shown.symm.trans rendering)
      rw [nonempty]
      rfl
    · rw [all unguarded]
  · obtain ⟨rendered, rendering, none⟩ := script_of_differs nothing
    obtain ⟨noScript, noStatements⟩ := Bool.or_eq_false_iff.mp none
    have empty : rendered.isEmpty = true := by simpa using noScript
    have statements : d.statements = [] := by simpa using noStatements
    obtain ⟨⟨notes, told⟩, succeeds⟩ := outcome_migrate rendering
    rw [statements] at told succeeds
    obtain ⟨result, m, sqls, ran, part, only, all⟩ :=
      Execution.only_around (o := o) (w := w) (j := opening a rendered) empty rfl rfl
    rw [ran] at told succeeds
    refine ⟨sqls, part, told ▸ only.between_notes _ notes, fun result ok => ?_⟩
    obtain ⟨execution, ran, _, output⟩ := succeeds result ok
    obtain ⟨whole, captured⟩ := all execution ran
    exact ⟨whole, output.trans captured⟩

/-- A raw statement whose guard fails counts as a difference, but not as applied. -/
example :
    let d : Delta := { statements := [⟨"VACUUM", some (.predicate (.answer false))⟩] }
    differs d {} .postgres = .ok true ∧
      (migrate d {} Execution.eagerHost).outcome.1 = .ok ⟨false, none, none⟩ := by
  decide +kernel

end Migration

end SchemaEvolution
