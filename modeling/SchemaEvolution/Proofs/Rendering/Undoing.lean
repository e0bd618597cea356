import SchemaEvolution.Proofs.Rendering.Outcome
import SchemaEvolution.Proofs.Rendering.Parts

/-! Additions to a table and the deletion of the same entries. Each deletion asks for the name
   that its entry was added under, so a table that had none of the names gets back what it was,
   entry by entry and in the same order. -/
namespace SchemaEvolution

open Schema (Settles)

/-- A map to which entries of these names can be added side by side. -/
structure Keyed.Admits (m : Keyed α) (names : List String) : Prop where
  distinct : names.Nodup
  absent : ∀ n ∈ names, n ∉ m.keys

theorem Resolution.names_of_complete [Entry α] [Sparse α] {table : String} {kind : EntryKind}
    (r : Resolution α β)
    (reports : ∀ key e, Reports (r.resolve key e) (Sparse.defects table kind key e)) {m : Keyed α}
    (complete : m.defects table kind = []) :
    (m.resolved r.resolve).map r.nameOf = m.live.map fun e => r.asked e.1 e.2 := by
  obtain ⟨bs, ok⟩ := (Reports.resolveLive reports m).exists_ok_iff.mpr complete
  exact r.names_of_ok ok

namespace TableSpec

def removals (s : TableSpec) : TableChange where
  columns := { delete := s.columns }
  indexes := { delete := s.indexes }
  foreignKeys := { delete := s.foreignKeys }
  checks := { delete := s.checks }
  exclusions := { delete := s.exclusions }
  uniques := { delete := s.uniques }

def indexNames (table : String) (s : TableSpec) : List String :=
  s.indexes.live.map fun e => e.2.resolveName table e.1

def keyNames (s : TableSpec) : List String :=
  s.foreignKeys.live.map fun e => e.2.resolveName e.1

/-- A table keeps the constraints of all kinds in one place. -/
def constraintNames (s : TableSpec) : List String :=
  s.checks.live.map (fun e => e.2.options.resolveName e.1)
    ++ s.exclusions.live.map (fun e => e.2.options.resolveName e.1)
    ++ s.uniques.live.map fun e => e.2.options.resolveName e.1

/-- The table has no element of the names that the entries ask for, and no two ask for one. -/
structure NewTo (table : String) (s : TableSpec) (t : TableState) : Prop where
  columns : t.columns.Admits s.columns.liveKeys
  indexes : t.indexes.Admits (s.indexNames table)
  foreignKeys : t.foreignKeys.Admits s.keyNames
  constraints : t.constraints.Admits s.constraintNames

/- What is to be deleted, by name. -/

theorem removed_deletions [Entry α] (m : Keyed α) :
    ({ delete := m } : ChangeSet α).removed = m.live := List.append_nil m.live

theorem removedIndexes_removals (table : String) (s : TableSpec) :
    s.removals.removedIndexes table = s.indexNames table :=
  congrArg (List.map _) (removed_deletions s.indexes)

theorem removedKeys_removals (s : TableSpec) : s.removals.removedKeys = s.keyNames :=
  congrArg (List.map _) (removed_deletions s.foreignKeys)

theorem removedConstraints_removals (s : TableSpec) :
    s.removals.removedConstraints.map Prod.snd = s.constraintNames := by
  simp only [TableChange.removedConstraints, removals, removed_deletions, List.map_append,
    List.map_map]
  rfl

section Outcomes

variable (a : Adapter) (l : Limits) (table : String) (s : TableSpec) (t : TableState)

theorem outcome_additions :
    let c := s.created a l table
    s.additions.outcome a l table t = { t with
      columns := t.columns.insertAll (c.columns.map Column.entry)
      indexes := t.indexes.insertAll (c.indexes.map Index.entry)
      foreignKeys := t.foreignKeys.insertAll ((s.keys table).map ForeignKey.entry)
      constraints := t.constraints.insertAll (c.constraints.map Constraint.entry) } := by
  intro c
  have columns : s.additions.columnsAfter l table t.columns =
      t.columns.insertAll (c.columns.map Column.entry) :=
    (Keyed.without_nil _).trans (Keyed.renameAll_nil Column.renamed _)
  have indexes : (t.indexes.without []).renameAll Index.renamed [] = t.indexes :=
    (Keyed.renameAll_nil _ _).trans (Keyed.without_nil _)
  have indexes : s.additions.indexesAfter table t.indexes =
      t.indexes.insertAll (c.indexes.map Index.entry) :=
    congrArg (Keyed.insertAll · (c.indexes.map Index.entry)) indexes
  have keys : t.foreignKeys.without s.additions.removedKeys = t.foreignKeys :=
    Keyed.without_nil _
  have constraints : s.additions.constraintsAfter table t.constraints =
      t.constraints.insertAll (c.constraints.map Constraint.entry) :=
    congrArg (Keyed.insertAll · (c.constraints.map Constraint.entry)) (Keyed.without_nil _)
  have options : s.additions.optionsAdded a = [] := by
    cases a <;> rfl
  rw [TableChange.outcome, columns, indexes, keys, constraints, options, List.append_nil]
  rfl

theorem outcome_removals :
    s.removals.outcome a l table t = { t with
      columns := t.columns.without s.columns.liveKeys
      indexes := t.indexes.without (s.indexNames table)
      foreignKeys := t.foreignKeys.without s.keyNames
      constraints := t.constraints.without s.constraintNames } := by
  have columns : s.removals.columnsAfter l table t.columns =
      t.columns.without s.columns.liveKeys :=
    congrArg (Keyed.without · s.columns.liveKeys) (Keyed.renameAll_nil Column.renamed _)
  have indexes : s.removals.indexesAfter table t.indexes =
      t.indexes.without (s.indexNames table) := by
    rw [TableChange.indexesAfter, removedIndexes_removals]
    exact Keyed.renameAll_nil Index.renamed _
  have constraints : s.removals.constraintsAfter table t.constraints =
      t.constraints.without s.constraintNames := by
    rw [TableChange.constraintsAfter, removedConstraints_removals]
    rfl
  have options : s.removals.optionsAdded a = [] := by
    cases a <;> rfl
  rw [TableChange.outcome, columns, indexes, removedKeys_removals, constraints, options,
    List.append_nil]
  rfl

end Outcomes

section Names

variable {table : String} {s : TableSpec} (a : Adapter) (l : Limits)

theorem columns_written (complete : s.defects table = []) :
    ((s.created a l table).columns.map Column.entry).map Prod.fst = s.columns.liveKeys := by
  have columns : s.columns.defects table .column = [] := (List.append_eq_nil_iff.mp complete).1
  rw [names_entries]
  exact (Resolution.column l table).names_of_complete (ColumnEntry.resolve_reports l table) columns

theorem indexes_written (complete : s.defects table = []) :
    ((s.created a l table).indexes.map Index.entry).map Prod.fst = s.indexNames table := by
  simp only [defects, List.append_eq_nil_iff] at complete
  rw [List.map_map]
  exact (Resolution.index table).names_of_complete (IndexEntry.resolve_reports table) complete.2.1

theorem keys_written (complete : s.defects table = []) :
    ((s.keys table).map ForeignKey.entry).map Prod.fst = s.keyNames := by
  simp only [defects, List.append_eq_nil_iff] at complete
  obtain ⟨-, -, -, -, -, keys⟩ := complete
  rw [List.map_map]
  exact (Resolution.foreignKey table).names_of_complete (ForeignKeyEntry.resolve_reports table) keys

theorem constraints_written (complete : s.defects table = []) :
    ((s.created a l table).constraints.map Constraint.entry).map Prod.fst = s.constraintNames := by
  simp only [defects, List.append_eq_nil_iff] at complete
  obtain ⟨-, -, checks, exclusions, uniques, -⟩ := complete
  have checks := (Resolution.check table).names_of_complete
    (ConstraintEntry.resolveCheck_reports table) checks
  have exclusions := (Resolution.exclusion table).names_of_complete
    (ConstraintEntry.resolveExclusion_reports table) exclusions
  have uniques := (Resolution.unique table).names_of_complete
    (UniqueEntry.resolve_reports table) uniques
  rw [CreateTable.constraints, List.map_map, List.map_append, List.map_append, List.map_map,
    List.map_map, List.map_map]
  exact congrArg₂ (· ++ ·) (congrArg₂ (· ++ ·) checks exclusions) uniques

end Names

variable {a : Adapter} {l : Limits} {table : String} {s : TableSpec} {t : TableState}

theorem NewTo.fits_additions (new : s.NewTo table t) : s.additions.Fits table t := by
  have nothing {α : Type} (P : α → Prop) : ∀ x ∈ [], P x := List.forall_mem_nil P
  constructor
  case toFitsElements =>
    exact {
      columns := ⟨new.columns.absent, List.nodup_nil, nothing _, nothing _, nothing _, nothing _⟩
      primaryKey := ⟨rfl, rfl, rfl, nothing _⟩
      indexes := ⟨List.nodup_nil, nothing _, List.nodup_nil, nothing _, nothing _⟩
      constraints := ⟨List.nodup_nil, nothing _⟩ }
  case keysDistinct => exact List.nodup_nil
  case keys => exact nothing _

theorem NewTo.fits_removals (new : s.NewTo table t) (complete : s.defects table = []) :
    s.removals.Fits table (s.additions.outcome a l table t) := by
  have nothing {α : Type} (P : α → Prop) : ∀ x ∈ [], P x := List.forall_mem_nil P
  have written {α : Type} {m : Keyed α} {es : List (String × α)} {names : List String}
      (same : es.map Prod.fst = names) : ∀ n ∈ names, n ∈ (m.insertAll es).keys := by
    intro n asked
    exact Keyed.mem_keys_insertAll.mpr (.inl (same ▸ asked))
  have columns := written (m := t.columns) (columns_written a l complete)
  have indexes := written (m := t.indexes) (indexes_written a l complete)
  have keys := written (m := t.foreignKeys) (keys_written complete)
  have constraints := written (m := t.constraints) (constraints_written a l complete)
  rw [outcome_additions]
  constructor
  case toFitsElements =>
    refine ⟨⟨nothing _, List.nodup_nil, nothing _, nothing _, nothing _, ?_⟩,
      ⟨rfl, rfl, rfl, nothing _⟩, ⟨?_, ?_, List.nodup_nil, nothing _, nothing _⟩, ?_, ?_⟩
    · intro n asked
      exact .inr (.inr ⟨columns n asked, List.not_mem_nil⟩)
    · rw [removedIndexes_removals]
      exact new.indexes.distinct
    · rw [removedIndexes_removals]
      exact indexes
    · rw [removedConstraints_removals]
      exact new.constraints.distinct
    · rw [removedConstraints_removals]
      exact constraints
  case keysDistinct =>
    rw [removedKeys_removals]
    exact new.foreignKeys.distinct
  case keys =>
    rw [removedKeys_removals]
    exact keys

/-- What the additions leave can be deleted again, and nothing else is gone with it. -/
theorem NewTo.removals_undo (new : s.NewTo table t) (complete : s.defects table = [])
    (a' : Adapter) (l' : Limits) :
    s.removals.outcome a' l' table (s.additions.outcome a l table t) = t := by
  rw [outcome_additions, outcome_removals]
  simp only [Keyed.without_insertAll_new (columns_written a l complete) new.columns.absent,
    Keyed.without_insertAll_new (indexes_written a l complete) new.indexes.absent,
    Keyed.without_insertAll_new (keys_written complete) new.foreignKeys.absent,
    Keyed.without_insertAll_new (constraints_written a l complete) new.constraints.absent]

end TableSpec

namespace Delta

variable {o : RenderOptions} {table : String} {c : TableChange} {s : Schema} {t : TableState}
  {script : Script}

theorem names_of_ofChange (rendered : (ofChange table c).render o = .ok script) :
    (c.columns.add.resolved (ColumnEntry.resolve o.limits table)).map Column.name =
      c.columns.add.liveKeys :=
  named_of_render rendered (table, c) (List.mem_singleton_self _)

theorem conflict_ofChange (rendered : (ofChange table c).render o = .ok script)
    (found : s.table? table = some t) (fits : c.Fits table t) :
    (s.replay script.operations).conflict = none ↔
      ∀ k ∈ c.addedKeys table, k.toTable ∈ s.tables.keys := by
  let altered := c.alterElements o.adapter o.limits table (c.dropKeys t)
  have before : s.replay (c.removedKeys.map (.removeForeignKey table)
      ++ c.mainSteps ⟨false, true, o.adapter, o.limits⟩ table) =
      ⟨s.withTable table altered, none⟩ :=
    fits.settles_untilKeys (names_of_ofChange rendered) true s rfl found
  have names : (s.withTable table altered).tables.keys = s.tables.keys :=
    Schema.keys_withTable altered found
  have present : table ∈ (s.withTable table altered).tables.keys := by
    rw [names]
    exact Keyed.mem_keys_of_get? found
  rw [replay_ofChange rendered, Schema.replay_append, before, Replayed.andThen_done,
    Schema.conflict_addedKeys present, names]

theorem state_ofChange (rendered : (ofChange table c).render o = .ok script)
    (found : s.table? table = some t) (fits : c.Fits table t)
    (targets : ∀ k ∈ c.addedKeys table, k.toTable ∈ s.tables.keys) :
    s.replay script.operations =
      ⟨s.withTable table (c.outcome o.adapter o.limits table t), none⟩ := by
  have steps := (fits.settles_untilKeys (a := o.adapter) (names_of_ofChange rendered) true).append
    (settles_addedKeys targets _)
  rw [replay_ofChange rendered]
  exact steps s rfl found

/-- Deleting the same entries undoes their addition, if the table has none of the names that they
    ask for. Neither side depends on the options of the other. -/
theorem replay_undone {A : TableSpec} {o o' : RenderOptions} (found : s.table? table = some t)
    (new : A.NewTo table t) (rendered : (ofChange table A.additions).render o = .ok script)
    (done : (s.replay script.operations).conflict = none) :
    ∃ back, (ofChange table A.removals).render o' = .ok back ∧
      (s.replay script.operations).state.replay back.operations = ⟨s, none⟩ := by
  have complete : A.defects table = [] := by
    rw [← A.defects_additions, ← defects_ofChange]
    exact (exists_script_iff o _).mp ⟨script, rendered⟩
  have deletable : (ofChange table A.removals).defects = [] := defects_ofChange table A.removals
  obtain ⟨back, rendered'⟩ := (exists_script_iff o' _).mpr deletable
  let grown := A.additions.outcome o.adapter o.limits table t
  have targets := (conflict_ofChange rendered found new.fits_additions).mp done
  have there : s.replay script.operations = ⟨s.withTable table grown, none⟩ :=
    state_ofChange rendered found new.fits_additions targets
  -- The deletions fit what the additions made of the table, and lead back to it.
  have again : (s.withTable table grown).replay back.operations =
      ⟨(s.withTable table grown).withTable table t, none⟩ := by
    have after := state_ofChange rendered' (Schema.table?_withTable_self s table grown)
      (new.fits_removals complete) (List.forall_mem_nil _)
    rwa [new.removals_undo complete] at after
  refine ⟨back, rendered', ?_⟩
  rw [there, again, Schema.withTable_withTable, Schema.withTable_table? found]

end Delta

def queue : TableState :=
  { TableState.ofColumns [("id", .bigint), ("title", .string)] with
    indexes := .ofList [("by_title", ⟨"by_title", ["title"], false, none, none⟩)] }

def desk : Schema where
  tables := .ofList [("users", .ofColumns [("id", .bigint)]), ("tickets", queue)]

/-- Reviewers of tickets. The index is named after its column, the check has a name of its own. -/
def review : TableSpec where
  columns := .ofList [
    ("reviewer_id", .ofType .bigint),
    ("score", .ofType .integer),
    ("title", (ColumnEntry.ofType .text).ignore)]
  indexes := .ofList [("by_reviewer", { columns := ["reviewer_id"] })]
  foreignKeys := .ofList [("reviewer", { toTable := some "users" })]
  checks := .ofList [("score", {
    expression := some "score > 0", options := { name := some "positive" } })]
  uniques := .ofList [("once", { columns := ["reviewer_id", "title"] })]

theorem replay_review :
    desk.table? "tickets" = some queue ∧ review.NewTo "tickets" queue ∧
      ∃ script, (Delta.ofChange "tickets" review.additions).render (.ofAdapter .mysql) = .ok script ∧
        (desk.replay script.operations).conflict = none ∧
        ∃ back, (Delta.ofChange "tickets" review.removals).render
            ⟨true, true, .sqlite, .ofAdapter .sqlite⟩ = .ok back ∧
          (desk.replay script.operations).state.replay back.operations = ⟨desk, none⟩ := by
  let d := Delta.ofChange "tickets" review.additions
  have through : (d.render (.ofAdapter .mysql)).map
      (fun script => (desk.replay script.operations).conflict) = .ok none := by decide
  obtain ⟨script, after, rendered, replayed⟩ := Delta.exists_replay through
  have done : (desk.replay script.operations).conflict = none := by
    rw [replayed]
  have found : desk.table? "tickets" = some queue := rfl
  have new : review.NewTo "tickets" queue :=
    ⟨⟨by decide, by decide⟩, ⟨by decide, by decide⟩, ⟨by decide, by decide⟩,
      ⟨by decide, by decide⟩⟩
  exact ⟨found, new, script, rendered, done, Delta.replay_undone found new rendered done⟩

end SchemaEvolution
