import SchemaEvolution.Proofs.Rendering.Resolution

/-! The part of a script that one table takes up. A new table is created and completed. An
   existing table goes through the stages of its change, and each stage accounts for the
   entries that it comes from: one operation for each, in their order. -/
namespace SchemaEvolution

inductive ColumnStage where
  | additions
  | renames
  | changes
  | removals
  deriving DecidableEq, Repr

inductive Stage where
  | indexRemovals
  | columns (stage : ColumnStage)
  | keyColumns (stage : ColumnStage)
  | indexRenames
  | indexAdditions
  | constraintRemovals
  | constraintAdditions
  | rawOptions
  | comment
  deriving DecidableEq, Repr

namespace ColumnStage

def all : List ColumnStage := [additions, renames, changes, removals]

def Consists (l : Limits) (table : String) (s : ChangeSet ColumnEntry) :
    ColumnStage → List Alteration → Prop
  | additions, as => ∃ columns, (Resolution.column l table).Gives s.add.live columns ∧
      as = columns.map .addColumn
  | renames, as => as = s.rename.entries.map fun e => .renameColumn e.2 e.1
  | changes, as => ∃ columns, (Resolution.column l table).Gives s.change.live columns ∧
      as = columns.map .changeColumn
  | removals, as => as = s.delete.live.map fun e => .removeColumn e.1

theorem stages_of_columnAlterations {l : Limits} {table : String} {s : ChangeSet ColumnEntry}
    {as : List Alteration} (ok : columnAlterations l table s = .ok as) :
    ∃ parts, List.Forall₂ (Consists l table s) all parts ∧ as = parts.flatten := by
  obtain ⟨added, first, ok⟩ := Rendered.bind_ok ok
  obtain ⟨changed, second, ok⟩ := Rendered.bind_ok ok
  have added : Consists l table s additions (added.map .addColumn) :=
    ⟨added, (Resolution.column l table).gives_of_ok first, rfl⟩
  have renamed : Consists l table s renames
      (s.rename.entries.map fun e => .renameColumn e.2 e.1) := rfl
  have changed : Consists l table s changes (changed.map .changeColumn) :=
    ⟨changed, (Resolution.column l table).gives_of_ok second, rfl⟩
  have removed : Consists l table s removals (s.delete.live.map fun e => .removeColumn e.1) := rfl
  refine ⟨_, .cons added (.cons renamed (.cons changed (.cons removed .nil))), ?_⟩
  rw [← Except.ok.inj ok]
  simp

end ColumnStage

namespace Stage

/-- Indexes are removed before all column changes, and renamed and added after them. -/
def ofBlock : List Stage :=
  indexRemovals :: ColumnStage.all.map columns ++ ColumnStage.all.map keyColumns
    ++ [indexRenames, indexAdditions]

def afterBlock : List Stage := [constraintRemovals, constraintAdditions, rawOptions, comment]

def all : List Stage := ofBlock ++ afterBlock

def Consists (o : RenderOptions) (table : String) (c : TableChange) :
    Stage → List Operation → Prop
  | indexRemovals, ops => ops = ((Resolution.index table).removedNames c.indexes).map fun name =>
      .alter table (.removeIndex name)
  | columns stage, ops => ∃ as, stage.Consists o.limits table c.columns as ∧
      ops = as.map (.alter table)
  | keyColumns stage, ops => ∃ as, stage.Consists o.limits table c.primaryKeyColumns as ∧
      ops = as.map (.alter table)
  | indexRenames, ops => ops = c.indexes.rename.entries.map fun e =>
      .alter table (.renameIndex e.2 e.1)
  | indexAdditions, ops =>
      ∃ indexes, (Resolution.index table).Gives (c.indexes.change.live ++ c.indexes.add.live)
        indexes ∧ ops = indexes.map fun i => .alter table (.addIndex i)
  | constraintRemovals, ops =>
      let removals (kind : ConstraintKind) (names : List String) : List Operation :=
        names.map fun name => .alter table (.removeConstraint kind name)
      ops = removals .check ((Resolution.check table).removedNames c.checks)
        ++ removals .exclusion ((Resolution.exclusion table).removedNames c.exclusions)
        ++ removals .unique ((Resolution.unique table).removedNames c.uniques)
  | constraintAdditions, ops => ∃ checks exclusions uniques,
      (Resolution.check table).Gives (c.checks.change.live ++ c.checks.add.live) checks ∧
        (Resolution.exclusion table).Gives (c.exclusions.change.live ++ c.exclusions.add.live)
          exclusions ∧
        (Resolution.unique table).Gives (c.uniques.change.live ++ c.uniques.add.live) uniques ∧
        ops = (checks.map Constraint.check ++ exclusions.map Constraint.exclusion
          ++ uniques.map Constraint.unique).map fun k => .alter table (.addConstraint k)
  | rawOptions, ops =>
      ops = (if o.adapter.isMysql then c.rawOptionTexts else []).map (.changeTableOptions table)
  | comment, ops => ops = (c.comment.map fun text =>
      .changeTableComment table (if text.isEmpty then none else some text)).toList

theorem consists_wrapped {o : RenderOptions} {table : String} {c : TableChange}
    {s : ChangeSet ColumnEntry} {wrap : ColumnStage → Stage} {parts : List (List Alteration)}
    (wraps : ∀ stage as, stage.Consists o.limits table s as →
      Consists o table c (wrap stage) (as.map (.alter table)))
    (stages : List.Forall₂ (ColumnStage.Consists o.limits table s) ColumnStage.all parts) :
    List.Forall₂ (Consists o table c) (ColumnStage.all.map wrap)
      (parts.map fun as => as.map (.alter table)) := by
  rw [List.forall₂_map_left_iff, List.forall₂_map_right_iff]
  exact stages.imp wraps

theorem stages_of_tableAlterations {o : RenderOptions} {table : String} {c : TableChange}
    {as : List Alteration} (ok : tableAlterations o.limits table c = .ok as) :
    ∃ parts, List.Forall₂ (Consists o table c) ofBlock parts ∧
      as.map (.alter table) = parts.flatten := by
  obtain ⟨columns, first, ok⟩ := Rendered.bind_ok ok
  obtain ⟨primary, second, ok⟩ := Rendered.bind_ok ok
  obtain ⟨indexes, third, ok⟩ := Rendered.bind_ok ok
  obtain ⟨columnParts, columnStages, rfl⟩ := ColumnStage.stages_of_columnAlterations first
  obtain ⟨primaryParts, primaryStages, rfl⟩ := ColumnStage.stages_of_columnAlterations second
  have removed : Consists o table c indexRemovals _ := rfl
  have renamed : Consists o table c indexRenames _ := rfl
  have added : Consists o table c indexAdditions (indexes.map fun i => .alter table (.addIndex i)) :=
    ⟨indexes, (Resolution.index table).gives_added third, rfl⟩
  have columnStages : List.Forall₂ (Consists o table c) (ColumnStage.all.map columns) _ :=
    consists_wrapped (fun _ as holds => ⟨as, holds, rfl⟩) columnStages
  have primaryStages : List.Forall₂ (Consists o table c) (ColumnStage.all.map keyColumns) _ :=
    consists_wrapped (fun _ as holds => ⟨as, holds, rfl⟩) primaryStages
  have stages : List.Forall₂ (Consists o table c) ofBlock _ :=
    List.rel_append (List.rel_append (.cons removed columnStages) primaryStages)
      (.cons renamed (.cons added .nil))
  refine ⟨_, stages, ?_⟩
  rw [← Except.ok.inj ok]
  simp [ChangeSet.removed, Resolution.removedNames, Resolution.index, List.map_flatten,
    Function.comp_def]

theorem stages_of_constraintAlterations {o : RenderOptions} {table : String} {c : TableChange}
    {as : List Alteration} (ok : constraintAlterations table c = .ok as) :
    ∃ parts, List.Forall₂ (Consists o table c) afterBlock parts ∧
      as.map (.alter table) ++ optionChanges o.adapter table c = parts.flatten := by
  obtain ⟨_, _, ok⟩ := Rendered.bind_ok ok
  obtain ⟨checks, first, ok⟩ := Rendered.bind_ok ok
  obtain ⟨_, _, ok⟩ := Rendered.bind_ok ok
  obtain ⟨exclusions, second, ok⟩ := Rendered.bind_ok ok
  obtain ⟨_, _, ok⟩ := Rendered.bind_ok ok
  obtain ⟨uniques, third, ok⟩ := Rendered.bind_ok ok
  have removed : Consists o table c constraintRemovals _ := rfl
  have added : Consists o table c constraintAdditions _ :=
    ⟨checks, exclusions, uniques, (Resolution.check table).gives_added first,
      (Resolution.exclusion table).gives_added second,
      (Resolution.unique table).gives_added third, rfl⟩
  have options : Consists o table c rawOptions _ := rfl
  have remark : Consists o table c comment _ := rfl
  refine ⟨_, .cons removed (.cons added (.cons options (.cons remark .nil))), ?_⟩
  rw [← Except.ok.inj ok]
  simp [ChangeSet.removed, Resolution.removedNames, Resolution.check, Resolution.exclusion,
    Resolution.unique, optionChanges, Function.comp_def]

end Stage

theorem flatten_alters (table : String) (as : List Alteration) :
    (as.map (Operation.alter table)).flatMap Operation.flatten = as.map (.alter table) :=
  (flatMap_alters (fun _ => rfl) as).trans List.map_eq_flatMap.symm

/-- A block has the same one-by-one form in both modes. -/
theorem flatten_block (bulk : Bool) (table : String) (as : List Alteration) :
    (block bulk table as).flatMap Operation.flatten = as.map (.alter table) :=
  (flatMap_block (fun _ => rfl) (fun _ => List.map_eq_flatMap) bulk as).trans
    List.map_eq_flatMap.symm

theorem flatten_optionChanges (a : Adapter) (table : String) (c : TableChange) :
    (optionChanges a table c).flatMap Operation.flatten = optionChanges a table c := by
  have same : ∀ op ∈ optionChanges a table c, op.flatten = [op] := by
    intro op member
    rcases List.mem_append.mp member with raw | comment
    · obtain ⟨_, _, rfl⟩ := List.mem_map.mp raw
      rfl
    · obtain ⟨_, _, rfl⟩ := Option.map_eq_some_iff.mp (Option.mem_toList.mp comment)
      rfl
  rw [List.flatMap_congr same, List.flatMap_singleton']

theorem flatten_completion (bulk : Bool) (t : CreateTable) :
    (block bulk t.name (t.indexes.map .addIndex)
      ++ t.constraints.map fun c => Operation.alter t.name (.addConstraint c)).flatMap
        Operation.flatten =
      t.completion.map (.alter t.name) := by
  have constraints : (t.constraints.map fun c => Operation.alter t.name (.addConstraint c)) =
      (t.constraints.map .addConstraint).map (.alter t.name) := (List.map_map ..).symm
  rw [constraints, List.flatMap_append, flatten_block, flatten_alters, ← List.map_append]
  rfl

def KeysAdded (table : String) (es : List (String × ForeignKeyEntry)) (ops : List Operation) :
    Prop :=
  ∃ keys, (Resolution.foreignKey table).Gives es keys ∧ ops = keys.map (.addForeignKey table)

namespace TableSpec

/-- The table has all that is specified, besides foreign keys. -/
structure Describes (l : Limits) (table : String) (s : TableSpec) (t : CreateTable) : Prop where
  name : t.name = table
  columns : (Resolution.column l table).Gives s.columns.live t.columns
  indexes : (Resolution.index table).Gives s.indexes.live t.indexes
  checks : (Resolution.check table).Gives s.checks.live t.checks
  exclusions : (Resolution.exclusion table).Gives s.exclusions.live t.exclusions
  uniques : (Resolution.unique table).Gives s.uniques.live t.uniques

/-- A table is created as a whole, or else bare, and its indexes and then its constraints
    are added to it. -/
inductive Created (o : RenderOptions) (table : String) (s : TableSpec) : List Operation → Prop
  | whole {t : CreateTable} (mode : o.inlineIndexes = true)
      (described : s.Describes o.limits table t) : Created o table s [.createTable t]
  | apart {t : CreateTable} {rest : List Operation} (mode : o.inlineIndexes = false)
      (described : s.Describes o.limits table t)
      (completed : rest.flatMap Operation.flatten = t.completion.map (.alter table)) :
      Created o table s (.createTable t.bare :: rest)

theorem segments_of_render {o : RenderOptions} {table : String} {s : TableSpec} {p : Phases}
    (ok : s.render o table = .ok p) :
    p.pre = [] ∧ s.Created o table p.main ∧ KeysAdded table s.foreignKeys.live p.post := by
  obtain ⟨columns, r₁, ok⟩ := Rendered.bind_ok ok
  obtain ⟨indexes, r₂, ok⟩ := Rendered.bind_ok ok
  obtain ⟨checks, r₃, ok⟩ := Rendered.bind_ok ok
  obtain ⟨exclusions, r₄, ok⟩ := Rendered.bind_ok ok
  obtain ⟨uniques, r₅, ok⟩ := Rendered.bind_ok ok
  obtain ⟨keys, r₆, ok⟩ := Rendered.bind_ok ok
  let whole : CreateTable :=
    ⟨table, if o.adapter.isMysql then s.options else s.options.portable, columns, indexes, checks,
      exclusions, uniques⟩
  have described : s.Describes o.limits table whole :=
    ⟨rfl, (Resolution.column o.limits table).gives_of_ok r₁,
      (Resolution.index table).gives_of_ok r₂, (Resolution.check table).gives_of_ok r₃,
      (Resolution.exclusion table).gives_of_ok r₄, (Resolution.unique table).gives_of_ok r₅⟩
  have added : KeysAdded table s.foreignKeys.live (keys.map (.addForeignKey table)) :=
    ⟨keys, (Resolution.foreignKey table).gives_of_ok r₆, rfl⟩
  rw [← Except.ok.inj ok]
  refine ⟨rfl, ?_, added⟩
  cases mode : o.inlineIndexes with
  | true => exact .whole mode described
  | false => exact .apart mode described (flatten_completion o.bulk whole)

end TableSpec

namespace TableChange

/-- One by one, the operations go through all the stages in order. -/
def Staged (o : RenderOptions) (table : String) (c : TableChange) (ops : List Operation) : Prop :=
  ∃ parts, List.Forall₂ (Stage.Consists o table c) Stage.all parts ∧
    ops.flatMap Operation.flatten = parts.flatten

theorem keys_of_foreignKeyChanges {table : String} {s : ChangeSet ForeignKeyEntry} {p : Phases}
    (ok : foreignKeyChanges table s = .ok p) :
    p.pre = ((Resolution.foreignKey table).removedNames s).map (.removeForeignKey table) ∧
      p.main = [] ∧ KeysAdded table (s.change.live ++ s.add.live) p.post := by
  obtain ⟨_, _, ok⟩ := Rendered.bind_ok ok
  obtain ⟨keys, added, ok⟩ := Rendered.bind_ok ok
  rw [← Except.ok.inj ok]
  exact ⟨(List.map_map ..).symm, rfl, keys, (Resolution.foreignKey table).gives_added added, rfl⟩

theorem segments_of_render {o : RenderOptions} {table : String} {c : TableChange} {p : Phases}
    (ok : c.render o table = .ok p) :
    p.pre = ((Resolution.foreignKey table).removedNames c.foreignKeys).map
        (.removeForeignKey table) ∧
      c.Staged o table p.main ∧
      KeysAdded table (c.foreignKeys.change.live ++ c.foreignKeys.add.live) p.post := by
  obtain ⟨alterations, r₁, ok⟩ := Rendered.bind_ok ok
  obtain ⟨keys, r₂, ok⟩ := Rendered.bind_ok ok
  obtain ⟨constraints, r₃, ok⟩ := Rendered.bind_ok ok
  obtain ⟨removed, none, added⟩ := keys_of_foreignKeyChanges r₂
  obtain ⟨early, earlyStages, block⟩ := Stage.stages_of_tableAlterations r₁
  obtain ⟨late, lateStages, rest⟩ := Stage.stages_of_constraintAlterations r₃
  rw [← Except.ok.inj ok, Phases.pre_append, Phases.main_append, Phases.post_append, none]
  dsimp only
  -- The keys have nothing in the main phase, and all else has nothing outside of it.
  rw [List.append_nil, List.append_nil, List.nil_append]
  refine ⟨removed, ⟨early ++ late, List.rel_append earlyStages lateStages, ?_⟩, added⟩
  rw [List.flatMap_append, List.flatMap_append, flatten_block, flatten_alters,
    flatten_optionChanges, List.append_assoc, block, rest, List.flatten_append]

end TableChange

end SchemaEvolution
