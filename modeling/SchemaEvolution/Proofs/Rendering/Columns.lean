import SchemaEvolution.Proofs.Rendering.Plan

/-! The columns of a script. They are those of the delta, in order, with all their traits. Where
   there are no default limits to add they are just as the delta has them. -/
namespace SchemaEvolution

def Alteration.columns : Alteration → List Column
  | addColumn c => [c]
  | changeColumn c => [c]
  | _ => []

def Operation.columns : Operation → List Column
  | createTable t => t.columns
  | changeTable _ as => as.flatMap Alteration.columns
  | alter _ a => a.columns
  | _ => []

def Keyed.columns (m : Keyed ColumnEntry) : List Column :=
  (m.entries.filter fun e => !e.2.ignored).flatMap fun e =>
    (e.2.type.map fun type => ⟨e.1, type, e.2.traits⟩).toList

def ChangeSet.columns (s : ChangeSet ColumnEntry) : List Column :=
  s.add.columns ++ s.change.columns

def Delta.columns (d : Delta) : List Column :=
  d.add.values.flatMap (fun s => s.columns.columns) ++
    d.change.values.flatMap fun c => c.columns.columns ++ c.primaryKeyColumns.columns

theorem Limits.none_fill (type : ColumnType) (limit : Option UInt32) :
    Limits.none.fill type limit = limit := by
  cases limit <;> rfl

theorem ColumnEntry.resolve_none (table key : String) (e : ColumnEntry) :
    (e.resolve .none table key).toOption = e.type.map fun type => ⟨key, type, e.traits⟩ := by
  cases typed : e.type with
  | none =>
    rw [resolve, typed]
    rfl
  | some type =>
    rw [resolve, typed, Option.map_some]
    simp only [Limits.none_fill]
    rfl

theorem Keyed.columns_eq (table : String) (m : Keyed ColumnEntry) :
    m.resolved (ColumnEntry.resolve .none table) = m.columns := by
  unfold resolved columns
  simp only [ColumnEntry.resolve_none]
  rfl

/- Operations. -/

theorem columns_alters (table : String) (as : List Alteration) :
    (as.map (.alter table)).flatMap Operation.columns = as.flatMap Alteration.columns :=
  flatMap_alters (fun _ => rfl) as

theorem columns_block (bulk : Bool) (table : String) (as : List Alteration) :
    (block bulk table as).flatMap Operation.columns = as.flatMap Alteration.columns :=
  flatMap_block (fun _ => rfl) (fun _ => rfl) bulk as

theorem CreateTable.columns_operations (bulk inline : Bool) (t : CreateTable) :
    (t.operations bulk inline).flatMap Operation.columns = t.columns := by
  cases inline with
  | true => exact List.append_nil _
  | false =>
    have indexes : (t.indexes.map Alteration.addIndex).flatMap Alteration.columns = [] :=
      flatMap_silent (fun _ => rfl) t.indexes
    have constraints : (t.constraints.map fun c =>
        Operation.alter t.name (.addConstraint c)).flatMap Operation.columns = [] :=
      flatMap_silent (fun _ => rfl) t.constraints
    rw [operations, if_neg Bool.false_ne_true, List.flatMap_append, List.flatMap_cons,
      columns_block, indexes, constraints, List.append_nil, List.append_nil]
    rfl

namespace TableChange

theorem columns_columnSteps (table : String) (s : ChangeSet ColumnEntry) :
    (columnSteps .none table s).flatMap Alteration.columns = s.columns := by
  have renamed : (s.rename.entries.map fun e => Alteration.renameColumn e.2 e.1).flatMap
      Alteration.columns = [] := flatMap_silent (fun _ => rfl) _
  have removed : (s.delete.live.map fun e => Alteration.removeColumn e.1).flatMap
      Alteration.columns = [] := flatMap_silent (fun _ => rfl) _
  have added (cs : List Column) :
      (cs.map Alteration.addColumn).flatMap Alteration.columns = cs := by
    rw [List.flatMap_map]
    exact List.flatMap_singleton' cs
  have changed (cs : List Column) :
      (cs.map Alteration.changeColumn).flatMap Alteration.columns = cs := by
    rw [List.flatMap_map]
    exact List.flatMap_singleton' cs
  rw [columnSteps, List.flatMap_append, List.flatMap_append, List.flatMap_append, added, changed,
    renamed, removed, List.append_nil, List.append_nil, Keyed.columns_eq, Keyed.columns_eq,
    ChangeSet.columns]

theorem columns_steps (table : String) (c : TableChange) :
    (c.steps .none table).flatMap Alteration.columns =
      c.columns.columns ++ c.primaryKeyColumns.columns := by
  have removed : ((c.removedIndexes table).map Alteration.removeIndex).flatMap
      Alteration.columns = [] := flatMap_silent (fun _ => rfl) _
  have renamed : (c.indexes.rename.entries.map fun e => Alteration.renameIndex e.2 e.1).flatMap
      Alteration.columns = [] := flatMap_silent (fun _ => rfl) _
  have added : ((c.addedIndexes table).map Alteration.addIndex).flatMap
      Alteration.columns = [] := flatMap_silent (fun _ => rfl) _
  simp only [steps, List.flatMap_append, removed, renamed, added, columns_columnSteps,
    List.nil_append, List.append_nil]

theorem columns_constraintSteps (table : String) (c : TableChange) :
    (c.constraintSteps table).flatMap Alteration.columns = [] := by
  rw [constraintSteps, List.flatMap_append, flatMap_silent fun _ => rfl,
    flatMap_silent fun _ => rfl]
  rfl

theorem columns_optionChanges (a : Adapter) (table : String) (c : TableChange) :
    (optionChanges a table c).flatMap Operation.columns = [] := by
  unfold optionChanges
  rw [List.flatMap_append, flatMap_silent fun _ => rfl]
  cases c.comment <;> rfl

theorem columns_mainSteps (o : RenderOptions) (table : String) (c : TableChange) :
    (c.mainSteps { o with limits := .none } table).flatMap Operation.columns =
      c.columns.columns ++ c.primaryKeyColumns.columns := by
  rw [mainSteps, List.flatMap_append, List.flatMap_append, columns_block, columns_steps,
    columns_alters, columns_constraintSteps, columns_optionChanges, List.append_nil,
    List.append_nil]

end TableChange

namespace Delta

/-- Without default limits the columns of a script are those of its delta. -/
theorem columns_of_render {o : RenderOptions} {d : Delta} {script : Script}
    (rendered : d.render { o with limits := .none } = .ok script) :
    script.operations.flatMap Operation.columns = d.columns := by
  -- Foreign keys, renames and drops hold no columns: these come with creations and changes.
  have pre : d.preSteps.flatMap Operation.columns = [] := by
    rw [preSteps, List.flatMap_assoc]
    exact List.flatMap_eq_nil_iff.mpr fun e _ => flatMap_silent (fun _ => rfl) _
  have post : d.postSteps.flatMap Operation.columns = [] := by
    rw [postSteps, List.flatMap_append, List.flatMap_assoc, List.flatMap_assoc,
      List.append_eq_nil_iff]
    constructor
    · exact List.flatMap_eq_nil_iff.mpr fun e _ => flatMap_silent (fun _ => rfl) _
    · exact List.flatMap_eq_nil_iff.mpr fun e _ => flatMap_silent (fun _ => rfl) _
  have renamed : (d.rename.entries.map fun e => Operation.renameTable e.2 e.1).flatMap
      Operation.columns = [] := flatMap_silent (fun _ => rfl) _
  have dropped : (d.delete.keys.map Operation.dropTable).flatMap Operation.columns = [] :=
    flatMap_silent (fun _ => rfl) _
  have created (name : String) (s : TableSpec) :
      (s.created o.adapter .none name).columns = s.columns.columns :=
    Keyed.columns_eq name s.columns
  rw [render_ok rendered, List.flatMap_append, List.flatMap_append, pre, post, List.append_nil,
    List.nil_append, mainSteps]
  simp only [List.flatMap_append, List.flatMap_assoc, renamed, dropped, List.append_nil,
    CreateTable.columns_operations, TableChange.columns_mainSteps, created, columns, Keyed.values,
    List.flatMap_map]

end Delta

end SchemaEvolution
