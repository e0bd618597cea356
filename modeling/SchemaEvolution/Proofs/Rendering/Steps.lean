import SchemaEvolution.Proofs.Rendering.Fitting
import SchemaEvolution.Proofs.Rendering.Resolution

/-! The steps of one table change, replayed over a table that the change fits: every
   step finds what it needs, and the table becomes what the change says. -/
namespace SchemaEvolution

namespace Keyed

theorem liveKeys_sublist [Entry α] (m : Keyed α) : m.liveKeys.Sublist m.keys :=
  List.filter_sublist.map Prod.fst

theorem liveKeys_nodup [Entry α] (m : Keyed α) : m.liveKeys.Nodup :=
  m.keys_nodup.sublist m.liveKeys_sublist

theorem resolved_of_liveKeys [Entry α] {resolve : String → α → Rendered β} {m : Keyed α}
    (none : m.liveKeys = []) : m.resolved resolve = [] := by
  rw [liveKeys, List.map_eq_nil_iff] at none
  rw [resolved, none]
  rfl

end Keyed

namespace ColumnEntry

theorem names_resolved_sublist (l : Limits) (table : String) (m : Keyed ColumnEntry) :
    ((m.resolved (resolve l table)).map Column.name).Sublist m.liveKeys := by
  rw [Keyed.resolved, Keyed.liveKeys]
  induction m.live with
  | nil => exact .slnil
  | cons e es ih =>
    rw [List.flatMap_cons, List.map_append, List.map_cons]
    cases resolved : resolve l table e.1 e.2 with
    | error f => exact ih.cons e.1
    | ok c =>
      have name : c.name = e.1 := resolve_name resolved
      simpa [Except.toOption, name] using ih

theorem names_resolved_nodup (l : Limits) (table : String) (m : Keyed ColumnEntry) :
    ((m.resolved (resolve l table)).map Column.name).Nodup :=
  m.liveKeys_nodup.sublist (names_resolved_sublist l table m)

theorem name_mem_liveKeys {l : Limits} {table : String} {m : Keyed ColumnEntry} {c : Column}
    (member : c ∈ m.resolved (resolve l table)) : c.name ∈ m.liveKeys :=
  (names_resolved_sublist l table m).subset (List.mem_map_of_mem member)

theorem names_of_resolveLive {l : Limits} {table : String} {m : Keyed ColumnEntry}
    {cs : List Column} (ok : resolveLive (resolve l table) m = .ok cs) :
    (m.resolved (resolve l table)).map Column.name = m.liveKeys :=
  (Resolution.column l table).names_of_ok ok

end ColumnEntry

theorem names_entries (cs : List Column) :
    (cs.map Column.entry).map Prod.fst = cs.map Column.name := by
  simp [Column.entry, Function.comp_def]

namespace ChangeSet.FitsColumns

variable {l : Limits} {table : String} {s : ChangeSet ColumnEntry} {t : TableState}

theorem mem_keys_iff {m : Keyed Column} (fits : s.FitsColumns m.keys)
    (named : (s.add.resolved (ColumnEntry.resolve l table)).map Column.name = s.add.liveKeys)
    {n : String} :
    n ∈ ((m.insertAll ((s.add.resolved (ColumnEntry.resolve l table)).map Column.entry)).renameAll
      Column.renamed s.rename.entries).keys ↔ s.Stands m.keys n := by
  rw [Keyed.mem_keys_renameAll, Keyed.mem_keys_insertAll, names_entries, named]
  · constructor
    · rintro (target | ⟨added | old, kept⟩)
      · exact .inr (.inl target)
      · exact .inl added
      · exact .inr (.inr ⟨old, kept⟩)
    · rintro (added | target | ⟨old, kept⟩)
      · exact .inr ⟨.inl added, fun source => fits.added n added (fits.renamed n source)⟩
      · exact .inl target
      · exact .inr ⟨.inr old, kept⟩
  · intro r member
    exact Keyed.mem_keys_insertAll.mpr (.inr (fits.renamed r.2 (List.mem_map_of_mem member)))

theorem replay (fits : s.FitsColumns t.columns.keys)
    (named : (s.add.resolved (ColumnEntry.resolve l table)).map Column.name = s.add.liveKeys) :
    replayAll (TableState.applyAlteration table) t (TableChange.columnSteps l table s) =
      ⟨{ t with columns := s.columnsAfter l table t.columns }, none⟩ := by
  let added := s.add.resolved (ColumnEntry.resolve l table)
  let changed := s.change.resolved (ColumnEntry.resolve l table)
  let grown := t.columns.insertAll (added.map Column.entry)
  let renamed := grown.renameAll Column.renamed s.rename.entries
  have mem_grown {n : String} : n ∈ grown.keys ↔ n ∈ s.add.liveKeys ∨ n ∈ t.columns.keys := by
    rw [Keyed.mem_keys_insertAll, names_entries, named]
  -- Each of the four groups starts from the columns that the one before it leaves.
  have adds : replayAll (TableState.applyAlteration table) t (added.map .addColumn) =
      ⟨{ t with columns := grown }, none⟩ :=
    TableState.replay_addColumns (ColumnEntry.names_resolved_nodup l table s.add) fun c member =>
      fits.added c.name (ColumnEntry.name_mem_liveKeys member)
  have renames : replayAll (TableState.applyAlteration table) { t with columns := grown }
      (s.rename.entries.map fun e => .renameColumn e.2 e.1) =
      ⟨{ t with columns := renamed }, none⟩ :=
    TableState.replay_renameColumns s.rename.keys_nodup fits.sources
      (fun n source => mem_grown.mpr (.inr (fits.renamed n source)))
      (fun n target grew => (mem_grown.mp grew).elim (fits.targets n target).2
        (fits.targets n target).1)
  have changes : replayAll (TableState.applyAlteration table) { t with columns := renamed }
      (changed.map .changeColumn) =
      ⟨{ t with columns := renamed.insertAll (changed.map Column.entry) }, none⟩ :=
    TableState.replay_changeColumns fun c member =>
      (fits.mem_keys_iff named).mpr (fits.changed c.name (ColumnEntry.name_mem_liveKeys member))
  have removals : replayAll (TableState.applyAlteration table)
      { t with columns := renamed.insertAll (changed.map Column.entry) }
      (s.delete.live.map fun e => .removeColumn e.1) =
      ⟨{ t with columns := s.columnsAfter l table t.columns }, none⟩ :=
    TableState.replay_removeColumns s.delete.liveKeys_nodup fun n member =>
      Keyed.mem_keys_insertAll.mpr (.inr ((fits.mem_keys_iff named).mpr (fits.deleted n member)))
  rw [TableChange.columnSteps, replayAll_append, replayAll_append, replayAll_append, adds,
    Replayed.andThen_done, renames, Replayed.andThen_done, changes, Replayed.andThen_done,
    removals]

theorem mem_keys_columnsAfter {m : Keyed Column} (fits : s.FitsColumns m.keys)
    (named : (s.add.resolved (ColumnEntry.resolve l table)).map Column.name = s.add.liveKeys)
    {n : String} :
    n ∈ (s.columnsAfter l table m).keys ↔ s.Stands m.keys n ∧ n ∉ s.delete.liveKeys := by
  rw [ChangeSet.columnsAfter, Keyed.mem_keys_without, Keyed.mem_keys_insertAll, names_entries,
    fits.mem_keys_iff named]
  refine and_congr_left fun _ => or_iff_right_of_imp fun changed => ?_
  exact fits.changed n ((ColumnEntry.names_resolved_sublist l table s.change).subset changed)

end ChangeSet.FitsColumns

namespace TableChange

variable {l : Limits} {table : String} {c : TableChange} {t : TableState}

theorem columnSteps_of_onlyChanges {s : ChangeSet ColumnEntry} (added : s.add.liveKeys = [])
    (renamed : s.rename.keys = []) (deleted : s.delete.liveKeys = []) :
    columnSteps l table s =
      (s.change.resolved (ColumnEntry.resolve l table)).map .changeColumn := by
  have renames : s.rename.entries = [] := List.map_eq_nil_iff.mp renamed
  have removals : s.delete.live = [] := List.map_eq_nil_iff.mp deleted
  simp [columnSteps, Keyed.resolved_of_liveKeys added, renames, removals]

/-- Removed indexes make way, then renamed ones move. No addition can fail. -/
theorem FitsIndexes.replay (fits : c.FitsIndexes table t.indexes.keys) :
    let left := t.indexes.without (c.removedIndexes table)
    replayAll (TableState.applyAlteration table) t ((c.removedIndexes table).map .removeIndex) =
        ⟨{ t with indexes := left }, none⟩ ∧
      replayAll (TableState.applyAlteration table) { t with indexes := left }
          (c.indexes.rename.entries.map (fun e => .renameIndex e.2 e.1)
            ++ (c.addedIndexes table).map .addIndex) =
        ⟨{ t with indexes := c.indexesAfter table t.indexes }, none⟩ := by
  intro left
  have removals : replayAll (TableState.applyAlteration table) t
      (c.indexes.removed.map fun e => .removeIndex (e.2.resolveName table e.1)) =
      ⟨{ t with indexes := left }, none⟩ :=
    TableState.replay_removeIndexes fits.distinct fits.removed
  have renames : replayAll (TableState.applyAlteration table) { t with indexes := left }
      (c.indexes.rename.entries.map fun e => .renameIndex e.2 e.1) =
      ⟨{ t with indexes := left.renameAll Index.renamed c.indexes.rename.entries }, none⟩ :=
    TableState.replay_renameIndexes c.indexes.rename.keys_nodup fits.sources
      (fun n source => Keyed.mem_keys_without.mpr (fits.renamed n source))
      (fun n target kept => fits.targets n target (Keyed.mem_keys_without.mp kept).1)
  rw [removedIndexes, List.map_map]
  refine ⟨removals, ?_⟩
  rw [replayAll_append, renames, Replayed.andThen_done, TableState.replay_addIndexes]
  rfl

theorem FitsElements.replay_steps (fits : c.FitsElements table t)
    (named : (c.columns.add.resolved (ColumnEntry.resolve l table)).map Column.name =
      c.columns.add.liveKeys) :
    replayAll (TableState.applyAlteration table) t (c.steps l table) =
      ⟨{ t with
        columns := c.columnsAfter l table t.columns
        indexes := c.indexesAfter table t.indexes }, none⟩ := by
  let left := t.indexes.without (c.removedIndexes table)
  let settled := c.columns.columnsAfter l table t.columns
  have removals := fits.indexes.replay.1
  have columns : replayAll (TableState.applyAlteration table) { t with indexes := left }
      (columnSteps l table c.columns) = ⟨{ t with columns := settled, indexes := left }, none⟩ :=
    ChangeSet.FitsColumns.replay fits.columns named
  have primary : replayAll (TableState.applyAlteration table)
      { t with columns := settled, indexes := left } (columnSteps l table c.primaryKeyColumns) =
      ⟨{ t with columns := c.columnsAfter l table t.columns, indexes := left }, none⟩ := by
    rw [columnSteps_of_onlyChanges fits.primaryKey.added fits.primaryKey.renamed
      fits.primaryKey.deleted]
    refine TableState.replay_changeColumns fun k member => ?_
    have remains := fits.primaryKey.changed k.name (ColumnEntry.name_mem_liveKeys member)
    exact (fits.columns.mem_keys_columnsAfter named).mpr remains
  have additions := (FitsIndexes.replay
    (t := { t with columns := c.columnsAfter l table t.columns }) fits.indexes).2
  rw [steps, List.append_assoc, replayAll_append, replayAll_append, replayAll_append, removals,
    Replayed.andThen_done, columns, Replayed.andThen_done, primary, Replayed.andThen_done,
    additions]

/-- All removals of constraints come before all additions, over the three kinds. -/
theorem FitsConstraints.replay (fits : c.FitsConstraints t.constraints.keys) :
    replayAll (TableState.applyAlteration table) t (c.constraintSteps table) =
      ⟨{ t with constraints := c.constraintsAfter table t.constraints }, none⟩ := by
  rw [constraintSteps, replayAll_append,
    TableState.replay_removeConstraints fits.distinct fits.removed,
    Replayed.andThen_done, TableState.replay_addConstraints]
  rfl

end TableChange

end SchemaEvolution
