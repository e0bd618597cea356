import SchemaEvolution.Proofs.Delta.Entries

/-! Tables, changes of tables and whole deltas are read back from their documents, if no
   guard is a predicate and all columns have types that go by their own names. A delta
   that was read is always so. -/
namespace SchemaEvolution

open Json

/- All entries of the columns, whatever becomes of them. -/

def ChangeSet.filed (s : ChangeSet α) : List α :=
  s.add.values ++ s.change.values ++ s.delete.values

def TableSpec.columnEntries (s : TableSpec) : List ColumnEntry := s.columns.values

def TableChange.columnEntries (c : TableChange) : List ColumnEntry :=
  c.columns.filed ++ c.primaryKeyColumns.filed

def Delta.columnEntries (d : Delta) : List ColumnEntry :=
  d.add.values.flatMap TableSpec.columnEntries ++
    d.change.values.flatMap TableChange.columnEntries ++
    d.delete.values.flatMap TableSpec.columnEntries

def Delta.Canonical (d : Delta) : Prop := ∀ e ∈ d.columnEntries, e.Canonical

def RawStatement.Documented (s : RawStatement) : Prop := ∀ g ∈ s.guard, ∃ sql, g = .query sql

/-- There is a document of the delta that says all of it. -/
def Delta.Documented (d : Delta) : Prop := d.Canonical ∧ ∀ s ∈ d.statements, s.Documented

namespace Json

variable {α : Type} {r : Reader α} {w : α → Json} {levels : Nat} {Good : α → Prop}

/- Tables. -/

def tableSlots (s : TableSpec) : Slots where
  entries := [("definition", some (ofKeyed ofColumnEntry s.columns)),
    ("indices", some (ofKeyed ofIndexEntry s.indexes)),
    ("foreign_keys", some (ofKeyed ofForeignKeyEntry s.foreignKeys)),
    ("check_constraints", some (ofKeyed ofConstraintEntry s.checks)),
    ("exclusion_constraints", some (ofKeyed ofConstraintEntry s.exclusions)),
    ("unique_constraints", some (ofKeyed ofUniqueEntry s.uniques)),
    ("options", some (ofTableOptions s.options))]
  distinct := by simp

theorem ofTableSpec_eq (s : TableSpec) : ofTableSpec s = (tableSlots s).document := rfl

theorem mirrors_tableSpec :
    Mirrors readTableSpec ofTableSpec 5 (∀ e ∈ ·.columnEntries, e.Canonical) where
  sound depth j s read := by
    simp only [readTableSpec, Option.bind_eq_bind, Option.bind_eq_some_iff, Option.pure_def,
      Option.some.injEq] at read
    obtain ⟨fs, -, columns, typed, _, -, _, -, _, -, _, -, _, -, _, -, rfl⟩ := read
    exact Fields.of_getD mirrors_columnEntry.keyed.sound (List.forall_mem_nil _) typed
  back s canonical depth shallow := by
    have columns := mirrors_columnEntry.keyed.back s.columns canonical (depth + 1) (by omega)
    have indexes := mirrors_indexEntry.keyed.back s.indexes (fun _ _ => trivial) (depth + 1)
      (by omega)
    have foreignKeys := mirrors_foreignKeyEntry.keyed.back s.foreignKeys (fun _ _ => trivial)
      (depth + 1) (by omega)
    have constraints m := mirrors_constraintEntry.keyed.back m (fun _ _ => trivial) (depth + 1)
      (by omega)
    have uniques := mirrors_uniqueEntry.keyed.back s.uniques (fun _ _ => trivial) (depth + 1)
      (by omega)
    have options := mirrors_tableOptions.back s.options trivial (depth + 1) (by omega)
    rw [ofTableSpec_eq, readTableSpec, readFields_document (s := tableSlots s)]
    · simp [tableSlots, Keyed.get?, Keyed.lookup, columns, indexes, foreignKeys, constraints,
        uniques, options]
    · rfl
    · omega

/- Changes. -/

def changeSetSlots (w : α → Json) (s : ChangeSet α) : Slots where
  entries := [("add", some (ofKeyed w s.add)), ("rename", some (ofKeyed ofString s.rename)),
    ("change", some (ofKeyed w s.change)), ("delete", some (ofKeyed w s.delete))]
  distinct := by simp

theorem ofChangeSet_eq (w : α → Json) (s : ChangeSet α) :
    ofChangeSet w s = (changeSetSlots w s).document := rfl

theorem readKeyed_strings (depth : Nat) (shallow : depth < depthLimit) (m : Keyed String) :
    readKeyed readString depth (ofKeyed ofString m) = some m :=
  mirrors_string.keyed.back m (fun _ _ => trivial) depth shallow

theorem Mirrors.changeSet (mirror : Mirrors r w levels Good) :
    Mirrors (readChangeSet r) (ofChangeSet w) (levels + 2) (∀ a ∈ ·.filed, Good a) where
  sound depth j s read := by
    simp only [readChangeSet, Option.bind_eq_bind, Option.bind_eq_some_iff, Option.pure_def,
      Option.some.injEq] at read
    obtain ⟨fs, -, add, added, rename, -, change, changed, delete, deleted, rfl⟩ := read
    have good {key : String} {m : Keyed α} (field : fs.getD key (readKeyed r) {} = some m) :
        ∀ a ∈ m.values, Good a :=
      Fields.of_getD mirror.keyed.sound (List.forall_mem_nil _) field
    simp only [ChangeSet.filed, List.forall_mem_append]
    exact ⟨⟨good added, good changed⟩, good deleted⟩
  back s good depth shallow := by
    simp only [ChangeSet.filed, List.forall_mem_append] at good
    obtain ⟨⟨added, changed⟩, deleted⟩ := good
    have add := mirror.keyed.back s.add added (depth + 1) (by omega)
    have rename := readKeyed_strings (depth + 1) (by omega) s.rename
    have change := mirror.keyed.back s.change changed (depth + 1) (by omega)
    have delete := mirror.keyed.back s.delete deleted (depth + 1) (by omega)
    rw [ofChangeSet_eq, readChangeSet, readFields_document (s := changeSetSlots w s)]
    · simp [changeSetSlots, Keyed.get?, Keyed.lookup, add, rename, change, delete]
    · rfl
    · omega

def tableChangeSlots (c : TableChange) : Slots where
  entries := [("definition", some (ofChangeSet ofColumnEntry c.columns)),
    ("primary_key_definition", some (ofChangeSet ofColumnEntry c.primaryKeyColumns)),
    ("indices", some (ofChangeSet ofIndexEntry c.indexes)),
    ("foreign_keys", some (ofChangeSet ofForeignKeyEntry c.foreignKeys)),
    ("check_constraints", some (ofChangeSet ofConstraintEntry c.checks)),
    ("exclusion_constraints", some (ofChangeSet ofConstraintEntry c.exclusions)),
    ("unique_constraints", some (ofChangeSet ofUniqueEntry c.uniques)),
    ("table_options", c.rawOptions.map ofString), ("table_charset", c.charset.map ofString),
    ("table_collation", c.collation.map ofString), ("table_comment", c.comment.map ofString)]
  distinct := by simp

theorem ofTableChange_eq (c : TableChange) :
    ofTableChange c = (tableChangeSlots c).document := by
  simp [ofTableChange, tableChangeSlots, Slots.document, presentString, present]

theorem mirrors_tableChange :
    Mirrors readTableChange ofTableChange 6 (∀ e ∈ ·.columnEntries, e.Canonical) where
  sound depth j c read := by
    obtain ⟨fs, -, read⟩ := Option.bind_eq_some_iff.mp read
    obtain ⟨columns, typed, read⟩ := Option.bind_eq_some_iff.mp read
    obtain ⟨key, keyTyped, read⟩ := Option.bind_eq_some_iff.mp read
    iterate 9 obtain ⟨_, -, read⟩ := Option.bind_eq_some_iff.mp read
    obtain rfl := Option.some.inj read
    have canonical {name : String} {s : ChangeSet ColumnEntry}
        (field : fs.getD name (readChangeSet readColumnEntry) {} = some s) :
        ∀ e ∈ s.filed, e.Canonical :=
      Fields.of_getD mirrors_columnEntry.changeSet.sound (List.forall_mem_nil _) field
    simp only [TableChange.columnEntries, List.forall_mem_append]
    exact ⟨canonical typed, canonical keyTyped⟩
  back c canonical depth shallow := by
    simp only [TableChange.columnEntries, List.forall_mem_append] at canonical
    have columns := mirrors_columnEntry.changeSet.back c.columns canonical.1 (depth + 1)
      (by omega)
    have keyColumns := mirrors_columnEntry.changeSet.back c.primaryKeyColumns canonical.2
      (depth + 1) (by omega)
    have indexes := mirrors_indexEntry.changeSet.back c.indexes (fun _ _ => trivial) (depth + 1)
      (by omega)
    have foreignKeys := mirrors_foreignKeyEntry.changeSet.back c.foreignKeys
      (fun _ _ => trivial) (depth + 1) (by omega)
    have constraints s := mirrors_constraintEntry.changeSet.back s (fun _ _ => trivial)
      (depth + 1) (by omega)
    have uniques := mirrors_uniqueEntry.changeSet.back c.uniques (fun _ _ => trivial) (depth + 1)
      (by omega)
    rw [ofTableChange_eq, readTableChange, readFields_document (s := tableChangeSlots c)]
    · refine Eq.trans (bind_slot rfl columns) ?_
      refine Eq.trans (bind_slot rfl keyColumns) ?_
      refine Eq.trans (bind_slot rfl indexes) ?_
      refine Eq.trans (bind_slot rfl foreignKeys) ?_
      refine Eq.trans (bind_slot rfl (constraints c.checks)) ?_
      refine Eq.trans (bind_slot rfl (constraints c.exclusions)) ?_
      refine Eq.trans (bind_slot rfl uniques) ?_
      refine Eq.trans (bind_slot rfl (readSlot_string ..)) ?_
      refine Eq.trans (bind_slot rfl (readSlot_string ..)) ?_
      refine Eq.trans (bind_slot rfl (readSlot_string ..)) ?_
      exact Eq.trans (bind_slot rfl (readSlot_string ..)) rfl
    · rfl
    · omega

/- Statements. -/

def statementSlots (s : RawStatement) : Slots where
  entries := [("sql", some (ofString s.sql)), ("condition", s.guard.bind ofGuard?)]
  distinct := by simp

theorem ofRawStatement?_eq {s : RawStatement} (documented : s.Documented) :
    ofRawStatement? s = some (statementSlots s).document := by
  obtain ⟨sql, guard⟩ := s
  cases guard with
  | none => rfl
  | some g =>
    obtain ⟨query, rfl⟩ := documented g rfl
    rfl

theorem readGuard_query {depth : Nat} (shallow : depth < depthLimit) (query : String) :
    readGuard depth (record [("query", ofString query)]) = some (.query query) := by
  simp [readGuard, readVariant, record, enter_of_lt shallow]

theorem query_of_readGuard {depth : Nat} {j : Json} {g : Guard}
    (read : readGuard depth j = some g) : ∃ sql, g = .query sql := by
  simp only [readGuard, Option.bind_eq_bind, Option.bind_eq_some_iff] at read
  obtain ⟨variant, -, read⟩ := read
  split at read
  · obtain ⟨sql, -, rfl⟩ := Option.map_eq_some_iff.mp read
    exact ⟨sql, rfl⟩
  · simp at read

theorem readSlot_guard (depth : Nat) (shallow : depth < depthLimit) {s : RawStatement}
    (documented : s.Documented) :
    readSlot (readOption readGuard) none depth (s.guard.bind ofGuard?) = some s.guard := by
  cases guarded : s.guard with
  | none => rfl
  | some g =>
    obtain ⟨query, rfl⟩ := documented g guarded
    have read := readGuard_query shallow query
    simp only [Option.bind_some, ofGuard?, readSlot_some]
    simp only [record] at read
    simp only [record, readOption, read, Option.map_some]

theorem mirrors_statement :
    Mirrors readRawStatement (fun s => (statementSlots s).document) 2 RawStatement.Documented where
  sound depth j s read := by
    simp only [readRawStatement, Option.bind_eq_bind, Option.bind_eq_some_iff, Option.pure_def,
      Option.some.injEq] at read
    obtain ⟨fs, -, sql, -, guard, guarded, rfl⟩ := read
    exact Fields.of_optional (fun _ _ _ => query_of_readGuard) guarded
  back s documented depth shallow := by
    have guard := readSlot_guard (depth + 1) (by omega) documented
    rw [readRawStatement, readFields_document (s := statementSlots s)]
    · simp [statementSlots, Keyed.get?, Keyed.lookup, guard]
    · rfl
    · omega

/- Deltas. -/

def deltaSlots (d : Delta) : Slots where
  entries := [("add", some (ofKeyed ofTableSpec d.add)),
    ("rename", some (ofKeyed ofString d.rename)),
    ("change", some (ofKeyed ofTableChange d.change)),
    ("delete", some (ofKeyed ofTableSpec d.delete)),
    ("execute", some (ofList (fun s => (statementSlots s).document) d.statements))]
  distinct := by simp

theorem toJson?_eq {d : Delta} (documented : ∀ s ∈ d.statements, s.Documented) :
    d.toJson? = some (deltaSlots d).document := by
  have statements : d.statements.mapM ofRawStatement? =
      some (d.statements.map fun s => (statementSlots s).document) :=
    mapM_eq_map fun s member => ofRawStatement?_eq (documented s member)
  rw [Delta.toJson?, statements]
  rfl

theorem mirrors_delta :
    Mirrors readDelta (fun d => (deltaSlots d).document) 8 Delta.Documented where
  sound depth j d read := by
    simp only [readDelta, Option.bind_eq_bind, Option.bind_eq_some_iff, Option.pure_def,
      Option.some.injEq] at read
    obtain ⟨fs, -, add, added, rename, -, change, changed, delete, deleted, statements, listed,
      rfl⟩ := read
    have tables {name : String} {m : Keyed TableSpec}
        (field : fs.getD name (readKeyed readTableSpec) {} = some m) :
        ∀ s ∈ m.values, ∀ e ∈ s.columnEntries, e.Canonical :=
      Fields.of_getD mirrors_tableSpec.keyed.sound (List.forall_mem_nil _) field
    have changes := Fields.of_getD mirrors_tableChange.keyed.sound
      (List.forall_mem_nil _) changed
    refine ⟨?_, Fields.of_getD mirrors_statement.list.sound (List.forall_mem_nil _) listed⟩
    simp only [Delta.Canonical, Delta.columnEntries, List.forall_mem_append,
      List.forall_mem_flatMap]
    exact ⟨⟨tables added, changes⟩, tables deleted⟩
  back d documented depth shallow := by
    obtain ⟨canonical, statements⟩ := documented
    simp only [Delta.Canonical, Delta.columnEntries, List.forall_mem_append,
      List.forall_mem_flatMap] at canonical
    obtain ⟨⟨added, changed⟩, deleted⟩ := canonical
    have add := mirrors_tableSpec.keyed.back d.add added (depth + 1) (by omega)
    have rename := readKeyed_strings (depth + 1) (by omega) d.rename
    have change := mirrors_tableChange.keyed.back d.change changed (depth + 1) (by omega)
    have delete := mirrors_tableSpec.keyed.back d.delete deleted (depth + 1) (by omega)
    have execute := mirrors_statement.list.back d.statements statements (depth + 1) (by omega)
    rw [readDelta, readFields_document (s := deltaSlots d)]
    · simp [deltaSlots, Keyed.get?, Keyed.lookup, add, rename, change, delete, execute]
    · rfl
    · omega

end Json

namespace Delta

theorem documented_iff {d : Delta} : d.Documented ↔ ∃ j, ofJson? j = some d :=
  ⟨fun documented => ⟨_, mirrors_delta.back d documented 0 (by decide)⟩,
    fun ⟨j, read⟩ => mirrors_delta.sound 0 j d read⟩

end Delta

end SchemaEvolution
