import SchemaEvolution.Proofs.Rendering.Plan
import SchemaEvolution.Proofs.Schema.Tables

/-! When a delta fits a schema, and what it makes of that schema. Both are said of the
   delta's entries and of whole maps of tables, columns and so on, not of operations
   or their order. Ignored entries do not count. -/
namespace SchemaEvolution

def ForeignKey.entry (k : ForeignKey) : String × ForeignKey := (k.name, k)

def Keyed.liveKeys [Entry α] (m : Keyed α) : List String := m.live.map Prod.fst

/-- The name is one of the elements after the additions and the renames. -/
def ChangeSet.Stands [Entry α] (s : ChangeSet α) (present : List String) (name : String) : Prop :=
  name ∈ s.add.liveKeys ∨ name ∈ s.rename.keys ∨ (name ∈ present ∧ name ∉ s.rename.values)

structure ChangeSet.FitsColumns (s : ChangeSet ColumnEntry) (present : List String) : Prop where
  added : ∀ n ∈ s.add.liveKeys, n ∉ present
  sources : s.rename.values.Nodup
  renamed : ∀ n ∈ s.rename.values, n ∈ present
  targets : ∀ n ∈ s.rename.keys, n ∉ present ∧ n ∉ s.add.liveKeys
  changed : ∀ n ∈ s.change.liveKeys, s.Stands present n
  deleted : ∀ n ∈ s.delete.liveKeys, s.Stands present n

namespace TableChange

/-- Primary key columns are only changed, and only if they remain. -/
structure FitsPrimaryKey (c : TableChange) (present : List String) : Prop where
  added : c.primaryKeyColumns.add.liveKeys = []
  renamed : c.primaryKeyColumns.rename.keys = []
  deleted : c.primaryKeyColumns.delete.liveKeys = []
  changed : ∀ n ∈ c.primaryKeyColumns.change.liveKeys,
    c.columns.Stands present n ∧ n ∉ c.columns.delete.liveKeys

structure FitsIndexes (table : String) (c : TableChange) (present : List String) : Prop where
  distinct : (c.removedIndexes table).Nodup
  removed : ∀ n ∈ c.removedIndexes table, n ∈ present
  sources : c.indexes.rename.values.Nodup
  renamed : ∀ n ∈ c.indexes.rename.values, n ∈ present ∧ n ∉ c.removedIndexes table
  targets : ∀ n ∈ c.indexes.rename.keys, n ∉ present

structure FitsConstraints (c : TableChange) (present : List String) : Prop where
  distinct : (c.removedConstraints.map Prod.snd).Nodup
  removed : ∀ n ∈ c.removedConstraints.map Prod.snd, n ∈ present

/-- What the main phase needs of a table. -/
structure FitsElements (table : String) (c : TableChange) (t : TableState) : Prop where
  columns : c.columns.FitsColumns t.columns.keys
  primaryKey : c.FitsPrimaryKey t.columns.keys
  indexes : c.FitsIndexes table t.indexes.keys
  constraints : c.FitsConstraints t.constraints.keys

structure Fits (table : String) (c : TableChange) (t : TableState) : Prop
    extends c.FitsElements table t where
  keysDistinct : c.removedKeys.Nodup
  keys : ∀ n ∈ c.removedKeys, n ∈ t.foreignKeys.keys

end TableChange

namespace Delta

/-- The name is a table once tables are added, renamed and dropped. -/
def Leaves (d : Delta) (s : Schema) (name : String) : Prop :=
  name ∈ d.add.keys ∨ name ∈ d.rename.keys ∨
    (name ∈ s.tables.keys ∧ name ∉ d.rename.values ∧ name ∉ d.delete.keys)

/-- Nothing is said of the elements that are added to a table: they may also be
   written over present ones. Only the tables that foreign keys point to must be left. -/
structure Fits (d : Delta) (s : Schema) : Prop where
  added : ∀ n ∈ d.add.keys, n ∉ s.tables.keys
  sources : d.rename.values.Nodup
  renamed : ∀ n ∈ d.rename.values, n ∈ s.tables.keys
  targets : ∀ n ∈ d.rename.keys, n ∉ s.tables.keys ∧ n ∉ d.add.keys
  changed : ∀ n ∈ d.change.keys, n ∈ s.tables.keys ∧ n ∉ d.rename.values
  deleted : ∀ n ∈ d.delete.keys, n ∈ s.tables.keys ∧ n ∉ d.rename.values ∧ n ∉ d.change.keys
  changes : ∀ e ∈ d.change.entries, ∀ t ∈ s.table? e.1, e.2.Fits e.1 t
  addedTargets : ∀ e ∈ d.add.entries, ∀ k ∈ e.2.keys e.1, d.Leaves s k.toTable
  changedTargets : ∀ e ∈ d.change.entries, ∀ k ∈ e.2.addedKeys e.1, d.Leaves s k.toTable

end Delta

/- Whether a delta fits can be computed. -/

instance [Entry α] (c : ChangeSet α) (present : List String) (name : String) :
    Decidable (c.Stands present name) :=
  inferInstanceAs (Decidable (_ ∨ _ ∨ _))

instance (c : ChangeSet ColumnEntry) (present : List String) :
    Decidable (c.FitsColumns present) :=
  decidable_of_iff (_ ∧ _ ∧ _ ∧ _ ∧ _ ∧ _)
    ⟨fun ⟨a, b, c, d, e, f⟩ => ⟨a, b, c, d, e, f⟩, fun ⟨a, b, c, d, e, f⟩ => ⟨a, b, c, d, e, f⟩⟩

namespace TableChange

variable (table : String) (c : TableChange)

instance (present : List String) : Decidable (c.FitsPrimaryKey present) :=
  decidable_of_iff (_ ∧ _ ∧ _ ∧ _)
    ⟨fun ⟨a, b, c, d⟩ => ⟨a, b, c, d⟩, fun ⟨a, b, c, d⟩ => ⟨a, b, c, d⟩⟩

instance (present : List String) : Decidable (c.FitsIndexes table present) :=
  decidable_of_iff (_ ∧ _ ∧ _ ∧ _ ∧ _)
    ⟨fun ⟨a, b, c, d, e⟩ => ⟨a, b, c, d, e⟩, fun ⟨a, b, c, d, e⟩ => ⟨a, b, c, d, e⟩⟩

instance (present : List String) : Decidable (c.FitsConstraints present) :=
  decidable_of_iff (_ ∧ _) ⟨fun ⟨a, b⟩ => ⟨a, b⟩, fun ⟨a, b⟩ => ⟨a, b⟩⟩

instance (t : TableState) : Decidable (c.FitsElements table t) :=
  decidable_of_iff (_ ∧ _ ∧ _ ∧ _)
    ⟨fun ⟨a, b, c, d⟩ => ⟨a, b, c, d⟩, fun ⟨a, b, c, d⟩ => ⟨a, b, c, d⟩⟩

instance (t : TableState) : Decidable (c.Fits table t) :=
  decidable_of_iff (_ ∧ _ ∧ _) ⟨fun ⟨a, b, c⟩ => ⟨a, b, c⟩, fun ⟨a, b, c⟩ => ⟨a, b, c⟩⟩

end TableChange

instance (d : Delta) (s : Schema) (name : String) : Decidable (d.Leaves s name) :=
  inferInstanceAs (Decidable (_ ∨ _ ∨ _))

instance (d : Delta) (s : Schema) : Decidable (d.Fits s) :=
  decidable_of_iff (_ ∧ _ ∧ _ ∧ _ ∧ _ ∧ _ ∧ _ ∧ _ ∧ _)
    ⟨fun ⟨a, b, c, d, e, f, g, h, i⟩ => ⟨a, b, c, d, e, f, g, h, i⟩,
      fun ⟨a, b, c, d, e, f, g, h, i⟩ => ⟨a, b, c, d, e, f, g, h, i⟩⟩

/- What becomes of a schema. -/

def ChangeSet.columnsAfter (l : Limits) (table : String) (s : ChangeSet ColumnEntry)
    (m : Keyed Column) : Keyed Column :=
  (((m.insertAll ((s.add.resolved (ColumnEntry.resolve l table)).map Column.entry)).renameAll
      Column.renamed s.rename.entries).insertAll
    ((s.change.resolved (ColumnEntry.resolve l table)).map Column.entry)).without s.delete.liveKeys

namespace TableChange

def columnsAfter (l : Limits) (table : String) (c : TableChange) (m : Keyed Column) :
    Keyed Column :=
  (c.columns.columnsAfter l table m).insertAll
    ((c.primaryKeyColumns.change.resolved (ColumnEntry.resolve l table)).map Column.entry)

def indexesAfter (table : String) (c : TableChange) (m : Keyed Index) : Keyed Index :=
  ((m.without (c.removedIndexes table)).renameAll Index.renamed
    c.indexes.rename.entries).insertAll ((c.addedIndexes table).map Index.entry)

def constraintsAfter (table : String) (c : TableChange) (m : Keyed String) : Keyed String :=
  (m.without (c.removedConstraints.map Prod.snd)).insertAll
    ((c.addedConstraints table).map Constraint.entry)

def optionsAdded (a : Adapter) (c : TableChange) : List String :=
  if a.isMysql then c.rawOptionTexts else []

def commentAfter (c : TableChange) (present : Option String) : Option String :=
  match c.comment with
  | none => present
  | some text => if text.isEmpty then none else some text

def outcome (a : Adapter) (l : Limits) (table : String) (c : TableChange) (t : TableState) :
    TableState where
  columns := c.columnsAfter l table t.columns
  indexes := c.indexesAfter table t.indexes
  foreignKeys := (t.foreignKeys.without c.removedKeys).insertAll
    ((c.addedKeys table).map ForeignKey.entry)
  constraints := c.constraintsAfter table t.constraints
  options := t.options ++ c.optionsAdded a
  comment := c.commentAfter t.comment

end TableChange

def TableSpec.outcome (a : Adapter) (l : Limits) (table : String) (s : TableSpec) : TableState :=
  { TableState.ofCreateTable (s.created a l table) with
    foreignKeys := .ofList ((s.keys table).map ForeignKey.entry) }

/-- Tables that are changed or untouched keep their places; new tables follow them, and
   then renamed ones. -/
def Delta.outcome (a : Adapter) (l : Limits) (d : Delta) (s : Schema) : Schema where
  tables :=
    let kept := s.tables.without (d.rename.values ++ d.delete.keys)
    let changed := kept.mapWithKey
      (Schema.changeAt (fun name c => c.outcome a l name) d.change.entries)
    (changed.insertAll (d.add.entries.map fun e => (e.1, e.2.outcome a l e.1))).insertAll
      (s.tables.renamedEntries (fun _ t => t) d.rename.entries)

end SchemaEvolution
