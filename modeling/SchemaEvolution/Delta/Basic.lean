import SchemaEvolution.Delta.Entry
import SchemaEvolution.Failure
import SchemaEvolution.Keyed

/-! A delta says what has to change to turn the live schema into the desired one.
   All maps keep the order in which their entries were given. -/
namespace SchemaEvolution

/-- The entries that are not ignored, in order. -/
def Keyed.live [Entry α] (m : Keyed α) : List (String × α) :=
  m.entries.filter fun e => !Entry.ignored e.2

theorem Keyed.mem_live [Entry α] {m : Keyed α} {e : String × α} :
    e ∈ m.live ↔ e ∈ m.entries ∧ Entry.ignored e.2 = false := by
  simp [Keyed.live]

structure TableSpec where
  columns : Keyed ColumnEntry := {}
  indexes : Keyed IndexEntry := {}
  foreignKeys : Keyed ForeignKeyEntry := {}
  checks : Keyed ConstraintEntry := {}
  exclusions : Keyed ConstraintEntry := {}
  uniques : Keyed UniqueEntry := {}
  options : TableOptions := {}
  deriving DecidableEq

namespace TableSpec

def addColumn (s : TableSpec) (name : String) (e : ColumnEntry) : TableSpec :=
  { s with columns := s.columns.insert name e }

def addIndex (s : TableSpec) (name : String) (e : IndexEntry) : TableSpec :=
  { s with indexes := s.indexes.insert name e }

def addForeignKey (s : TableSpec) (name : String) (e : ForeignKeyEntry) : TableSpec :=
  { s with foreignKeys := s.foreignKeys.insert name e }

def addCheck (s : TableSpec) (name : String) (e : ConstraintEntry) : TableSpec :=
  { s with checks := s.checks.insert name e }

def addExclusion (s : TableSpec) (name : String) (e : ConstraintEntry) : TableSpec :=
  { s with exclusions := s.exclusions.insert name e }

def addUnique (s : TableSpec) (name : String) (e : UniqueEntry) : TableSpec :=
  { s with uniques := s.uniques.insert name e }

end TableSpec

/-- Changes to one kind of element. A rename is filed under the new name and holds
   the old one. -/
structure ChangeSet (α : Type) where
  add : Keyed α := {}
  rename : Keyed String := {}
  change : Keyed α := {}
  delete : Keyed α := {}
  deriving DecidableEq

namespace ChangeSet

variable {α : Type}

def isEmpty (s : ChangeSet α) : Bool :=
  s.add.isEmpty && s.rename.isEmpty && s.change.isEmpty && s.delete.isEmpty

def addEntry (s : ChangeSet α) (name : String) (e : α) : ChangeSet α :=
  { s with add := s.add.insert name e }

def renameEntry (s : ChangeSet α) (target source : String) : ChangeSet α :=
  { s with rename := s.rename.insert target source }

def changeEntry (s : ChangeSet α) (name : String) (e : α) : ChangeSet α :=
  { s with change := s.change.insert name e }

def deleteEntry (s : ChangeSet α) (name : String) (e : α) : ChangeSet α :=
  { s with delete := s.delete.insert name e }

end ChangeSet

/-- Changes to an existing table. An empty comment clears the present one. -/
structure TableChange where
  columns : ChangeSet ColumnEntry := {}
  primaryKeyColumns : ChangeSet ColumnEntry := {}
  indexes : ChangeSet IndexEntry := {}
  foreignKeys : ChangeSet ForeignKeyEntry := {}
  checks : ChangeSet ConstraintEntry := {}
  exclusions : ChangeSet ConstraintEntry := {}
  uniques : ChangeSet UniqueEntry := {}
  rawOptions : Option String := none
  charset : Option String := none
  collation : Option String := none
  comment : Option String := none
  deriving DecidableEq

/-- A guard that is not a query. It asks the database, as often as it likes and depending on
    what it was told, until it gives an answer, fails with a chain of messages (the root cause
    first), or panics with or without a message. -/
inductive Predicate where
  | answer (pass : Bool)
  | failure (messages : List String)
  | panic (message : Option String)
  | ask (query : String) (next : Except Failure (Option String) → Predicate)

def Predicate.compare (query : String) (expected : Option String) : Predicate :=
  .ask query fun
    | .ok value => .answer (value = expected)
    | .error e => .failure [e.message]

inductive Guard where
  | query (sql : String)
  | predicate (p : Predicate)

structure RawStatement where
  sql : String
  guard : Option Guard := none

/-- Tables to create, to rename, to change and to drop, then raw statements. -/
structure Delta where
  add : Keyed TableSpec := {}
  rename : Keyed String := {}
  change : Keyed TableChange := {}
  delete : Keyed TableSpec := {}
  statements : List RawStatement := []

namespace Delta

def isEmpty (d : Delta) : Bool :=
  d.add.isEmpty && d.rename.isEmpty && d.change.isEmpty && d.delete.isEmpty
    && d.statements.isEmpty

def addTable (d : Delta) (name : String) (s : TableSpec) : Delta :=
  { d with add := d.add.insert name s }

def renameTable (d : Delta) (target source : String) : Delta :=
  { d with rename := d.rename.insert target source }

def changeTable (d : Delta) (name : String) (c : TableChange) : Delta :=
  { d with change := d.change.insert name c }

def deleteTable (d : Delta) (name : String) (s : TableSpec) : Delta :=
  { d with delete := d.delete.insert name s }

def execute (d : Delta) (s : RawStatement) : Delta :=
  { d with statements := d.statements ++ [s] }

end Delta

end SchemaEvolution
