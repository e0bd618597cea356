import SchemaEvolution.Column
import SchemaEvolution.Element

/-! Entries of a delta: what is asked of one column, index, foreign key or
   constraint. Fields that an operation needs may still be missing here. -/
namespace SchemaEvolution

structure ColumnEntry where
  type : Option ColumnType := none
  traits : ColumnTraits := {}
  ignored : Bool := false
  renamedFrom : Option String := none
  deriving DecidableEq, Repr

namespace ColumnEntry

def ofType (type : ColumnType) : ColumnEntry := { type := some type }

def mapTraits (e : ColumnEntry) (f : ColumnTraits → ColumnTraits) : ColumnEntry :=
  { e with traits := f e.traits }

def notNull (e : ColumnEntry) : ColumnEntry := e.mapTraits ({ · with nullable := some false })
def nullable (e : ColumnEntry) : ColumnEntry := e.mapTraits ({ · with nullable := some true })

def withDefault (e : ColumnEntry) (d : DefaultValue) : ColumnEntry :=
  e.mapTraits ({ · with default := some d })

def withLimit (e : ColumnEntry) (n : UInt32) : ColumnEntry :=
  e.mapTraits ({ · with limit := some n })

def withPrecision (e : ColumnEntry) (precision scale : UInt32) : ColumnEntry :=
  e.mapTraits ({ · with precision := some precision, scale := some scale })

def asPrimaryKey (e : ColumnEntry) : ColumnEntry :=
  e.mapTraits ({ · with primaryKey := true, nullable := some false })

def autoIncrementing (e : ColumnEntry) : ColumnEntry :=
  e.mapTraits ({ · with autoIncrement := true })

def withComment (e : ColumnEntry) (text : String) : ColumnEntry :=
  e.mapTraits ({ · with comment := some text })

def ignore (e : ColumnEntry) : ColumnEntry := { e with ignored := true }
def wasNamed (e : ColumnEntry) (name : String) : ColumnEntry := { e with renamedFrom := some name }

end ColumnEntry

structure IndexEntry where
  columns : List String := []
  name : Option String := none
  unique : Bool := false
  predicate : Option String := none
  method : Option String := none
  ignored : Bool := false
  deriving DecidableEq, Repr

structure ForeignKeyEntry where
  toTable : Option String := none
  name : Option String := none
  column : Option String := none
  primaryKey : Option String := none
  onDelete : Option ForeignKeyAction := none
  onUpdate : Option ForeignKeyAction := none
  ignored : Bool := false
  deriving DecidableEq, Repr

structure ConstraintOptions where
  name : Option String := none
  validate : Option Bool := none
  method : Option String := none
  predicate : Option String := none
  deferrable : Option String := none
  ignored : Bool := false
  deriving DecidableEq, Repr

structure ConstraintEntry where
  expression : Option String := none
  options : ConstraintOptions := {}
  deriving DecidableEq, Repr

structure UniqueEntry where
  columns : List String := []
  options : ConstraintOptions := {}
  deriving DecidableEq, Repr

class Entry (α : Type) where
  ignored : α → Bool

instance : Entry ColumnEntry := ⟨ColumnEntry.ignored⟩
instance : Entry IndexEntry := ⟨IndexEntry.ignored⟩
instance : Entry ForeignKeyEntry := ⟨ForeignKeyEntry.ignored⟩
instance : Entry ConstraintEntry := ⟨fun e => e.options.ignored⟩
instance : Entry UniqueEntry := ⟨fun e => e.options.ignored⟩

end SchemaEvolution
