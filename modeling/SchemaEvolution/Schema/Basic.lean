import SchemaEvolution.Column
import SchemaEvolution.Element
import SchemaEvolution.Keyed

/-! A schema in memory: tables by name, each with its elements by name. -/
namespace SchemaEvolution

structure TableState where
  columns : Keyed Column := {}
  indexes : Keyed Index := {}
  foreignKeys : Keyed ForeignKey := {}
  constraints : Keyed String := {}
  options : List String := []
  comment : Option String := none
  deriving DecidableEq

structure Schema where
  tables : Keyed TableState := {}
  deriving DecidableEq

namespace Schema

def empty : Schema := {}
def table? (s : Schema) (name : String) : Option TableState := s.tables.get? name
def hasTable (s : Schema) (name : String) : Bool := s.tables.contains name

def withTable (s : Schema) (name : String) (t : TableState) : Schema :=
  ⟨s.tables.insert name t⟩

end Schema

/-- The same elements in any order; raw options keep theirs. -/
def TableState.agrees (a b : TableState) : Bool :=
  a.columns.agrees Column.agrees b.columns
    && a.indexes.agrees (· == ·) b.indexes
    && a.foreignKeys.agrees (· == ·) b.foreignKeys
    && a.constraints.agrees (· == ·) b.constraints
    && a.options == b.options
    && a.comment == b.comment

def Schema.agrees (a b : Schema) : Bool := a.tables.agrees TableState.agrees b.tables

def TableState.ofColumns (columns : List (String × ColumnType)) : TableState :=
  { columns := .ofList (columns.map fun c => (c.1, ⟨c.1, c.2, {}⟩)) }

end SchemaEvolution
