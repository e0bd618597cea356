import SchemaEvolution.Decimal.Binary

/-! Columns: their types, default values and traits. A default is a literal, quoted
   when it is emitted, or an expression that the database evaluates itself. -/
namespace SchemaEvolution

open Decimal

inductive ColumnType where
  | integer
  | bigint
  | float
  | decimal
  | string
  | text
  | binary
  | boolean
  | date
  | datetime
  | time
  | timestamp
  | json
  | jsonb
  | uuid
  | custom (name : String)
  deriving DecidableEq, Repr

namespace ColumnType

def name : ColumnType → String
  | integer => "integer"
  | bigint => "bigint"
  | float => "float"
  | decimal => "decimal"
  | string => "string"
  | text => "text"
  | binary => "binary"
  | boolean => "boolean"
  | date => "date"
  | datetime => "datetime"
  | time => "time"
  | timestamp => "timestamp"
  | json => "json"
  | jsonb => "jsonb"
  | uuid => "uuid"
  | custom name => name

def builtins : List ColumnType :=
  [integer, bigint, float, decimal, string, text, binary, boolean, date, datetime, time,
   timestamp, json, jsonb, uuid]

def ofName (name : String) : ColumnType :=
  (builtins.find? fun t => t.name == name).getD (custom name)

theorem name_ofName (name : String) : (ofName name).name = name := by
  unfold ofName
  cases found : builtins.find? fun t => t.name == name with
  | none => rfl
  | some t => simpa using List.find?_some found

def isInteger (t : ColumnType) : Bool := t = integer || t = bigint

end ColumnType

inductive Literal where
  | null
  | bool (b : Bool)
  | integer (i : Int64)
  | float (x : Double)
  | string (s : String)
  deriving DecidableEq, Repr

inductive DefaultValue where
  | literal (l : Literal)
  | expression (sql : String)
  deriving DecidableEq, Repr

structure ColumnTraits where
  nullable : Option Bool := none
  default : Option DefaultValue := none
  limit : Option UInt32 := none
  precision : Option UInt32 := none
  scale : Option UInt32 := none
  unsigned : Bool := false
  autoIncrement : Bool := false
  primaryKey : Bool := false
  comment : Option String := none
  collation : Option String := none
  deriving DecidableEq, Repr

structure Column where
  name : String
  type : ColumnType
  traits : ColumnTraits := {}
  deriving DecidableEq, Repr

namespace Column

def notNull (c : Column) : Column := { c with traits := { c.traits with nullable := some false } }

def withLimit (c : Column) (n : UInt32) : Column :=
  { c with traits := { c.traits with limit := some n } }

def withDefault (c : Column) (d : DefaultValue) : Column :=
  { c with traits := { c.traits with default := some d } }

def asPrimaryKey (c : Column) : Column :=
  { c with traits := { c.traits with primaryKey := true, nullable := some false } }

end Column

/-- Floats are compared by value, so the two zeros agree. -/
def Literal.agrees : Literal → Literal → Bool
  | .float x, .float y => x.sameValue y
  | a, b => a == b

def DefaultValue.agrees : DefaultValue → DefaultValue → Bool
  | .literal a, .literal b => a.agrees b
  | a, b => a == b

def Column.agrees (a b : Column) : Bool :=
  let sameDefault := match a.traits.default, b.traits.default with
    | some x, some y => x.agrees y
    | x, y => x == y
  let bare (t : ColumnTraits) : ColumnTraits := { t with default := none }
  a.name == b.name && a.type == b.type && bare a.traits == bare b.traits && sameDefault

end SchemaEvolution
