/-! Indexes, foreign keys, constraints and table options. -/
namespace SchemaEvolution

structure Index where
  name : String
  columns : List String
  unique : Bool := false
  predicate : Option String := none
  method : Option String := none
  deriving DecidableEq, Repr

def Index.conventionalName (table : String) (columns : List String) : String :=
  "index_" ++ table ++ "_on_" ++ "_and_".intercalate columns

inductive ForeignKeyAction where
  | noAction
  | restrict
  | cascade
  | nullify
  | setDefault
  deriving DecidableEq, Repr

namespace ForeignKeyAction

def all : List ForeignKeyAction := [noAction, restrict, cascade, nullify, setDefault]

def name : ForeignKeyAction → String
  | noAction => "no_action"
  | restrict => "restrict"
  | cascade => "cascade"
  | nullify => "nullify"
  | setDefault => "set_default"

def sql : ForeignKeyAction → String
  | noAction => "NO ACTION"
  | restrict => "RESTRICT"
  | cascade => "CASCADE"
  | nullify => "SET NULL"
  | setDefault => "SET DEFAULT"

def ofName? (name : String) : Option ForeignKeyAction := all.find? fun a => a.name == name

theorem ofName?_name (a : ForeignKeyAction) : ofName? a.name = some a := by
  cases a <;> rfl

end ForeignKeyAction

structure ForeignKey where
  name : String
  column : String
  toTable : String
  primaryKey : String
  onDelete : Option ForeignKeyAction := none
  onUpdate : Option ForeignKeyAction := none
  deriving DecidableEq, Repr

structure CheckConstraint where
  name : String
  expression : String
  validated : Bool := true
  deriving DecidableEq, Repr

structure ExclusionConstraint where
  name : String
  expression : String
  method : Option String := none
  predicate : Option String := none
  deferrable : Option String := none
  deriving DecidableEq, Repr

structure UniqueConstraint where
  name : String
  columns : List String
  deferrable : Option String := none
  deriving DecidableEq, Repr

inductive ConstraintKind where
  | check
  | exclusion
  | unique
  deriving DecidableEq, Repr

inductive Constraint where
  | check (c : CheckConstraint)
  | exclusion (c : ExclusionConstraint)
  | unique (c : UniqueConstraint)
  deriving DecidableEq, Repr

namespace Constraint

def kind : Constraint → ConstraintKind
  | check _ => .check
  | exclusion _ => .exclusion
  | unique _ => .unique

def name : Constraint → String
  | check c => c.name
  | exclusion c => c.name
  | unique c => c.name

/-- What a schema remembers of a constraint: its expression, or its columns. -/
def text : Constraint → String
  | check c => c.expression
  | exclusion c => c.expression
  | unique c => ", ".intercalate c.columns

end Constraint

structure TableOptions where
  primaryKey : List String := []
  raw : Option String := none
  charset : Option String := none
  collation : Option String := none
  comment : Option String := none
  deriving DecidableEq, Repr

def TableOptions.portable (o : TableOptions) : TableOptions :=
  { primaryKey := o.primaryKey, comment := o.comment }

end SchemaEvolution
