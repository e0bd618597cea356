import SchemaEvolution.Column
import SchemaEvolution.Element

/-! Schema operations. An alteration changes one existing table; it stands alone or
   as a member of a bulk block. -/
namespace SchemaEvolution

structure CreateTable where
  name : String
  options : TableOptions := {}
  columns : List Column := []
  indexes : List Index := []
  checks : List CheckConstraint := []
  exclusions : List ExclusionConstraint := []
  uniques : List UniqueConstraint := []
  deriving DecidableEq, Repr

def CreateTable.constraints (t : CreateTable) : List Constraint :=
  t.checks.map .check ++ t.exclusions.map .exclusion ++ t.uniques.map .unique

inductive Alteration where
  | addColumn (column : Column)
  | renameColumn (source target : String)
  | changeColumn (column : Column)
  | removeColumn (name : String)
  | addIndex (index : Index)
  | renameIndex (source target : String)
  | removeIndex (name : String)
  | addConstraint (constraint : Constraint)
  | removeConstraint (kind : ConstraintKind) (name : String)
  deriving DecidableEq, Repr

inductive Operation where
  | createTable (table : CreateTable)
  | renameTable (source target : String)
  | dropTable (name : String)
  | changeTable (table : String) (alterations : List Alteration)
  | alter (table : String) (alteration : Alteration)
  | addForeignKey (table : String) (key : ForeignKey)
  | removeForeignKey (table name : String)
  | changeTableOptions (table options : String)
  | changeTableComment (table : String) (comment : Option String)
  deriving DecidableEq, Repr

def ConstraintKind.label : ConstraintKind → String
  | check => "CheckConstraint"
  | exclusion => "ExclusionConstraint"
  | unique => "UniqueConstraint"

def Alteration.kindName : Alteration → String
  | addColumn _ => "AddColumn"
  | renameColumn _ _ => "RenameColumn"
  | changeColumn _ => "ChangeColumn"
  | removeColumn _ => "RemoveColumn"
  | addIndex _ => "AddIndex"
  | renameIndex _ _ => "RenameIndex"
  | removeIndex _ => "RemoveIndex"
  | addConstraint c => "Add" ++ c.kind.label
  | removeConstraint kind _ => "Remove" ++ kind.label

namespace Operation

/-- The kind shown for an operation; a lone alteration shows its own. -/
def kindName : Operation → String
  | createTable _ => "CreateTable"
  | renameTable _ _ => "RenameTable"
  | dropTable _ => "DropTable"
  | changeTable _ _ => "ChangeTable"
  | alter _ a => a.kindName
  | addForeignKey _ _ => "AddForeignKey"
  | removeForeignKey _ _ => "RemoveForeignKey"
  | changeTableOptions _ _ => "ChangeTableOptions"
  | changeTableComment _ _ => "ChangeTableComment"

/-- The table an operation belongs to; a renamed table goes by its new name. -/
def table : Operation → String
  | createTable t => t.name
  | renameTable _ target => target
  | dropTable name => name
  | changeTable t _ => t
  | alter t _ => t
  | addForeignKey t _ => t
  | removeForeignKey t _ => t
  | changeTableOptions t _ => t
  | changeTableComment t _ => t

def isBulk : Operation → Bool
  | changeTable _ _ => true
  | _ => false

def flatten : Operation → List Operation
  | changeTable t as => as.map (alter t)
  | op => [op]

end Operation

end SchemaEvolution
