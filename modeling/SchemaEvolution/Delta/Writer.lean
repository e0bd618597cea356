import SchemaEvolution.Delta.Basic
import SchemaEvolution.Json.Value

/-! Deltas written as documents: fields in a fixed order, absent options and unset
   flags left out. A statement guarded by anything but a query has no document. -/
namespace SchemaEvolution

open Json

namespace Json

def ofWord (n : UInt32) : Json := ofNat n.toNat
def ofType (t : ColumnType) : Json := ofString t.name
def ofAction (a : ForeignKeyAction) : Json := ofString a.name

def ofLiteral : Literal → Json
  | .null => .null
  | .bool b => .bool b
  | .integer i => ofInt i.toInt
  | .float x => .number (.real x)
  | .string s => ofString s

def ofDefault : DefaultValue → Json
  | .literal l => ofLiteral l
  | .expression sql => record [("expression", ofString sql)]

def ofKeyed (f : α → Json) (m : Keyed α) : Json := record (m.entries.map fun e => (e.1, f e.2))

def presentString (key : String) (value : Option String) : List (String × Json) :=
  present key (value.map ofString)

def presentWord (key : String) (value : Option UInt32) : List (String × Json) :=
  present key (value.map ofWord)

def ofColumnEntry (e : ColumnEntry) : Json :=
  record (present "type" (e.type.map ofType) ++ [("options", record
    (present "null" (e.traits.nullable.map .bool)
      ++ present "default" (e.traits.default.map ofDefault)
      ++ presentWord "limit" e.traits.limit
      ++ presentWord "precision" e.traits.precision
      ++ presentWord "scale" e.traits.scale
      ++ flagged "unsigned" e.traits.unsigned
      ++ flagged "auto_increment" e.traits.autoIncrement
      ++ flagged "primary_key" e.traits.primaryKey
      ++ presentString "comment" e.traits.comment
      ++ presentString "collation" e.traits.collation
      ++ flagged "ignore" e.ignored
      ++ presentString "renamed_from" e.renamedFrom))])

def ofIndexEntry (e : IndexEntry) : Json :=
  record [("column_name", ofStrings e.columns), ("options", record
    (presentString "name" e.name
      ++ flagged "unique" e.unique
      ++ presentString "where" e.predicate
      ++ presentString "using" e.method
      ++ flagged "ignore" e.ignored))]

def ofForeignKeyEntry (e : ForeignKeyEntry) : Json :=
  record (presentString "to_table" e.toTable ++ [("options", record
    (presentString "name" e.name
      ++ presentString "column" e.column
      ++ presentString "primary_key" e.primaryKey
      ++ present "on_delete" (e.onDelete.map ofAction)
      ++ present "on_update" (e.onUpdate.map ofAction)
      ++ flagged "ignore" e.ignored))])

def ofConstraintOptions (o : ConstraintOptions) : Json :=
  record
    (presentString "name" o.name
      ++ present "validate" (o.validate.map .bool)
      ++ presentString "using" o.method
      ++ presentString "where" o.predicate
      ++ presentString "deferrable" o.deferrable
      ++ flagged "ignore" o.ignored)

def ofConstraintEntry (e : ConstraintEntry) : Json :=
  record (presentString "expression" e.expression ++ [("options", ofConstraintOptions e.options)])

def ofUniqueEntry (e : UniqueEntry) : Json :=
  record [("column_name", ofStrings e.columns), ("options", ofConstraintOptions e.options)]

def ofTableOptions (o : TableOptions) : Json :=
  record
    (present "primary_key" (if o.primaryKey.isEmpty then none else some (ofStrings o.primaryKey))
      ++ presentString "options" o.raw
      ++ presentString "charset" o.charset
      ++ presentString "collation" o.collation
      ++ presentString "comment" o.comment)

def ofTableSpec (s : TableSpec) : Json :=
  record [("definition", ofKeyed ofColumnEntry s.columns),
    ("indices", ofKeyed ofIndexEntry s.indexes),
    ("foreign_keys", ofKeyed ofForeignKeyEntry s.foreignKeys),
    ("check_constraints", ofKeyed ofConstraintEntry s.checks),
    ("exclusion_constraints", ofKeyed ofConstraintEntry s.exclusions),
    ("unique_constraints", ofKeyed ofUniqueEntry s.uniques),
    ("options", ofTableOptions s.options)]

def ofChangeSet (f : α → Json) (s : ChangeSet α) : Json :=
  record [("add", ofKeyed f s.add), ("rename", ofKeyed ofString s.rename),
    ("change", ofKeyed f s.change), ("delete", ofKeyed f s.delete)]

def ofTableChange (c : TableChange) : Json :=
  record ([("definition", ofChangeSet ofColumnEntry c.columns),
    ("primary_key_definition", ofChangeSet ofColumnEntry c.primaryKeyColumns),
    ("indices", ofChangeSet ofIndexEntry c.indexes),
    ("foreign_keys", ofChangeSet ofForeignKeyEntry c.foreignKeys),
    ("check_constraints", ofChangeSet ofConstraintEntry c.checks),
    ("exclusion_constraints", ofChangeSet ofConstraintEntry c.exclusions),
    ("unique_constraints", ofChangeSet ofUniqueEntry c.uniques)]
      ++ presentString "table_options" c.rawOptions
      ++ presentString "table_charset" c.charset
      ++ presentString "table_collation" c.collation
      ++ presentString "table_comment" c.comment)

def ofGuard? : Guard → Option Json
  | .query sql => some (record [("query", ofString sql)])
  | .predicate _ => none

def ofRawStatement? (s : RawStatement) : Option Json :=
  match s.guard with
  | none => some (record [("sql", ofString s.sql)])
  | some g => (ofGuard? g).map fun j => record [("sql", ofString s.sql), ("condition", j)]

end Json

def Delta.toJson? (d : Delta) : Option Json :=
  (d.statements.mapM ofRawStatement?).map fun statements =>
    record [("add", ofKeyed ofTableSpec d.add), ("rename", ofKeyed ofString d.rename),
      ("change", ofKeyed ofTableChange d.change), ("delete", ofKeyed ofTableSpec d.delete),
      ("execute", .array statements)]

end SchemaEvolution
