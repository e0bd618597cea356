import SchemaEvolution.Delta.Reader
import SchemaEvolution.Delta.Writer
import SchemaEvolution.Operation.Basic

/-! Operations as documents. Unlike the entries of a delta they show every field, an
   absent one as null; each kind of operation is an object with its kind as only key. -/
namespace SchemaEvolution

open Json

namespace Json

def readColumnDefault : Reader DefaultValue := fun depth j => do
  match ← readVariant depth j with
  | ("Literal", inner, v) => (readLiteral inner v).map .literal
  | ("Evaluated", inner, v) => (readString inner v).map .expression
  | _ => none

def readColumn : Reader Column := fun depth j => do
  let fs ← readWholeFields ["name", "column_type", "null", "default", "limit", "precision",
    "scale", "unsigned", "auto_increment", "primary_key", "comment", "collation"] depth j
  return {
    name := ← fs.require "name" readString
    type := ← fs.require "column_type" readColumnType
    traits := {
      nullable := ← fs.optional "null" readBool
      default := ← fs.optional "default" readColumnDefault
      limit := ← fs.optional "limit" readWord
      precision := ← fs.optional "precision" readWord
      scale := ← fs.optional "scale" readWord
      unsigned := ← fs.require "unsigned" readBool
      autoIncrement := ← fs.require "auto_increment" readBool
      primaryKey := ← fs.require "primary_key" readBool
      comment := ← fs.optional "comment" readString
      collation := ← fs.optional "collation" readString } }

def readIndex : Reader Index := fun depth j => do
  let fs ← readWholeFields ["name", "columns", "unique", "where_clause", "using"] depth j
  return {
    name := ← fs.require "name" readString
    columns := ← fs.require "columns" (readList readString)
    unique := ← fs.require "unique" readBool
    predicate := ← fs.optional "where_clause" readString
    method := ← fs.optional "using" readString }

def readForeignKey : Reader ForeignKey := fun depth j => do
  let fs ← readWholeFields ["name", "column", "to_table", "primary_key", "on_delete",
    "on_update"] depth j
  return {
    name := ← fs.require "name" readString
    column := ← fs.require "column" readString
    toTable := ← fs.require "to_table" readString
    primaryKey := ← fs.require "primary_key" readString
    onDelete := ← fs.optional "on_delete" readAction
    onUpdate := ← fs.optional "on_update" readAction }

def readCheck : Reader CheckConstraint := fun depth j => do
  let fs ← readWholeFields ["name", "expression", "validate"] depth j
  return {
    name := ← fs.require "name" readString
    expression := ← fs.require "expression" readString
    validated := ← fs.require "validate" readBool }

def readExclusion : Reader ExclusionConstraint := fun depth j => do
  let fs ← readWholeFields ["name", "expression", "using", "where_clause", "deferrable"] depth j
  return {
    name := ← fs.require "name" readString
    expression := ← fs.require "expression" readString
    method := ← fs.optional "using" readString
    predicate := ← fs.optional "where_clause" readString
    deferrable := ← fs.optional "deferrable" readString }

def readUnique : Reader UniqueConstraint := fun depth j => do
  let fs ← readWholeFields ["name", "columns", "deferrable"] depth j
  return {
    name := ← fs.require "name" readString
    columns := ← fs.require "columns" (readList readString)
    deferrable := ← fs.optional "deferrable" readString }

def readCreateTable : Reader CreateTable := fun depth j => do
  let fs ← readWholeFields ["name", "options", "columns", "indexes", "check_constraints",
    "exclusion_constraints", "unique_constraints"] depth j
  return {
    name := ← fs.require "name" readString
    options := ← fs.require "options" readTableOptions
    columns := ← fs.require "columns" (readList readColumn)
    indexes := ← fs.require "indexes" (readList readIndex)
    checks := ← fs.require "check_constraints" (readList readCheck)
    exclusions := ← fs.require "exclusion_constraints" (readList readExclusion)
    uniques := ← fs.require "unique_constraints" (readList readUnique) }

def readNamed (build : String → α) : Reader α := fun depth j => do
  let fs ← readWholeFields ["name"] depth j
  return build (← fs.require "name" readString)

def readRename (build : String → String → α) : Reader α := fun depth j => do
  let fs ← readWholeFields ["from", "to"] depth j
  return build (← fs.require "from" readString) (← fs.require "to" readString)

def readAlteration : Reader Alteration := fun depth j => do
  let (kind, inner, v) ← readVariant depth j
  match kind with
  | "AddColumn" => (readColumn inner v).map .addColumn
  | "RenameColumn" => readRename .renameColumn inner v
  | "ChangeColumn" => (readColumn inner v).map .changeColumn
  | "RemoveColumn" => readNamed .removeColumn inner v
  | "AddIndex" => (readIndex inner v).map .addIndex
  | "RenameIndex" => readRename .renameIndex inner v
  | "RemoveIndex" => readNamed .removeIndex inner v
  | "AddCheckConstraint" => (readCheck inner v).map fun c => .addConstraint (.check c)
  | "RemoveCheckConstraint" => readNamed (.removeConstraint .check) inner v
  | "AddExclusionConstraint" => (readExclusion inner v).map fun c => .addConstraint (.exclusion c)
  | "RemoveExclusionConstraint" => readNamed (.removeConstraint .exclusion) inner v
  | "AddUniqueConstraint" => (readUnique inner v).map fun c => .addConstraint (.unique c)
  | "RemoveUniqueConstraint" => readNamed (.removeConstraint .unique) inner v
  | _ => none

def readOnTable (key : String) (r : Reader α) (build : String → α → β) : Reader β :=
  fun depth j => do
    let fs ← readWholeFields ["table", key] depth j
    return build (← fs.require "table" readString) (← fs.require key r)

def readTableComment : Reader Operation := fun depth j => do
  let fs ← readWholeFields ["table", "comment"] depth j
  return .changeTableComment (← fs.require "table" readString) (← fs.optional "comment" readString)

def readOperation : Reader Operation := fun depth j => do
  let (kind, inner, v) ← readVariant depth j
  match kind with
  | "CreateTable" => (readCreateTable inner v).map .createTable
  | "RenameTable" => readRename .renameTable inner v
  | "DropTable" => readNamed .dropTable inner v
  | "ChangeTable" => readOnTable "alterations" (readList readAlteration) .changeTable inner v
  | "Alter" => readOnTable "alteration" readAlteration .alter inner v
  | "AddForeignKey" => readOnTable "foreign_key" readForeignKey .addForeignKey inner v
  | "RemoveForeignKey" => readOnTable "name" readString .removeForeignKey inner v
  | "ChangeTableOptions" => readOnTable "options" readString .changeTableOptions inner v
  | "ChangeTableComment" => readTableComment inner v
  | _ => none

def ofMaybeString (s : Option String) : Json := ofOption ofString s
def ofMaybeWord (n : Option UInt32) : Json := ofOption ofWord n

def ofColumnDefault : DefaultValue → Json
  | .literal l => record [("Literal", ofLiteral l)]
  | .expression sql => record [("Evaluated", ofString sql)]

def ofColumn (c : Column) : Json :=
  record [("name", ofString c.name), ("column_type", ofType c.type),
    ("null", ofOption .bool c.traits.nullable),
    ("default", ofOption ofColumnDefault c.traits.default),
    ("limit", ofMaybeWord c.traits.limit), ("precision", ofMaybeWord c.traits.precision),
    ("scale", ofMaybeWord c.traits.scale), ("unsigned", .bool c.traits.unsigned),
    ("auto_increment", .bool c.traits.autoIncrement), ("primary_key", .bool c.traits.primaryKey),
    ("comment", ofMaybeString c.traits.comment), ("collation", ofMaybeString c.traits.collation)]

def ofIndex (i : Index) : Json :=
  record [("name", ofString i.name), ("columns", ofStrings i.columns), ("unique", .bool i.unique),
    ("where_clause", ofMaybeString i.predicate), ("using", ofMaybeString i.method)]

def ofForeignKey (k : ForeignKey) : Json :=
  record [("name", ofString k.name), ("column", ofString k.column), ("to_table", ofString k.toTable),
    ("primary_key", ofString k.primaryKey), ("on_delete", ofOption ofAction k.onDelete),
    ("on_update", ofOption ofAction k.onUpdate)]

def ofCheck (c : CheckConstraint) : Json :=
  record [("name", ofString c.name), ("expression", ofString c.expression),
    ("validate", .bool c.validated)]

def ofExclusion (c : ExclusionConstraint) : Json :=
  record [("name", ofString c.name), ("expression", ofString c.expression),
    ("using", ofMaybeString c.method), ("where_clause", ofMaybeString c.predicate),
    ("deferrable", ofMaybeString c.deferrable)]

def ofUnique (c : UniqueConstraint) : Json :=
  record [("name", ofString c.name), ("columns", ofStrings c.columns),
    ("deferrable", ofMaybeString c.deferrable)]

def ofConstraint : Constraint → Json
  | .check c => ofCheck c
  | .exclusion c => ofExclusion c
  | .unique c => ofUnique c

def ofCreateTable (t : CreateTable) : Json :=
  record [("name", ofString t.name), ("options", ofTableOptions t.options),
    ("columns", ofList ofColumn t.columns), ("indexes", ofList ofIndex t.indexes),
    ("check_constraints", ofList ofCheck t.checks),
    ("exclusion_constraints", ofList ofExclusion t.exclusions),
    ("unique_constraints", ofList ofUnique t.uniques)]

def ofNamed (name : String) : Json := record [("name", ofString name)]

def ofRename (source target : String) : Json :=
  record [("from", ofString source), ("to", ofString target)]

def ofAlteration (a : Alteration) : Json :=
  record [(a.kindName, match a with
    | .addColumn c => ofColumn c
    | .renameColumn source target => ofRename source target
    | .changeColumn c => ofColumn c
    | .removeColumn name => ofNamed name
    | .addIndex i => ofIndex i
    | .renameIndex source target => ofRename source target
    | .removeIndex name => ofNamed name
    | .addConstraint c => ofConstraint c
    | .removeConstraint _ name => ofNamed name)]

def ofOnTable (table key : String) (v : Json) : Json :=
  record [("table", ofString table), (key, v)]

def ofOperation : Operation → Json
  | .createTable t => record [("CreateTable", ofCreateTable t)]
  | .renameTable source target => record [("RenameTable", ofRename source target)]
  | .dropTable name => record [("DropTable", ofNamed name)]
  | .changeTable t as => record [("ChangeTable", ofOnTable t "alterations" (ofList ofAlteration as))]
  | .alter t a => record [("Alter", ofOnTable t "alteration" (ofAlteration a))]
  | .addForeignKey t k => record [("AddForeignKey", ofOnTable t "foreign_key" (ofForeignKey k))]
  | .removeForeignKey t name => record [("RemoveForeignKey", ofOnTable t "name" (ofString name))]
  | .changeTableOptions t options =>
    record [("ChangeTableOptions", ofOnTable t "options" (ofString options))]
  | .changeTableComment t comment =>
    record [("ChangeTableComment", ofOnTable t "comment" (ofMaybeString comment))]

end Json

end SchemaEvolution
