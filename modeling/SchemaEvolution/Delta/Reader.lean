import SchemaEvolution.Delta.Basic
import SchemaEvolution.Json.Field
import SchemaEvolution.Json.Reader

/-! Deltas read from documents. Every field may be missing except the text of a raw
   statement. -/
namespace SchemaEvolution

open Json

namespace Json

def readColumnType : Reader ColumnType := fun depth j => (readString depth j).map .ofName

/-- An integer that fits no signed word of 64 bits becomes a float. -/
def literalOfNumber : Number → Option Literal
  | .natural n =>
    if n ≤ greatestInt then some (.integer (Int64.ofInt n))
    else (Decimal.Magnitude.ofNat n).map fun m => .float ⟨false, m⟩
  | .negative n => some (.integer (Int64.ofInt (-n)))
  | .real x => some (.float x)
  | .outOfRange => none

def readLiteral : Reader Literal
  | _, .null => some .null
  | _, .bool b => some (.bool b)
  | _, .number n => literalOfNumber n
  | _, .text s => s.map .string
  | _, _ => none

/-- An object is a deferred default: it has one `expression`, and all of it must be
   usable. Anything else is a literal. -/
def readDefault : Reader DefaultValue
  | depth, .object ms =>
    if usable depth (.object ms) then do
      let known ← knownMembers ["expression"] ms
      return .expression (← (Keyed.lookup "expression" known).bind (readString depth))
    else none
  | depth, j => (readLiteral depth j).map .literal

def readNames : Reader (List String)
  | _, .text s => s.map ([·])
  | depth, j => readList readString depth j

def readAction : Reader ForeignKeyAction
  | _, .text s => s.bind ForeignKeyAction.ofName?
  | depth, j => do
    match ← readVariant depth j with
    | (name, _, .null) => ForeignKeyAction.ofName? name
    | _ => none

def readColumnOptions : Reader ColumnEntry := fun depth j => do
  let fs ← readFields ["null", "default", "limit", "precision", "scale", "unsigned",
    "auto_increment", "primary_key", "comment", "collation", "ignore", "renamed_from"] depth j
  return {
    traits := {
      nullable := ← fs.optional "null" readBool
      default := ← fs.getD "default" (fun depth j => (readDefault depth j).map some) none
      limit := ← fs.optional "limit" readWord
      precision := ← fs.optional "precision" readWord
      scale := ← fs.optional "scale" readWord
      unsigned := ← fs.getD "unsigned" readBool false
      autoIncrement := ← fs.getD "auto_increment" readBool false
      primaryKey := ← fs.getD "primary_key" readBool false
      comment := ← fs.optional "comment" readString
      collation := ← fs.optional "collation" readString }
    ignored := ← fs.getD "ignore" readBool false
    renamedFrom := ← fs.optional "renamed_from" readString }

def readColumnEntry : Reader ColumnEntry := fun depth j => do
  let fs ← readFields ["type", "options"] depth j
  let type ← fs.optional "type" readColumnType
  let options ← fs.getD "options" readColumnOptions {}
  return { options with type := type }

def readIndexOptions : Reader IndexEntry := fun depth j => do
  let fs ← readFields ["name", "unique", "where", "using", "ignore"] depth j
  return {
    name := ← fs.optional "name" readString
    unique := ← fs.getD "unique" readBool false
    predicate := ← fs.optional "where" readString
    method := ← fs.optional "using" readString
    ignored := ← fs.getD "ignore" readBool false }

def readIndexEntry : Reader IndexEntry := fun depth j => do
  let fs ← readFields ["column_name", "options"] depth j
  let columns ← fs.getD "column_name" readNames []
  let options ← fs.getD "options" readIndexOptions {}
  return { options with columns := columns }

def readForeignKeyOptions : Reader ForeignKeyEntry := fun depth j => do
  let fs ← readFields ["name", "column", "primary_key", "on_delete", "on_update", "ignore"] depth j
  return {
    name := ← fs.optional "name" readString
    column := ← fs.optional "column" readString
    primaryKey := ← fs.optional "primary_key" readString
    onDelete := ← fs.optional "on_delete" readAction
    onUpdate := ← fs.optional "on_update" readAction
    ignored := ← fs.getD "ignore" readBool false }

def readForeignKeyEntry : Reader ForeignKeyEntry := fun depth j => do
  let fs ← readFields ["to_table", "options"] depth j
  let toTable ← fs.optional "to_table" readString
  let options ← fs.getD "options" readForeignKeyOptions {}
  return { options with toTable := toTable }

def readConstraintOptions : Reader ConstraintOptions := fun depth j => do
  let fs ← readFields ["name", "validate", "using", "where", "deferrable", "ignore"] depth j
  return {
    name := ← fs.optional "name" readString
    validate := ← fs.optional "validate" readBool
    method := ← fs.optional "using" readString
    predicate := ← fs.optional "where" readString
    deferrable := ← fs.optional "deferrable" readString
    ignored := ← fs.getD "ignore" readBool false }

def readConstraintEntry : Reader ConstraintEntry := fun depth j => do
  let fs ← readFields ["expression", "options"] depth j
  return {
    expression := ← fs.optional "expression" readString
    options := ← fs.getD "options" readConstraintOptions {} }

def readUniqueEntry : Reader UniqueEntry := fun depth j => do
  let fs ← readFields ["column_name", "options"] depth j
  return {
    columns := ← fs.getD "column_name" readNames []
    options := ← fs.getD "options" readConstraintOptions {} }

def readTableOptions : Reader TableOptions := fun depth j => do
  let fs ← readFields ["primary_key", "options", "charset", "collation", "comment"] depth j
  return {
    primaryKey := ← fs.getD "primary_key" (readList readString) []
    raw := ← fs.optional "options" readString
    charset := ← fs.optional "charset" readString
    collation := ← fs.optional "collation" readString
    comment := ← fs.optional "comment" readString }

def readTableSpec : Reader TableSpec := fun depth j => do
  let fs ← readFields ["definition", "indices", "foreign_keys", "check_constraints",
    "exclusion_constraints", "unique_constraints", "options"] depth j
  return {
    columns := ← fs.getD "definition" (readKeyed readColumnEntry) {}
    indexes := ← fs.getD "indices" (readKeyed readIndexEntry) {}
    foreignKeys := ← fs.getD "foreign_keys" (readKeyed readForeignKeyEntry) {}
    checks := ← fs.getD "check_constraints" (readKeyed readConstraintEntry) {}
    exclusions := ← fs.getD "exclusion_constraints" (readKeyed readConstraintEntry) {}
    uniques := ← fs.getD "unique_constraints" (readKeyed readUniqueEntry) {}
    options := ← fs.getD "options" readTableOptions {} }

def readChangeSet (r : Reader α) : Reader (ChangeSet α) := fun depth j => do
  let fs ← readFields ["add", "rename", "change", "delete"] depth j
  return {
    add := ← fs.getD "add" (readKeyed r) {}
    rename := ← fs.getD "rename" (readKeyed readString) {}
    change := ← fs.getD "change" (readKeyed r) {}
    delete := ← fs.getD "delete" (readKeyed r) {} }

def readTableChange : Reader TableChange := fun depth j => do
  let fs ← readFields ["definition", "primary_key_definition", "indices", "foreign_keys",
    "check_constraints", "exclusion_constraints", "unique_constraints", "table_options",
    "table_charset", "table_collation", "table_comment"] depth j
  return {
    columns := ← fs.getD "definition" (readChangeSet readColumnEntry) {}
    primaryKeyColumns := ← fs.getD "primary_key_definition" (readChangeSet readColumnEntry) {}
    indexes := ← fs.getD "indices" (readChangeSet readIndexEntry) {}
    foreignKeys := ← fs.getD "foreign_keys" (readChangeSet readForeignKeyEntry) {}
    checks := ← fs.getD "check_constraints" (readChangeSet readConstraintEntry) {}
    exclusions := ← fs.getD "exclusion_constraints" (readChangeSet readConstraintEntry) {}
    uniques := ← fs.getD "unique_constraints" (readChangeSet readUniqueEntry) {}
    rawOptions := ← fs.optional "table_options" readString
    charset := ← fs.optional "table_charset" readString
    collation := ← fs.optional "table_collation" readString
    comment := ← fs.optional "table_comment" readString }

def readGuard : Reader Guard := fun depth j => do
  match ← readVariant depth j with
  | ("query", inner, v) => (readString inner v).map .query
  | _ => none

/-- The text is required; as an array a statement may leave its guard out. -/
def readRawStatement : Reader RawStatement := fun depth j => do
  let fs ← readFields ["sql", "condition"] depth j
  return {
    sql := ← fs.require "sql" readString
    guard := ← fs.optional "condition" readGuard }

def readDelta : Reader Delta := fun depth j => do
  let fs ← readFields ["add", "rename", "change", "delete", "execute"] depth j
  return {
    add := ← fs.getD "add" (readKeyed readTableSpec) {}
    rename := ← fs.getD "rename" (readKeyed readString) {}
    change := ← fs.getD "change" (readKeyed readTableChange) {}
    delete := ← fs.getD "delete" (readKeyed readTableSpec) {}
    statements := ← fs.getD "execute" (readList readRawStatement) [] }

end Json

def Delta.ofJson? (j : Json) : Option Delta := readDelta 0 j

def Delta.parse? (document : String) : Option Delta := (Json.parse document).bind Delta.ofJson?

end SchemaEvolution
