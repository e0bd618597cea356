import SchemaEvolution.Sql.Quote

/-! Column types and column definitions in the words of each database. -/
namespace SchemaEvolution.Sql

open Decimal

/-- The integer type for a width in bytes; four bytes where none fits. -/
def byWidth (limit : Option UInt32) (small medium regular big : String) : String :=
  match limit with
  | none => regular
  | some n =>
    if n = 1 ∨ n = 2 then small
    else if n = 3 then medium
    else if 5 ≤ n ∧ n ≤ 8 then big
    else regular

def byLength (limit : Option UInt32) (tiny regular medium long : String) : String :=
  match limit with
  | none => regular
  | some n =>
    if n ≤ 255 then tiny
    else if n ≤ 65535 then regular
    else if n ≤ 16777215 then medium
    else long

/-- Precision and scale; a scale alone is not written. -/
def precisionText (t : ColumnTraits) : String :=
  match t.precision, t.scale with
  | some p, some s => parenthesised (wordText p ++ "," ++ wordText s)
  | some p, none => parenthesised (wordText p)
  | none, _ => ""

def mysqlType (c : Column) : String :=
  let base := match c.type with
    | .integer => byWidth c.traits.limit "smallint" "mediumint" "int" "bigint"
    | .bigint => "bigint"
    | .float => "float"
    | .decimal => "decimal" ++ precisionText c.traits
    | .string => "varchar" ++ parenthesised (wordText (c.traits.limit.getD 255))
    | .text => byLength c.traits.limit "tinytext" "text" "mediumtext" "longtext"
    | .binary => byLength c.traits.limit "tinyblob" "blob" "mediumblob" "longblob"
    | .boolean => "tinyint(1)"
    | .date => "date"
    | .datetime => "datetime" ++ precisionText c.traits
    | .time => "time"
    | .timestamp => "timestamp" ++ precisionText c.traits
    | .json => "json"
    | .jsonb => "json"
    | .uuid => "char(36)"
    | .custom name => name
  if c.traits.unsigned && c.type.isInteger then base ++ " unsigned" else base

def postgresType (c : Column) : String :=
  match c.type with
  | .integer =>
    if c.traits.autoIncrement then byWidth c.traits.limit "SERIAL" "SERIAL" "SERIAL" "BIGSERIAL"
    else byWidth c.traits.limit "SMALLINT" "INTEGER" "INTEGER" "BIGINT"
  | .bigint => if c.traits.autoIncrement then "BIGSERIAL" else "BIGINT"
  | .float => "DOUBLE PRECISION"
  | .decimal => "DECIMAL" ++ precisionText c.traits
  | .string =>
    match c.traits.limit with
    | some n => "VARCHAR" ++ parenthesised (wordText n)
    | none => "VARCHAR"
  | .text => "TEXT"
  | .binary => "BYTEA"
  | .boolean => "BOOLEAN"
  | .date => "DATE"
  | .datetime => "TIMESTAMP" ++ precisionText c.traits
  | .time => "TIME"
  | .timestamp => "TIMESTAMP" ++ precisionText c.traits
  | .json => "JSON"
  | .jsonb => "JSONB"
  | .uuid => "UUID"
  | .custom name => name

def sqliteType (c : Column) : String :=
  match c.type with
  | .integer => "INTEGER"
  | .bigint => "INTEGER"
  | .boolean => "INTEGER"
  | .float => "REAL"
  | .decimal => "NUMERIC"
  | .binary => "BLOB"
  | .custom name => name
  | _ => "TEXT"

def typeText : Adapter → Column → String
  | .mysql => mysqlType
  | .postgres => postgresType
  | .sqlite => sqliteType

def autoIncrementWord : Adapter → Option String
  | .mysql => some "AUTO_INCREMENT"
  | .postgres => none
  | .sqlite => some "AUTOINCREMENT"

def wordIf (flag : Bool) (word : String) : List String := if flag then [word] else []

def defaultClause (a : Adapter) (c : Column) : List String :=
  (c.traits.default.map fun d => "DEFAULT " ++ defaultText a d).toList

/-- A primary key column that may be null says nothing about it. -/
def mysqlDefinition (c : Column) : String :=
  let t := c.traits
  " ".intercalate
    ([quoteIdentifier .mysql c.name, mysqlType c]
      ++ wordIf (t.nullable = some false) "NOT NULL"
      ++ wordIf (t.nullable = some true && !t.primaryKey) "NULL"
      ++ defaultClause .mysql c
      ++ wordIf t.autoIncrement "AUTO_INCREMENT"
      ++ wordIf t.primaryKey "PRIMARY KEY"
      ++ (t.comment.map fun text => "COMMENT " ++ quoteString .mysql text).toList
      ++ (t.collation.map ("COLLATE " ++ ·)).toList)

/-- A primary key column that may not be null says nothing about it. -/
def standardDefinition (a : Adapter) (c : Column) : String :=
  let t := c.traits
  " ".intercalate
    ([quoteIdentifier a c.name, typeText a c]
      ++ wordIf t.primaryKey "PRIMARY KEY"
      ++ (if t.autoIncrement then (autoIncrementWord a).toList else [])
      ++ wordIf (t.nullable = some false && !t.primaryKey) "NOT NULL"
      ++ wordIf (t.nullable = some true) "NULL"
      ++ defaultClause a c
      ++ (t.collation.map fun name => "COLLATE " ++ quoteIdentifier a name).toList)

def columnDefinition : Adapter → Column → String
  | .mysql => mysqlDefinition
  | .postgres => standardDefinition .postgres
  | .sqlite => standardDefinition .sqlite

end SchemaEvolution.Sql
