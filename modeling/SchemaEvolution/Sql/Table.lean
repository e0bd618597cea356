import SchemaEvolution.Sql.Alteration

/-! Creating, renaming and commenting tables, and their foreign keys. -/
namespace SchemaEvolution.Sql

def primaryKeyDefinition (a : Adapter) (columns : List String) : List String :=
  if columns.isEmpty then [] else ["PRIMARY KEY " ++ parenthesised (columnList a columns)]

def createTableText (a : Adapter) (name : String) (definitions : List String) : String :=
  "CREATE TABLE " ++ quoteIdentifier a name ++ " (\n  " ++ ",\n  ".intercalate definitions ++ "\n)"

def rawOptionText (o : TableOptions) : String := (o.raw.map (" " ++ ·)).getD ""

def tableComment (a : Adapter) (table : String) (comment : Option String) : List String :=
  match a with
  | .mysql => [alterTable .mysql table ("COMMENT=" ++ quoteString .mysql (comment.getD ""))]
  | .postgres =>
    ["COMMENT ON TABLE " ++ quoteIdentifier .postgres table ++ " IS "
      ++ (comment.map (quoteString .postgres)).getD "NULL"]
  | .sqlite => [unsupported .sqlite ("comment on table " ++ table)]

def unsupportedExclusions (a : Adapter) (t : CreateTable) : List String :=
  t.exclusions.map fun c => unsupported a ("exclusion constraint " ++ c.name ++ " on " ++ t.name)

def mysqlInlineIndex (i : Index) : String :=
  (if i.unique then "UNIQUE INDEX" else "INDEX") ++ " " ++ quoteIdentifier .mysql i.name ++ " "
    ++ parenthesised (columnList .mysql i.columns)

def mysqlCreate (t : CreateTable) : List String :=
  let definitions := t.columns.map mysqlDefinition
    ++ primaryKeyDefinition .mysql t.options.primaryKey
    ++ t.indexes.map mysqlInlineIndex
    ++ t.checks.map (checkConstraint .mysql)
    ++ t.uniques.map (uniqueConstraint .mysql)
  (createTableText .mysql t.name definitions ++ rawOptionText t.options
      ++ (t.options.charset.map (" DEFAULT CHARSET=" ++ ·)).getD ""
      ++ (t.options.collation.map (" COLLATE=" ++ ·)).getD ""
      ++ (t.options.comment.map fun text => " COMMENT=" ++ quoteString .mysql text).getD "")
    :: unsupportedExclusions .mysql t

def postgresCreate (t : CreateTable) : List String :=
  let definitions := t.columns.map (standardDefinition .postgres)
    ++ primaryKeyDefinition .postgres t.options.primaryKey
    ++ t.checks.map (checkConstraint .postgres)
    ++ t.exclusions.map postgresExclusion
    ++ t.uniques.map postgresUnique
  (createTableText .postgres t.name definitions ++ rawOptionText t.options)
    :: t.indexes.map (createIndex .postgres t.name)
    ++ (if t.options.comment.isSome then tableComment .postgres t.name t.options.comment else [])
    ++ t.columns.filterMap (columnComment t.name)

/-- A primary key that a column declares leaves no room for one of the table. -/
def sqliteCreate (t : CreateTable) : List String :=
  let declared := t.columns.any fun c => c.traits.primaryKey
  let definitions := t.columns.map (standardDefinition .sqlite)
    ++ (if declared then [] else primaryKeyDefinition .sqlite t.options.primaryKey)
    ++ t.checks.map (checkConstraint .sqlite)
    ++ t.uniques.map (uniqueConstraint .sqlite)
  (createTableText .sqlite t.name definitions ++ rawOptionText t.options)
    :: t.indexes.map (createIndex .sqlite t.name)
    ++ unsupportedExclusions .sqlite t

def createTable : Adapter → CreateTable → List String
  | .mysql => mysqlCreate
  | .postgres => postgresCreate
  | .sqlite => sqliteCreate

def renameTable (a : Adapter) (source target : String) : String :=
  match a with
  | .mysql => "RENAME TABLE " ++ renameText .mysql source target
  | a => alterTable a source ("RENAME TO " ++ quoteIdentifier a target)

def dropTable (a : Adapter) (name : String) : String := "DROP TABLE " ++ quoteIdentifier a name

def foreignKeyText (a : Adapter) (k : ForeignKey) : String :=
  namedConstraint a k.name
    ("FOREIGN KEY " ++ parenthesised (quoteIdentifier a k.column)
      ++ " REFERENCES " ++ quoteIdentifier a k.toTable ++ " "
      ++ parenthesised (quoteIdentifier a k.primaryKey)
      ++ (k.onDelete.map fun x => " ON DELETE " ++ x.sql).getD ""
      ++ (k.onUpdate.map fun x => " ON UPDATE " ++ x.sql).getD "")

def addForeignKey (a : Adapter) (table : String) (k : ForeignKey) : String :=
  match a with
  | .sqlite =>
    unsupported .sqlite ("adding foreign key " ++ k.name ++ " to " ++ table
      ++ " (table recreation required)")
  | a => alterTable a table ("ADD " ++ foreignKeyText a k)

def removeForeignKey (a : Adapter) (table name : String) : String :=
  match a with
  | .sqlite =>
    unsupported .sqlite ("dropping foreign key " ++ name ++ " from " ++ table
      ++ " (table recreation required)")
  | .mysql => alterTable .mysql table ("DROP FOREIGN KEY " ++ quoteIdentifier .mysql name)
  | .postgres => alterTable .postgres table ("DROP CONSTRAINT " ++ quoteIdentifier .postgres name)

end SchemaEvolution.Sql
