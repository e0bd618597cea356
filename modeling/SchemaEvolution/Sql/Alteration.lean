import SchemaEvolution.Operation.Basic
import SchemaEvolution.Sql.Column

/-! Alterations as clauses of ALTER TABLE where a database has one, and as statements
   of their own where it has none. What a database cannot express becomes a comment. -/
namespace SchemaEvolution.Sql

def alterTable (a : Adapter) (table body : String) : String :=
  "ALTER TABLE " ++ quoteIdentifier a table ++ " " ++ body

def unsupported (a : Adapter) (what : String) : String :=
  "-- " ++ what ++ " is not supported by " ++ a.name

def renameText (a : Adapter) (source target : String) : String :=
  quoteIdentifier a source ++ " TO " ++ quoteIdentifier a target

def createIndex (a : Adapter) (table : String) (i : Index) : String :=
  "CREATE " ++ (if i.unique then "UNIQUE " else "") ++ "INDEX " ++ quoteIdentifier a i.name
    ++ " ON " ++ quoteIdentifier a table
    ++ (i.method.map (" USING " ++ ·)).getD ""
    ++ " " ++ parenthesised (columnList a i.columns)
    ++ (i.predicate.map (" WHERE " ++ ·)).getD ""

def dropIndex (a : Adapter) (name : String) : String := "DROP INDEX " ++ quoteIdentifier a name

def namedConstraint (a : Adapter) (name body : String) : String :=
  "CONSTRAINT " ++ quoteIdentifier a name ++ " " ++ body

def checkConstraint (a : Adapter) (c : CheckConstraint) : String :=
  namedConstraint a c.name ("CHECK " ++ parenthesised c.expression)

def uniqueConstraint (a : Adapter) (c : UniqueConstraint) : String :=
  namedConstraint a c.name ("UNIQUE " ++ parenthesised (columnList a c.columns))

def deferrableText (mode : Option String) : String :=
  (mode.map fun m => " DEFERRABLE INITIALLY " ++ m.toUpper).getD ""

def postgresExclusion (c : ExclusionConstraint) : String :=
  namedConstraint .postgres c.name
    ("EXCLUDE USING " ++ c.method.getD "gist" ++ " " ++ parenthesised c.expression
      ++ (c.predicate.map fun p => " WHERE " ++ parenthesised p).getD ""
      ++ deferrableText c.deferrable)

def postgresUnique (c : UniqueConstraint) : String :=
  uniqueConstraint .postgres c ++ deferrableText c.deferrable

def columnComment (table : String) (c : Column) : Option String :=
  c.traits.comment.map fun text =>
    "COMMENT ON COLUMN " ++ quoteIdentifier .postgres table ++ "."
      ++ quoteIdentifier .postgres c.name ++ " IS " ++ quoteString .postgres text

def withoutComment (c : Column) : Column := { c with traits := { c.traits with comment := none } }

def postgresChange (c : Column) : String :=
  let column := "ALTER COLUMN " ++ quoteIdentifier .postgres c.name
  ", ".intercalate
    ([column ++ " TYPE " ++ postgresType c]
      ++ (match c.traits.nullable with
        | some false => [column ++ " SET NOT NULL"]
        | some true => [column ++ " DROP NOT NULL"]
        | none => [])
      ++ [match c.traits.default with
        | some d => column ++ " SET DEFAULT " ++ defaultText .postgres d
        | none => column ++ " DROP DEFAULT"])

def mysqlClause : Alteration → Option String
  | .addColumn c => some ("ADD COLUMN " ++ mysqlDefinition c)
  | .renameColumn source target => some ("RENAME COLUMN " ++ renameText .mysql source target)
  | .changeColumn c => some ("MODIFY COLUMN " ++ mysqlDefinition c)
  | .removeColumn name => some ("DROP COLUMN " ++ quoteIdentifier .mysql name)
  | .addIndex i =>
    some ("ADD " ++ (if i.unique then "UNIQUE " else "") ++ "INDEX "
      ++ quoteIdentifier .mysql i.name ++ " " ++ parenthesised (columnList .mysql i.columns)
      ++ (i.method.map (" USING " ++ ·)).getD "")
  | .renameIndex source target => some ("RENAME INDEX " ++ renameText .mysql source target)
  | .removeIndex name => some (dropIndex .mysql name)
  | .addConstraint (.check c) => some ("ADD " ++ checkConstraint .mysql c)
  | .addConstraint (.unique c) => some ("ADD " ++ uniqueConstraint .mysql c)
  | .addConstraint (.exclusion _) => none
  | .removeConstraint .check name => some ("DROP CHECK " ++ quoteIdentifier .mysql name)
  | .removeConstraint .unique name => some (dropIndex .mysql name)
  | .removeConstraint .exclusion _ => none

/-- A rename stands alone, and so does a column with a comment. -/
def postgresClause : Alteration → Option String
  | .addColumn c =>
    if c.traits.comment.isNone then some ("ADD COLUMN " ++ standardDefinition .postgres c) else none
  | .changeColumn c => if c.traits.comment.isNone then some (postgresChange c) else none
  | .removeColumn name => some ("DROP COLUMN " ++ quoteIdentifier .postgres name)
  | .addConstraint (.check c) =>
    some ("ADD " ++ checkConstraint .postgres c ++ (if c.validated then "" else " NOT VALID"))
  | .addConstraint (.exclusion c) => some ("ADD " ++ postgresExclusion c)
  | .addConstraint (.unique c) => some ("ADD " ++ postgresUnique c)
  | .removeConstraint _ name => some ("DROP CONSTRAINT " ++ quoteIdentifier .postgres name)
  | .renameColumn _ _ => none
  | .addIndex _ => none
  | .renameIndex _ _ => none
  | .removeIndex _ => none

def sqliteClause : Alteration → Option String
  | .addColumn c => some ("ADD COLUMN " ++ standardDefinition .sqlite c)
  | .removeColumn name => some ("DROP COLUMN " ++ quoteIdentifier .sqlite name)
  | .renameColumn source target => some ("RENAME COLUMN " ++ renameText .sqlite source target)
  | _ => none

def alterClause : Adapter → Alteration → Option String
  | .mysql => mysqlClause
  | .postgres => postgresClause
  | .sqlite => sqliteClause

def clauseStatement (a : Adapter) (table : String) (alteration : Alteration) : List String :=
  ((alterClause a alteration).map (alterTable a table)).toList

def mysqlLone (table : String) : Alteration → List String
  | .addConstraint (.exclusion c) =>
    [unsupported .mysql ("exclusion constraint " ++ c.name ++ " on " ++ table)]
  | .removeConstraint .exclusion name =>
    [unsupported .mysql ("exclusion constraint " ++ name ++ " on " ++ table)]
  | other => clauseStatement .mysql table other

def postgresLone (table : String) : Alteration → List String
  | .addColumn c =>
    alterTable .postgres table ("ADD COLUMN " ++ standardDefinition .postgres c)
      :: (columnComment table c).toList
  | .changeColumn c =>
    alterTable .postgres table (postgresChange (withoutComment c)) :: (columnComment table c).toList
  | .renameColumn source target =>
    [alterTable .postgres table ("RENAME COLUMN " ++ renameText .postgres source target)]
  | .addIndex i => [createIndex .postgres table i]
  | .renameIndex source target =>
    ["ALTER INDEX " ++ quoteIdentifier .postgres source ++ " RENAME TO "
      ++ quoteIdentifier .postgres target]
  | .removeIndex name => [dropIndex .postgres name]
  | other => clauseStatement .postgres table other

/-- Unique constraints of an existing table are unique indexes. -/
def sqliteLone (table : String) : Alteration → List String
  | .addIndex i => [createIndex .sqlite table i]
  | .removeIndex name => [dropIndex .sqlite name]
  | .removeConstraint .unique name => [dropIndex .sqlite name]
  | .addConstraint (.unique c) => [createIndex .sqlite table ⟨c.name, c.columns, true, none, none⟩]
  | .changeColumn c =>
    [unsupported .sqlite ("ALTER COLUMN " ++ table ++ "." ++ c.name
      ++ " (table recreation required)")]
  | .renameIndex source _ => [unsupported .sqlite ("renaming index " ++ source)]
  | .addConstraint (.check c) =>
    [unsupported .sqlite ("adding check constraint " ++ c.name ++ " to " ++ table)]
  | .addConstraint (.exclusion c) =>
    [unsupported .sqlite ("exclusion constraint " ++ c.name ++ " on " ++ table)]
  | .removeConstraint _ name =>
    [unsupported .sqlite ("dropping constraint " ++ name ++ " from " ++ table)]
  | .addColumn _ => []
  | .removeColumn _ => []
  | .renameColumn _ _ => []

def loneStatements : Adapter → String → Alteration → List String
  | .mysql => mysqlLone
  | .postgres => postgresLone
  | .sqlite => sqliteLone

def alterationStatements (a : Adapter) (table : String) (alteration : Alteration) : List String :=
  match alterClause a alteration with
  | some clause => [alterTable a table clause]
  | none => loneStatements a table alteration

end SchemaEvolution.Sql
