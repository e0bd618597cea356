import SchemaEvolution.Script
import SchemaEvolution.Sql.Table

/-! The statements of operations and scripts. In a bulk block neighbouring members
   that have a clause share one ALTER TABLE, if the database combines clauses. -/
namespace SchemaEvolution.Sql

def combinesClauses : Adapter → Bool
  | .mysql => true
  | .postgres => true
  | .sqlite => false

/-- Neighbouring members of a block: a run of clauses, or one member on its own. -/
inductive Group where
  | run (first : Nat × String) (rest : List (Nat × String))
  | lone (index : Nat) (alteration : Alteration)
  deriving DecidableEq, Repr

def clauseInBlock (a : Adapter) (alteration : Alteration) : Option String :=
  if combinesClauses a then alterClause a alteration else none

def groups (clause? : Alteration → Option String) : List (Nat × Alteration) → List Group
  | [] => []
  | (i, alteration) :: rest =>
    match clause? alteration with
    | none => .lone i alteration :: groups clause? rest
    | some c =>
      match groups clause? rest with
      | .run first more :: later => .run (i, c) (first :: more) :: later
      | later => .run (i, c) [] :: later

/-- A statement of a block, and the member it belongs to if that is only one. -/
structure BulkStatement where
  member : Option Nat
  sql : String
  deriving DecidableEq, Repr

def Group.statements (a : Adapter) (table : String) : Group → List BulkStatement
  | .run (i, c) [] => [⟨some i, alterTable a table c⟩]
  | .run first rest =>
    [⟨none, alterTable a table (", ".intercalate ((first :: rest).map Prod.snd))⟩]
  | .lone i alteration => (alterationStatements a table alteration).map fun sql => ⟨some i, sql⟩

def numbered (as : List Alteration) : List (Nat × Alteration) :=
  as.zipIdx.map fun p => (p.2, p.1)

def bulkStatements (a : Adapter) (table : String) (as : List Alteration) : List BulkStatement :=
  (groups (clauseInBlock a) (numbered as)).flatMap (Group.statements a table)

def statements (a : Adapter) : Operation → List String
  | .createTable t => createTable a t
  | .renameTable source target => [renameTable a source target]
  | .dropTable name => [dropTable a name]
  | .changeTable t as => (bulkStatements a t as).map BulkStatement.sql
  | .alter t alteration => alterationStatements a t alteration
  | .addForeignKey t k => [addForeignKey a t k]
  | .removeForeignKey t name => [removeForeignKey a t name]
  | .changeTableOptions t options => [alterTable a t options]
  | .changeTableComment t comment => tableComment a t comment

/-- A statement and the script line it comes from: the line of its member, or else
   the first line of its operation. -/
structure PlacedStatement where
  line : Nat
  sql : String
  deriving DecidableEq, Repr

def stepStatements (a : Adapter) (step : Step) : List PlacedStatement :=
  match step.operation with
  | .changeTable t as =>
    (bulkStatements a t as).map fun s => ⟨(s.member.map step.memberLine).getD step.line, s.sql⟩
  | op => (statements a op).map fun sql => ⟨step.line, sql⟩

def scriptStatements (a : Adapter) (s : Script) : List String :=
  s.steps.flatMap fun step => (stepStatements a step).map PlacedStatement.sql

end SchemaEvolution.Sql
