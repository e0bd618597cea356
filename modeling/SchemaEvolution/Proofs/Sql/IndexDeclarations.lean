import SchemaEvolution.Proofs.Sql.Quoting
import SchemaEvolution.Proofs.Sql.Shape

/-! Declarations of indexes. An index is declared when its table is created or added later on.
   The two declarations are compared as they are written and, inside CREATE TABLE, as a database
   reads them. -/
namespace SchemaEvolution.Sql

/-- How the creation of a table declares an index: MySQL inside CREATE TABLE, the others in a
    statement after it. -/
def inlineIndex (a : Adapter) (table : String) (i : Index) : String :=
  match a with
  | .mysql => mysqlInlineIndex i
  | a => createIndex a table i

def standing (a : Adapter) (table declaration : String) : String :=
  match a with
  | .mysql => alterTable .mysql table ("ADD " ++ declaration)
  | _ => declaration

def leftUnsaid (a : Adapter) (i : Index) : String :=
  if a.isMysql then (i.method.map (" USING " ++ ·)).getD "" else ""

/-- Where the creation of a table says its declarations of indexes. -/
def SaidInCreation (a : Adapter) (t : CreateTable) (declarations : List String) : Prop :=
  match a with
  | .mysql => ∃ before after options, (createTable .mysql t).head? =
      some (createTableText .mysql t.name (before ++ (declarations ++ after)) ++ options)
  | a => ∃ first rest, createTable a t = first :: (declarations ++ rest)

def readNamedColumns (a : Adapter) (cs : List Char) :
    Option ((String × List String) × List Char) := do
  let (name, rest) ← readIdentifier a cs
  let (columns, rest) ← readColumns a (← stripWord [' ', '('] rest)
  return ((name, columns), ← stripWord [')'] rest)

/-- Reads a declaration up to the end of its columns: whether the index is unique, its name and
    its columns. -/
def readIndex (a : Adapter) (cs : List Char) :
    Option ((Bool × String × List String) × List Char) :=
  match stripWord "UNIQUE INDEX ".toList cs, stripWord "INDEX ".toList cs with
  | some rest, _ => (readNamedColumns a rest).map (Prod.map (true, ·) id)
  | none, some rest => (readNamedColumns a rest).map (Prod.map (false, ·) id)
  | none, none => none

theorem capital_of_all {word : List Char} (all : word.all (fun c => c.toUpper == c) = true) :
    ∀ c ∈ word, c.toUpper = c := by
  simpa using all

theorem readNamedColumns_written (a : Adapter) (name : String) (columns : List String)
    (rest : List Char) :
    readNamedColumns a ((quoteIdentifier a name ++ " " ++
      parenthesised (columnList a columns)).toList ++ rest) = some ((name, columns), rest) := by
  let closing := ')' :: rest
  let listed := (columnList a columns).toList ++ closing
  have spelled : (quoteIdentifier a name ++ " " ++ parenthesised (columnList a columns)).toList ++
      rest = (quoteIdentifier a name).toList ++ ([' ', '('] ++ listed) := by
    simp [parenthesised, listed, closing]
  have blank : ([' ', '('] ++ listed).head? ≠ some (identifierMark a) := fun same =>
    (identifierMark_apart a).2 (Option.some.inj same).symm
  have ends : EndsNames a closing := by cases a <;> simp [EndsNames, identifierMark, closing]
  have opened : stripWord [' ', '('] ([' ', '('] ++ listed) = some listed :=
    stripWord_append (capital_of_all (by decide)) listed
  have closed : stripWord [')'] closing = some rest :=
    stripWord_append (capital_of_all (by decide)) rest
  rw [spelled, readNamedColumns, readIdentifier_quoted a name blank]
  simp only [Option.bind_eq_bind, Option.bind_some, opened]
  rw [readColumns_columnList a ends columns]
  simp only [Option.bind_some, closed]
  rfl

theorem readIndex_inline (i : Index) (rest : List Char) :
    readIndex .mysql ((mysqlInlineIndex i).toList ++ rest) =
      some ((i.unique, i.name, i.columns), rest) := by
  let named := (quoteIdentifier .mysql i.name ++ " " ++
    parenthesised (columnList .mysql i.columns)).toList ++ rest
  have read : readNamedColumns .mysql named = some ((i.name, i.columns), rest) :=
    readNamedColumns_written .mysql i.name i.columns rest
  cases unique : i.unique with
  | true =>
    have spelled : (mysqlInlineIndex i).toList ++ rest = "UNIQUE INDEX ".toList ++ named := by
      simp [mysqlInlineIndex, unique, named]
    have kind : stripWord "UNIQUE INDEX ".toList ("UNIQUE INDEX ".toList ++ named) = some named :=
      stripWord_append (capital_of_all (by decide)) named
    simp only [readIndex, spelled, kind, read]
    rfl
  | false =>
    have spelled : (mysqlInlineIndex i).toList ++ rest = "INDEX ".toList ++ named := by
      simp [mysqlInlineIndex, unique, named]
    have other : stripWord "UNIQUE INDEX ".toList ("INDEX ".toList ++ named) = none := rfl
    have kind : stripWord "INDEX ".toList ("INDEX ".toList ++ named) = some named :=
      stripWord_append (capital_of_all (by decide)) named
    simp only [readIndex, spelled, other, kind, read]
    rfl

theorem saidInCreation (a : Adapter) (t : CreateTable) :
    SaidInCreation a t (t.indexes.map (inlineIndex a t.name)) := by
  cases a with
  | mysql =>
    let before := t.columns.map mysqlDefinition ++ primaryKeyDefinition .mysql t.options.primaryKey
    let after := t.checks.map (checkConstraint .mysql) ++ t.uniques.map (uniqueConstraint .mysql)
    refine ⟨before, after, ?_⟩
    simp only [createTable, mysqlCreate, List.head?_cons, List.append_assoc, String.append_assoc,
      before, after]
    exact ⟨_, rfl⟩
  | postgres =>
    simp only [SaidInCreation, createTable, postgresCreate, List.cons_append, List.append_assoc]
    exact ⟨_, _, rfl⟩
  | sqlite => exact ⟨_, _, rfl⟩

theorem alterationStatements_addIndex (a : Adapter) (table : String) (i : Index) :
    alterationStatements a table (.addIndex i) =
      [standing a table (inlineIndex a table i ++ leftUnsaid a i)] := by
  have whole (s : String) : s ++ "" = s := by simp
  cases a with
  | mysql =>
    have clause : mysqlClause (.addIndex i) =
        some ("ADD " ++ (mysqlInlineIndex i ++ leftUnsaid .mysql i)) := by
      refine congrArg some (String.toList_inj.mp ?_)
      cases unique : i.unique <;> simp [mysqlInlineIndex, leftUnsaid, Adapter.isMysql, unique]
    simp only [alterationStatements, alterClause, clause]
    rfl
  | postgres => exact congrArg ([·]) (whole (createIndex .postgres table i)).symm
  | sqlite => exact congrArg ([·]) (whole (createIndex .sqlite table i)).symm

theorem leftUnsaid_eq_empty_iff (a : Adapter) (i : Index) :
    leftUnsaid a i = "" ↔ a ≠ .mysql ∨ i.method = none := by
  cases a with
  | mysql => cases method : i.method <;> simp [leftUnsaid, Adapter.isMysql, method]
  | postgres => simp [leftUnsaid, Adapter.isMysql]
  | sqlite => simp [leftUnsaid, Adapter.isMysql]

theorem standing_append_iff (a : Adapter) (table declaration more : String) :
    standing a table (declaration ++ more) = standing a table declaration ↔ more = "" := by
  rw [← String.toList_inj, ← String.toList_inj]
  cases a <;> simp [standing, alterTable]

/-- Inside the creation of a table an index is declared as it would be later on, exactly where
    the database is not MySQL or no method is given. What MySQL is told at once differs in
    nothing but the method: uniqueness, name and columns are read from it as they are. -/
theorem indexes_declared_alike_iff (a : Adapter) (t : CreateTable) :
    SaidInCreation a t (t.indexes.map (inlineIndex a t.name)) ∧
      ∀ i : Index,
        (alterationStatements a t.name (.addIndex i) =
            [standing a t.name (inlineIndex a t.name i)] ↔
          a ≠ .mysql ∨ i.method = none) ∧
        alterationStatements a t.name (.addIndex i) =
          [standing a t.name (inlineIndex a t.name i ++ leftUnsaid a i)] ∧
        ∀ rest, readIndex .mysql ((inlineIndex .mysql t.name i).toList ++ rest) =
          some ((i.unique, i.name, i.columns), rest) := by
  refine ⟨saidInCreation a t, fun i => ⟨?_, alterationStatements_addIndex a t.name i,
    readIndex_inline i⟩⟩
  rw [alterationStatements_addIndex, ← leftUnsaid_eq_empty_iff, List.singleton_inj,
    standing_append_iff]

theorem event_method_lost :
    let i : Index := ⟨"by_kind", ["kind"], false, none, some "btree"⟩
    let t : CreateTable :=
      { name := "events", columns := [{ name := "kind", type := .string }], indexes := [i] }
    createTable .mysql t =
        ["CREATE TABLE \x60events\x60 (\n  \x60kind\x60 varchar(255),\n  INDEX \x60by_kind\x60 (\x60kind\x60)\n)"] ∧
      alterationStatements .mysql "events" (.addIndex i) =
        ["ALTER TABLE \x60events\x60 ADD INDEX \x60by_kind\x60 (\x60kind\x60) USING btree"] ∧
      alterationStatements .mysql "events" (.addIndex i) ≠
        [standing .mysql "events" (inlineIndex .mysql "events" i)] := by
  intro i t
  refine ⟨by decide +kernel, by decide +kernel, fun alike => ?_⟩
  obtain ⟨_, declared⟩ := indexes_declared_alike_iff .mysql t
  rcases (declared i).1.mp alike with other | methodless
  · exact other rfl
  · exact nomatch methodless

end SchemaEvolution.Sql
