import SchemaEvolution.Sql.Table

/-! Primary keys of created tables. CREATE TABLE is written here as the parts it is made of, in
   which a primary key is a part of its own; the keys that it declares are counted there. -/
namespace SchemaEvolution.Sql

/-- A part of a definition: the words that declare a primary key, or any other text. -/
inductive Part where
  | key
  | text (s : String)
  deriving DecidableEq, Repr

def Part.words : Part → String
  | key => "PRIMARY KEY"
  | text s => s

def spelled (parts : List Part) : String := " ".intercalate (parts.map Part.words)

def keyIf (flag : Bool) : List Part := if flag then [.key] else []

def mysqlParts (c : Column) : List Part :=
  let t := c.traits
  ([quoteIdentifier .mysql c.name, mysqlType c]
      ++ wordIf (t.nullable = some false) "NOT NULL"
      ++ wordIf (t.nullable = some true && !t.primaryKey) "NULL"
      ++ defaultClause .mysql c
      ++ wordIf t.autoIncrement "AUTO_INCREMENT").map .text
    ++ keyIf t.primaryKey
    ++ ((t.comment.map fun text => "COMMENT " ++ quoteString .mysql text).toList
      ++ (t.collation.map ("COLLATE " ++ ·)).toList).map .text

def standardParts (a : Adapter) (c : Column) : List Part :=
  let t := c.traits
  [.text (quoteIdentifier a c.name), .text (typeText a c)]
    ++ keyIf t.primaryKey
    ++ ((if t.autoIncrement then (autoIncrementWord a).toList else [])
      ++ wordIf (t.nullable = some false && !t.primaryKey) "NOT NULL"
      ++ wordIf (t.nullable = some true) "NULL"
      ++ defaultClause a c
      ++ (t.collation.map fun name => "COLLATE " ++ quoteIdentifier a name).toList).map .text

def columnParts : Adapter → Column → List Part
  | .mysql => mysqlParts
  | .postgres => standardParts .postgres
  | .sqlite => standardParts .sqlite

/-- Only SQLite leaves out the key of a table that has a column with a key. -/
def keyLeftOut (a : Adapter) (t : CreateTable) : Bool :=
  a = .sqlite && t.columns.any fun c => c.traits.primaryKey

def tableKeyParts (a : Adapter) (t : CreateTable) : List (List Part) :=
  if keyLeftOut a t || t.options.primaryKey.isEmpty then []
  else [[.key, .text (parenthesised (columnList a t.options.primaryKey))]]

def otherDefinitions (a : Adapter) (t : CreateTable) : List String :=
  match a with
  | .mysql =>
    t.indexes.map mysqlInlineIndex ++ t.checks.map (checkConstraint .mysql)
      ++ t.uniques.map (uniqueConstraint .mysql)
  | .postgres =>
    t.checks.map (checkConstraint .postgres) ++ t.exclusions.map postgresExclusion
      ++ t.uniques.map postgresUnique
  | .sqlite => t.checks.map (checkConstraint .sqlite) ++ t.uniques.map (uniqueConstraint .sqlite)

def tableParts (a : Adapter) (t : CreateTable) : List (List Part) :=
  t.columns.map (columnParts a) ++ tableKeyParts a t
    ++ (otherDefinitions a t).map fun definition => [.text definition]

/-- How many primary keys the columns and the table declare together. -/
def declaredKeys (a : Adapter) (t : CreateTable) : Nat := (tableParts a t).flatten.count .key

/- What the parts spell. -/

theorem words_keyIf (flag : Bool) : (keyIf flag).map Part.words = wordIf flag "PRIMARY KEY" := by
  cases flag <;> rfl

theorem words_text (ss : List String) : (ss.map Part.text).map Part.words = ss := by
  simp [Function.comp_def, Part.words]

theorem spelled_mysqlParts (c : Column) : spelled (mysqlParts c) = mysqlDefinition c := by
  simp only [spelled, mysqlParts, mysqlDefinition, List.map_append, words_keyIf, words_text,
    List.append_assoc]

theorem spelled_standardParts (a : Adapter) (c : Column) :
    spelled (standardParts a c) = standardDefinition a c := by
  simp only [spelled, standardParts, standardDefinition, List.map_append, words_keyIf, words_text,
    List.append_assoc]
  simp [Part.words]

theorem spelled_columnParts (a : Adapter) (c : Column) :
    spelled (columnParts a c) = columnDefinition a c := by
  cases a with
  | mysql => exact spelled_mysqlParts c
  | postgres => exact spelled_standardParts .postgres c
  | sqlite => exact spelled_standardParts .sqlite c

theorem spelled_text (ss : List String) : (ss.map fun s => [Part.text s]).map spelled = ss := by
  simp [Function.comp_def, spelled, Part.words]

theorem spelled_tableParts (a : Adapter) (t : CreateTable) :
    (tableParts a t).map spelled =
      t.columns.map (columnDefinition a) ++ (tableKeyParts a t).map spelled ++
        otherDefinitions a t := by
  have columns :
      (t.columns.map (columnParts a)).map spelled = t.columns.map (columnDefinition a) := by
    rw [List.map_map]
    exact List.map_congr_left fun c _ => spelled_columnParts a c
  rw [tableParts, List.map_append, List.map_append, columns, spelled_text]

theorem spelled_tableKeyParts (a : Adapter) (t : CreateTable) :
    (tableKeyParts a t).map spelled =
      if keyLeftOut a t then [] else primaryKeyDefinition a t.options.primaryKey := by
  unfold tableKeyParts primaryKeyDefinition
  cases keyLeftOut a t with
  | true => rfl
  | false =>
    cases t.options.primaryKey.isEmpty with
    | true => rfl
    | false => simp [spelled, Part.words]

theorem createTable_spelled (a : Adapter) (t : CreateTable) : ∃ options,
    (createTable a t).head? =
      some (createTableText a t.name ((tableParts a t).map spelled) ++ options) := by
  rw [spelled_tableParts, spelled_tableKeyParts]
  cases a with
  | mysql =>
    simp only [createTable, mysqlCreate, keyLeftOut, otherDefinitions, List.head?_cons,
      String.append_assoc, List.append_assoc]
    exact ⟨_, rfl⟩
  | postgres =>
    simp only [createTable, postgresCreate, otherDefinitions, List.cons_append, List.head?_cons,
      List.append_assoc]
    exact ⟨_, rfl⟩
  | sqlite =>
    simp only [createTable, sqliteCreate, otherDefinitions, List.cons_append, List.head?_cons,
      List.append_assoc]
    exact ⟨_, rfl⟩

/- Counting. -/

theorem count_text (ss : List String) : (ss.map Part.text).count .key = 0 := by
  simp [List.count_eq_zero]

theorem count_keyIf (flag : Bool) : (keyIf flag).count .key = flag.toNat := by
  cases flag <;> rfl

theorem count_columnParts (a : Adapter) (c : Column) :
    (columnParts a c).count .key = c.traits.primaryKey.toNat := by
  have standard (a : Adapter) : (standardParts a c).count .key = c.traits.primaryKey.toNat := by
    simp [standardParts, List.count_append, count_text, count_keyIf]
  cases a with
  | mysql => simp only [columnParts, mysqlParts, List.count_append, count_text, count_keyIf]; omega
  | postgres => exact standard .postgres
  | sqlite => exact standard .sqlite

theorem count_columns (a : Adapter) (cs : List Column) :
    (cs.map (columnParts a)).flatten.count .key = cs.countP fun c => c.traits.primaryKey := by
  induction cs with
  | nil => rfl
  | cons c cs ih =>
    rw [List.map_cons, List.flatten_cons, List.count_append, ih, count_columnParts,
      List.countP_cons, Nat.add_comm]
    cases c.traits.primaryKey <;> rfl

theorem count_others (ss : List String) :
    (ss.map fun s => [Part.text s]).flatten.count .key = 0 := by
  simp [List.count_eq_zero]

theorem declaredKeys_eq (a : Adapter) (t : CreateTable) :
    declaredKeys a t = (t.columns.countP fun c => c.traits.primaryKey) +
      if keyLeftOut a t || t.options.primaryKey.isEmpty then 0 else 1 := by
  have own : (tableKeyParts a t).flatten.count .key =
      if keyLeftOut a t || t.options.primaryKey.isEmpty then 0 else 1 := by
    unfold tableKeyParts
    split <;> rfl
  unfold declaredKeys tableParts
  rw [List.flatten_append, List.flatten_append, List.count_append, List.count_append,
    count_columns, count_others, own, Nat.add_zero]

/-- CREATE TABLE declares at most one primary key exactly if at most one column has it and, where
    one does, the table names no key of its own. Only SQLite leaves that one out by itself. -/
theorem one_primary_key_iff (a : Adapter) (t : CreateTable) :
    (∃ options, (createTable a t).head? =
      some (createTableText a t.name ((tableParts a t).map spelled) ++ options)) ∧
    (declaredKeys a t ≤ 1 ↔
      (t.columns.countP fun c => c.traits.primaryKey) ≤ 1 ∧
        (a = .sqlite ∨ t.options.primaryKey = [] ∨
          ∀ c ∈ t.columns, c.traits.primaryKey = false)) := by
  refine ⟨createTable_spelled a t, ?_⟩
  have keyless : (∀ c ∈ t.columns, c.traits.primaryKey = false) ↔
      (t.columns.countP fun c => c.traits.primaryKey) = 0 := by
    simp [List.countP_eq_zero]
  have leftOut : keyLeftOut a t = true ↔
      a = .sqlite ∧ (t.columns.countP fun c => c.traits.primaryKey) ≠ 0 := by
    simp [keyLeftOut, List.countP_eq_zero]
  rw [declaredKeys_eq, keyless]
  -- With the key left out, only the columns count.
  cases out : keyLeftOut a t with
  | true => simp [(leftOut.mp out).1]
  | false =>
    have lone (sqlite : a = .sqlite) : (t.columns.countP fun c => c.traits.primaryKey) = 0 :=
      Decidable.not_not.mp fun some => by simp [leftOut.mpr ⟨sqlite, some⟩] at out
    by_cases unnamed : t.options.primaryKey = []
    · simp [unnamed]
    · simp only [List.isEmpty_iff, unnamed, Bool.false_or, if_false]
      constructor
      · intro once
        exact ⟨by omega, .inr (.inr (by omega))⟩
      · rintro ⟨_, sqlite | named | zero⟩
        · simp [lone sqlite]
        · contradiction
        · simp [zero]

/-- A column with a key and a table that names it too: MySQL and PostgreSQL are told twice. -/
theorem orders_keyed_twice :
    let t : CreateTable :=
      { name := "orders", options := { primaryKey := ["id"] },
        columns := [{ name := "id", type := .bigint, traits := { primaryKey := true } }] }
    (t.columns.countP fun c => c.traits.primaryKey) ≤ 1 ∧
      createTable .mysql t =
        ["CREATE TABLE \x60orders\x60 (\n  \x60id\x60 bigint PRIMARY KEY,\n  PRIMARY KEY (\x60id\x60)\n)"] ∧
      createTable .postgres t =
        ["CREATE TABLE \x22orders\x22 (\n  \x22id\x22 BIGINT PRIMARY KEY,\n  PRIMARY KEY (\x22id\x22)\n)"] ∧
      createTable .sqlite t = ["CREATE TABLE \x22orders\x22 (\n  \x22id\x22 INTEGER PRIMARY KEY\n)"] ∧
      ¬ declaredKeys .mysql t ≤ 1 ∧ ¬ declaredKeys .postgres t ≤ 1 ∧ declaredKeys .sqlite t ≤ 1 := by
  intro t
  have twice (a : Adapter) (other : a ≠ .sqlite) : ¬ declaredKeys a t ≤ 1 := fun once => by
    obtain ⟨_, sqlite | unnamed | keyless⟩ := (one_primary_key_iff a t).2.mp once
    · exact other sqlite
    · exact absurd unnamed (by decide)
    · exact absurd (keyless _ (List.mem_singleton_self _)) (by decide)
  refine ⟨by decide, by decide +kernel, by decide +kernel, by decide +kernel,
    twice .mysql (by decide), twice .postgres (by decide), ?_⟩
  exact (one_primary_key_iff .sqlite t).2.mpr ⟨by decide, .inl rfl⟩

end SchemaEvolution.Sql
