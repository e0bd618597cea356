import SchemaEvolution.Run.Dispatch
import SchemaEvolution.Sql.Statement

/-! What a generated statement can look like. It is structural, or it comments on a
   PostgreSQL table or column, or it is a remark on what another database lacks. -/
namespace SchemaEvolution

/-- The table that an operation alters; a table to rename goes by its old name. -/
def Operation.altered : Operation → String
  | renameTable source _ => source
  | op => op.table

theorem Dispatch.exists_decorate (d : Dispatch) (sql : String) :
    ∃ more, d.decorate sql = sql ++ more := by
  unfold decorate
  split
  case h_2 => exact ⟨"", String.append_empty.symm⟩
  case h_1 extra _ =>
    split
    case isTrue => exact ⟨"," ++ extra, String.append_assoc ..⟩
    case isFalse => exact ⟨"", String.append_empty.symm⟩

namespace Sql

open Text

def Starts (start sql : String) : Prop := ∃ rest, sql = start ++ rest

theorem Starts.prefixed {start sql : String} (starts : Starts start sql) :
    start.toList <+: sql.toList := by
  obtain ⟨rest, rfl⟩ := starts
  exact ⟨rest.toList, String.toList_append.symm⟩

theorem Starts.append {start sql : String} (starts : Starts start sql) (more : String) :
    Starts start (sql ++ more) := by
  obtain ⟨rest, rfl⟩ := starts
  exact ⟨rest ++ more, String.append_assoc ..⟩

theorem Starts.trans {start opening sql : String} (first : Starts start opening)
    (starts : Starts opening sql) : Starts start sql := by
  obtain ⟨rest, rfl⟩ := starts
  exact first.append rest

inductive Shape (a : Adapter) (sql : String) : Prop
  | structural (word : String) (known : word ∈ structuralWords)
      (starts : Starts (word ++ " ") sql)
  | remark (foreign : a ≠ .postgres) (starts : Starts "-- " sql)
  | commentOn (own : a = .postgres) (starts : Starts "COMMENT ON " sql)

/- Recognising the shapes. -/

theorem stripWord_append {word : List Char} (capital : ∀ c ∈ word, c.toUpper = c)
    (rest : List Char) : stripWord word (word ++ rest) = some rest := by
  induction word with
  | nil => rfl
  | cons c word ih =>
    rw [List.forall_mem_cons] at capital
    rw [List.cons_append, stripWord, if_pos capital.1, ih capital.2]

theorem isWord_space : isWord ' ' = false := by decide +kernel

theorem startsWithWord_spaced {word : String} (nonempty : word.toList ≠ [])
    (letters : ∀ c ∈ word.toList, c.toUpper = c ∧ isBlank c = false) (rest : List Char) :
    startsWithWord word (word.toList ++ ' ' :: rest) = true := by
  have solid : dropBlanks (word.toList ++ ' ' :: rest) = word.toList ++ ' ' :: rest := by
    refine dropBlanks_eq_self fun c first => (letters c ?_).2
    rw [List.head?_append, Option.or_of_isSome (List.isSome_head?.mpr nonempty)] at first
    exact List.mem_of_head? first
  rw [startsWithWord, solid, stripWord_append fun c member => (letters c member).1]
  simp [endsWord, isWord_space]

theorem startsWithWord_of_starts {word sql : String} (known : word ∈ structuralWords)
    (starts : Starts (word ++ " ") sql) : startsWithWord word sql.toList = true := by
  have words : structuralWords.all (fun w => !w.toList.isEmpty &&
      w.toList.all fun c => c.toUpper == c && !isBlank c) = true := by decide +kernel
  have spelled := List.all_eq_true.mp words word known
  simp only [Bool.and_eq_true, Bool.not_eq_true', List.isEmpty_eq_false_iff, List.all_eq_true,
    beq_iff_eq] at spelled
  obtain ⟨nonempty, letters⟩ := spelled
  obtain ⟨rest, rfl⟩ := starts
  have spaced := startsWithWord_spaced nonempty letters rest.toList
  simpa [String.toList_append] using spaced

theorem isStructural_of_starts {word sql : String} (known : word ∈ structuralWords)
    (starts : Starts (word ++ " ") sql) : isStructural sql = true :=
  List.any_eq_true.mpr ⟨word, known, startsWithWord_of_starts known starts⟩

theorem isStructural_of_isComment {sql : String} (comment : isComment sql = true) :
    isStructural sql = false := by
  obtain ⟨rest, start⟩ := List.isPrefixOf_iff_prefix.mp comment
  simp only [isStructural, startsWithWord, ← start]
  rfl

theorem isComment_of_starts {sql : String} (starts : Starts "-- " sql) : isComment sql = true := by
  obtain ⟨rest, rfl⟩ := starts
  rw [isComment, String.toList_append]
  rfl

namespace Shape

variable {a : Adapter} {sql : String}

/-- Text that follows a statement does not change what it is. -/
theorem append (shape : Shape a sql) (more : String) : Shape a (sql ++ more) := by
  cases shape with
  | structural word known starts => exact .structural word known (starts.append more)
  | remark foreign starts => exact .remark foreign (starts.append more)
  | commentOn own starts => exact .commentOn own (starts.append more)

theorem decorate (shape : Shape a sql) (d : Dispatch) : Shape a (d.decorate sql) := by
  obtain ⟨more, decorated⟩ := d.exists_decorate sql
  rw [decorated]
  exact shape.append more

theorem commentOn_of_left_out (shape : Shape a sql) (sent : isComment sql = false)
    (left : isStructural sql = false) : a = .postgres ∧ Starts "COMMENT ON " sql := by
  cases shape with
  | structural word known starts =>
    rw [isStructural_of_starts known starts] at left
    contradiction
  | remark foreign starts =>
    rw [isComment_of_starts starts] at sent
    contradiction
  | commentOn own starts => exact ⟨own, starts⟩

end Shape

/- How generated statements begin, and the table that they alter. -/

/-- What structural statements begin with, other than ALTER TABLE. -/
def openings : List String := ["CREATE ", "DROP ", "RENAME TABLE ", "ALTER INDEX "]

/-- The statement alters the table, or its first words tell that it does something else. -/
inductive Form (a : Adapter) (table sql : String) : Prop
  | alters (body : String) (whole : sql = alterTable a table body)
  | opens (opening : String) (known : opening ∈ openings) (starts : Starts opening sql)
  | remark (foreign : a ≠ .postgres) (starts : Starts "-- " sql)
  | commentOn (own : a = .postgres) (starts : Starts "COMMENT ON " sql)

theorem starts_alterTable (a : Adapter) (table body : String) :
    Starts "ALTER " (alterTable a table body) := by
  have start : Starts "ALTER " "ALTER TABLE " := ⟨"TABLE ", by decide⟩
  exact ((start.append _).append _).append _

theorem alterTable_append (a : Adapter) (table body more : String) :
    alterTable a table body ++ more = alterTable a table (body ++ more) := by
  rw [alterTable, alterTable, String.append_assoc]

theorem word_of_opening : ∀ opening ∈ openings, ∃ word ∈ structuralWords,
    Starts (word ++ " ") opening := by
  simp only [openings, List.forall_mem_cons]
  refine ⟨⟨"CREATE", ?_, "", ?_⟩, ⟨"DROP", ?_, "", ?_⟩, ⟨"RENAME", ?_, "TABLE ", ?_⟩,
    ⟨"ALTER", ?_, "INDEX ", ?_⟩, List.forall_mem_nil _⟩
  all_goals decide

namespace Form

variable {a : Adapter} {table sql : String}

theorem append (form : Form a table sql) (more : String) : Form a table (sql ++ more) := by
  cases form with
  | alters body whole =>
    rw [whole, alterTable_append]
    exact .alters (body ++ more) rfl
  | opens opening known starts => exact .opens opening known (starts.append more)
  | remark foreign starts => exact .remark foreign (starts.append more)
  | commentOn own starts => exact .commentOn own (starts.append more)

theorem shape (form : Form a table sql) : Shape a sql := by
  cases form with
  | alters body whole =>
    rw [whole]
    exact .structural "ALTER" (by decide) (starts_alterTable a table body)
  | opens opening known starts =>
    obtain ⟨word, structural, first⟩ := word_of_opening opening known
    exact .structural word structural (first.trans starts)
  | remark foreign starts => exact .remark foreign starts
  | commentOn own starts => exact .commentOn own starts

end Form

/- The statements, from the inside out. -/

section Generated

variable (a : Adapter) (table : String)

theorem form_alterTable (body : String) : Form a table (alterTable a table body) :=
  .alters body rfl

theorem form_dropIndex (name : String) : Form a table (dropIndex a name) := by
  have start : Form a table "DROP INDEX " := .opens "DROP " (by decide) ⟨"INDEX ", by decide⟩
  exact start.append _

theorem form_dropTable (name : String) : Form a table (dropTable a name) := by
  have start : Form a table "DROP TABLE " := .opens "DROP " (by decide) ⟨"TABLE ", by decide⟩
  exact start.append _

theorem form_createIndex (i : Index) : Form a table (createIndex a table i) := by
  have start : Form a table "CREATE " := .opens "CREATE " (by decide) ⟨"", by decide⟩
  unfold createIndex
  repeat refine Form.append ?_ _
  exact start

variable {a}

theorem form_unsupported (foreign : a ≠ .postgres) (what : String) :
    Form a table (unsupported a what) := by
  have start : Form a table "-- " := .remark foreign ⟨"", by decide⟩
  exact ((start.append _).append _).append _

variable {table}

theorem form_columnComment {c : Column} {sql : String} (member : sql ∈ columnComment table c) :
    Form .postgres table sql := by
  have start : Form .postgres table "COMMENT ON COLUMN " := .commentOn rfl ⟨"COLUMN ", by decide⟩
  obtain ⟨text, _, rfl⟩ := Option.map_eq_some_iff.mp member
  exact ((((start.append _).append _).append _).append _).append _

end Generated

theorem form_tableComment (a : Adapter) (table : String) (comment : Option String) :
    ∀ sql ∈ tableComment a table comment, Form a table sql := by
  cases a with
  | mysql => exact List.forall_mem_singleton.mpr (form_alterTable .mysql table _)
  | postgres =>
    have start : Form .postgres table "COMMENT ON TABLE " := .commentOn rfl ⟨"TABLE ", by decide⟩
    exact List.forall_mem_singleton.mpr (((start.append _).append _).append _)
  | sqlite => exact List.forall_mem_singleton.mpr (form_unsupported table (by decide) _)

theorem form_clauseStatement (a : Adapter) (table : String) (alteration : Alteration) :
    ∀ sql ∈ clauseStatement a table alteration, Form a table sql := by
  intro sql member
  obtain ⟨clause, _, rfl⟩ := Option.map_eq_some_iff.mp (Option.mem_toList.mp member)
  exact form_alterTable a table clause

theorem form_mysqlLone (table : String) (alteration : Alteration) :
    ∀ sql ∈ mysqlLone table alteration, Form .mysql table sql := by
  unfold mysqlLone
  split
  · exact List.forall_mem_singleton.mpr (form_unsupported table (by decide) _)
  · exact List.forall_mem_singleton.mpr (form_unsupported table (by decide) _)
  · exact form_clauseStatement .mysql table _

theorem form_postgresLone (table : String) (alteration : Alteration) :
    ∀ sql ∈ postgresLone table alteration, Form .postgres table sql := by
  unfold postgresLone
  split
  · exact List.forall_mem_cons.mpr ⟨form_alterTable .postgres table _, fun sql member =>
      form_columnComment (Option.mem_toList.mp member)⟩
  · exact List.forall_mem_cons.mpr ⟨form_alterTable .postgres table _, fun sql member =>
      form_columnComment (Option.mem_toList.mp member)⟩
  · exact List.forall_mem_singleton.mpr (form_alterTable .postgres table _)
  · exact List.forall_mem_singleton.mpr (form_createIndex .postgres table _)
  · have start : Form .postgres table "ALTER INDEX " :=
      .opens "ALTER INDEX " (by decide) ⟨"", by decide⟩
    exact List.forall_mem_singleton.mpr (((start.append _).append _).append _)
  · exact List.forall_mem_singleton.mpr (form_dropIndex .postgres table _)
  · exact form_clauseStatement .postgres table _

theorem form_sqliteLone (table : String) (alteration : Alteration) :
    ∀ sql ∈ sqliteLone table alteration, Form .sqlite table sql := by
  have remark (what : String) : ∀ sql ∈ [unsupported .sqlite what], Form .sqlite table sql :=
    List.forall_mem_singleton.mpr (form_unsupported table (by decide) what)
  unfold sqliteLone
  split
  · exact List.forall_mem_singleton.mpr (form_createIndex .sqlite table _)
  · exact List.forall_mem_singleton.mpr (form_dropIndex .sqlite table _)
  · exact List.forall_mem_singleton.mpr (form_dropIndex .sqlite table _)
  · exact List.forall_mem_singleton.mpr (form_createIndex .sqlite table _)
  all_goals first | exact remark _ | exact List.forall_mem_nil _

theorem form_alterationStatements (a : Adapter) (table : String) (alteration : Alteration) :
    ∀ sql ∈ alterationStatements a table alteration, Form a table sql := by
  unfold alterationStatements
  split
  · exact List.forall_mem_singleton.mpr (form_alterTable a table _)
  · cases a with
    | mysql => exact form_mysqlLone table alteration
    | postgres => exact form_postgresLone table alteration
    | sqlite => exact form_sqliteLone table alteration

theorem form_groupStatements (a : Adapter) (table : String) (g : Group) :
    ∀ s ∈ g.statements a table, Form a table s.sql := by
  unfold Group.statements
  split
  · exact List.forall_mem_singleton.mpr (form_alterTable a table _)
  · exact List.forall_mem_singleton.mpr (form_alterTable a table _)
  · exact List.forall_mem_map.mpr (form_alterationStatements a table _)

theorem form_bulkStatements (a : Adapter) (table : String) (as : List Alteration) :
    ∀ s ∈ bulkStatements a table as, Form a table s.sql := by
  intro s member
  obtain ⟨g, _, member⟩ := List.mem_flatMap.mp member
  exact form_groupStatements a table g s member

theorem form_unsupportedExclusions {a : Adapter} (foreign : a ≠ .postgres) (t : CreateTable) :
    ∀ sql ∈ unsupportedExclusions a t, Form a t.name sql :=
  List.forall_mem_map.mpr fun _ _ => form_unsupported t.name foreign _

theorem form_createTable (a : Adapter) (t : CreateTable) :
    ∀ sql ∈ createTable a t, Form a t.name sql := by
  have start : Form a t.name "CREATE TABLE " := .opens "CREATE " (by decide) ⟨"TABLE ", by decide⟩
  have indexes : ∀ sql ∈ t.indexes.map (createIndex a t.name), Form a t.name sql :=
    List.forall_mem_map.mpr fun i _ => form_createIndex a t.name i
  cases a with
  | mysql =>
    refine List.forall_mem_cons.mpr ⟨?_, form_unsupportedExclusions (by decide) t⟩
    repeat refine Form.append ?_ _
    exact start
  | postgres =>
    rw [createTable, postgresCreate]
    simp only [List.cons_append, List.forall_mem_cons, List.forall_mem_append]
    refine ⟨?_, ⟨indexes, ?_⟩, fun sql member => ?_⟩
    · repeat refine Form.append ?_ _
      exact start
    · split
      · exact form_tableComment .postgres t.name _
      · exact List.forall_mem_nil _
    · obtain ⟨c, _, commented⟩ := List.mem_filterMap.mp member
      exact form_columnComment commented
  | sqlite =>
    rw [createTable, sqliteCreate]
    simp only [List.cons_append, List.forall_mem_cons, List.forall_mem_append]
    refine ⟨?_, indexes, form_unsupportedExclusions (by decide) t⟩
    repeat refine Form.append ?_ _
    exact start

theorem form_renameTable (a : Adapter) (source target : String) :
    Form a source (renameTable a source target) := by
  unfold renameTable
  split
  · have start : Form .mysql source "RENAME TABLE " :=
      .opens "RENAME TABLE " (by decide) ⟨"", by decide⟩
    exact start.append _
  · exact form_alterTable _ source _

theorem form_addForeignKey (a : Adapter) (table : String) (k : ForeignKey) :
    Form a table (addForeignKey a table k) := by
  unfold addForeignKey
  split
  · exact form_unsupported table (by decide) _
  · exact form_alterTable _ table _

theorem form_removeForeignKey (a : Adapter) (table name : String) :
    Form a table (removeForeignKey a table name) := by
  cases a with
  | mysql => exact form_alterTable .mysql table _
  | postgres => exact form_alterTable .postgres table _
  | sqlite => exact form_unsupported table (by decide) _

theorem form_statements (a : Adapter) (op : Operation) :
    ∀ sql ∈ statements a op, Form a op.altered sql := by
  cases op with
  | createTable t => exact form_createTable a t
  | renameTable source target =>
    exact List.forall_mem_singleton.mpr (form_renameTable a source target)
  | dropTable name => exact List.forall_mem_singleton.mpr (form_dropTable a name name)
  | changeTable table as => exact List.forall_mem_map.mpr (form_bulkStatements a table as)
  | alter table alteration => exact form_alterationStatements a table alteration
  | addForeignKey table k => exact List.forall_mem_singleton.mpr (form_addForeignKey a table k)
  | removeForeignKey table name =>
    exact List.forall_mem_singleton.mpr (form_removeForeignKey a table name)
  | changeTableOptions table options =>
    exact List.forall_mem_singleton.mpr (form_alterTable a table options)
  | changeTableComment table comment => exact form_tableComment a table comment

theorem shape_statements (a : Adapter) (op : Operation) : ∀ sql ∈ statements a op, Shape a sql :=
  fun sql member => (form_statements a op sql member).shape

theorem sql_stepStatements (a : Adapter) (step : Step) :
    (stepStatements a step).map PlacedStatement.sql = statements a step.operation := by
  unfold stepStatements
  split
  next table as same =>
    rw [same, List.map_map]
    rfl
  next =>
    rw [List.map_map]
    exact List.map_id _

theorem shape_scriptStatements (a : Adapter) (s : Script) :
    ∀ sql ∈ scriptStatements a s, Shape a sql := by
  intro sql member
  obtain ⟨step, _, member⟩ := List.mem_flatMap.mp member
  rw [sql_stepStatements] at member
  exact shape_statements a step.operation sql member

end Sql

end SchemaEvolution
