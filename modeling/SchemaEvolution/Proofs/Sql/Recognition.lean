import SchemaEvolution.Proofs.Sql.Runs
import SchemaEvolution.Proofs.Sql.Shape

/-! What becomes of a generated statement is decided from its text alone. Every operation that
   does anything gives statements, and each of these is told by its first words to be a remark,
   a structural statement or a comment on a table or column, however the names in it are spelled. -/
namespace SchemaEvolution.Sql

open Text

inductive StatementClass where
  | remark
  | structural
  | commentOn
  deriving DecidableEq

/-- Only PostgreSQL has statements that comment on a table or column. -/
def StatementClass.Holds (a : Adapter) (sql : String) : StatementClass → Prop
  | remark => isComment sql = true
  | structural => isStructural sql = true
  | commentOn => a = .postgres ∧ Starts "COMMENT ON" sql

/- No text is in two classes. -/

theorem plain_of_commentOn {sql : String} (starts : Starts "COMMENT ON" sql) :
    isComment sql = false ∧ isStructural sql = false := by
  obtain ⟨rest, rfl⟩ := starts
  rw [isComment, isStructural, String.toList_append]
  exact ⟨rfl, rfl⟩

namespace StatementClass

variable {a : Adapter} {sql : String} {k k' : StatementClass}

theorem Holds.unique (one : k.Holds a sql) (other : k'.Holds a sql) : k = k' := by
  have remarks : isComment sql = true → isStructural sql = false := isStructural_of_isComment
  have comments : Starts "COMMENT ON" sql → isComment sql = false ∧ isStructural sql = false :=
    plain_of_commentOn
  cases k <;> cases k' <;> simp_all [Holds]

end StatementClass

theorem Shape.exists_class {a : Adapter} {sql : String} (shape : Shape a sql) :
    ∃ k : StatementClass, k.Holds a sql := by
  cases shape with
  | structural word known starts => exact ⟨.structural, isStructural_of_starts known starts⟩
  | remark foreign starts => exact ⟨.remark, isComment_of_starts starts⟩
  | commentOn own starts =>
    have first : Starts "COMMENT ON" "COMMENT ON " := ⟨" ", by decide⟩
    exact ⟨.commentOn, own, first.trans starts⟩

/- Text that follows a statement. -/

theorem stripWord_append_right {word cs rest : List Char} (stripped : stripWord word cs = some rest)
    (more : List Char) : stripWord word (cs ++ more) = some (rest ++ more) := by
  induction word generalizing cs with
  | nil =>
    obtain rfl : cs = rest := Option.some.inj stripped
    rfl
  | cons k word ih =>
    cases cs with
    | nil => contradiction
    | cons c cs =>
      rw [stripWord] at stripped
      rw [List.cons_append, stripWord]
      split at stripped
      next same => rw [if_pos same, ih stripped]
      next other => contradiction

theorem endsWord_append {cs more : List Char} (ends : endsWord cs = true)
    (later : endsWord more = true) : endsWord (cs ++ more) = true := by
  cases cs with
  | nil => exact later
  | cons c cs => exact ends

theorem startsWithWord_append {word : String} (nonempty : word.toList ≠ []) {cs more : List Char}
    (starts : startsWithWord word cs = true) (later : endsWord more = true) :
    startsWithWord word (cs ++ more) = true := by
  unfold startsWithWord at starts ⊢
  split at starts
  case h_2 => contradiction
  case h_1 rest stripped =>
    have solid : dropBlanks cs ≠ [] := by
      intro blank
      obtain ⟨k, letters, spelled⟩ := List.exists_cons_of_ne_nil nonempty
      rw [blank, spelled, stripWord] at stripped
      contradiction
    have kept : dropBlanks (cs ++ more) = dropBlanks cs ++ more := by
      rw [dropBlanks, List.dropWhile_append, if_neg (by simpa [dropBlanks] using solid), dropBlanks]
    rw [kept, stripWord_append_right stripped]
    exact endsWord_append starts later

theorem isStructural_of_isAlter {sql : String} (alter : isAlter sql = true) :
    isStructural sql = true :=
  List.any_eq_true.mpr ⟨"ALTER", by decide, alter⟩

theorem isWord_comma : isWord ',' = false := by decide +kernel

theorem StatementClass.holds_decorate (a : Adapter) (d : Dispatch) (sql : String)
    (k : StatementClass) : k.Holds a (d.decorate sql) ↔ k.Holds a sql := by
  unfold Dispatch.decorate
  split
  case h_2 => rfl
  case h_1 extra _ =>
    split
    case isFalse => rfl
    case isTrue alter =>
      have before : structural.Holds a sql := isStructural_of_isAlter alter
      have after : structural.Holds a (sql ++ "," ++ extra) := by
        have comma : endsWord ("," ++ extra).toList = true := by
          have spelled : ("," ++ extra).toList = ',' :: extra.toList := String.toList_append ..
          rw [spelled, endsWord, isWord_comma, Bool.not_false]
        refine isStructural_of_isAlter ?_
        rw [isAlter, String.append_assoc, String.toList_append]
        exact startsWithWord_append (by decide) alter comma
      constructor
      · intro holds
        exact after.unique holds ▸ before
      · intro holds
        exact before.unique holds ▸ after

/- Operations without statements. -/

theorem createTable_ne_nil (a : Adapter) (t : CreateTable) : createTable a t ≠ [] := by
  cases a <;> exact nofun

theorem tableComment_ne_nil (a : Adapter) (table : String) (comment : Option String) :
    tableComment a table comment ≠ [] := by
  cases a <;> exact nofun

theorem Group.statements_ne_nil (a : Adapter) (table : String) (g : Group) :
    g.statements a table ≠ [] := by
  unfold statements
  split
  · exact List.cons_ne_nil _ _
  · exact List.cons_ne_nil _ _
  · rw [ne_eq, List.map_eq_nil_iff]
    exact alterationStatements_ne_nil a table _

theorem groups_eq_nil_iff {clause? : Alteration → Option String} {es : List (Nat × Alteration)} :
    groups clause? es = [] ↔ es = [] := by
  cases es with
  | nil => exact iff_of_true rfl rfl
  | cons e es =>
    refine iff_of_false ?_ (List.cons_ne_nil e es)
    unfold groups
    split
    · exact List.cons_ne_nil _ _
    · split <;> exact List.cons_ne_nil _ _

theorem bulkStatements_eq_nil_iff {a : Adapter} {table : String} {as : List Alteration} :
    bulkStatements a table as = [] ↔ as = [] := by
  rw [bulkStatements, List.flatMap_eq_nil_iff]
  constructor
  · intro silent
    have none : groups (clauseInBlock a) (numbered as) = [] :=
      List.eq_nil_iff_forall_not_mem.mpr fun g member =>
        g.statements_ne_nil a table (silent g member)
    rw [groups_eq_nil_iff, numbered, List.map_eq_nil_iff] at none
    simpa using none
  · rintro rfl
    exact List.forall_mem_nil _

theorem statements_eq_nil_iff {a : Adapter} {op : Operation} :
    statements a op = [] ↔ ∃ table, op = .changeTable table [] := by
  cases op with
  | createTable t => exact iff_of_false (createTable_ne_nil a t) nofun
  | renameTable source target => exact iff_of_false (List.cons_ne_nil _ _) nofun
  | dropTable name => exact iff_of_false (List.cons_ne_nil _ _) nofun
  | changeTable table as =>
    rw [statements, List.map_eq_nil_iff, bulkStatements_eq_nil_iff]
    constructor
    · rintro rfl
      exact ⟨table, rfl⟩
    · rintro ⟨_, same⟩
      exact (Operation.changeTable.inj same).2
  | alter table alteration =>
    exact iff_of_false (alterationStatements_ne_nil a table alteration) nofun
  | addForeignKey table k => exact iff_of_false (List.cons_ne_nil _ _) nofun
  | removeForeignKey table name => exact iff_of_false (List.cons_ne_nil _ _) nofun
  | changeTableOptions table options => exact iff_of_false (List.cons_ne_nil _ _) nofun
  | changeTableComment table comment =>
    exact iff_of_false (tableComment_ne_nil a table comment) nofun

/-- Only an empty bulk block gives no statements. Every statement is in one class and stays there
    when it is decorated, and no text at all is both a remark and structural. -/
theorem statements_recognised (a : Adapter) :
    (∀ op, statements a op = [] ↔ ∃ table, op = .changeTable table []) ∧
      (∀ op, ∀ sql ∈ statements a op, ∃! k : StatementClass, k.Holds a sql) ∧
      (∀ (d : Dispatch) sql (k : StatementClass), k.Holds a (d.decorate sql) ↔ k.Holds a sql) ∧
      ∀ sql, ¬(isComment sql = true ∧ isStructural sql = true) := by
  refine ⟨fun op => statements_eq_nil_iff, ?_, StatementClass.holds_decorate a, ?_⟩
  · intro op sql member
    obtain ⟨k, holds⟩ := (shape_statements a op sql member).exists_class
    exact ⟨k, holds, fun _ other => other.unique holds⟩
  · rintro sql ⟨remark, structural⟩
    rw [isStructural_of_isComment remark] at structural
    contradiction

/-- Neither the name of the table nor what is appended makes a remark of the statement. -/
theorem dashed_names_recognised :
    let sql := "COMMENT ON TABLE \x22--\n drop\x22 IS \x27-- create\x27"
    let op : Operation := .changeTableComment "--\n drop" (some "-- create")
    let d : Dispatch := { dryRun := false, alterExtra := some "--" }
    sql ∈ statements .postgres op ∧ (∃! k : StatementClass, k.Holds .postgres sql) ∧
      StatementClass.commentOn.Holds .postgres (d.decorate sql) := by
  intro sql op d
  obtain ⟨_, classes, decorated, _⟩ := statements_recognised .postgres
  have member : sql ∈ statements .postgres op := by decide
  have starts : Starts "COMMENT ON" sql :=
    ⟨" TABLE \x22--\n drop\x22 IS \x27-- create\x27", by decide⟩
  refine ⟨member, classes op sql member, ?_⟩
  rw [decorated d sql .commentOn]
  exact ⟨rfl, starts⟩

end SchemaEvolution.Sql
