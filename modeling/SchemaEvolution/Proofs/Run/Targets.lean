import Mathlib.Data.List.TakeWhile
import SchemaEvolution.Proofs.Run.LiveRun

/-! What an external script is told of the table that a statement alters. The name is quoted
   when the statement is written and searched for when it is sent, but the search stops at the
   first blank or quote, wherever the name ends. -/
namespace SchemaEvolution

namespace Sql

open Text

def isNameChar (c : Char) : Bool := !isBlank c && !isNameQuote c

/-- What is told of a name: all before its first blank or quote, unless that is nothing. -/
def told (name : String) : Option String :=
  let start := name.toList.takeWhile isNameChar
  if start.isEmpty then none else some (String.ofList start)

theorem told_eq_some_iff {name t : String} :
    told name = some t ↔ t ≠ "" ∧ name.toList.takeWhile isNameChar = t.toList := by
  have spelled : String.ofList (name.toList.takeWhile isNameChar) = t ↔
      name.toList.takeWhile isNameChar = t.toList := by
    rw [← String.toList_inj, String.toList_ofList]
  rw [told, Option.ite_none_left_eq_some, Option.some.injEq, spelled]
  refine and_congr_left fun start => not_congr ?_
  rw [start, List.isEmpty_iff, String.toList_eq_nil_iff]

theorem told_eq_self_iff {name : String} :
    told name = some name ↔ name ≠ "" ∧ ∀ c ∈ name.toList, isNameChar c = true := by
  rw [told_eq_some_iff, List.takeWhile_eq_self_iff]

theorem told_eq_none_iff {name : String} :
    told name = none ↔ ∀ c ∈ name.toList.head?, isNameChar c = false := by
  unfold told
  cases name.toList with
  | nil => simp
  | cons c cs => cases starts : isNameChar c <;> simp [starts]

theorem takeWhile_doubled {mark : Char} {p : Char → Bool} (stops : p mark = false)
    (cs rest : List Char) :
    (doubled (· = mark) cs ++ mark :: rest).takeWhile p = cs.takeWhile p := by
  induction cs with
  | nil => simp [doubled, stops]
  | cons c cs ih =>
    by_cases same : c = mark
    · simp [doubled, same, stops]
    · have single : doubled (· = mark) (c :: cs) = c :: doubled (· = mark) cs := by
        simp [doubled, same]
      rw [single, List.cons_append, List.takeWhile_cons, List.takeWhile_cons, ih]

theorem alterTableTarget_alterTable (a : Adapter) (table body : String) :
    alterTableTarget (alterTable a table body) = told table := by
  let mark := identifierMark a
  have kind : isBlank mark = false ∧ isNameQuote mark = true := by
    cases a <;> decide
  have spelled : (alterTable a table body).toList = "ALTER TABLE ".toList ++
      mark :: (doubled (· = mark) table.toList ++ mark :: (' ' :: body.toList)) := by
    simp [alterTable, quoteIdentifier, enclosed, String.toList_append, mark]
  have first (rest : List Char) : stripSpacedWord "ALTER" ("ALTER TABLE ".toList ++ rest) =
      some ("TABLE ".toList ++ rest) := rfl
  have second (rest : List Char) : stripSpacedWord "TABLE" ("TABLE ".toList ++ rest) =
      some rest := rfl
  have solid (rest : List Char) : dropBlanks (mark :: rest) = mark :: rest := by
    simp [dropBlanks, kind.1]
  have opened (rest : List Char) : dropNameQuote (mark :: rest) = rest := if_pos kind.2
  have stops : isNameChar mark = false := by
    simp [isNameChar, kind.2]
  -- The two words and the opening mark are passed over. What stops the name is looked at last.
  have found : alterTableTarget (alterTable a table body) =
      let start := (dropNameQuote (dropBlanks (mark :: (doubled (· = mark) table.toList
        ++ mark :: (' ' :: body.toList))))).takeWhile isNameChar
      if start.isEmpty then none else some (String.ofList start) := by
    rw [alterTableTarget, spelled, first]
    rfl
  rw [found, solid, opened, takeWhile_doubled stops]
  rfl

theorem Form.alters_of_starts {a : Adapter} {table sql : String} (form : Form a table sql)
    (starts : Starts "ALTER TABLE" sql) : ∃ body, sql = alterTable a table body := by
  have others : ∀ opening ∈ "-- " :: "COMMENT ON " :: openings,
      ¬(opening.toList <+: "ALTER TABLE".toList ∨ "ALTER TABLE".toList <+: opening.toList) := by
    decide
  have apart {opening : String} (known : opening ∈ "-- " :: "COMMENT ON " :: openings)
      (first : Starts opening sql) : False :=
    others opening known (List.prefix_or_prefix_of_prefix first.prefixed starts.prefixed)
  cases form with
  | alters body whole => exact ⟨body, whole⟩
  | opens opening known first =>
    exact (apart (List.mem_cons_of_mem _ (List.mem_cons_of_mem _ known)) first).elim
  | remark foreign first => exact (apart (by decide) first).elim
  | commentOn own first => exact (apart (by decide) first).elim

end Sql

namespace Dispatch

open Sql

variable {a : Adapter} {op : Operation} {sql : String}

theorem decorate_alterTable (d : Dispatch) (a : Adapter) (table body : String) :
    ∃ longer, d.decorate (alterTable a table body) = alterTable a table longer := by
  obtain ⟨more, decorated⟩ := d.exists_decorate (alterTable a table body)
  rw [decorated, alterTable_append]
  exact ⟨body ++ more, rfl⟩

theorem delivered_generated {d : Dispatch} (live : d.dryRun = false) (w : World) (sql : String) :
    (d.generated w sql).outcome.2.delivered =
      (Move.generated d ⟨0, sql⟩).delivery.toList := by
  have yields : Run.Yields [] (d.generated w sql) _ _ := yields_generated live ⟨0, sql⟩
  rw [yields.outcome]

theorem delivered_altering {d : Dispatch} (live : d.dryRun = false) {script : String}
    (configured : d.externalScript = some script) (w : World) (table body : String) :
    let sql := alterTable a table body
    (d.generated w sql).outcome.2.delivered =
      [⟨(told table).elim .connection (.program script), d.decorate sql⟩] := by
  intro sql
  obtain ⟨longer, decorated⟩ := d.decorate_alterTable a table body
  have structural : isStructural (d.decorate sql) = true := by
    have known : "ALTER" ∈ structuralWords := by decide
    rw [decorated]
    exact isStructural_of_starts known (starts_alterTable a table longer)
  have sent : isComment (d.decorate sql) = false := by
    by_contra comment
    rw [Bool.not_eq_false] at comment
    rw [isStructural_of_isComment comment] at structural
    contradiction
  have target : alterTableTarget (d.decorate sql) = told table := by
    rw [decorated, alterTableTarget_alterTable]
  have delivery : d.delivery (d.decorate sql) =
      ⟨(told table).elim .connection (.program script), d.decorate sql⟩ := by
    rw [Dispatch.delivery, scriptTarget?, configured, target]
    cases told table <;> rfl
  rw [delivered_generated live, Move.generated]
  simp only [sent, delivery]
  rfl

/-- A statement that alters a table reaches the external script only as far as the name of the
    table can be told: the name is right if it has neither blanks nor quotes in it, and the
    statement goes to the connection if it is empty or starts with one of these. -/
theorem told_of_altering (member : sql ∈ statements a op) (alters : Starts "ALTER TABLE" sql) :
    let table := op.altered
    (∀ d : Dispatch, alterTableTarget (d.decorate sql) = told table) ∧
      (told table = some table ↔ table ≠ "" ∧ ∀ c ∈ table.toList, isNameChar c = true) ∧
      (told table = none ↔ ∀ c ∈ table.toList.head?, isNameChar c = false) ∧
      ∀ (d : Dispatch) (script : String) (w : World), d.dryRun = false →
        d.externalScript = some script →
        (d.generated w sql).outcome.2.delivered =
          [⟨(told table).elim .connection (.program script), d.decorate sql⟩] := by
  intro table
  obtain ⟨body, rfl⟩ := (form_statements a op sql member).alters_of_starts alters
  refine ⟨?_, told_eq_self_iff, told_eq_none_iff, ?_⟩
  · intro d
    obtain ⟨longer, decorated⟩ := d.decorate_alterTable a op.altered body
    rw [decorated, alterTableTarget_alterTable]
  · intro d script w live configured
    exact delivered_altering live configured w table body

end Dispatch

/-- The script is told of a table that is not the one to alter. -/
theorem order_items_cut_short :
    let sql := "ALTER TABLE \x22order items\x22 DROP COLUMN \x22note\x22"
    let op : Operation := .alter "order items" (.removeColumn "note")
    sql ∈ Sql.statements .sqlite op ∧ Sql.Starts "ALTER TABLE" sql ∧
      ∀ w, (Dispatch.generated ⟨false, none, some "alter.sh"⟩ w sql).outcome.2.delivered =
        [⟨.program "alter.sh" "order", sql⟩] := by
  intro sql op
  let d : Dispatch := ⟨false, none, some "alter.sh"⟩
  have member : sql ∈ Sql.statements .sqlite op := by decide
  have alters : Sql.Starts "ALTER TABLE" sql :=
    ⟨" \x22order items\x22 DROP COLUMN \x22note\x22", by decide⟩
  have told : Sql.told op.altered = some "order" := by decide
  refine ⟨member, alters, fun w => ?_⟩
  obtain ⟨_, _, _, delivered⟩ := Dispatch.told_of_altering member alters
  rw [delivered d "alter.sh" w rfl rfl, told]
  rfl

end SchemaEvolution
