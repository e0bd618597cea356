import SchemaEvolution.Proofs.Rendering.Defects
import SchemaEvolution.Proofs.Rendering.Steps

/-! Deltas that concern one table. The elements that a specification lists can be created with
   their table, or the table is created bare and a change adds them: the schema is the same in
   the end, and so is the conflict, if there is one. -/
namespace SchemaEvolution

namespace TableSpec

def bare (s : TableSpec) : TableSpec := { options := s.options }

def additions (s : TableSpec) : TableChange where
  columns := { add := s.columns }
  indexes := { add := s.indexes }
  foreignKeys := { add := s.foreignKeys }
  checks := { add := s.checks }
  exclusions := { add := s.exclusions }
  uniques := { add := s.uniques }

variable (table : String) (s : TableSpec)

theorem defects_additions : s.additions.defects table = [] ↔ s.defects table = [] := by
  have columns : TableChange.columnDefects table s.additions.columns =
      s.columns.defects table .column := List.append_nil _
  simp only [TableChange.defects, defects, columns, List.append_eq_nil_iff]
  constructor
  · rintro ⟨⟨columns, -, indexes⟩, ⟨-, keys⟩, -, checks, -, exclusions, -, uniques⟩
    exact ⟨columns, indexes, checks, exclusions, uniques, keys⟩
  · rintro ⟨columns, indexes, checks, exclusions, uniques, keys⟩
    exact ⟨⟨columns, rfl, indexes⟩, ⟨rfl, keys⟩, rfl, checks, rfl, exclusions, rfl, uniques⟩

theorem mainSteps_additions (a : Adapter) (l : Limits) :
    let t := s.created a l table
    s.additions.mainSteps ⟨false, true, a, l⟩ table =
      (t.columns.map Alteration.addColumn ++ t.completion).map (.alter table) := by
  intro t
  have steps : s.additions.steps l table =
      t.columns.map Alteration.addColumn ++ t.indexes.map .addIndex := by
    have listed : s.additions.steps l table =
        [] ++ (t.columns.map Alteration.addColumn ++ [] ++ [] ++ []) ++ [] ++ []
          ++ t.indexes.map .addIndex := rfl
    rw [listed]
    simp only [List.append_nil, List.nil_append]
  have constraints : s.additions.constraintSteps table = t.constraints.map .addConstraint := rfl
  have options : optionChanges a table s.additions = [] := by
    cases a <;> rfl
  rw [TableChange.mainSteps, steps, constraints, options, block_plain, List.append_nil,
    ← List.map_append, List.append_assoc]
  rfl

/-- The additions make the bare table what it would have been from the start. -/
theorem replay_additions (a : Adapter) (l : Limits) :
    let t := s.created a l table
    replayAll (TableState.applyAlteration table) (.ofCreateTable (s.bare.created a l table))
      (t.columns.map .addColumn ++ t.completion) = ⟨.ofCreateTable t, none⟩ := by
  intro t
  have columns : replayAll (TableState.applyAlteration table)
      (.ofCreateTable (s.bare.created a l table)) (t.columns.map .addColumn) =
      ⟨.ofCreateTable t.bare, none⟩ :=
    TableState.replay_addColumns (ColumnEntry.names_resolved_nodup l table s.columns) fun _ _ => by
      exact List.not_mem_nil
  rw [replayAll_append, columns, Replayed.andThen_done]
  exact TableState.replay_completion t

end TableSpec

namespace Delta

def ofTable (table : String) (s : TableSpec) : Delta := ({} : Delta).addTable table s

def ofChange (table : String) (c : TableChange) : Delta := ({} : Delta).changeTable table c

variable {o : RenderOptions} {table : String} {script : Script}

theorem defects_ofTable (table : String) (s : TableSpec) :
    (ofTable table s).defects = s.defects table := by
  have listed : (ofTable table s).defects = [(table, s)].flatMap fun e => e.2.defects e.1 :=
    List.append_nil _
  rw [listed, List.flatMap_singleton]

theorem defects_ofChange (table : String) (c : TableChange) :
    (ofChange table c).defects = c.defects table := by
  have listed : (ofChange table c).defects = [(table, c)].flatMap fun e => e.2.defects e.1 := rfl
  rw [listed, List.flatMap_singleton]

theorem replay_ofTable {s : TableSpec} (rendered : (ofTable table s).render o = .ok script)
    (schema : Schema) :
    schema.replay script.operations =
      schema.replay (.createTable (s.created o.adapter o.limits table) ::
        (s.keys table).map (.addForeignKey table)) := by
  have pre : (ofTable table s).preSteps = [] := rfl
  have main : (ofTable table s).mainSteps ⟨false, true, o.adapter, o.limits⟩ =
      [.createTable (s.created o.adapter o.limits table)] := rfl
  have post : (ofTable table s).postSteps = (s.keys table).map (.addForeignKey table) := by
    have listed : (ofTable table s).postSteps =
        [(table, s)].flatMap fun e => (e.2.keys e.1).map (.addForeignKey e.1) := List.append_nil _
    rw [listed, List.flatMap_singleton]
  rw [replay_rendered rendered, pre, main, post]
  rfl

theorem replay_ofChange {c : TableChange} (rendered : (ofChange table c).render o = .ok script)
    (schema : Schema) :
    schema.replay script.operations =
      schema.replay (c.removedKeys.map (.removeForeignKey table)
        ++ c.mainSteps ⟨false, true, o.adapter, o.limits⟩ table
        ++ (c.addedKeys table).map (.addForeignKey table)) := by
  let plain : RenderOptions := ⟨false, true, o.adapter, o.limits⟩
  have pre : (ofChange table c).preSteps = c.removedKeys.map (.removeForeignKey table) :=
    List.append_nil _
  have main : (ofChange table c).mainSteps plain = c.mainSteps plain table := by
    have listed : (ofChange table c).mainSteps plain =
        [(table, c)].flatMap (fun e => e.2.mainSteps plain e.1) ++ [] := rfl
    rw [listed, List.append_nil, List.flatMap_singleton]
  have post : (ofChange table c).postSteps = (c.addedKeys table).map (.addForeignKey table) :=
    List.append_nil _
  rw [replay_rendered rendered, pre, main, post]

/-- A table may as well be created bare and then be given its elements by a second delta, in
    whatever modes either is rendered. Both ways leave the same schema, and they stop at the same
    conflict if they do not go through. -/
theorem replay_in_parts {bulk inline : Bool} {a : Adapter} {l : Limits} {s : TableSpec}
    {whole : Script} (rendered : (ofTable table s).render ⟨bulk, inline, a, l⟩ = .ok whole)
    (bulk₁ inline₁ bulk₂ inline₂ : Bool) :
    ∃ first second, (ofTable table s.bare).render ⟨bulk₁, inline₁, a, l⟩ = .ok first ∧
      (ofChange table s.additions).render ⟨bulk₂, inline₂, a, l⟩ = .ok second ∧
      ∀ schema : Schema, schema.replay whole.operations =
        (schema.replay first.operations).andThen fun between => between.replay second.operations := by
  have complete : s.defects table = [] := by
    rw [← defects_ofTable]
    exact (exists_script_iff _ _).mp ⟨whole, rendered⟩
  have bare : (ofTable table s.bare).defects = [] := defects_ofTable table s.bare
  have additions : (ofChange table s.additions).defects = [] := by
    rw [defects_ofChange]
    exact (s.defects_additions table).mpr complete
  obtain ⟨first, rendered₁⟩ := (exists_script_iff ⟨bulk₁, inline₁, a, l⟩ _).mpr bare
  obtain ⟨second, rendered₂⟩ := (exists_script_iff ⟨bulk₂, inline₂, a, l⟩ _).mpr additions
  refine ⟨first, second, rendered₁, rendered₂, fun schema => ?_⟩
  -- Both ways come down to the bare table, its elements one by one, and then the keys.
  let t := s.created a l table
  let added := (t.columns.map Alteration.addColumn ++ t.completion).map (Operation.alter table)
  let keys := (s.keys table).map (Operation.addForeignKey table)
  have creation : Schema.SameEffect [.createTable t]
      (.createTable (s.bare.created a l table) :: added) := by
    have name : (s.bare.created a l table).name = t.name := rfl
    exact Schema.sameEffect_altered name (s.replay_additions table a l)
  have change (between : Schema) :
      between.replay second.operations = between.replay (added ++ keys) := by
    rw [replay_ofChange rendered₂, s.mainSteps_additions table a l]
    rfl
  have start : schema.replay first.operations =
      schema.replay [.createTable (s.bare.created a l table)] := replay_ofTable rendered₁ schema
  simp only [start, change]
  rw [replay_ofTable rendered, ← Schema.replay_append]
  exact (creation.append (.refl keys)) schema

end Delta

def tickets : TableSpec where
  columns := .ofList [
    ("id", (ColumnEntry.ofType .bigint).asPrimaryKey),
    ("title", .ofType .string),
    ("draft", (ColumnEntry.ofType .text).ignore),
    ("parent_id", .ofType .bigint)]
  indexes := .ofList [("by_title", { columns := ["title"], unique := true })]
  foreignKeys := .ofList [("parent", { toTable := some "tickets" })]
  checks := .ofList [("titled", { expression := some "length(title) > 0" })]
  uniques := .ofList [("once", { columns := ["parent_id", "title"] })]
  options := { comment := some "All tickets" }

def ticketTable : TableState where
  columns := .ofList [
    ("id", ⟨"id", .bigint, { limit := some 8, nullable := some false, primaryKey := true }⟩),
    ("title", ⟨"title", .string, { limit := some 255 }⟩),
    ("parent_id", ⟨"parent_id", .bigint, { limit := some 8 }⟩)]
  indexes := .ofList [("index_tickets_on_title", ⟨"index_tickets_on_title", ["title"], true, none, none⟩)]
  foreignKeys := .ofList [("parent", ⟨"parent", "ticket_id", "tickets", "id", none, none⟩)]
  constraints := .ofList [("titled", "length(title) > 0"), ("once", "parent_id, title")]
  comment := some "All tickets"

theorem replay_tickets :
    let after : Schema := ⟨.ofList [("tickets", ticketTable)]⟩
    ∃ whole first second,
      (Delta.ofTable "tickets" tickets).render
        ⟨false, true, .mysql, .ofAdapter .mysql⟩ = .ok whole ∧
      (Delta.ofTable "tickets" tickets.bare).render
        ⟨true, true, .mysql, .ofAdapter .mysql⟩ = .ok first ∧
      (Delta.ofChange "tickets" tickets.additions).render
        ⟨true, false, .mysql, .ofAdapter .mysql⟩ = .ok second ∧
      Schema.empty.replay whole.operations = ⟨after, none⟩ ∧
      (Schema.empty.replay first.operations).andThen
        (fun between => between.replay second.operations) = ⟨after, none⟩ := by
  intro after
  let d := Delta.ofTable "tickets" tickets
  let o : RenderOptions := ⟨false, true, .mysql, .ofAdapter .mysql⟩
  have ok : (d.render o).isOk = true := by decide
  obtain ⟨whole, rendered⟩ := Rendered.exists_of_isOk ok
  have through : (d.render o).map (fun script => Schema.empty.replay script.operations) =
      .ok ⟨after, none⟩ := by decide
  rw [rendered] at through
  have done : Schema.empty.replay whole.operations = ⟨after, none⟩ := Except.ok.inj through
  obtain ⟨first, second, bare, additions, same⟩ :=
    Delta.replay_in_parts rendered true true true false
  exact ⟨whole, first, second, rendered, bare, additions, done, (same _).symm.trans done⟩

end SchemaEvolution
