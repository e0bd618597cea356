import SchemaEvolution.Proofs.Rendering.Segments
import SchemaEvolution.Proofs.Script.Layout

/-! The order of a rendered script, and what each part of it accounts for. Tables take up one
   segment after the other, in the order of the delta; only foreign keys leave their table's
   segment, to be removed before all else and added after all else. -/
namespace SchemaEvolution

def Operation.phase : Operation → Phase
  | removeForeignKey _ _ => .pre
  | addForeignKey _ _ => .post
  | _ => .main

/-- The script says what the delta says, in its order. -/
structure Delta.Ordered (o : RenderOptions) (d : Delta) (script : Script) : Prop where
  sequence : script.operations =
    script.inPhase .pre ++ script.inPhase .main ++ script.inPhase .post
  phases : ∀ step ∈ script.steps, step.phase = step.operation.phase
  main : ∃ created changed, script.inPhase .main =
      created.flatten ++ d.rename.entries.map (fun e => .renameTable e.2 e.1)
        ++ changed.flatten ++ d.delete.keys.map .dropTable ∧
    List.Forall₂ (fun e ops => e.2.Created o e.1 ops) d.add.entries created ∧
    List.Forall₂ (fun e ops => e.2.Staged o e.1 ops) d.change.entries changed
  removedKeys : script.inPhase .pre = d.change.entries.flatMap fun e =>
    ((Resolution.foreignKey e.1).removedNames e.2.foreignKeys).map (.removeForeignKey e.1)
  addedKeys : ∃ created changed, script.inPhase .post = created.flatten ++ changed.flatten ∧
    List.Forall₂ (fun e ops => KeysAdded e.1 e.2.foreignKeys.live ops) d.add.entries created ∧
    List.Forall₂ (fun e ops =>
        KeysAdded e.1 (e.2.foreignKeys.change.live ++ e.2.foreignKeys.add.live) ops)
      d.change.entries changed

theorem forall_mem_flatten {r : α → List β → Prop} {holds : β → Prop} {xs : List α}
    {parts : List (List β)} (related : List.Forall₂ r xs parts)
    (each : ∀ x part, r x part → ∀ b ∈ part, holds b) : ∀ b ∈ parts.flatten, holds b := by
  induction related with
  | nil => exact List.forall_mem_nil _
  | cons first _ ih =>
    rw [List.flatten_cons, List.forall_mem_append]
    exact ⟨each _ _ first, ih⟩

theorem phase_alters (table : String) (as : List Alteration) :
    ∀ op ∈ as.map (Operation.alter table), op.phase = .main :=
  List.forall_mem_map.mpr fun _ _ => rfl

theorem phase_of_flatten {ops : List Operation}
    (each : ∀ op ∈ ops.flatMap Operation.flatten, op.phase = .main) :
    ∀ op ∈ ops, op.phase = .main := by
  intro op member
  have parts : ∀ part ∈ op.flatten, part.phase = .main := fun part own =>
    each part (List.mem_flatMap.mpr ⟨op, member, own⟩)
  cases op with
  | removeForeignKey table name => exact parts _ (List.mem_singleton_self _)
  | addForeignKey table key => exact parts _ (List.mem_singleton_self _)
  | _ => rfl

theorem Stage.phase_of_consists {o : RenderOptions} {table : String} {c : TableChange}
    (stage : Stage) (ops : List Operation) (consists : stage.Consists o table c ops) :
    ∀ op ∈ ops, op.phase = .main := by
  cases stage with
  | indexRemovals =>
    obtain rfl := consists
    exact List.forall_mem_map.mpr fun _ _ => rfl
  | columns stage =>
    obtain ⟨as, _, rfl⟩ := consists
    exact phase_alters table as
  | keyColumns stage =>
    obtain ⟨as, _, rfl⟩ := consists
    exact phase_alters table as
  | indexRenames =>
    obtain rfl := consists
    exact List.forall_mem_map.mpr fun _ _ => rfl
  | indexAdditions =>
    obtain ⟨indexes, _, rfl⟩ := consists
    exact List.forall_mem_map.mpr fun _ _ => rfl
  | constraintRemovals =>
    obtain rfl := consists
    rw [List.forall_mem_append, List.forall_mem_append, List.forall_mem_map, List.forall_mem_map,
      List.forall_mem_map]
    exact ⟨⟨fun _ _ => rfl, fun _ _ => rfl⟩, fun _ _ => rfl⟩
  | constraintAdditions =>
    obtain ⟨checks, exclusions, uniques, _, _, _, rfl⟩ := consists
    exact List.forall_mem_map.mpr fun _ _ => rfl
  | rawOptions =>
    obtain rfl := consists
    exact List.forall_mem_map.mpr fun _ _ => rfl
  | comment =>
    obtain rfl := consists
    intro op member
    obtain ⟨_, _, rfl⟩ := Option.map_eq_some_iff.mp (Option.mem_toList.mp member)
    rfl

theorem TableChange.phase_of_staged {o : RenderOptions} {table : String} {c : TableChange}
    {ops : List Operation} (staged : c.Staged o table ops) : ∀ op ∈ ops, op.phase = .main := by
  obtain ⟨parts, stages, same⟩ := staged
  refine phase_of_flatten ?_
  rw [same]
  exact forall_mem_flatten stages Stage.phase_of_consists

theorem TableSpec.phase_of_created {o : RenderOptions} {table : String} {s : TableSpec}
    {ops : List Operation} (created : s.Created o table ops) : ∀ op ∈ ops, op.phase = .main := by
  cases created with
  | whole => exact List.forall_mem_singleton.mpr rfl
  | apart _ _ completed =>
    refine List.forall_mem_cons.mpr ⟨rfl, phase_of_flatten ?_⟩
    rw [completed]
    exact phase_alters table _

theorem phase_of_keysAdded {table : String} {es : List (String × ForeignKeyEntry)}
    {ops : List Operation} (added : KeysAdded table es ops) : ∀ op ∈ ops, op.phase = .post := by
  obtain ⟨keys, _, rfl⟩ := added
  exact List.forall_mem_map.mpr fun _ _ => rfl

namespace Delta

variable {o : RenderOptions} {d : Delta}

theorem segments_of_phases {p : Phases} (ok : d.phases o = .ok p) :
    (∃ created changed, p.main =
        created.flatten ++ d.rename.entries.map (fun e => .renameTable e.2 e.1)
          ++ changed.flatten ++ d.delete.keys.map .dropTable ∧
      List.Forall₂ (fun e ops => e.2.Created o e.1 ops) d.add.entries created ∧
      List.Forall₂ (fun e ops => e.2.Staged o e.1 ops) d.change.entries changed) ∧
    (p.pre = d.change.entries.flatMap fun e =>
      ((Resolution.foreignKey e.1).removedNames e.2.foreignKeys).map (.removeForeignKey e.1)) ∧
    ∃ created changed, p.post = created.flatten ++ changed.flatten ∧
      List.Forall₂ (fun e ops => KeysAdded e.1 e.2.foreignKeys.live ops) d.add.entries created ∧
      List.Forall₂ (fun e ops =>
          KeysAdded e.1 (e.2.foreignKeys.change.live ++ e.2.foreignKeys.add.live) ops)
        d.change.entries changed := by
  obtain ⟨created, r₁, ok⟩ := Rendered.bind_ok ok
  obtain ⟨changed, r₂, ok⟩ := Rendered.bind_ok ok
  have new := Rendered.forall₂_of_mapM r₁
  have kept := Rendered.forall₂_of_mapM r₂
  rw [← Except.ok.inj ok, Phases.join_eq, Phases.join_eq]
  simp only [Phases.main_append, Phases.pre_append, Phases.post_append, List.append_nil]
  refine ⟨⟨created.map Phases.main, changed.map Phases.main, ?_, ?_, ?_⟩, ?_,
    created.map Phases.post, changed.map Phases.post, ?_, ?_, ?_⟩
  · rw [List.flatMap_def, List.flatMap_def]
  · rw [List.forall₂_map_right_iff]
    exact new.imp fun _ _ ok => (TableSpec.segments_of_render ok).2.1
  · rw [List.forall₂_map_right_iff]
    exact kept.imp fun _ _ ok => (TableChange.segments_of_render ok).2.1
  · have none := Rendered.mapM_ok (g := fun _ => [])
      (fun _ _ ok => (TableSpec.segments_of_render ok).1) r₁
    have removals := Rendered.mapM_ok (fun _ _ ok => (TableChange.segments_of_render ok).1) r₂
    rw [none, removals, List.flatMap_eq_nil_iff.mpr fun _ _ => rfl]
    rfl
  · rw [List.flatMap_def, List.flatMap_def]
  · rw [List.forall₂_map_right_iff]
    exact new.imp fun _ _ ok => (TableSpec.segments_of_render ok).2.2
  · rw [List.forall₂_map_right_iff]
    exact kept.imp fun _ _ ok => (TableChange.segments_of_render ok).2.2

/-- A script that is rendered keeps the order of the delta, phase by phase and stage by stage,
    and has one operation for each entry that asks for one, or a removal and an addition by
    the same name for an entry that is redefined. -/
theorem ordered_of_render {script : Script} (rendered : d.render o = .ok script) :
    d.Ordered o script := by
  obtain ⟨p, planned, ok⟩ := Rendered.bind_ok rendered
  obtain rfl : p.script = script := Except.ok.inj ok
  obtain ⟨main, removals, additions⟩ := segments_of_phases planned
  have held (phase : Phase) := Script.inPhase_assemble p.pre p.main p.post phase
  -- Each phase holds only operations of its own kind, which gives a step its phase.
  have early : ∀ op ∈ p.pre, op.phase = .pre := by
    rw [removals, List.forall_mem_flatMap]
    exact fun _ _ => List.forall_mem_map.mpr fun _ _ => rfl
  have middle : ∀ op ∈ p.main, op.phase = .main := by
    obtain ⟨created, changed, all, creations, changes⟩ := main
    simp only [all, List.forall_mem_append]
    refine ⟨⟨⟨?_, ?_⟩, ?_⟩, ?_⟩
    · exact forall_mem_flatten creations fun _ _ => TableSpec.phase_of_created
    · exact List.forall_mem_map.mpr fun _ _ => rfl
    · exact forall_mem_flatten changes fun _ _ => TableChange.phase_of_staged
    · exact List.forall_mem_map.mpr fun _ _ => rfl
  have late : ∀ op ∈ p.post, op.phase = .post := by
    obtain ⟨created, changed, all, creations, changes⟩ := additions
    rw [all, List.forall_mem_append]
    constructor
    · exact forall_mem_flatten creations fun _ _ => phase_of_keysAdded
    · exact forall_mem_flatten changes fun _ _ => phase_of_keysAdded
  have placed (phase : Phase) : ∀ op ∈ p.script.inPhase phase, op.phase = phase := by
    rw [Phases.script, held]
    cases phase with
    | pre => exact early
    | main => exact middle
    | post => exact late
  constructor
  · exact (Script.assemble_operations ..).trans (by rw [Phases.script, held, held, held])
  · intro step member
    have own : step.operation ∈ p.script.inPhase step.phase :=
      List.mem_map_of_mem (List.mem_filter.mpr ⟨member, decide_eq_true rfl⟩)
    exact (placed step.phase _ own).symm
  · rw [Phases.script, held]
    exact main
  · rw [Phases.script, held]
    exact removals
  · rw [Phases.script, held]
    exact additions

end Delta

/-- Tags are new and point to posts, where an index, a key and a check are redefined. -/
def postsUpdate : Delta :=
  ({} : Delta).addTable "tags" {
      columns := .ofList [("id", .ofType .bigint)]
      indexes := .ofList [("by_id", { columns := ["id"] })]
      foreignKeys := .ofList [("post", { toTable := some "posts" })] }
    |>.changeTable "posts" {
      columns := {
        add := .ofList [("title", .ofType .string)]
        rename := .ofList [("text", "body")]
        change := .ofList [("text", .ofType .text)]
        delete := .ofList [("draft", {}), ("note", { ignored := true })] }
      indexes := { change := .ofList [("by_title", { columns := ["title"] })] }
      foreignKeys := { change := .ofList [("author", { toTable := some "users" })] }
      checks := { change := .ofList [("titled", { expression := some "title > 0" })] }
      comment := some "" }

theorem ordered_postsUpdate :
    let o := { RenderOptions.ofAdapter .postgres with bulk := true }
    let kinds (script : Script) :=
      (script.operations.flatMap Operation.flatten).map Operation.kindName
    (∃ script, postsUpdate.render o = .ok script ∧ postsUpdate.Ordered o script) ∧
      (postsUpdate.render o).map kinds = .ok
        ["RemoveForeignKey", "CreateTable", "AddIndex", "RemoveIndex", "AddColumn", "RenameColumn",
          "ChangeColumn", "RemoveColumn", "AddIndex", "RemoveCheckConstraint",
          "AddCheckConstraint", "ChangeTableComment", "AddForeignKey", "AddForeignKey"] := by
  intro o kinds
  have ok : (postsUpdate.render o).isOk = true := by decide +kernel
  obtain ⟨script, rendered⟩ := Rendered.exists_of_isOk ok
  exact ⟨⟨script, rendered, Delta.ordered_of_render rendered⟩, by decide +kernel⟩

end SchemaEvolution
