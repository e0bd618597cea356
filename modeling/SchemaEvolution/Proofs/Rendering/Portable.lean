import SchemaEvolution.Proofs.Rendering.Plan
import SchemaEvolution.Proofs.Script.Layout

/-! What the adapter makes of a script, apart from the limits it picks. Options that only MySQL
   understands are left out for all others: those of a new table are cleared, and those that are
   set later on are operations of their own. -/
namespace SchemaEvolution

/-- What is left of an operation without the options that only MySQL understands. -/
def Operation.portable? : Operation → Option Operation
  | changeTableOptions _ _ => none
  | createTable t =>
    some (.createTable
      { t with options := { t.options with raw := none, charset := none, collation := none } })
  | op => some op

namespace Phases

def portable (p : Phases) : Phases where
  pre := p.pre.filterMap Operation.portable?
  main := p.main.filterMap Operation.portable?
  post := p.post.filterMap Operation.portable?

theorem portable_append (p q : Phases) : (p ++ q).portable = p.portable ++ q.portable := by
  ext1 <;> simp [portable]

theorem portable_join {ps qs : List Phases}
    (each : List.Forall₂ (fun p q => p.portable = q) ps qs) :
    (Phases.join ps).portable = .join qs := by
  induction each with
  | nil => rfl
  | cons first _ ih =>
    change (_ ++ Phases.join _).portable = _ ++ Phases.join _
    rw [portable_append, first, ih]

theorem inPhase_script (p : Phases) (phase : Phase) :
    p.portable.script.inPhase phase =
      (p.script.inPhase phase).filterMap Operation.portable? := by
  unfold script
  rw [Script.inPhase_assemble, Script.inPhase_assemble]
  cases phase <;> rfl

end Phases

theorem filterMap_portable_map {f : α → Operation} (shared : ∀ a, (f a).portable? = some (f a))
    (xs : List α) : (xs.map f).filterMap Operation.portable? = xs.map f := by
  rw [List.filterMap_map, ← List.filterMap_eq_map]
  exact List.filterMap_congr fun a _ => shared a

theorem filterMap_portable_block (bulk : Bool) (table : String) (as : List Alteration) :
    (block bulk table as).filterMap Operation.portable? = block bulk table as := by
  unfold block
  split_ifs
  · rfl
  · rfl
  · exact filterMap_portable_map (fun _ => rfl) as

theorem CreateTable.operations_portable (bulk inline : Bool) (t : CreateTable) :
    (t.operations bulk inline).filterMap Operation.portable? =
      { t with options := t.options.portable }.operations bulk inline := by
  cases inline with
  | true => rfl
  | false =>
    have rest : (block bulk t.name (t.indexes.map .addIndex)
        ++ t.constraints.map fun c => Operation.alter t.name (.addConstraint c)).filterMap
          Operation.portable? = _ :=
      List.filterMap_append.trans (congrArg₂ (· ++ ·) (filterMap_portable_block ..)
        (filterMap_portable_map (fun _ => rfl) t.constraints))
    exact congrArg (Operation.createTable _ :: ·) rest

theorem foreignKeyChanges_portable (table : String) (s : ChangeSet ForeignKeyEntry) :
    Alike (fun p q => p.portable = q) (foreignKeyChanges table s) (foreignKeyChanges table s) := by
  refine .bind_same fun _ => .bind_same fun added => .ok ?_
  ext1
  · exact filterMap_portable_map (fun _ => rfl) s.removed
  · rfl
  · exact filterMap_portable_map (fun _ => rfl) added

theorem Delta.render_eq_map (o : RenderOptions) (d : Delta) :
    d.render o = (d.phases o).map Phases.script := by
  unfold render
  cases d.phases o <;> rfl

section Adapters

variable {a : Adapter} (other : a.isMysql = false)
include other

theorem optionChanges_portable (table : String) (c : TableChange) :
    (optionChanges .mysql table c).filterMap Operation.portable? = optionChanges a table c := by
  have raw : (c.rawOptionTexts.map (Operation.changeTableOptions table)).filterMap
      Operation.portable? = [] := by
    rw [List.filterMap_map]
    exact List.filterMap_eq_nil_iff.mpr fun _ _ => rfl
  have comment : ((c.comment.map fun text => Operation.changeTableComment table
      (if text.isEmpty then none else some text)).toList).filterMap Operation.portable? =
      (c.comment.map fun text => Operation.changeTableComment table
        (if text.isEmpty then none else some text)).toList := by
    cases c.comment <;> rfl
  have mysql : Adapter.mysql.isMysql = true := rfl
  rw [optionChanges, optionChanges, mysql, other, if_pos rfl, if_neg Bool.false_ne_true,
    List.filterMap_append, raw, comment]
  rfl

variable (bulk inline : Bool) (l : Limits)

theorem TableSpec.render_portable (table : String) (s : TableSpec) :
    Alike (fun p q => p.portable = q) (s.render ⟨bulk, inline, .mysql, l⟩ table)
      (s.render ⟨bulk, inline, a, l⟩ table) := by
  refine .bind_same fun columns => .bind_same fun indexes => .bind_same fun checks => ?_
  refine .bind_same fun exclusions => .bind_same fun uniques => .bind_same fun keys => .ok ?_
  have options : (if a.isMysql then s.options else s.options.portable) = s.options.portable :=
    if_neg (by simp [other])
  let whole : CreateTable := ⟨table, s.options, columns, indexes, checks, exclusions, uniques⟩
  ext1
  · rfl
  · have creation := whole.operations_portable bulk inline
    simp only [options]
    exact creation
  · exact filterMap_portable_map (fun _ => rfl) keys

theorem TableChange.render_portable (table : String) (c : TableChange) :
    Alike (fun p q => p.portable = q) (c.render ⟨bulk, inline, .mysql, l⟩ table)
      (c.render ⟨bulk, inline, a, l⟩ table) := by
  refine .bind_same fun alterations => ?_
  refine .bind (foreignKeyChanges_portable table c.foreignKeys) fun keys keys' same => ?_
  refine .bind_same fun constraints => .ok ?_
  have alters := filterMap_portable_map (f := Operation.alter table) (fun _ => rfl) constraints
  have main : (block bulk table alterations ++ constraints.map (Operation.alter table)
      ++ optionChanges .mysql table c).filterMap Operation.portable? =
      block bulk table alterations ++ constraints.map (.alter table)
        ++ optionChanges a table c := by
    rw [List.filterMap_append, List.filterMap_append, filterMap_portable_block, alters,
      optionChanges_portable other]
  rw [Phases.portable_append, same]
  exact congrArg (fun ops => keys' ++ ({ main := ops } : Phases)) main

theorem Delta.phases_portable (d : Delta) :
    Alike (fun p q => p.portable = q) (d.phases ⟨bulk, inline, .mysql, l⟩)
      (d.phases ⟨bulk, inline, a, l⟩) := by
  refine .bind (.mapM _ fun e _ => e.2.render_portable other bulk inline l e.1) ?_
  intro created created' new
  refine .bind (.mapM _ fun e _ => e.2.render_portable other bulk inline l e.1) ?_
  intro changed changed' kept
  refine .ok ?_
  have shared {α : Type} {f : α → Operation} (same : ∀ a, (f a).portable? = some (f a))
      (xs : List α) : ({ main := xs.map f } : Phases).portable = { main := xs.map f } :=
    congrArg (fun ops => ({ main := ops } : Phases)) (filterMap_portable_map same xs)
  have renamed := shared (f := fun e => .renameTable e.2 e.1) (fun _ => rfl) d.rename.entries
  have dropped := shared (f := .dropTable) (fun _ => rfl) d.delete.keys
  simp only [Phases.portable_append, Phases.portable_join new, Phases.portable_join kept, renamed,
    dropped]

theorem Delta.render_of_other (d : Delta) :
    d.render ⟨bulk, inline, a, l⟩ =
      (d.phases ⟨bulk, inline, .mysql, l⟩).map fun p => p.portable.script := by
  rw [render_eq_map]
  exact ((d.phases_portable other bulk inline l).map_eq fun _ _ same =>
    congrArg Phases.script same).symm

end Adapters

/-- The scripts for PostgreSQL and SQLite are the same. The one for MySQL differs from them only
    by the options that are its own: phase by phase, and in the same order, the others have what
    is left without these. A delta that fails to render does so for all of them, and with the same
    failure. -/
theorem Delta.adapters_differ_in_options (d : Delta) (bulk inline : Bool) (l : Limits) :
    d.render ⟨bulk, inline, .postgres, l⟩ = d.render ⟨bulk, inline, .sqlite, l⟩ ∧
      (d.render ⟨bulk, inline, .sqlite, l⟩).map Script.inPhase =
        (d.render ⟨bulk, inline, .mysql, l⟩).map fun script phase =>
          (script.inPhase phase).filterMap Operation.portable? := by
  have postgres := d.render_of_other (a := .postgres) rfl bulk inline l
  have sqlite := d.render_of_other (a := .sqlite) rfl bulk inline l
  refine ⟨postgres.trans sqlite.symm, ?_⟩
  rw [sqlite, render_eq_map]
  cases d.phases ⟨bulk, inline, .mysql, l⟩ with
  | ok p => exact congrArg Except.ok (funext p.inPhase_script)
  | error f => rfl

/-- A character set is set for MySQL only, a comment for all. -/
example :
    let d : Delta := { change := .ofList [("users",
      { charset := some "utf8mb4", comment := some "people" })] }
    let kinds (a : Adapter) := (d.render (.ofAdapter a)).map fun script =>
      script.operations.map Operation.kindName
    kinds .mysql = .ok ["ChangeTableOptions", "ChangeTableComment"] ∧
      kinds .sqlite = .ok ["ChangeTableComment"] := by
  decide +kernel

end SchemaEvolution
