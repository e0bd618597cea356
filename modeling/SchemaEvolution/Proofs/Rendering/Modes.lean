import SchemaEvolution.Proofs.Rendering.Alike
import SchemaEvolution.Proofs.Schema.Creation

/-! Bulk blocks and inline indexes change how a delta is written down, not what it
   does: any two renderings fail alike, or replay alike over every schema. -/
namespace SchemaEvolution

open Schema

structure Phases.SameEffect (p q : Phases) : Prop where
  pre : Schema.SameEffect p.pre q.pre
  main : Schema.SameEffect p.main q.main
  post : Schema.SameEffect p.post q.post

namespace Phases.SameEffect

theorem refl (p : Phases) : p.SameEffect p := ⟨.refl _, .refl _, .refl _⟩

theorem append {p p' q q' : Phases} (left : p.SameEffect p') (right : q.SameEffect q') :
    (p ++ q).SameEffect (p' ++ q') :=
  ⟨left.pre.append right.pre, left.main.append right.main, left.post.append right.post⟩

theorem join {ps qs : List Phases} (each : List.Forall₂ Phases.SameEffect ps qs) :
    (Phases.join ps).SameEffect (.join qs) := by
  induction each with
  | nil => exact refl _
  | cons first _ ih => exact first.append ih

theorem script {p q : Phases} (same : p.SameEffect q) :
    Schema.SameEffect p.script.operations q.script.operations := by
  simp only [Phases.script, Script.assemble_operations]
  exact (same.pre.append same.main).append same.post

end Phases.SameEffect

theorem block_plain (table : String) (as : List Alteration) :
    block false table as = as.map (.alter table) := by
  cases as <;> rfl

theorem sameEffect_block (bulk : Bool) (table : String) (as : List Alteration) :
    SameEffect (block bulk table as) (as.map (.alter table)) := by
  cases bulk with
  | false =>
    rw [block_plain]
    exact .refl _
  | true =>
    cases as with
    | nil => exact .refl _
    | cons a as => exact sameEffect_changeTable table a as

theorem sameEffect_blocks (bulk bulk' : Bool) (table : String) (as : List Alteration) :
    SameEffect (block bulk table as) (block bulk' table as) :=
  (sameEffect_block bulk table as).trans (sameEffect_block bulk' table as).symm

def CreateTable.operations (bulk inline : Bool) (t : CreateTable) : List Operation :=
  if inline then [.createTable t]
  else .createTable t.bare :: block bulk t.name (t.indexes.map .addIndex)
    ++ t.constraints.map fun c => .alter t.name (.addConstraint c)

theorem sameEffect_creation (bulk inline : Bool) (t : CreateTable) :
    SameEffect (t.operations bulk inline) [.createTable t] := by
  cases inline with
  | true => exact .refl _
  | false =>
    refine .trans ?_ (sameEffect_completion t).symm
    have indexes := sameEffect_block bulk t.name (t.indexes.map .addIndex)
    have parts := ((SameEffect.refl [.createTable t.bare]).append indexes).append
      (.refl (t.constraints.map fun c => .alter t.name (.addConstraint c)))
    simpa [CreateTable.operations, CreateTable.completion, Function.comp_def] using parts

theorem TableSpec.render_modes (bulk bulk' inline inline' : Bool) (a : Adapter) (l : Limits)
    (table : String) (s : TableSpec) :
    Alike Phases.SameEffect (s.render ⟨bulk, inline, a, l⟩ table)
      (s.render ⟨bulk', inline', a, l⟩ table) := by
  refine .bind_same fun columns => .bind_same fun indexes => .bind_same fun checks => ?_
  refine .bind_same fun exclusions => .bind_same fun uniques => .bind_same fun keys => ?_
  let whole : CreateTable :=
    ⟨table, if a.isMysql then s.options else s.options.portable, columns, indexes, checks,
      exclusions, uniques⟩
  have creation : SameEffect (whole.operations bulk inline) (whole.operations bulk' inline') :=
    (sameEffect_creation bulk inline whole).trans (sameEffect_creation bulk' inline' whole).symm
  exact .ok ⟨.refl _, creation, .refl _⟩

theorem TableChange.render_modes (bulk bulk' inline inline' : Bool) (a : Adapter) (l : Limits)
    (table : String) (c : TableChange) :
    Alike Phases.SameEffect (c.render ⟨bulk, inline, a, l⟩ table)
      (c.render ⟨bulk', inline', a, l⟩ table) := by
  refine .bind_same fun alterations => .bind_same fun keys => .bind_same fun constraints => ?_
  refine .ok (Phases.SameEffect.append (.refl keys) ⟨.refl _, ?_, .refl _⟩)
  exact ((sameEffect_blocks bulk bulk' table alterations).append (.refl _)).append (.refl _)

theorem Delta.phases_modes (bulk bulk' inline inline' : Bool) (a : Adapter) (l : Limits)
    (d : Delta) :
    Alike Phases.SameEffect (d.phases ⟨bulk, inline, a, l⟩)
      (d.phases ⟨bulk', inline', a, l⟩) := by
  refine .bind (.mapM _ fun e _ => e.2.render_modes bulk bulk' inline inline' a l e.1) ?_
  intro created created' sameCreated
  refine .bind (.mapM _ fun e _ => e.2.render_modes bulk bulk' inline inline' a l e.1) ?_
  intro changed changed' sameChanged
  refine .ok (.append (.append (.append ?_ (.refl _)) ?_) (.refl _))
  · exact .join sameCreated
  · exact .join sameChanged

theorem Delta.render_modes (bulk bulk' inline inline' : Bool) (a : Adapter) (l : Limits)
    (d : Delta) :
    Alike (fun p q => Schema.SameEffect p.operations q.operations)
      (d.render ⟨bulk, inline, a, l⟩) (d.render ⟨bulk', inline', a, l⟩) :=
  .bind (d.phases_modes bulk bulk' inline inline' a l) fun _ _ same => .ok same.script

/-- Whatever the modes, a delta fails to render with the same failure, or its script
   replays to the same schema and the same conflict, if any. -/
theorem Delta.replay_render_modes (d : Delta) (a : Adapter) (l : Limits) (s : Schema)
    (bulk bulk' inline inline' : Bool) :
    (d.render ⟨bulk, inline, a, l⟩).map (fun script => s.replay script.operations) =
      (d.render ⟨bulk', inline', a, l⟩).map (fun script => s.replay script.operations) :=
  (d.render_modes bulk bulk' inline inline' a l).map_eq fun _ _ same => same s

end SchemaEvolution
