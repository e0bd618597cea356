import SchemaEvolution.Proofs.Rendering.Steps

/-! The operations of one table change, phase by phase: each phase settles its table. The
   foreign keys go first and come last, and the phase between leaves them alone. -/
namespace SchemaEvolution

open Schema (Settles)

def TableState.withKeys (ks : List ForeignKey) (t : TableState) : TableState :=
  { t with foreignKeys := t.foreignKeys.insertAll (ks.map ForeignKey.entry) }

theorem settles_addedKeys {names : List String} {table : String} {ks : List ForeignKey}
    (targets : ∀ k ∈ ks, k.toTable ∈ names) (t : TableState) :
    Settles names table t (t.withKeys ks) (ks.map (.addForeignKey table)) := by
  let act (t : TableState) (k : ForeignKey) : Replayed TableState :=
    ⟨{ t with foreignKeys := t.foreignKeys.insert k.name k }, none⟩
  have done : replayAll act t ks = ⟨t.withKeys ks, none⟩ := by
    clear targets
    induction ks generalizing t with
    | nil => rfl
    | cons k ks ih => exact ih _
  refine Settles.of_visits (fun s keys k member => ?_) done
  have present : s.hasTable k.toTable = true :=
    Schema.hasTable_iff.mpr (keys ▸ targets k member)
  simp only [Schema.apply, if_pos present]
  rfl

/-- Additions of foreign keys to a table go through if and only if all the tables that
    they point to are there. -/
theorem Schema.conflict_addedKeys {s : Schema} {table : String} (present : table ∈ s.tables.keys)
    (ks : List ForeignKey) :
    (s.replay (ks.map (.addForeignKey table))).conflict = none ↔
      ∀ k ∈ ks, k.toTable ∈ s.tables.keys := by
  induction ks generalizing s with
  | nil => simp
  | cons k ks ih =>
    rw [List.map_cons, replay_cons, List.forall_mem_cons]
    obtain ⟨t, found⟩ := Keyed.exists_get? present
    by_cases target : k.toTable ∈ s.tables.keys
    · let keyed : TableState := { t with foreignKeys := t.foreignKeys.insert k.name k }
      have step : s.apply (.addForeignKey table k) = ⟨s.withTable table keyed, none⟩ := by
        rw [apply, if_pos (hasTable_iff.mpr target), onTable_found found]
      have same : (s.withTable table keyed).tables.keys = s.tables.keys :=
        keys_withTable keyed found
      rw [step, Replayed.andThen_done, ih (same ▸ present), same]
      exact (and_iff_right target).symm
    · have step : s.apply (.addForeignKey table k) = ⟨s, some (.tableMissing k.toTable)⟩ := by
        rw [apply, if_neg fun held => target (hasTable_iff.mp held)]
      rw [step, Replayed.andThen_stopped]
      exact iff_of_false (Option.some_ne_none _) fun all => target all.1

namespace TableChange

def dropKeys (c : TableChange) (t : TableState) : TableState :=
  { t with foreignKeys := t.foreignKeys.without c.removedKeys }

def alterElements (a : Adapter) (l : Limits) (table : String) (c : TableChange) (t : TableState) :
    TableState :=
  { c.outcome a l table t with foreignKeys := t.foreignKeys }

theorem stages_eq_outcome (a : Adapter) (l : Limits) (table : String) (c : TableChange)
    (t : TableState) :
    (c.alterElements a l table (c.dropKeys t)).withKeys (c.addedKeys table) =
      c.outcome a l table t := rfl

variable {names : List String} {a : Adapter} {l : Limits} {table : String} {c : TableChange}
  {t : TableState}

theorem Fits.settles_removedKeys (fits : c.Fits table t) :
    Settles names table t (c.dropKeys t) (c.removedKeys.map (.removeForeignKey table)) := by
  let act (t : TableState) (e : String × ForeignKeyEntry) : Replayed TableState :=
    .ofExcept t ((t.foreignKeys.take .foreignKey table (e.2.resolveName e.1)).map
      fun held => { t with foreignKeys := held.2 })
  have done : replayAll act t c.foreignKeys.removed = ⟨c.dropKeys t, none⟩ :=
    TableState.Part.foreignKeys.replay_removals (fun _ _ => rfl) fits.keysDistinct fits.keys
  rw [removedKeys, List.map_map]
  exact Settles.of_visits (fun _ _ _ _ => rfl) done

theorem FitsElements.dropKeys (fits : c.FitsElements table t) :
    c.FitsElements table (c.dropKeys t) :=
  ⟨fits.columns, fits.primaryKey, fits.indexes, fits.constraints⟩

theorem settles_rawOptions (t : TableState) (texts : List String) :
    Settles names table t { t with options := t.options ++ texts }
      (texts.map (.changeTableOptions table)) := by
  let act (t : TableState) (o : String) : Replayed TableState :=
    ⟨{ t with options := t.options ++ [o] }, none⟩
  have done : replayAll act t texts = ⟨{ t with options := t.options ++ texts }, none⟩ := by
    induction texts generalizing t with
    | nil => simp [replayAll]
    | cons o texts ih =>
      refine (ih { t with options := t.options ++ [o] }).trans ?_
      simp
  exact Settles.of_visits (fun _ _ _ _ => rfl) done

theorem settles_optionChanges (t : TableState) :
    Settles names table t
      { t with options := t.options ++ c.optionsAdded a, comment := c.commentAfter t.comment }
      (optionChanges a table c) := by
  refine (settles_rawOptions t (c.optionsAdded a)).append ?_
  unfold commentAfter
  cases c.comment with
  | none => exact Settles.idle names table _
  | some text =>
    let act (t : TableState) (comment : Option String) : Replayed TableState :=
      ⟨{ t with comment := comment }, none⟩
    have visit : ∀ s : Schema, s.tables.keys = names →
        ∀ b ∈ [if text.isEmpty then none else some text],
        s.apply (.changeTableComment table b) = s.onTable table fun t => act t b :=
      fun _ _ _ _ => rfl
    exact Settles.of_visits visit rfl

theorem FitsElements.settles_mainSteps (fits : c.FitsElements table t)
    (named : (c.columns.add.resolved (ColumnEntry.resolve l table)).map Column.name =
      c.columns.add.liveKeys) (inline : Bool) :
    Settles names table t (c.alterElements a l table t) (c.mainSteps ⟨false, inline, a, l⟩ table) := by
  let altered : TableState := { t with
    columns := c.columnsAfter l table t.columns
    indexes := c.indexesAfter table t.indexes }
  have steps : Settles names table t altered (block false table (c.steps l table)) := by
    rw [block_plain]
    exact Settles.alters (fits.replay_steps named)
  have constrained : Settles names table altered
      { altered with constraints := c.constraintsAfter table t.constraints }
      ((c.constraintSteps table).map (.alter table)) :=
    Settles.alters (FitsConstraints.replay (t := altered) fits.constraints)
  exact (steps.append constrained).append (settles_optionChanges _)

theorem Fits.settles_untilKeys (fits : c.Fits table t)
    (named : (c.columns.add.resolved (ColumnEntry.resolve l table)).map Column.name =
      c.columns.add.liveKeys) (inline : Bool) :
    Settles names table t (c.alterElements a l table (c.dropKeys t))
      (c.removedKeys.map (.removeForeignKey table)
        ++ c.mainSteps ⟨false, inline, a, l⟩ table) :=
  fits.settles_removedKeys.append (fits.toFitsElements.dropKeys.settles_mainSteps named inline)

end TableChange

end SchemaEvolution
