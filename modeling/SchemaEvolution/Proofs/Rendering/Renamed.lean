import SchemaEvolution.Proofs.Rendering.Settling

/-! Foreign keys of a table that is renamed by the same delta. They are removed before the
   rename but looked for under the new name, so a replay stops right there. -/
namespace SchemaEvolution

namespace Delta

def renameAndRekey (new old : String) (keys : ChangeSet ForeignKeyEntry) : Delta :=
  ({} : Delta).renameTable new old |>.changeTable new { foreignKeys := keys }

variable {new old : String} {keys : ChangeSet ForeignKeyEntry}

theorem preSteps_renameAndRekey :
    (renameAndRekey new old keys).preSteps =
      keys.removed.map fun e => .removeForeignKey new (e.2.resolveName e.1) := by
  have steps : (renameAndRekey new old keys).preSteps =
      [((new, { foreignKeys := keys }) : String × TableChange)].flatMap fun e =>
        e.2.removedKeys.map (.removeForeignKey e.1) := rfl
  rw [steps, List.flatMap_singleton, TableChange.removedKeys, List.map_map]
  rfl

theorem leaves_renameAndRekey {s : Schema} {n : String} :
    (renameAndRekey new old keys).Leaves s n ↔ n = new ∨ (n ∈ s.tables.keys ∧ n ≠ old) := by
  have added : (renameAndRekey new old keys).add.keys = [] := rfl
  have targets : (renameAndRekey new old keys).rename.keys = [new] := rfl
  have sources : (renameAndRekey new old keys).rename.values = [old] := rfl
  have dropped : (renameAndRekey new old keys).delete.keys = [] := rfl
  simp [Leaves, added, targets, sources, dropped]

theorem mainSteps_renameAndRekey (a : Adapter) (l : Limits) :
    (renameAndRekey new old keys).mainSteps ⟨false, true, a, l⟩ = [.renameTable old new] := by
  let c : TableChange := { foreignKeys := keys }
  have steps : c.steps l new = [] := rfl
  have constraints : c.constraintSteps new = [] := rfl
  have options : optionChanges a new c = [] := by
    cases a <;> rfl
  have idle : c.mainSteps ⟨false, true, a, l⟩ new = [] := by
    rw [TableChange.mainSteps, steps, constraints, options]
    rfl
  change [.renameTable old new] ++ (c.mainSteps ⟨false, true, a, l⟩ new ++ []) ++ [] = _
  rw [idle]
  rfl

theorem postSteps_renameAndRekey :
    (renameAndRekey new old keys).postSteps =
      (keys.added (ForeignKeyEntry.resolve new)).map (.addForeignKey new) :=
  List.append_nil _

theorem replay_removals_before_rename {s : Schema} (free : new ∉ s.tables.keys)
    (removed : keys.removed ≠ []) (rest : List Operation) :
    s.replay ((renameAndRekey new old keys).preSteps ++ rest) =
      ⟨s, some (.tableMissing new)⟩ := by
  obtain ⟨e, es, listed⟩ := List.exists_cons_of_ne_nil removed
  have missing : s.table? new = none := Keyed.get?_eq_none_iff.mpr free
  rw [preSteps_renameAndRekey, listed, List.map_cons, List.cons_append, Schema.replay_cons,
    Schema.apply, Schema.onTable_missing missing, Replayed.andThen_stopped]

theorem replay_additions_after_rename {s : Schema} (present : old ∈ s.tables.keys)
    (free : new ∉ s.tables.keys) (ks : List ForeignKey) :
    (s.replay (.renameTable old new :: ks.map (.addForeignKey new))).conflict = none ↔
      ∀ k ∈ ks, k.toTable = new ∨ (k.toTable ∈ s.tables.keys ∧ k.toTable ≠ old) := by
  obtain ⟨t, found⟩ := Keyed.exists_get? present
  let moved : Schema := ⟨(s.tables.erase old).insert new t⟩
  have step : s.apply (.renameTable old new) = ⟨moved, none⟩ := by
    have untaken : s.hasTable new ≠ true := fun held => free (Schema.hasTable_iff.mp held)
    have held : s.table? old = some t := found
    simp only [Schema.apply, if_neg untaken, held]
    rfl
  have names {n : String} : n ∈ moved.tables.keys ↔ n = new ∨ (n ∈ s.tables.keys ∧ n ≠ old) := by
    have erased : s.tables.erase old = s.tables.without [old] := by
      rw [Keyed.without_cons, Keyed.without_nil]
    rw [Keyed.mem_keys_insert, erased, Keyed.mem_keys_without, List.mem_singleton]
  rw [Schema.replay_cons, step, Replayed.andThen_done,
    Schema.conflict_addedKeys (names.mpr (.inl rfl))]
  simp only [names]

/-- The delta goes through if and only if it removes and redefines no foreign key at all. -/
theorem replay_renameAndRekey {o : RenderOptions} {s : Schema} {script : Script}
    (present : old ∈ s.tables.keys) (free : new ∉ s.tables.keys)
    (rendered : (renameAndRekey new old keys).render o = .ok script) :
    ((s.replay script.operations).conflict = none ↔
        keys.removed = [] ∧ ∀ k ∈ keys.added (ForeignKeyEntry.resolve new),
          (renameAndRekey new old keys).Leaves s k.toTable) ∧
      (keys.removed ≠ [] → s.replay script.operations = ⟨s, some (.tableMissing new)⟩) := by
  rw [replay_rendered rendered, mainSteps_renameAndRekey, List.append_assoc]
  simp only [leaves_renameAndRekey]
  by_cases removed : keys.removed = []
  · refine ⟨?_, fun some => absurd removed some⟩
    rw [preSteps_renameAndRekey, removed, postSteps_renameAndRekey]
    exact (replay_additions_after_rename present free _).trans (and_iff_right rfl).symm
  · have stopped (rest : List Operation) :
        s.replay ((renameAndRekey new old keys).preSteps ++ rest) =
          ⟨s, some (.tableMissing new)⟩ := replay_removals_before_rename free removed rest
    refine ⟨?_, fun _ => stopped _⟩
    rw [stopped]
    exact iff_of_false (Option.some_ne_none _) fun through => removed through.1

end Delta

def staffed : Schema where
  tables := .ofList [
    ("users", {}),
    ("people", { foreignKeys := .ofList [("boss", ⟨"boss", "boss_id", "users", "id", none, none⟩)] })]

theorem replay_staffed :
    ∃ script, (Delta.renameAndRekey "staff" "people" { delete := .ofList [("boss", {})] }).render
        (.ofAdapter .sqlite) = .ok script ∧
      staffed.replay script.operations = ⟨staffed, some (.tableMissing "staff")⟩ := by
  let d := Delta.renameAndRekey "staff" "people" { delete := .ofList [("boss", {})] }
  have ok : (d.render (.ofAdapter .sqlite)).isOk = true := by decide
  obtain ⟨script, rendered⟩ := Rendered.exists_of_isOk ok
  have stops := Delta.replay_renameAndRekey (s := staffed) (by decide) (by decide) rendered
  exact ⟨script, rendered, stops.2 (by decide)⟩

end SchemaEvolution
