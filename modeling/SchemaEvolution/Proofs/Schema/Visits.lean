import SchemaEvolution.Proofs.Schema.Tables

/-! Single steps of a replay: when an alteration goes through and what it leaves of its
   table, and what becomes of the tables of a schema. -/
namespace SchemaEvolution

namespace Keyed

variable {α : Type} {m : Keyed α}

theorem take_bind_eq_ok_iff {β : Type} {kind : ElementKind} {table name : String}
    {f : α × Keyed α → Except Conflict β} {b : β} :
    (m.take kind table name >>= f) = .ok b ↔
      ∃ v, m.get? name = some v ∧ f (v, m.erase name) = .ok b := by
  unfold take
  cases m.get? name with
  | none => simp [bind, Except.bind]
  | some v => simp [bind, Except.bind]

end Keyed

/-- What holds before a step and of what it makes holds after it. -/
theorem Replayed.ofExcept_invariant {p : σ → Prop} {s : σ} {r : Except Conflict σ} (start : p s)
    (kept : ∀ next, r = .ok next → p next) : p (ofExcept s r).state := by
  cases r with
  | ok next => exact kept next rfl
  | error c => exact start

namespace TableState

variable {t u : TableState} {table : String}

theorem done_iff : (pure u : Except Conflict TableState) = .ok t ↔ t = u :=
  ⟨fun same => (Except.ok.inj same).symm, fun same => congrArg Except.ok same.symm⟩

theorem alter_addColumn_iff {c : Column} :
    t.alter table (.addColumn c) = .ok u ↔
      c.name ∉ t.columns.keys ∧ u = { t with columns := t.columns.insert c.name c } := by
  by_cases present : c.name ∈ t.columns.keys
  · simp [alter, Keyed.contains_iff.mpr present, present]
  · have absent : t.columns.contains c.name = false := by
      rw [Bool.eq_false_iff, ne_eq, Keyed.contains_iff]
      exact present
    simp [alter, absent, present, eq_comm]

theorem alter_changeColumn_iff {c : Column} :
    t.alter table (.changeColumn c) = .ok u ↔
      c.name ∈ t.columns.keys ∧ u = { t with columns := t.columns.insert c.name c } := by
  by_cases present : c.name ∈ t.columns.keys
  · simp [alter, Keyed.contains_iff.mpr present, present, eq_comm]
  · have absent : t.columns.contains c.name = false := by
      rw [Bool.eq_false_iff, ne_eq, Keyed.contains_iff]
      exact present
    simp [alter, absent, present]

theorem alter_renameColumn_iff {source target : String} :
    t.alter table (.renameColumn source target) = .ok u ↔
      ∃ c, t.columns.get? source = some c ∧
        u = { t with columns := (t.columns.erase source).insert target (c.renamed target) } :=
  Keyed.take_bind_eq_ok_iff.trans (exists_congr fun _ => and_congr_right fun _ => done_iff)

theorem alter_removeColumn_iff {name : String} :
    t.alter table (.removeColumn name) = .ok u ↔
      ∃ c, t.columns.get? name = some c ∧ u = { t with columns := t.columns.erase name } :=
  Keyed.take_bind_eq_ok_iff.trans (exists_congr fun _ => and_congr_right fun _ => done_iff)

theorem alter_addIndex_iff {i : Index} :
    t.alter table (.addIndex i) = .ok u ↔ u = { t with indexes := t.indexes.insert i.name i } :=
  done_iff

theorem alter_renameIndex_iff {source target : String} :
    t.alter table (.renameIndex source target) = .ok u ↔
      ∃ i, t.indexes.get? source = some i ∧
        u = { t with indexes := (t.indexes.erase source).insert target (i.renamed target) } :=
  Keyed.take_bind_eq_ok_iff.trans (exists_congr fun _ => and_congr_right fun _ => done_iff)

theorem alter_removeIndex_iff {name : String} :
    t.alter table (.removeIndex name) = .ok u ↔
      ∃ i, t.indexes.get? name = some i ∧ u = { t with indexes := t.indexes.erase name } :=
  Keyed.take_bind_eq_ok_iff.trans (exists_congr fun _ => and_congr_right fun _ => done_iff)

theorem alter_addConstraint_iff {c : Constraint} :
    t.alter table (.addConstraint c) = .ok u ↔ u = t.addConstraint c := done_iff

theorem alter_removeConstraint_iff {kind : ConstraintKind} {name : String} :
    t.alter table (.removeConstraint kind name) = .ok u ↔
      ∃ text, t.constraints.get? name = some text ∧
        u = { t with constraints := t.constraints.erase name } :=
  Keyed.take_bind_eq_ok_iff.trans (exists_congr fun _ => and_congr_right fun _ => done_iff)

theorem alter_leaves {a : Alteration} (done : t.alter table a = .ok u) :
    u.foreignKeys = t.foreignKeys ∧ u.options = t.options ∧ u.comment = t.comment := by
  cases a with
  | addColumn c =>
    obtain ⟨_, rfl⟩ := alter_addColumn_iff.mp done
    exact ⟨rfl, rfl, rfl⟩
  | renameColumn source target =>
    obtain ⟨_, _, rfl⟩ := alter_renameColumn_iff.mp done
    exact ⟨rfl, rfl, rfl⟩
  | changeColumn c =>
    obtain ⟨_, rfl⟩ := alter_changeColumn_iff.mp done
    exact ⟨rfl, rfl, rfl⟩
  | removeColumn name =>
    obtain ⟨_, _, rfl⟩ := alter_removeColumn_iff.mp done
    exact ⟨rfl, rfl, rfl⟩
  | addIndex i =>
    obtain rfl := alter_addIndex_iff.mp done
    exact ⟨rfl, rfl, rfl⟩
  | renameIndex source target =>
    obtain ⟨_, _, rfl⟩ := alter_renameIndex_iff.mp done
    exact ⟨rfl, rfl, rfl⟩
  | removeIndex name =>
    obtain ⟨_, _, rfl⟩ := alter_removeIndex_iff.mp done
    exact ⟨rfl, rfl, rfl⟩
  | addConstraint c =>
    obtain rfl := alter_addConstraint_iff.mp done
    exact ⟨rfl, rfl, rfl⟩
  | removeConstraint kind name =>
    obtain ⟨_, _, rfl⟩ := alter_removeConstraint_iff.mp done
    exact ⟨rfl, rfl, rfl⟩

/-- What every alteration that goes through keeps of a table, a block of them keeps also
    where a member of it stops. -/
theorem replay_invariant {p : TableState → Prop}
    (kept : ∀ {t u a}, p t → t.alter table a = .ok u → p u) (start : p t) (as : List Alteration) :
    p (replayAll (applyAlteration table) t as).state := by
  induction as generalizing t with
  | nil => exact start
  | cons a as ih =>
    rw [replayAll, applyAlteration]
    cases step : t.alter table a with
    | ok u => exact ih (kept start step)
    | error c => exact start

end TableState

namespace Schema

variable {s : Schema} {name : String} {f : TableState → Replayed TableState}

theorem table?_onTable (n : String) :
    (s.onTable name f).state.table? n =
      if n = name then (s.table? name).map fun t => (f t).state else s.table? n := by
  cases found : s.table? name with
  | none =>
    rw [onTable_missing found]
    by_cases same : n = name
    · simp [same, found]
    · simp [same]
  | some t =>
    rw [onTable_found found]
    by_cases same : n = name
    · simp [same]
    · simp [same, table?_withTable_of_ne _ same]

@[simp] theorem keys_onTable : (s.onTable name f).state.tables.keys = s.tables.keys := by
  cases found : s.table? name with
  | none => rw [onTable_missing found]
  | some t =>
    rw [onTable_found found]
    exact keys_withTable _ found

/-- The schema after operations in a row, each applied to what the one before it left, also
    where that one met a conflict. -/
def after (s : Schema) (ops : List Operation) : Schema :=
  ops.foldl (fun s op => (s.apply op).state) s

theorem exists_replay_state (s : Schema) (ops : List Operation) :
    ∃ done, done <+: ops ∧ (s.replay ops).state = s.after done := by
  induction ops generalizing s with
  | nil => exact ⟨[], List.nil_prefix, rfl⟩
  | cons op ops ih =>
    rw [replay_cons]
    rcases applied : s.apply op with ⟨next, _ | c⟩
    case none =>
      obtain ⟨done, first, left⟩ := ih next
      refine ⟨op :: done, List.cons_prefix_cons.mpr ⟨rfl, first⟩, ?_⟩
      rw [Replayed.andThen_done, left, after, after, List.foldl_cons, applied]
    case some =>
      refine ⟨[op], List.cons_prefix_cons.mpr ⟨rfl, List.nil_prefix⟩, ?_⟩
      rw [Replayed.andThen_stopped, after, List.foldl_cons, List.foldl_nil, applied]

theorem after_invariant {p : Schema → Prop} (kept : ∀ {s} op, p s → p (s.apply op).state)
    (start : p s) (ops : List Operation) : p (s.after ops) := by
  induction ops generalizing s with
  | nil => exact start
  | cons op ops ih => exact ih (kept op start)

end Schema

end SchemaEvolution
