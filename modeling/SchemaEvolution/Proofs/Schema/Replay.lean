import SchemaEvolution.Proofs.Keyed
import SchemaEvolution.Schema.Replay

/-! Replays in parts: steps on one table merge into one visit of that table, and two
   lists of operations have the same effect if no schema tells their replays apart. -/
namespace SchemaEvolution

namespace Replayed

@[simp] theorem andThen_done (s : σ) (next : σ → Replayed σ) :
    (⟨s, none⟩ : Replayed σ).andThen next = next s := rfl

@[simp] theorem andThen_stopped (s : σ) (c : Conflict) (next : σ → Replayed σ) :
    (⟨s, some c⟩ : Replayed σ).andThen next = ⟨s, some c⟩ := rfl

theorem andThen_idle (r : Replayed σ) : (r.andThen fun s => ⟨s, none⟩) = r := by
  obtain ⟨s, conflict⟩ := r
  cases conflict <;> rfl

end Replayed

namespace Schema

theorem withTable_withTable (s : Schema) (name : String) (t u : TableState) :
    (s.withTable name t).withTable name u = s.withTable name u := by
  simp [withTable, Keyed.insert_insert]

theorem withTable_table? {s : Schema} {name : String} {t : TableState}
    (found : s.table? name = some t) : s.withTable name t = s := by
  simp only [withTable, Keyed.insert_get? found]

@[simp] theorem table?_withTable_self (s : Schema) (name : String) (t : TableState) :
    (s.withTable name t).table? name = some t := by
  simp [withTable, table?]

theorem onTable_found {s : Schema} {name : String} {t : TableState}
    (found : s.table? name = some t) (f : TableState → Replayed TableState) :
    s.onTable name f = ⟨s.withTable name (f t).state, (f t).conflict⟩ := by
  simp [onTable, found]

theorem onTable_missing {s : Schema} {name : String} (missing : s.table? name = none)
    (f : TableState → Replayed TableState) :
    s.onTable name f = ⟨s, some (.tableMissing name)⟩ := by
  simp [onTable, missing]

theorem onTable_andThen (s : Schema) (name : String) (f g : TableState → Replayed TableState) :
    ((s.onTable name f).andThen fun next => next.onTable name g) =
      s.onTable name fun t => (f t).andThen g := by
  cases found : s.table? name with
  | none => simp [onTable_missing found]
  | some t =>
    rw [onTable_found found, onTable_found found]
    obtain ⟨after, conflict⟩ := f t
    cases conflict with
    | none =>
      have again := table?_withTable_self s name after
      simp [onTable_found again, withTable_withTable]
    | some c => rfl

theorem replay_append (s : Schema) (a b : List Operation) :
    s.replay (a ++ b) = (s.replay a).andThen fun next => next.replay b :=
  replayAll_append apply s a b

@[simp] theorem replay_nil (s : Schema) : s.replay [] = ⟨s, none⟩ := rfl

theorem replay_cons (s : Schema) (op : Operation) (ops : List Operation) :
    s.replay (op :: ops) = (s.apply op).andThen fun next => next.replay ops := rfl

theorem replay_singleton (s : Schema) (op : Operation) : s.replay [op] = s.apply op :=
  Replayed.andThen_idle (s.apply op)

theorem replay_alters (s : Schema) (table : String) (a : Alteration) (as : List Alteration) :
    s.replay ((a :: as).map (.alter table)) =
      s.onTable table fun t => replayAll (TableState.applyAlteration table) t (a :: as) := by
  induction as generalizing a s with
  | nil =>
    rw [List.map_singleton, replay_singleton]
    simp only [replayAll, Replayed.andThen_idle]
    rfl
  | cons b as ih =>
    rw [List.map_cons, replay_cons]
    simp only [ih]
    exact onTable_andThen s table _ _

/-- No schema tells the two apart, be it by the conflict or by what is left. -/
def SameEffect (a b : List Operation) : Prop := ∀ s : Schema, s.replay a = s.replay b

namespace SameEffect

theorem refl (a : List Operation) : SameEffect a a := fun _ => rfl

theorem symm {a b : List Operation} (same : SameEffect a b) : SameEffect b a :=
  fun s => (same s).symm

theorem trans {a b c : List Operation} (first : SameEffect a b) (second : SameEffect b c) :
    SameEffect a c := fun s => (first s).trans (second s)

theorem append {a a' b b' : List Operation} (left : SameEffect a a') (right : SameEffect b b') :
    SameEffect (a ++ b) (a' ++ b') := by
  intro s
  rw [replay_append, replay_append, left s]
  congr
  funext next
  exact right next

end SameEffect

end Schema

end SchemaEvolution
