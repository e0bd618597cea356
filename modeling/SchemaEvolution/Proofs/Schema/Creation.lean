import SchemaEvolution.Proofs.Schema.Replay

/-! Creating a table with its indexes and constraints has the same effect as creating
   it bare and adding them one by one: nothing stands in the way of an addition. -/
namespace SchemaEvolution

def Index.entry (i : Index) : String × Index := (i.name, i)

def Constraint.entry (c : Constraint) : String × String := (c.name, c.text)

namespace TableState

theorem foldl_addConstraint (t : TableState) (cs : List Constraint) :
    cs.foldl addConstraint t =
      { t with constraints := t.constraints.insertAll (cs.map Constraint.entry) } := by
  induction cs generalizing t with
  | nil => rfl
  | cons c cs ih =>
    rw [List.foldl_cons, ih]
    rfl

theorem replay_addIndexes (table : String) (t : TableState) (is : List Index) :
    replayAll (applyAlteration table) t (is.map .addIndex) =
      ⟨{ t with indexes := t.indexes.insertAll (is.map Index.entry) }, none⟩ := by
  induction is generalizing t with
  | nil => rfl
  | cons i is ih =>
    change replayAll (applyAlteration table) { t with indexes := t.indexes.insert i.name i } _ = _
    rw [ih]
    rfl

theorem replay_addConstraints (table : String) (t : TableState) (cs : List Constraint) :
    replayAll (applyAlteration table) t (cs.map .addConstraint) =
      ⟨{ t with constraints := t.constraints.insertAll (cs.map Constraint.entry) }, none⟩ := by
  induction cs generalizing t with
  | nil => rfl
  | cons c cs ih =>
    change replayAll (applyAlteration table) (t.addConstraint c) _ = _
    rw [ih]
    rfl

end TableState

def CreateTable.completion (t : CreateTable) : List Alteration :=
  t.indexes.map .addIndex ++ t.constraints.map .addConstraint

def CreateTable.bare (t : CreateTable) : CreateTable :=
  { name := t.name, options := t.options, columns := t.columns }

theorem TableState.replay_completion (t : CreateTable) :
    replayAll (applyAlteration t.name) (ofCreateTable t.bare) t.completion =
      ⟨ofCreateTable t, none⟩ := by
  rw [CreateTable.completion, replayAll_append, replay_addIndexes, Replayed.andThen_done,
    replay_addConstraints]
  simp only [ofCreateTable, foldl_addConstraint]
  rfl

namespace Schema

theorem apply_createTable_taken {s : Schema} {t : CreateTable} (taken : s.hasTable t.name = true) :
    s.apply (.createTable t) = ⟨s, some (.tableExists t.name)⟩ := by
  simp [apply, taken]

theorem apply_createTable_free {s : Schema} {t : CreateTable} (free : s.hasTable t.name = false) :
    s.apply (.createTable t) = ⟨s.withTable t.name (.ofCreateTable t), none⟩ := by
  simp [apply, free]

/-- A table may be created as another one that alterations make of it. If the name is taken,
    both stop at the creation. -/
theorem sameEffect_altered {t u : CreateTable} (name : u.name = t.name) {as : List Alteration}
    (done : replayAll (TableState.applyAlteration t.name) (.ofCreateTable u) as =
      ⟨.ofCreateTable t, none⟩) :
    SameEffect [.createTable t] (.createTable u :: as.map (.alter t.name)) := by
  intro s
  rw [replay_singleton, replay_cons]
  -- A taken name stops both at once. Otherwise the alterations find the table just created.
  cases present : s.hasTable t.name with
  | true =>
    have first : s.apply (.createTable u) = ⟨s, some (.tableExists t.name)⟩ :=
      name ▸ apply_createTable_taken (name ▸ present)
    rw [apply_createTable_taken present, first]
    rfl
  | false =>
    have first : s.apply (.createTable u) = ⟨s.withTable t.name (.ofCreateTable u), none⟩ :=
      name ▸ apply_createTable_free (name ▸ present)
    rw [apply_createTable_free present, first, Replayed.andThen_done]
    cases as with
    | nil =>
      have same : TableState.ofCreateTable u = .ofCreateTable t := congrArg Replayed.state done
      rw [same]
      rfl
    | cons a as =>
      rw [replay_alters, onTable_found (table?_withTable_self s t.name _), done,
        withTable_withTable]

theorem sameEffect_completion (t : CreateTable) :
    SameEffect [.createTable t] (.createTable t.bare :: t.completion.map (.alter t.name)) := by
  have name : t.bare.name = t.name := rfl
  exact sameEffect_altered name (TableState.replay_completion t)

theorem sameEffect_changeTable (table : String) (a : Alteration) (as : List Alteration) :
    SameEffect [.changeTable table (a :: as)] ((a :: as).map (.alter table)) := by
  intro s
  rw [replay_singleton, replay_alters]
  rfl

end Schema

end SchemaEvolution
