import SchemaEvolution.Proofs.Rendering.Modes

/-! What a rendering that succeeds consists of: every live entry of a delta resolved,
   and the operations of all tables laid side by side, phase by phase. -/
namespace SchemaEvolution

theorem Rendered.bind_ok {x : Rendered α} {f : α → Rendered β} {b : β} (ok : x >>= f = .ok b) :
    ∃ a, x = .ok a ∧ f a = .ok b := by
  cases x with
  | ok a => exact ⟨a, rfl, ok⟩
  | error e => contradiction

theorem Rendered.exists_of_isOk {x : Rendered α} (ok : x.isOk = true) : ∃ a, x = .ok a := by
  cases x with
  | ok a => exact ⟨a, rfl⟩
  | error f => contradiction

theorem Rendered.mapM_ok {f : α → Rendered β} {g : α → List γ} {h : β → List γ} {es : List α}
    {bs : List β} (gives : ∀ e b, f e = .ok b → h b = g e) (ok : es.mapM f = .ok bs) :
    bs.flatMap h = es.flatMap g := by
  induction es generalizing bs with
  | nil =>
    obtain rfl : [] = bs := Except.ok.inj ok
    rfl
  | cons e es ih =>
    rw [List.mapM_cons] at ok
    obtain ⟨b, first, ok⟩ := bind_ok ok
    obtain ⟨rest, later, ok⟩ := bind_ok ok
    obtain rfl : b :: rest = bs := Except.ok.inj ok
    rw [List.flatMap_cons, List.flatMap_cons, gives e b first, ih later]

theorem Rendered.mapM_each {f : α → Rendered β} {es : List α} {bs : List β}
    (ok : es.mapM f = .ok bs) : ∀ e ∈ es, ∃ b, f e = .ok b := by
  induction es generalizing bs with
  | nil => simp
  | cons e es ih =>
    rw [List.mapM_cons] at ok
    obtain ⟨b, first, ok⟩ := bind_ok ok
    obtain ⟨rest, later, _⟩ := bind_ok ok
    rw [List.forall_mem_cons]
    exact ⟨⟨b, first⟩, ih later⟩

theorem Rendered.mapM_of_each {f : α → Rendered β} {es : List α}
    (each : ∀ e ∈ es, ∃ b, f e = .ok b) : ∃ bs, es.mapM f = .ok bs := by
  induction es with
  | nil => exact ⟨[], rfl⟩
  | cons e es ih =>
    rw [List.forall_mem_cons] at each
    obtain ⟨⟨b, first⟩, later⟩ := each
    obtain ⟨bs, rest⟩ := ih later
    exact ⟨b :: bs, by rw [List.mapM_cons, first, rest]; rfl⟩

theorem flatMap_silent {shown : β → List γ} {f : α → β} (silent : ∀ a, shown (f a) = [])
    (xs : List α) : (xs.map f).flatMap shown = [] := by
  rw [List.flatMap_map, List.flatMap_eq_nil_iff]
  exact fun a _ => silent a

section Alterations

variable {table : String} {shown : Operation → List γ} {each : Alteration → List γ}

theorem flatMap_alters (lone : ∀ a, shown (.alter table a) = each a) (as : List Alteration) :
    (as.map (.alter table)).flatMap shown = as.flatMap each := by
  rw [List.flatMap_map]
  exact List.flatMap_congr fun a _ => lone a

theorem flatMap_block (lone : ∀ a, shown (.alter table a) = each a)
    (together : ∀ as, shown (.changeTable table as) = as.flatMap each) (bulk : Bool)
    (as : List Alteration) : (block bulk table as).flatMap shown = as.flatMap each := by
  cases bulk with
  | false => rw [block_plain, flatMap_alters lone]
  | true =>
    cases as with
    | nil => rfl
    | cons a as => exact (List.append_nil _).trans (together (a :: as))

end Alterations

attribute [ext] Phases

namespace Phases

@[simp] theorem pre_append (p q : Phases) : (p ++ q).pre = p.pre ++ q.pre := rfl

@[simp] theorem main_append (p q : Phases) : (p ++ q).main = p.main ++ q.main := rfl

@[simp] theorem post_append (p q : Phases) : (p ++ q).post = p.post ++ q.post := rfl

theorem join_eq (ps : List Phases) :
    Phases.join ps = ⟨ps.flatMap pre, ps.flatMap main, ps.flatMap post⟩ := by
  induction ps with
  | nil => rfl
  | cons p ps ih =>
    change p ++ Phases.join ps = _
    rw [ih]
    rfl

end Phases

/-- What the live entries of a map resolve to. -/
def Keyed.resolved [Entry α] (resolve : String → α → Rendered β) (m : Keyed α) : List β :=
  m.live.flatMap fun e => (resolve e.1 e.2).toOption.toList

theorem resolveLive_ok [Entry α] {resolve : String → α → Rendered β} {m : Keyed α} {bs : List β}
    (ok : resolveLive resolve m = .ok bs) : bs = m.resolved resolve := by
  have all := Rendered.mapM_ok (h := fun b => [b])
    (g := fun e => (resolve e.1 e.2).toOption.toList) (fun e b first => by rw [first]; rfl) ok
  rw [List.flatMap_singleton'] at all
  exact all

/-- What a change set adds: the changed entries again, then the new ones. -/
def ChangeSet.added [Entry α] (resolve : String → α → Rendered β) (s : ChangeSet α) : List β :=
  s.change.resolved resolve ++ s.add.resolved resolve

theorem ChangeSet.resolveAdded_ok [Entry α] {resolve : String → α → Rendered β}
    {s : ChangeSet α} {bs : List β} (ok : s.resolveAdded resolve = .ok bs) :
    bs = s.added resolve := by
  obtain ⟨changed, first, ok⟩ := Rendered.bind_ok ok
  obtain ⟨new, second, ok⟩ := Rendered.bind_ok ok
  rw [← Except.ok.inj ok, resolveLive_ok first, resolveLive_ok second]
  rfl

def TableSpec.created (a : Adapter) (l : Limits) (table : String) (s : TableSpec) : CreateTable where
  name := table
  options := if a.isMysql then s.options else s.options.portable
  columns := s.columns.resolved (ColumnEntry.resolve l table)
  indexes := s.indexes.resolved (IndexEntry.resolve table)
  checks := s.checks.resolved (ConstraintEntry.resolveCheck table)
  exclusions := s.exclusions.resolved (ConstraintEntry.resolveExclusion table)
  uniques := s.uniques.resolved (UniqueEntry.resolve table)

def TableSpec.keys (table : String) (s : TableSpec) : List ForeignKey :=
  s.foreignKeys.resolved (ForeignKeyEntry.resolve table)

theorem TableSpec.render_ok {o : RenderOptions} {table : String} {s : TableSpec} {p : Phases}
    (ok : s.render o table = .ok p) :
    p = ⟨[], (s.created o.adapter o.limits table).operations o.bulk o.inlineIndexes,
      (s.keys table).map (.addForeignKey table)⟩ := by
  obtain ⟨columns, r₁, ok⟩ := Rendered.bind_ok ok
  obtain ⟨indexes, r₂, ok⟩ := Rendered.bind_ok ok
  obtain ⟨checks, r₃, ok⟩ := Rendered.bind_ok ok
  obtain ⟨exclusions, r₄, ok⟩ := Rendered.bind_ok ok
  obtain ⟨uniques, r₅, ok⟩ := Rendered.bind_ok ok
  obtain ⟨keys, r₆, ok⟩ := Rendered.bind_ok ok
  rw [← Except.ok.inj ok, resolveLive_ok r₁, resolveLive_ok r₂, resolveLive_ok r₃,
    resolveLive_ok r₄, resolveLive_ok r₅, resolveLive_ok r₆]
  rfl

namespace TableChange

def columnSteps (l : Limits) (table : String) (s : ChangeSet ColumnEntry) : List Alteration :=
  (s.add.resolved (ColumnEntry.resolve l table)).map .addColumn
    ++ s.rename.entries.map (fun e => .renameColumn e.2 e.1)
    ++ (s.change.resolved (ColumnEntry.resolve l table)).map .changeColumn
    ++ s.delete.live.map fun e => .removeColumn e.1

def removedIndexes (table : String) (c : TableChange) : List String :=
  c.indexes.removed.map fun e => e.2.resolveName table e.1

def removedKeys (c : TableChange) : List String :=
  c.foreignKeys.removed.map fun e => e.2.resolveName e.1

def removedConstraints (c : TableChange) : List (ConstraintKind × String) :=
  c.checks.removed.map (fun e => (.check, e.2.options.resolveName e.1))
    ++ c.exclusions.removed.map (fun e => (.exclusion, e.2.options.resolveName e.1))
    ++ c.uniques.removed.map fun e => (.unique, e.2.options.resolveName e.1)

def addedIndexes (table : String) (c : TableChange) : List Index :=
  c.indexes.added (IndexEntry.resolve table)

def addedKeys (table : String) (c : TableChange) : List ForeignKey :=
  c.foreignKeys.added (ForeignKeyEntry.resolve table)

def addedConstraints (table : String) (c : TableChange) : List Constraint :=
  (c.checks.added (ConstraintEntry.resolveCheck table)).map .check
    ++ (c.exclusions.added (ConstraintEntry.resolveExclusion table)).map .exclusion
    ++ (c.uniques.added (UniqueEntry.resolve table)).map .unique

def steps (l : Limits) (table : String) (c : TableChange) : List Alteration :=
  (c.removedIndexes table).map .removeIndex
    ++ columnSteps l table c.columns ++ columnSteps l table c.primaryKeyColumns
    ++ c.indexes.rename.entries.map (fun e => .renameIndex e.2 e.1)
    ++ (c.addedIndexes table).map .addIndex

def constraintSteps (table : String) (c : TableChange) : List Alteration :=
  c.removedConstraints.map (fun r => .removeConstraint r.1 r.2)
    ++ (c.addedConstraints table).map .addConstraint

theorem columnAlterations_ok {l : Limits} {table : String} {s : ChangeSet ColumnEntry}
    {as : List Alteration} (ok : columnAlterations l table s = .ok as) :
    as = columnSteps l table s := by
  obtain ⟨added, first, ok⟩ := Rendered.bind_ok ok
  obtain ⟨changed, second, ok⟩ := Rendered.bind_ok ok
  rw [← Except.ok.inj ok, resolveLive_ok first, resolveLive_ok second]
  rfl

theorem tableAlterations_ok {l : Limits} {table : String} {c : TableChange}
    {as : List Alteration} (ok : tableAlterations l table c = .ok as) :
    as = c.steps l table := by
  obtain ⟨columns, r₁, ok⟩ := Rendered.bind_ok ok
  obtain ⟨primary, r₂, ok⟩ := Rendered.bind_ok ok
  obtain ⟨indexes, r₃, ok⟩ := Rendered.bind_ok ok
  rw [← Except.ok.inj ok, columnAlterations_ok r₁, columnAlterations_ok r₂,
    ChangeSet.resolveAdded_ok r₃]
  simp [steps, removedIndexes, addedIndexes, Function.comp_def]

theorem foreignKeyChanges_ok {table : String} {c : TableChange} {p : Phases}
    (ok : foreignKeyChanges table c.foreignKeys = .ok p) :
    p = ⟨c.removedKeys.map (.removeForeignKey table), [],
      (c.addedKeys table).map (.addForeignKey table)⟩ := by
  obtain ⟨_, _, ok⟩ := Rendered.bind_ok ok
  obtain ⟨added, r, ok⟩ := Rendered.bind_ok ok
  rw [← Except.ok.inj ok, ChangeSet.resolveAdded_ok r]
  simp [removedKeys, addedKeys, Function.comp_def]

theorem constraintAlterations_ok {table : String} {c : TableChange} {as : List Alteration}
    (ok : constraintAlterations table c = .ok as) : as = c.constraintSteps table := by
  obtain ⟨_, _, ok⟩ := Rendered.bind_ok ok
  obtain ⟨checks, r₁, ok⟩ := Rendered.bind_ok ok
  obtain ⟨_, _, ok⟩ := Rendered.bind_ok ok
  obtain ⟨exclusions, r₂, ok⟩ := Rendered.bind_ok ok
  obtain ⟨_, _, ok⟩ := Rendered.bind_ok ok
  obtain ⟨uniques, r₃, ok⟩ := Rendered.bind_ok ok
  rw [← Except.ok.inj ok, ChangeSet.resolveAdded_ok r₁, ChangeSet.resolveAdded_ok r₂,
    ChangeSet.resolveAdded_ok r₃]
  simp [constraintSteps, removedConstraints, addedConstraints, Function.comp_def]

def mainSteps (o : RenderOptions) (table : String) (c : TableChange) : List Operation :=
  block o.bulk table (c.steps o.limits table) ++ (c.constraintSteps table).map (.alter table)
    ++ optionChanges o.adapter table c

theorem render_ok {o : RenderOptions} {table : String} {c : TableChange} {p : Phases}
    (ok : c.render o table = .ok p) :
    p = ⟨c.removedKeys.map (.removeForeignKey table), c.mainSteps o table,
      (c.addedKeys table).map (.addForeignKey table)⟩ := by
  obtain ⟨alterations, r₁, ok⟩ := Rendered.bind_ok ok
  obtain ⟨keys, r₂, ok⟩ := Rendered.bind_ok ok
  obtain ⟨constraints, r₃, ok⟩ := Rendered.bind_ok ok
  rw [← Except.ok.inj ok, tableAlterations_ok r₁, foreignKeyChanges_ok r₂,
    constraintAlterations_ok r₃]
  ext1 <;> simp [mainSteps]

end TableChange

theorem block_eq_nil {bulk : Bool} {table : String} {as : List Alteration} :
    block bulk table as = [] ↔ as = [] := by
  cases as with
  | nil => exact iff_of_true rfl rfl
  | cons a as => cases bulk <;> exact iff_of_false nofun nofun

theorem CreateTable.operations_ne_nil (bulk inline : Bool) (t : CreateTable) :
    t.operations bulk inline ≠ [] := by
  cases inline <;> exact nofun

namespace Delta

def preSteps (d : Delta) : List Operation :=
  d.change.entries.flatMap fun e => e.2.removedKeys.map (.removeForeignKey e.1)

def mainSteps (o : RenderOptions) (d : Delta) : List Operation :=
  d.add.entries.flatMap (fun e =>
      (e.2.created o.adapter o.limits e.1).operations o.bulk o.inlineIndexes)
    ++ d.rename.entries.map (fun e => .renameTable e.2 e.1)
    ++ d.change.entries.flatMap (fun e => e.2.mainSteps o e.1)
    ++ d.delete.keys.map .dropTable

def postSteps (d : Delta) : List Operation :=
  d.add.entries.flatMap (fun e => (e.2.keys e.1).map (.addForeignKey e.1))
    ++ d.change.entries.flatMap fun e => (e.2.addedKeys e.1).map (.addForeignKey e.1)

theorem phases_ok {o : RenderOptions} {d : Delta} {p : Phases} (ok : d.phases o = .ok p) :
    p = ⟨d.preSteps, d.mainSteps o, d.postSteps⟩ := by
  obtain ⟨created, r₁, ok⟩ := Rendered.bind_ok ok
  obtain ⟨changed, r₂, ok⟩ := Rendered.bind_ok ok
  rw [← Except.ok.inj ok, Phases.join_eq, Phases.join_eq]
  have creation (h : Phases → List Operation) :=
    Rendered.mapM_ok (h := h) (fun _ _ first => congrArg h (TableSpec.render_ok first)) r₁
  have change (h : Phases → List Operation) :=
    Rendered.mapM_ok (h := h) (fun _ _ first => congrArg h (TableChange.render_ok first)) r₂
  rw [creation, creation, creation, change, change, change]
  ext1 <;> simp [preSteps, mainSteps, postSteps]

theorem render_ok {o : RenderOptions} {d : Delta} {script : Script} (ok : d.render o = .ok script) :
    script.operations = d.preSteps ++ d.mainSteps o ++ d.postSteps := by
  obtain ⟨p, r, ok⟩ := Rendered.bind_ok ok
  rw [← Except.ok.inj ok, phases_ok r]
  exact Script.assemble_operations ..

/-- Neither bulk blocks nor separate indexes make a difference, so it is enough to replay
    the steps without them. -/
theorem replay_rendered {o : RenderOptions} {d : Delta} {script : Script}
    (rendered : d.render o = .ok script) (s : Schema) :
    s.replay script.operations =
      s.replay (d.preSteps ++ d.mainSteps ⟨false, true, o.adapter, o.limits⟩ ++ d.postSteps) := by
  have modes := d.render_modes o.bulk false o.inlineIndexes true o.adapter o.limits
  rw [rendered] at modes
  cases plain : d.render ⟨false, true, o.adapter, o.limits⟩ with
  | error f =>
    rw [plain] at modes
    contradiction
  | ok p =>
    rw [plain] at modes
    obtain ⟨same⟩ := modes
    rw [same s, render_ok plain]

theorem exists_replay {o : RenderOptions} {d : Delta} {s : Schema}
    (through : (d.render o).map (fun script => (s.replay script.operations).conflict) = .ok none) :
    ∃ script after, d.render o = .ok script ∧ s.replay script.operations = ⟨after, none⟩ := by
  cases rendered : d.render o with
  | error f =>
    rw [rendered] at through
    contradiction
  | ok script =>
    rw [rendered] at through
    have free : (s.replay script.operations).conflict = none := Except.ok.inj through
    exact ⟨script, _, rfl, congrArg (Replayed.mk _) free⟩

/- Whether there is anything to do does not depend on the modes either. -/

theorem mainSteps_eq_nil (bulk bulk' inline inline' : Bool) (a : Adapter) (l : Limits) (d : Delta) :
    d.mainSteps ⟨bulk, inline, a, l⟩ = [] ↔ d.mainSteps ⟨bulk', inline', a, l⟩ = [] := by
  simp only [mainSteps, TableChange.mainSteps, List.append_eq_nil_iff, List.flatMap_eq_nil_iff,
    block_eq_nil, CreateTable.operations_ne_nil]

theorem isEmpty_of_render {o : RenderOptions} {d : Delta} {script : Script}
    (ok : d.render o = .ok script) :
    script.isEmpty ↔ d.preSteps = [] ∧ d.mainSteps o = [] ∧ d.postSteps = [] := by
  have steps : script.isEmpty ↔ script.operations = [] := by
    rw [Script.isEmpty, Script.operations, List.isEmpty_iff, List.map_eq_nil_iff]
  rw [steps, render_ok ok, List.append_eq_nil_iff, List.append_eq_nil_iff, and_assoc]

theorem isEmpty_modes (bulk bulk' inline inline' : Bool) (a : Adapter) (l : Limits) (d : Delta) :
    (d.render ⟨bulk, inline, a, l⟩).map Script.isEmpty =
      (d.render ⟨bulk', inline', a, l⟩).map Script.isEmpty := by
  refine (d.render_modes bulk bulk' inline inline' a l).map_eq_of_ok
    fun script script' one other => ?_
  rw [Bool.eq_iff_iff, isEmpty_of_render one, isEmpty_of_render other,
    mainSteps_eq_nil bulk bulk' inline inline']

end Delta

end SchemaEvolution
