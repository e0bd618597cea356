import SchemaEvolution.Proofs.Keyed
import SchemaEvolution.Rendering

/-! What a rendering sees of a delta. Ignored entries and the former names of columns make no
   difference to it, neither to the script nor to the failure. -/
namespace SchemaEvolution

def ColumnEntry.unmarked (e : ColumnEntry) : ColumnEntry := { e with renamedFrom := none }

/-- The map without its ignored entries. -/
def Keyed.visible [Entry α] (m : Keyed α) : Keyed α := m.filter fun _ e => !Entry.ignored e

def ChangeSet.visible [Entry α] (s : ChangeSet α) : ChangeSet α :=
  { s with add := s.add.visible, change := s.change.visible, delete := s.delete.visible }

def ChangeSet.unmarked (s : ChangeSet ColumnEntry) : ChangeSet ColumnEntry :=
  { s with
    add := s.add.map .unmarked
    change := s.change.map .unmarked
    delete := s.delete.map .unmarked }

def TableSpec.visible (s : TableSpec) : TableSpec :=
  { s with
    columns := s.columns.visible.map .unmarked
    indexes := s.indexes.visible
    foreignKeys := s.foreignKeys.visible
    checks := s.checks.visible
    exclusions := s.exclusions.visible
    uniques := s.uniques.visible }

def TableChange.visible (c : TableChange) : TableChange :=
  { c with
    columns := c.columns.visible.unmarked
    primaryKeyColumns := c.primaryKeyColumns.visible.unmarked
    indexes := c.indexes.visible
    foreignKeys := c.foreignKeys.visible
    checks := c.checks.visible
    exclusions := c.exclusions.visible
    uniques := c.uniques.visible }

def Delta.visible (d : Delta) : Delta :=
  { d with
    add := d.add.map .visible
    change := d.change.map .visible
    delete := d.delete.map .visible }

section Entries

variable [Entry α] (resolve : String → α → Rendered β)

@[simp] theorem Keyed.live_visible (m : Keyed α) : m.visible.live = m.live := by
  unfold live visible filter
  rw [List.filter_filter]
  simp only [Bool.and_self]

@[simp] theorem resolveLive_visible (m : Keyed α) :
    resolveLive resolve m.visible = resolveLive resolve m := by
  unfold resolveLive
  rw [Keyed.live_visible]

@[simp] theorem ChangeSet.removed_visible (s : ChangeSet α) : s.visible.removed = s.removed := by
  unfold removed visible
  rw [Keyed.live_visible, Keyed.live_visible]

@[simp] theorem ChangeSet.resolveAdded_visible (s : ChangeSet α) :
    s.visible.resolveAdded resolve = s.resolveAdded resolve := by
  unfold resolveAdded visible
  rw [resolveLive_visible, resolveLive_visible]

theorem Keyed.live_map {f : α → α} (m : Keyed α)
    (kept : ∀ e, Entry.ignored (f e) = Entry.ignored e) :
    (m.map f).live = m.live.map fun e => (e.1, f e.2) := by
  unfold live map mapWithKey
  rw [List.filter_map]
  simp only [Function.comp_def, kept]

variable {resolve}

theorem resolveLive_map {f : α → α} {resolve' : String → α → Rendered β}
    (kept : ∀ e, Entry.ignored (f e) = Entry.ignored e)
    (alike : ∀ key e, resolve' key (f e) = resolve key e) (m : Keyed α) :
    resolveLive resolve' (m.map f) = resolveLive resolve m := by
  unfold resolveLive
  rw [m.live_map kept, List.mapM_map]
  simp only [Function.comp_def, alike]

end Entries

theorem Keyed.live_unmarked (m : Keyed ColumnEntry) :
    (m.map ColumnEntry.unmarked).live = m.live.map fun e => (e.1, e.2.unmarked) :=
  m.live_map fun _ => rfl

@[simp] theorem resolveLive_unmarked (l : Limits) (table : String) (m : Keyed ColumnEntry) :
    resolveLive (ColumnEntry.resolve l table) (m.map .unmarked) =
      resolveLive (ColumnEntry.resolve l table) m :=
  resolveLive_map (f := .unmarked) (fun _ => rfl) (fun _ _ => rfl) m

theorem columnAlterations_visible (l : Limits) (table : String) (s : ChangeSet ColumnEntry) :
    columnAlterations l table s.visible.unmarked = columnAlterations l table s := by
  have names (m : Keyed ColumnEntry) :
      ((m.map ColumnEntry.unmarked).live.map fun e => Alteration.removeColumn e.1) =
        m.live.map fun e => .removeColumn e.1 := by
    rw [Keyed.live_unmarked, List.map_map]
    rfl
  unfold columnAlterations ChangeSet.unmarked ChangeSet.visible
  simp only [resolveLive_unmarked, resolveLive_visible, names, Keyed.live_visible]

theorem tableAlterations_visible (l : Limits) (table : String) (c : TableChange) :
    tableAlterations l table c.visible = tableAlterations l table c := by
  unfold tableAlterations TableChange.visible
  simp only [columnAlterations_visible, ChangeSet.resolveAdded_visible, ChangeSet.removed_visible]
  rfl

theorem foreignKeyChanges_visible (table : String) (s : ChangeSet ForeignKeyEntry) :
    foreignKeyChanges table s.visible = foreignKeyChanges table s := by
  unfold foreignKeyChanges
  rw [ChangeSet.resolveAdded_visible, ChangeSet.removed_visible]
  rfl

theorem constraintAlterations_visible (table : String) (c : TableChange) :
    constraintAlterations table c.visible = constraintAlterations table c := by
  unfold constraintAlterations TableChange.visible
  simp only [ChangeSet.resolveAdded_visible, ChangeSet.removed_visible]
  rfl

theorem TableSpec.render_visible (o : RenderOptions) (table : String) (s : TableSpec) :
    s.visible.render o table = s.render o table := by
  unfold render visible
  simp only [resolveLive_unmarked, resolveLive_visible]

theorem TableChange.render_visible (o : RenderOptions) (table : String) (c : TableChange) :
    c.visible.render o table = c.render o table := by
  have keys : foreignKeyChanges table c.visible.foreignKeys =
      foreignKeyChanges table c.foreignKeys := foreignKeyChanges_visible table c.foreignKeys
  have options : optionChanges o.adapter table c.visible = optionChanges o.adapter table c := rfl
  unfold render
  rw [tableAlterations_visible, constraintAlterations_visible, keys, options]

namespace Delta

theorem phases_visible (o : RenderOptions) (d : Delta) : d.visible.phases o = d.phases o := by
  have created : (d.visible.add.entries.mapM fun e => e.2.render o e.1) =
      d.add.entries.mapM fun e => e.2.render o e.1 := by
    change (d.add.entries.map fun e => (e.1, e.2.visible)).mapM _ = _
    rw [List.mapM_map]
    exact congrArg (d.add.entries.mapM ·) (funext fun e => e.2.render_visible o e.1)
  have changed : (d.visible.change.entries.mapM fun e => e.2.render o e.1) =
      d.change.entries.mapM fun e => e.2.render o e.1 := by
    change (d.change.entries.map fun e => (e.1, e.2.visible)).mapM _ = _
    rw [List.mapM_map]
    exact congrArg (d.change.entries.mapM ·) (funext fun e => e.2.render_visible o e.1)
  have dropped : d.visible.delete.keys = d.delete.keys := Keyed.keys_mapWithKey ..
  unfold phases
  rw [created, changed, dropped]
  rfl

/-- Only what is visible of a delta decides what comes of its rendering: the same script, or
    the same failure. -/
theorem renders_as_visible (d : Delta) (o : RenderOptions) : d.render o = d.visible.render o := by
  unfold render
  rw [phases_visible]

example :
    let users : TableSpec :=
      { columns := .ofList
          [("id", { type := some .bigint, renamedFrom := some "key" }), ("age", { ignored := true })] }
    (({} : Delta).addTable "users" users |>.render (.ofAdapter .sqlite)).map Script.operations =
      .ok [.createTable { name := "users", columns := [{ name := "id", type := .bigint }] }] := by
  decide +kernel

end Delta

end SchemaEvolution
