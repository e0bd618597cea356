import SchemaEvolution.Proofs.Rendering.Settling

/-! A delta that fits a schema replays over it without conflict, and leaves its outcome.
   The stages are followed one by one: foreign keys go, tables come and move, tables are
   changed in their places, tables go, foreign keys come. -/
namespace SchemaEvolution

open Schema (changeAt changeEach)

theorem TableChange.named_of_render {o : RenderOptions} {table : String} {c : TableChange}
    {p : Phases} (ok : c.render o table = .ok p) :
    (c.columns.add.resolved (ColumnEntry.resolve o.limits table)).map Column.name =
      c.columns.add.liveKeys := by
  obtain ⟨_, alterations, _⟩ := Rendered.bind_ok ok
  obtain ⟨_, columns, _⟩ := Rendered.bind_ok alterations
  obtain ⟨_, added, _⟩ := Rendered.bind_ok columns
  exact ColumnEntry.names_of_resolveLive added

namespace Delta

variable {a : Adapter} {l : Limits} {d : Delta} {s : Schema}

/-- Columns added to changed tables have the names that they are listed under. -/
def NamesColumns (l : Limits) (d : Delta) : Prop :=
  ∀ e ∈ d.change.entries,
    (e.2.columns.add.resolved (ColumnEntry.resolve l e.1)).map Column.name =
      e.2.columns.add.liveKeys

theorem named_of_render {o : RenderOptions} {script : Script} (ok : d.render o = .ok script) :
    d.NamesColumns o.limits := by
  obtain ⟨_, phases, _⟩ := Rendered.bind_ok ok
  obtain ⟨_, _, phases⟩ := Rendered.bind_ok phases
  obtain ⟨_, changes, _⟩ := Rendered.bind_ok phases
  intro e member
  obtain ⟨_, change⟩ := Rendered.mapM_each changes e member
  exact TableChange.named_of_render change

namespace Fits

theorem mem_keys_source (fits : d.Fits s) {r : String × String} (renamed : r ∈ d.rename.entries) :
    r.2 ∈ s.tables.keys :=
  fits.renamed r.2 (List.mem_map_of_mem renamed)

/- What is not a table yet is not changed, moved or dropped. -/

theorem unchanged (fits : d.Fits s) {n : String} (new : n ∉ s.tables.keys) : n ∉ d.change.keys :=
  fun member => new (fits.changed n member).1

theorem unmoved (fits : d.Fits s) {n : String} (new : n ∉ s.tables.keys) :
    n ∉ d.rename.values :=
  fun member => new (fits.renamed n member)

theorem undropped (fits : d.Fits s) {n : String} (new : n ∉ s.tables.keys) :
    n ∉ d.delete.keys :=
  fun member => new (fits.deleted n member).1

end Fits

def newTables (a : Adapter) (l : Limits) (d : Delta) : List (String × TableState) :=
  d.add.entries.map fun e => (e.1, .ofCreateTable (e.2.created a l e.1))

theorem keys_newTables (a : Adapter) (l : Limits) (d : Delta) :
    (d.newTables a l).map Prod.fst = d.add.keys := by
  simp [newTables, Keyed.keys, Function.comp_def]

/-- The schema once its foreign keys are dropped and tables are created. -/
def grown (a : Adapter) (l : Limits) (d : Delta) (s : Schema) : Schema :=
  ⟨(s.changeEach (fun _ c => c.dropKeys) d.change.entries).tables.insertAll (d.newTables a l)⟩

def moved (a : Adapter) (l : Limits) (d : Delta) (s : Schema) : Schema :=
  ⟨(d.grown a l s).tables.renameAll (fun _ t => t) d.rename.entries⟩

def settled (a : Adapter) (l : Limits) (d : Delta) (s : Schema) : Schema :=
  ⟨((d.moved a l s).changeEach (fun name c => c.alterElements a l name)
    d.change.entries).tables.without d.delete.keys⟩

theorem mem_keys_grown {n : String} :
    n ∈ (d.grown a l s).tables.keys ↔ n ∈ d.add.keys ∨ n ∈ s.tables.keys := by
  rw [grown, Keyed.mem_keys_insertAll, keys_newTables, Schema.keys_changeEach]

namespace Fits

theorem mem_keys_moved (fits : d.Fits s) {n : String} :
    n ∈ (d.moved a l s).tables.keys ↔
      n ∈ d.rename.keys ∨ (n ∈ (d.grown a l s).tables.keys ∧ n ∉ d.rename.values) := by
  refine Keyed.mem_keys_renameAll fun r member => mem_keys_grown.mpr (.inr ?_)
  exact fits.mem_keys_source member

theorem table?_moved (fits : d.Fits s) {e : String × TableChange} (member : e ∈ d.change.entries) :
    (d.moved a l s).table? e.1 = (s.table? e.1).map e.2.dropKeys := by
  have present := (fits.changed e.1 (List.mem_map_of_mem member)).1
  have stays : e.1 ∉ d.rename.entries.map Prod.snd :=
    (fits.changed e.1 (List.mem_map_of_mem member)).2
  have target : e.1 ∉ d.rename.keys := fun target => (fits.targets e.1 target).1 present
  have old : e.1 ∉ d.add.keys := fun new => fits.added e.1 new present
  have sources : ∀ r ∈ d.rename.entries, r.2 ∈ (d.grown a l s).tables.keys := fun r renamed =>
    mem_keys_grown.mpr (.inr (fits.mem_keys_source renamed))
  have unwritten : e.1 ∉ ((d.grown a l s).tables.renamedEntries (fun _ t => t)
      d.rename.entries).map Prod.fst := by
    rw [Keyed.keys_renamedEntries sources]
    exact target
  have dropped : changeAt (fun _ c => c.dropKeys) d.change.entries e.1 = e.2.dropKeys :=
    funext (Schema.changeAt_of_mem d.change.distinct member)
  rw [Schema.table?, moved, Keyed.renameAll, Keyed.get?_insertAll_of_not_mem unwritten,
    Keyed.get?_without, if_neg stays, grown,
    Keyed.get?_insertAll_of_not_mem (by rwa [keys_newTables]), changeEach, Keyed.get?_mapWithKey,
    dropped]
  rfl

theorem mem_keys_settled (fits : d.Fits s) {n : String} (left : d.Leaves s n) :
    n ∈ (d.settled a l s).tables.keys := by
  rw [settled, Keyed.mem_keys_without, Schema.keys_changeEach, fits.mem_keys_moved, mem_keys_grown]
  rcases left with new | target | ⟨old, stays, kept⟩
  · have free := fits.added n new
    exact ⟨.inr ⟨.inl new, fits.unmoved free⟩, fits.undropped free⟩
  · exact ⟨.inl target, fits.undropped (fits.targets n target).1⟩
  · exact ⟨.inr ⟨.inr old, stays⟩, kept⟩

theorem replay_preSteps (fits : d.Fits s) :
    s.replay d.preSteps = ⟨s.changeEach (fun _ c => c.dropKeys) d.change.entries, none⟩ :=
  Schema.replay_changeEach d.change.distinct
    (fun e member => (fits.changed e.1 (List.mem_map_of_mem member)).1)
    fun e member t found => (fits.changes e member t found).settles_removedKeys

theorem replay_creations (fits : d.Fits s) :
    (s.changeEach (fun _ c => c.dropKeys) d.change.entries).replay
      (d.add.entries.map fun e => .createTable (e.2.created a l e.1)) = ⟨d.grown a l s, none⟩ := by
  refine Schema.replay_creations d.add.distinct fun e member present => ?_
  rw [Schema.keys_changeEach] at present
  exact fits.added e.1 (List.mem_map_of_mem member) present

theorem replay_renames (fits : d.Fits s) :
    (d.grown a l s).replay (d.rename.entries.map fun e => .renameTable e.2 e.1) =
      ⟨d.moved a l s, none⟩ := by
  refine Schema.replay_renames d.rename.distinct fits.sources ?_ ?_
  · intro n source
    exact mem_keys_grown.mpr (.inr (fits.renamed n source))
  · intro n target present
    have free := fits.targets n target
    exact (mem_keys_grown.mp present).elim free.2 free.1

theorem replay_changes (fits : d.Fits s) {inline : Bool}
    (named : d.NamesColumns l) :
    (d.moved a l s).replay (d.change.entries.flatMap fun e => e.2.mainSteps ⟨false, inline, a, l⟩ e.1) =
      ⟨(d.moved a l s).changeEach (fun name c => c.alterElements a l name) d.change.entries,
        none⟩ := by
  refine Schema.replay_changeEach d.change.distinct ?_ ?_
  · intro e member
    have stands := fits.changed e.1 (List.mem_map_of_mem member)
    exact fits.mem_keys_moved.mpr (.inr ⟨mem_keys_grown.mpr (.inr stands.1), stands.2⟩)
  · intro e member t found
    rw [fits.table?_moved member] at found
    obtain ⟨before, held, rfl⟩ := Option.map_eq_some_iff.mp found
    have elements := (fits.changes e member before held).toFitsElements.dropKeys
    exact elements.settles_mainSteps (named e member) inline

theorem replay_drops (fits : d.Fits s) :
    ((d.moved a l s).changeEach (fun name c => c.alterElements a l name) d.change.entries).replay
      (d.delete.keys.map .dropTable) = ⟨d.settled a l s, none⟩ := by
  rw [Keyed.keys, List.map_map]
  refine Schema.replay_drops d.delete.distinct fun n member => ?_
  have stands := fits.deleted n member
  rw [Schema.keys_changeEach]
  exact fits.mem_keys_moved.mpr (.inr ⟨mem_keys_grown.mpr (.inr stands.1), stands.2.1⟩)

theorem replay_mainSteps (fits : d.Fits s)
    (named : d.NamesColumns l) :
    (s.changeEach (fun _ c => c.dropKeys) d.change.entries).replay
      (d.mainSteps ⟨false, true, a, l⟩) = ⟨d.settled a l s, none⟩ := by
  have creations : d.add.entries.flatMap (fun e => (e.2.created a l e.1).operations false true) =
      d.add.entries.map fun e => .createTable (e.2.created a l e.1) := List.map_eq_flatMap.symm
  rw [mainSteps, creations, Schema.replay_append, Schema.replay_append, Schema.replay_append,
    fits.replay_creations, Replayed.andThen_done, fits.replay_renames, Replayed.andThen_done,
    fits.replay_changes named, Replayed.andThen_done, fits.replay_drops]

theorem replay_postSteps (fits : d.Fits s) :
    (d.settled a l s).replay d.postSteps =
      ⟨((d.settled a l s).changeEach (fun name spec => .withKeys (spec.keys name))
          d.add.entries).changeEach (fun name c => .withKeys (c.addedKeys name)) d.change.entries,
        none⟩ := by
  have left {n : String} (stays : d.Leaves s n) := fits.mem_keys_settled (a := a) (l := l) stays
  have new : (d.settled a l s).replay
      (d.add.entries.flatMap fun e => (e.2.keys e.1).map (.addForeignKey e.1)) =
      ⟨(d.settled a l s).changeEach (fun name spec => .withKeys (spec.keys name)) d.add.entries,
        none⟩ :=
    Schema.replay_changeEach d.add.distinct
      (fun e member => left (.inl (List.mem_map_of_mem member)))
      fun e member t _ => settles_addedKeys (fun k key => left (fits.addedTargets e member k key)) t
  rw [postSteps, Schema.replay_append, new, Replayed.andThen_done]
  refine Schema.replay_changeEach d.change.distinct ?_ ?_
  · intro e member
    have stands := fits.changed e.1 (List.mem_map_of_mem member)
    have kept : e.1 ∉ d.delete.keys := fun gone =>
      (fits.deleted e.1 gone).2.2 (List.mem_map_of_mem member)
    rw [Schema.keys_changeEach]
    exact left (.inr (.inr ⟨stands.1, stands.2, kept⟩))
  · intro e member t _
    rw [Schema.keys_changeEach]
    exact settles_addedKeys (fun k key => left (fits.changedTargets e member k key)) t

theorem mem_keys_renamed (fits : d.Fits s) {e : String × TableState}
    (member : e ∈ s.tables.renamedEntries (fun _ t => t) d.rename.entries) :
    e.1 ∈ d.rename.keys := by
  have sources : ∀ r ∈ d.rename.entries, r.2 ∈ s.tables.keys := fun _ => fits.mem_keys_source
  rw [Keyed.keys, ← Keyed.keys_renamedEntries sources]
  exact List.mem_map_of_mem member

/-- Tables that were there before are not touched by creations, so a renamed table
    is found as it was. -/
theorem renamedEntries_grown (fits : d.Fits s) :
    (d.grown a l s).tables.renamedEntries (fun _ t => t) d.rename.entries =
      s.tables.renamedEntries (fun _ t => t) d.rename.entries := by
  refine Keyed.renamedEntries_congr fun r member => ?_
  have source : r.2 ∈ d.rename.values := List.mem_map_of_mem member
  have old : r.2 ∉ (d.newTables a l).map Prod.fst := by
    rw [keys_newTables]
    exact fun new => fits.added r.2 new (fits.renamed r.2 source)
  have unchanged : r.2 ∉ d.change.keys := fun changed => (fits.changed r.2 changed).2 source
  rw [grown, Keyed.get?_insertAll_of_not_mem old, changeEach, Keyed.get?_mapWithKey]
  cases s.tables.get? r.2 with
  | none => rfl
  | some t => exact congrArg some (Schema.changeAt_of_not_mem unchanged t)

end Fits

def later (a : Adapter) (l : Limits) (d : Delta) (name : String) (t : TableState) : TableState :=
  changeAt (fun name c => .withKeys (c.addedKeys name)) d.change.entries name
    (changeAt (fun name spec => .withKeys (spec.keys name)) d.add.entries name
      (changeAt (fun name c => c.alterElements a l name) d.change.entries name t))

namespace Fits

theorem later_new (fits : d.Fits s) {e : String × TableSpec} (member : e ∈ d.add.entries) :
    d.later a l e.1 (.ofCreateTable (e.2.created a l e.1)) = e.2.outcome a l e.1 := by
  have unchanged := fits.unchanged (fits.added e.1 (List.mem_map_of_mem member))
  rw [later, Schema.changeAt_of_not_mem unchanged, Schema.changeAt_of_mem d.add.distinct member,
    Schema.changeAt_of_not_mem unchanged, TableState.ofCreateTable, TableState.foldl_addConstraint,
    TableSpec.outcome, TableState.ofCreateTable, TableState.foldl_addConstraint]
  rfl

theorem later_renamed (fits : d.Fits s) {n : String} (target : n ∈ d.rename.keys)
    (t : TableState) : d.later a l n t = t := by
  have free := fits.targets n target
  have unchanged := fits.unchanged free.1
  rw [later, Schema.changeAt_of_not_mem unchanged, Schema.changeAt_of_not_mem free.2,
    Schema.changeAt_of_not_mem unchanged]

theorem later_kept (fits : d.Fits s) {n : String} (old : n ∈ s.tables.keys) (t : TableState) :
    d.later a l n (changeAt (fun _ c => c.dropKeys) d.change.entries n t) =
      changeAt (fun name c => c.outcome a l name) d.change.entries n t := by
  have unadded : n ∉ d.add.keys := fun new => fits.added n new old
  rw [later, Schema.changeAt_of_not_mem unadded]
  by_cases changed : n ∈ d.change.keys
  · obtain ⟨e, member, rfl⟩ := List.mem_map.mp changed
    simp only [Schema.changeAt_of_mem d.change.distinct member]
    exact TableChange.stages_eq_outcome a l e.1 e.2 t
  · simp only [Schema.changeAt_of_not_mem changed]

theorem without_grown {names : List String} (kept : ∀ n ∈ d.add.keys, n ∉ names) :
    (d.grown a l s).tables.without names =
      ((s.tables.without names).mapWithKey
        (changeAt (fun _ c => c.dropKeys) d.change.entries)).insertAll (d.newTables a l) := by
  have unnamed : ∀ e ∈ d.newTables a l, e.1 ∉ names := by
    intro e member
    exact kept e.1 (keys_newTables a l d ▸ List.mem_map_of_mem member)
  rw [grown, Keyed.without_insertAll unnamed, changeEach, Keyed.without_mapWithKey]

theorem without_moved (fits : d.Fits s) :
    (d.moved a l s).tables.without d.delete.keys =
      (((s.tables.without (d.rename.values ++ d.delete.keys)).mapWithKey
        (changeAt (fun _ c => c.dropKeys) d.change.entries)).insertAll (d.newTables a l)).insertAll
        (s.tables.renamedEntries (fun _ t => t) d.rename.entries) := by
  have stays : ∀ n ∈ d.add.keys, n ∉ d.rename.values ++ d.delete.keys := by
    intro n new
    have free := fits.added n new
    rw [List.mem_append]
    exact fun gone => gone.elim (fits.unmoved free) (fits.undropped free)
  have targets : ∀ e ∈ s.tables.renamedEntries (fun _ t => t) d.rename.entries,
      e.1 ∉ d.delete.keys := by
    intro e member
    exact fits.undropped (fits.targets e.1 (fits.mem_keys_renamed member)).1
  change Keyed.without (((d.grown a l s).tables.without d.rename.values).insertAll
    ((d.grown a l s).tables.renamedEntries (fun _ t => t) d.rename.entries)) _ = _
  rw [fits.renamedEntries_grown, Keyed.without_insertAll targets, ← Keyed.without_append,
    without_grown stays]

theorem later_settled (fits : d.Fits s) :
    Schema.mk (((d.moved a l s).tables.without d.delete.keys).mapWithKey (d.later a l)) =
      d.outcome a l s := by
  have news : (d.newTables a l).map (fun e => (e.1, d.later a l e.1 e.2)) =
      d.add.entries.map fun e => (e.1, e.2.outcome a l e.1) := by
    rw [newTables, List.map_map]
    exact List.map_congr_left fun e member => congrArg (Prod.mk e.1) (fits.later_new member)
  have renamed : (s.tables.renamedEntries (fun _ t => t) d.rename.entries).map
      (fun e => (e.1, d.later a l e.1 e.2)) =
      s.tables.renamedEntries (fun _ t => t) d.rename.entries := by
    refine (List.map_congr_left fun e member => ?_).trans (List.map_id _)
    exact congrArg (Prod.mk e.1) (fits.later_renamed (fits.mem_keys_renamed member) e.2)
  rw [fits.without_moved, Keyed.mapWithKey_insertAll, Keyed.mapWithKey_insertAll, news, renamed,
    Keyed.mapWithKey_mapWithKey]
  have kept := Keyed.mapWithKey_congr (m := s.tables.without (d.rename.values ++ d.delete.keys))
    fun n t held => fits.later_kept (a := a) (l := l)
      (Keyed.mem_keys_without.mp (Keyed.mem_keys_of_get? held)).1 t
  rw [kept]
  rfl

theorem replay_plain (fits : d.Fits s)
    (named : d.NamesColumns l) :
    s.replay (d.preSteps ++ d.mainSteps ⟨false, true, a, l⟩ ++ d.postSteps) =
      ⟨d.outcome a l s, none⟩ := by
  rw [Schema.replay_append, Schema.replay_append, fits.replay_preSteps, Replayed.andThen_done,
    fits.replay_mainSteps named, Replayed.andThen_done, fits.replay_postSteps]
  rw [← fits.later_settled, settled, changeEach, changeEach, changeEach, Keyed.without_mapWithKey,
    Keyed.mapWithKey_mapWithKey, Keyed.mapWithKey_mapWithKey]
  rfl

end Fits

/-- In every mode, a delta that fits a schema does what it says, and nothing else. -/
theorem replay_of_fits {o : RenderOptions} {script : Script} (rendered : d.render o = .ok script)
    (fits : d.Fits s) :
    s.replay script.operations = ⟨d.outcome o.adapter o.limits s, none⟩ := by
  rw [replay_rendered rendered]
  exact fits.replay_plain (named_of_render rendered)

end Delta

/-- A schema with one table for each kind of change. -/
def roster : Schema where
  tables := .ofList [
    ("users", { TableState.ofColumns [("id", .bigint), ("name", .string)] with
      foreignKeys := .ofList [("team", ⟨"team", "team_id", "teams", "id", none, none⟩)] }),
    ("teams", .ofColumns [("id", .bigint)]),
    ("drafts", .ofColumns [("body", .text)])]

def rosterUpdate : Delta :=
  ({} : Delta).addTable "tags" (TableSpec.addForeignKey {} "note" { toTable := some "notes" })
    |>.renameTable "notes" "drafts"
    |>.changeTable "users" {
      columns := {
        add := .ofList [("email", .ofType .string)]
        rename := .ofList [("title", "name")]
        change := .ofList [("title", (ColumnEntry.ofType .text).notNull)]
        delete := .ofList [("id", {})] }
      foreignKeys := { delete := .ofList [("team", {})] } }
    |>.deleteTable "teams" {}

theorem replay_rosterUpdate :
    rosterUpdate.Fits roster ∧ ∃ script after, rosterUpdate.render (.ofAdapter .mysql) = .ok script ∧
      roster.replay script.operations = ⟨after, none⟩ ∧
      after.tables.keys = ["users", "tags", "notes"] ∧
      (after.table? "users").map (·.columns.entries) =
        some [("email", ⟨"email", .string, { limit := some 255 }⟩),
          ("title", ⟨"title", .text, { limit := some 65535, nullable := some false }⟩)] := by
  have fits : rosterUpdate.Fits roster := by decide
  have ok : (rosterUpdate.render (.ofAdapter .mysql)).isOk = true := by decide
  obtain ⟨script, rendered⟩ := Rendered.exists_of_isOk ok
  have done := Delta.replay_of_fits rendered fits
  exact ⟨fits, script, _, rendered, done, by decide, by decide⟩

end SchemaEvolution
