import Mathlib.Data.List.Forall2
import SchemaEvolution.Proofs.Rendering.Columns
import SchemaEvolution.Proofs.Rendering.Visible

/-! Default limits. Rendering with a table of limits is rendering without one, after each column
   of the delta that has a type but no limit was given the limit of its type. -/
namespace SchemaEvolution

/-- The entry with the default limit of its type written out, if a limit is missing. Of several
    defaults for a type the one that is listed first counts. -/
def ColumnEntry.filled (l : Limits) (e : ColumnEntry) : ColumnEntry :=
  match e.type, e.traits.limit with
  | some type, none => e.mapTraits ({ · with limit := l.entries.lookup type })
  | _, _ => e

def ChangeSet.filled (l : Limits) (s : ChangeSet ColumnEntry) : ChangeSet ColumnEntry :=
  { s with
    add := s.add.map (.filled l)
    change := s.change.map (.filled l)
    delete := s.delete.map (.filled l) }

def TableSpec.filled (l : Limits) (s : TableSpec) : TableSpec :=
  { s with columns := s.columns.map (.filled l) }

def TableChange.filled (l : Limits) (c : TableChange) : TableChange :=
  { c with
    columns := c.columns.filled l
    primaryKeyColumns := c.primaryKeyColumns.filled l }

/-- Deleted tables keep their entries: nothing is rendered of them. -/
def Delta.filled (l : Limits) (d : Delta) : Delta :=
  { d with
    add := d.add.map (.filled l)
    change := d.change.map (.filled l) }

/-- What filling makes of an entry: only an open limit of a typed column is written. -/
inductive Fills (l : Limits) (e : ColumnEntry) : ColumnEntry → Prop
  | untyped (missing : e.type = none) : Fills l e e
  | explicit (n : UInt32) (given : e.traits.limit = some n) : Fills l e e
  | default (type : ColumnType) (typed : e.type = some type) (unlimited : e.traits.limit = none) :
      Fills l e (e.mapTraits ({ · with limit := l.entries.lookup type }))

def ChangeSet.named (s : ChangeSet α) : List (String × α) :=
  s.add.entries ++ s.change.entries ++ s.delete.entries

def Delta.namedColumns (d : Delta) : List (String × ColumnEntry) :=
  d.add.values.flatMap (fun s => s.columns.entries) ++
    d.change.values.flatMap fun c => c.columns.named ++ c.primaryKeyColumns.named

section Entries

variable (l : Limits)

theorem Limits.get?_eq_lookup (type : ColumnType) : l.get? type = l.entries.lookup type := by
  obtain ⟨entries⟩ := l
  induction entries with
  | nil => rfl
  | cons e entries ih =>
    obtain ⟨t, n⟩ := e
    have first : (⟨(t, n) :: entries⟩ : Limits) = (⟨entries⟩ : Limits).override t n := rfl
    rw [first, get?_override, ih, override, List.lookup_cons]
    by_cases same : t = type
    · rw [if_pos same, beq_iff_eq.mpr same.symm]
    · rw [if_neg same, beq_eq_false_iff_ne.mpr (Ne.symm same)]

theorem ColumnEntry.fills (e : ColumnEntry) : Fills l e (e.filled l) := by
  unfold filled
  split
  next type typed unlimited => exact .default type typed unlimited
  next settled =>
    cases typed : e.type with
    | none => exact .untyped typed
    | some type =>
      cases limit : e.traits.limit with
      | none => exact (settled type typed limit).elim
      | some n => exact .explicit n limit

theorem ColumnEntry.filled_filled (e : ColumnEntry) : (e.filled l).filled l = e.filled l := by
  cases typed : e.type with
  | none => simp only [filled, typed]
  | some type =>
    cases limit : e.traits.limit with
    | none =>
      cases found : l.entries.lookup type <;> simp only [filled, typed, limit, mapTraits, found]
    | some n => simp only [filled, typed, limit]

theorem ColumnEntry.ignored_filled (e : ColumnEntry) :
    Entry.ignored (e.filled l) = Entry.ignored e := by
  unfold filled
  split <;> rfl

theorem ColumnEntry.resolve_filled (table key : String) (e : ColumnEntry) :
    (e.filled l).resolve .none table key = e.resolve l table key := by
  cases typed : e.type with
  | none => simp only [resolve, filled, typed]
  | some type =>
    cases limit : e.traits.limit with
    | none =>
      have written : l.fill type none = l.entries.lookup type := l.get?_eq_lookup type
      simp only [resolve, filled, typed, limit, mapTraits, Limits.none_fill, written]
    | some n => simp only [resolve, filled, typed, limit, Limits.fill]

theorem resolveLive_filled (table : String) (m : Keyed ColumnEntry) :
    resolveLive (ColumnEntry.resolve .none table) (m.map (.filled l)) =
      resolveLive (ColumnEntry.resolve l table) m :=
  resolveLive_map (ColumnEntry.ignored_filled l) (ColumnEntry.resolve_filled l table) m

theorem Keyed.map_filled_filled (m : Keyed ColumnEntry) :
    (m.map (ColumnEntry.filled l)).map (ColumnEntry.filled l) = m.map (.filled l) := by
  unfold map
  rw [mapWithKey_mapWithKey]
  simp only [ColumnEntry.filled_filled]

end Entries

/- Tables. -/

section Tables

variable (l : Limits)

theorem ChangeSet.filled_filled (s : ChangeSet ColumnEntry) :
    (s.filled l).filled l = s.filled l := by
  simp only [filled, Keyed.map_filled_filled]

theorem ChangeSet.named_filled (s : ChangeSet ColumnEntry) :
    (s.filled l).named = s.named.map fun e => (e.1, e.2.filled l) := by
  simp only [named, List.map_append]
  rfl

theorem TableSpec.filled_filled (s : TableSpec) : (s.filled l).filled l = s.filled l := by
  simp only [filled, Keyed.map_filled_filled]

theorem TableChange.filled_filled (c : TableChange) : (c.filled l).filled l = c.filled l := by
  simp only [filled, ChangeSet.filled_filled]

theorem columnAlterations_filled (table : String) (s : ChangeSet ColumnEntry) :
    columnAlterations .none table (s.filled l) = columnAlterations l table s := by
  have removed : (s.delete.map (ColumnEntry.filled l)).live.map
      (fun e => Alteration.removeColumn e.1) = s.delete.live.map fun e => .removeColumn e.1 := by
    rw [s.delete.live_map (ColumnEntry.ignored_filled l), List.map_map]
    rfl
  unfold columnAlterations ChangeSet.filled
  simp only [resolveLive_filled, removed]

theorem tableAlterations_filled (table : String) (c : TableChange) :
    tableAlterations .none table (c.filled l) = tableAlterations l table c := by
  unfold tableAlterations TableChange.filled
  simp only [columnAlterations_filled]

end Tables

theorem TableSpec.render_filled (o : RenderOptions) (table : String) (s : TableSpec) :
    (s.filled o.limits).render { o with limits := .none } table = s.render o table := by
  unfold render filled
  simp only [resolveLive_filled]

theorem TableChange.render_filled (o : RenderOptions) (table : String) (c : TableChange) :
    (c.filled o.limits).render { o with limits := .none } table = c.render o table := by
  unfold render
  simp only [tableAlterations_filled]
  rfl

namespace Delta

theorem phases_filled (o : RenderOptions) (d : Delta) :
    (d.filled o.limits).phases { o with limits := .none } = d.phases o := by
  have created :
      ((d.filled o.limits).add.entries.mapM fun e => e.2.render { o with limits := .none } e.1) =
        d.add.entries.mapM fun e => e.2.render o e.1 := by
    change (d.add.entries.map fun e => (e.1, e.2.filled o.limits)).mapM _ = _
    rw [List.mapM_map]
    simp only [Function.comp_def, TableSpec.render_filled]
  have changed :
      ((d.filled o.limits).change.entries.mapM fun e => e.2.render { o with limits := .none } e.1) =
        d.change.entries.mapM fun e => e.2.render o e.1 := by
    change (d.change.entries.map fun e => (e.1, e.2.filled o.limits)).mapM _ = _
    rw [List.mapM_map]
    simp only [Function.comp_def, TableChange.render_filled]
  unfold phases
  rw [created, changed]
  rfl

theorem filled_filled (l : Limits) (d : Delta) : (d.filled l).filled l = d.filled l := by
  simp only [filled, Keyed.map, Keyed.mapWithKey_mapWithKey, TableSpec.filled_filled,
    TableChange.filled_filled]

theorem namedColumns_filled (l : Limits) (d : Delta) :
    (d.filled l).namedColumns = d.namedColumns.map fun e => (e.1, e.2.filled l) := by
  have added : (d.filled l).add.values = d.add.values.map (.filled l) := by
    simp [filled, Keyed.values, Keyed.map, Keyed.mapWithKey]
  have changed : (d.filled l).change.values = d.change.values.map (.filled l) := by
    simp [filled, Keyed.values, Keyed.map, Keyed.mapWithKey]
  simp only [namedColumns, added, changed, List.flatMap_map, List.map_append, List.map_flatMap]
  congr 1
  exact List.flatMap_congr fun c _ => by
    rw [← ChangeSet.named_filled, ← ChangeSet.named_filled]
    rfl

/-- Default limits act as if they were written in the delta: the same script comes of it without
    any defaults, or the same failure, and its columns have the limits that were filled in. Filling
    them in changes no limit that is given, and once is enough. -/
theorem renders_as_filled (d : Delta) (o : RenderOptions) :
    let filled := d.filled o.limits
    d.render o = filled.render { o with limits := .none } ∧
      (∀ script, d.render o = .ok script →
        script.operations.flatMap Operation.columns = filled.columns) ∧
      filled.filled o.limits = filled ∧
      List.Forall₂ (fun given written => written.1 = given.1 ∧ Fills o.limits given.2 written.2)
        d.namedColumns filled.namedColumns := by
  intro filled
  have same : d.render o = filled.render { o with limits := .none } := by
    unfold render
    rw [phases_filled]
  refine ⟨same, ?_, filled_filled o.limits d, ?_⟩
  · intro script rendered
    rw [same] at rendered
    exact columns_of_render rendered
  · rw [namedColumns_filled, List.forall₂_map_right_iff]
    exact List.forall₂_same.mpr fun e _ => ⟨rfl, e.2.fills o.limits⟩

/-- Of three columns one has a limit of its own, and one a type without a default. -/
def visitorLog : Delta where
  add := .ofList [("visitors",
    { columns := .ofList [
      ("name", .ofType .string), ("nick", (ColumnEntry.ofType .string).withLimit 40)] })]
  change := .ofList [("visits", { columns := { add := .ofList [("left_at", .ofType .datetime)] } })]

/-- The default that was set last takes the place of the one that MySQL has for texts. -/
theorem limits_of_visitorLog :
    let o : RenderOptions :=
      { adapter := .mysql, limits := (Limits.ofAdapter .mysql).override .string 191 }
    let lines := [
      "create_table(\x22visitors\x22, \x7b\x7d) do |t|",
      "  t.column(\x22name\x22, :string, \x7blimit: 191\x7d)",
      "  t.column(\x22nick\x22, :string, \x7blimit: 40\x7d)",
      "end",
      "",
      "add_column(\x22visits\x22, \x22left_at\x22, :datetime, \x7b\x7d)"]
    ∃ script, visitorLog.render o = .ok script ∧ script.lines = lines ∧
      (visitorLog.filled o.limits).render { o with limits := .none } = .ok script ∧
      script.operations.flatMap Operation.columns =
        [⟨"name", .string, { limit := some 191 }⟩, ⟨"nick", .string, { limit := some 40 }⟩,
          ⟨"left_at", .datetime, {}⟩] := by
  intro o lines
  have ok : (visitorLog.render o).isOk = true := by decide +kernel
  have shown : (visitorLog.render o).map Script.lines = .ok lines := by decide +kernel
  obtain ⟨script, rendered⟩ := Rendered.exists_of_isOk ok
  rw [rendered] at shown
  obtain ⟨same, columns, _, _⟩ := renders_as_filled visitorLog o
  refine ⟨script, rendered, Except.ok.inj shown, same.symm.trans rendered, ?_⟩
  rw [columns script rendered]
  decide +kernel

end Delta

end SchemaEvolution
