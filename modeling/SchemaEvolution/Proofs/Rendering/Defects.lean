import SchemaEvolution.Rendering

/-! Which deltas cannot be rendered. The live entries are checked one after the other and the
   first defect is reported. Neither the options nor what is deleted has a say in it. -/
namespace SchemaEvolution

/- A computation reports the first of some defects. Those of its parts are laid end to end, in
   the order in which the parts run. -/

inductive Reports : Rendered α → List Failure → Prop
  | sound (a : α) : Reports (.ok a) []
  | broken (f : Failure) (later : List Failure) : Reports (.error f) (f :: later)

namespace Reports

theorem bind {x : Rendered α} {g : α → Rendered β} {first later : List Failure}
    (start : Reports x first) (next : ∀ a, Reports (g a) later) :
    Reports (x >>= g) (first ++ later) := by
  cases start with
  | sound a => exact next a
  | broken f rest => exact .broken f (rest ++ later)

theorem map {x : Rendered α} {defects : List Failure} (start : Reports x defects) (g : α → β) :
    Reports (x >>= fun a => .ok (g a)) defects := by
  have both := start.bind fun a => .sound (g a)
  rwa [List.append_nil] at both

theorem mapM {f : α → Rendered β} {defects : α → List Failure}
    (each : ∀ e, Reports (f e) (defects e)) (es : List α) :
    Reports (es.mapM f) (es.flatMap defects) := by
  induction es with
  | nil => exact .sound []
  | cons e es ih =>
    rw [List.mapM_cons, List.flatMap_cons]
    exact (each e).bind fun b => ih.map (b :: ·)

theorem error_iff {x : Rendered α} {defects : List Failure} (reports : Reports x defects)
    (f : Failure) : x = .error f ↔ defects.head? = some f := by
  cases reports with
  | sound a => simp
  | broken g later => simp

theorem exists_ok_iff {x : Rendered α} {defects : List Failure} (reports : Reports x defects) :
    (∃ a, x = .ok a) ↔ defects = [] := by
  cases reports with
  | sound a => simp
  | broken g later => simp

end Reports

/-- Entries that mean nothing without a certain field. -/
class Sparse (α : Type) where
  lacks : α → Bool

instance : Sparse ColumnEntry := ⟨fun e => e.type.isNone⟩
instance : Sparse IndexEntry := ⟨fun e => e.columns.isEmpty⟩
instance : Sparse ForeignKeyEntry := ⟨fun e => e.toTable.isNone⟩
instance : Sparse ConstraintEntry := ⟨fun e => e.expression.isNone⟩
instance : Sparse UniqueEntry := ⟨fun e => e.columns.isEmpty⟩

/-- The entry of this name lacks its field, and it is not ignored. -/
def Keyed.Lacks [Entry α] [Sparse α] (m : Keyed α) (key : String) : Prop :=
  ∃ e, (key, e) ∈ m.entries ∧ Entry.ignored e = false ∧ Sparse.lacks e = true

def ChangeSet.Lacks [Entry α] [Sparse α] (s : ChangeSet α) (key : String) : Prop :=
  s.add.Lacks key ∨ s.change.Lacks key

/-- What is wrong with a table to create. -/
inductive TableSpec.Defect (table : String) (s : TableSpec) : Failure → Prop
  | column (lacks : s.columns.Lacks key) : Defect table s (.missingField table .column key)
  | index (lacks : s.indexes.Lacks key) : Defect table s (.missingField table .index key)
  | check (lacks : s.checks.Lacks key) : Defect table s (.missingField table .check key)
  | exclusion (lacks : s.exclusions.Lacks key) :
    Defect table s (.missingField table .exclusion key)
  | unique (lacks : s.uniques.Lacks key) : Defect table s (.missingField table .unique key)
  | foreignKey (lacks : s.foreignKeys.Lacks key) :
    Defect table s (.missingField table .foreignKey key)

/-- What is wrong with the changes to a table. Keys and constraints cannot be renamed. -/
inductive TableChange.Defect (table : String) (c : TableChange) : Failure → Prop
  | column (lacks : c.columns.Lacks key) : Defect table c (.missingField table .column key)
  | primaryKeyColumn (lacks : c.primaryKeyColumns.Lacks key) :
    Defect table c (.missingField table .column key)
  | index (lacks : c.indexes.Lacks key) : Defect table c (.missingField table .index key)
  | foreignKey (lacks : c.foreignKeys.Lacks key) :
    Defect table c (.missingField table .foreignKey key)
  | check (lacks : c.checks.Lacks key) : Defect table c (.missingField table .check key)
  | exclusion (lacks : c.exclusions.Lacks key) :
    Defect table c (.missingField table .exclusion key)
  | unique (lacks : c.uniques.Lacks key) : Defect table c (.missingField table .unique key)
  | foreignKeyRename (renamed : (target, source) ∈ c.foreignKeys.rename.entries) :
    Defect table c (.renameUnsupported table .foreignKey source target)
  | checkRename (renamed : (target, source) ∈ c.checks.rename.entries) :
    Defect table c (.renameUnsupported table .check source target)
  | exclusionRename (renamed : (target, source) ∈ c.exclusions.rename.entries) :
    Defect table c (.renameUnsupported table .exclusion source target)
  | uniqueRename (renamed : (target, source) ∈ c.uniques.rename.entries) :
    Defect table c (.renameUnsupported table .unique source target)

inductive Delta.Defect (d : Delta) : Failure → Prop
  | added (table : (name, s) ∈ d.add.entries) (defect : s.Defect name f) : Defect d f
  | changed (table : (name, c) ∈ d.change.entries) (defect : c.Defect name f) : Defect d f

/- The same defects in the order in which they are come across. -/

def Sparse.defects [Sparse α] (table : String) (kind : EntryKind) (key : String) (e : α) :
    List Failure :=
  if Sparse.lacks e then [.missingField table kind key] else []

section Entries

variable [Entry α] [Sparse α]

def Keyed.defects (table : String) (kind : EntryKind) (m : Keyed α) : List Failure :=
  m.live.flatMap fun e => Sparse.defects table kind e.1 e.2

theorem Keyed.mem_defects {table : String} {kind : EntryKind} {m : Keyed α} {f : Failure} :
    f ∈ m.defects table kind ↔ ∃ key, m.Lacks key ∧ f = .missingField table kind key := by
  simp only [defects, Sparse.defects, List.mem_flatMap, mem_live, Lacks]
  constructor
  · rintro ⟨⟨key, e⟩, ⟨listed, heeded⟩, member⟩
    split at member
    · rename_i lacks
      exact ⟨key, ⟨e, listed, heeded, lacks⟩, List.mem_singleton.1 member⟩
    · contradiction
  · rintro ⟨key, ⟨e, listed, heeded, lacks⟩, rfl⟩
    exact ⟨(key, e), ⟨listed, heeded⟩, by simp [lacks]⟩

def ChangeSet.defects (table : String) (kind : EntryKind) (s : ChangeSet α) : List Failure :=
  s.change.defects table kind ++ s.add.defects table kind

theorem ChangeSet.mem_defects {table : String} {kind : EntryKind} {s : ChangeSet α}
    {f : Failure} :
    f ∈ s.defects table kind ↔ ∃ key, s.Lacks key ∧ f = .missingField table kind key := by
  simp only [defects, Lacks, List.mem_append, Keyed.mem_defects, or_and_right, exists_or]
  exact or_comm

theorem Reports.resolveLive {resolve : String → α → Rendered β} {table : String}
    {kind : EntryKind} (each : ∀ key e, Reports (resolve key e) (Sparse.defects table kind key e))
    (m : Keyed α) : Reports (resolveLive resolve m) (m.defects table kind) := by
  unfold SchemaEvolution.resolveLive Keyed.defects
  exact mapM (fun e => each e.1 e.2) m.live

theorem Reports.resolveAdded {resolve : String → α → Rendered β} {table : String}
    {kind : EntryKind} (each : ∀ key e, Reports (resolve key e) (Sparse.defects table kind key e))
    (s : ChangeSet α) : Reports (s.resolveAdded resolve) (s.defects table kind) :=
  (Reports.resolveLive each s.change).bind fun _ => (Reports.resolveLive each s.add).map _

end Entries

def ChangeSet.renameDefects (table : String) (kind : EntryKind) (s : ChangeSet α) :
    List Failure :=
  s.rename.entries.map fun e => .renameUnsupported table kind e.2 e.1

theorem ChangeSet.mem_renameDefects {table : String} {kind : EntryKind} {s : ChangeSet α}
    {f : Failure} :
    f ∈ s.renameDefects table kind ↔
      ∃ target source, (target, source) ∈ s.rename.entries ∧
        f = .renameUnsupported table kind source target := by
  simp [renameDefects, eq_comm]

theorem Reports.rejectRenames (table : String) (kind : EntryKind) (s : ChangeSet α) :
    Reports (rejectRenames table kind s) (s.renameDefects table kind) := by
  unfold SchemaEvolution.rejectRenames ChangeSet.renameDefects
  cases s.rename.entries with
  | nil => exact .sound ()
  | cons e es => exact .broken _ _

/- What each kind of entry requires. -/

theorem ColumnEntry.resolve_reports (l : Limits) (table key : String) :
    ∀ e : ColumnEntry, Reports (e.resolve l table key) (Sparse.defects table .column key e)
  | { type := none, .. } => .broken _ _
  | { type := some _, .. } => .sound _

theorem IndexEntry.resolve_reports (table key : String) :
    ∀ e : IndexEntry, Reports (e.resolve table key) (Sparse.defects table .index key e)
  | { columns := [], .. } => .broken _ _
  | { columns := _ :: _, .. } => .sound _

theorem ForeignKeyEntry.resolve_reports (table key : String) :
    ∀ e : ForeignKeyEntry, Reports (e.resolve table key) (Sparse.defects table .foreignKey key e)
  | { toTable := none, .. } => .broken _ _
  | { toTable := some _, .. } => .sound _

theorem ConstraintEntry.resolveCheck_reports (table key : String) :
    ∀ e : ConstraintEntry, Reports (e.resolveCheck table key) (Sparse.defects table .check key e)
  | { expression := none, .. } => .broken _ _
  | { expression := some _, .. } => .sound _

theorem ConstraintEntry.resolveExclusion_reports (table key : String) :
    ∀ e : ConstraintEntry,
      Reports (e.resolveExclusion table key) (Sparse.defects table .exclusion key e)
  | { expression := none, .. } => .broken _ _
  | { expression := some _, .. } => .sound _

theorem UniqueEntry.resolve_reports (table key : String) :
    ∀ e : UniqueEntry, Reports (e.resolve table key) (Sparse.defects table .unique key e)
  | { columns := [], .. } => .broken _ _
  | { columns := _ :: _, .. } => .sound _

namespace TableSpec

def defects (table : String) (s : TableSpec) : List Failure :=
  s.columns.defects table .column ++ (s.indexes.defects table .index ++
    (s.checks.defects table .check ++ (s.exclusions.defects table .exclusion ++
      (s.uniques.defects table .unique ++ s.foreignKeys.defects table .foreignKey))))

theorem mem_defects {table : String} {s : TableSpec} {f : Failure} :
    f ∈ s.defects table ↔ s.Defect table f := by
  simp only [defects, List.mem_append, Keyed.mem_defects]
  constructor
  · rintro (⟨_, lacks, rfl⟩ | ⟨_, lacks, rfl⟩ | ⟨_, lacks, rfl⟩ | ⟨_, lacks, rfl⟩ |
      ⟨_, lacks, rfl⟩ | ⟨_, lacks, rfl⟩)
    · exact .column lacks
    · exact .index lacks
    · exact .check lacks
    · exact .exclusion lacks
    · exact .unique lacks
    · exact .foreignKey lacks
  · intro defect
    cases defect <;> grind

theorem render_reports (o : RenderOptions) (table : String) (s : TableSpec) :
    Reports (s.render o table) (s.defects table) := by
  refine .bind (.resolveLive (ColumnEntry.resolve_reports o.limits table) _) fun columns => ?_
  refine .bind (.resolveLive (IndexEntry.resolve_reports table) _) fun indexes => ?_
  refine .bind (.resolveLive (ConstraintEntry.resolveCheck_reports table) _) fun checks => ?_
  refine .bind (.resolveLive (ConstraintEntry.resolveExclusion_reports table) _)
    fun exclusions => ?_
  refine .bind (.resolveLive (UniqueEntry.resolve_reports table) _) fun uniques => ?_
  exact .map (.resolveLive (ForeignKeyEntry.resolve_reports table) _) _

end TableSpec

namespace TableChange

def columnDefects (table : String) (s : ChangeSet ColumnEntry) : List Failure :=
  s.add.defects table .column ++ s.change.defects table .column

theorem mem_columnDefects {table : String} {s : ChangeSet ColumnEntry} {f : Failure} :
    f ∈ columnDefects table s ↔ ∃ key, s.Lacks key ∧ f = .missingField table .column key := by
  simp only [columnDefects, ChangeSet.Lacks, List.mem_append, Keyed.mem_defects, or_and_right,
    exists_or]

def defects (table : String) (c : TableChange) : List Failure :=
  (columnDefects table c.columns ++
    (columnDefects table c.primaryKeyColumns ++ c.indexes.defects table .index)) ++
  ((c.foreignKeys.renameDefects table .foreignKey ++
    c.foreignKeys.defects table .foreignKey) ++
  (c.checks.renameDefects table .check ++ (c.checks.defects table .check ++
    (c.exclusions.renameDefects table .exclusion ++ (c.exclusions.defects table .exclusion ++
      (c.uniques.renameDefects table .unique ++ c.uniques.defects table .unique))))))

theorem mem_defects {table : String} {c : TableChange} {f : Failure} :
    f ∈ c.defects table ↔ c.Defect table f := by
  simp only [defects, List.mem_append, mem_columnDefects, ChangeSet.mem_defects,
    ChangeSet.mem_renameDefects, or_assoc]
  constructor
  · rintro (⟨_, lacks, rfl⟩ | ⟨_, lacks, rfl⟩ | ⟨_, lacks, rfl⟩ | ⟨_, _, renamed, rfl⟩ |
      ⟨_, lacks, rfl⟩ | ⟨_, _, renamed, rfl⟩ | ⟨_, lacks, rfl⟩ | ⟨_, _, renamed, rfl⟩ |
      ⟨_, lacks, rfl⟩ | ⟨_, _, renamed, rfl⟩ | ⟨_, lacks, rfl⟩)
    · exact .column lacks
    · exact .primaryKeyColumn lacks
    · exact .index lacks
    · exact .foreignKeyRename renamed
    · exact .foreignKey lacks
    · exact .checkRename renamed
    · exact .check lacks
    · exact .exclusionRename renamed
    · exact .exclusion lacks
    · exact .uniqueRename renamed
    · exact .unique lacks
  · intro defect
    cases defect <;> grind

theorem columnAlterations_reports (l : Limits) (table : String) (s : ChangeSet ColumnEntry) :
    Reports (columnAlterations l table s) (columnDefects table s) := by
  refine .bind (.resolveLive (ColumnEntry.resolve_reports l table) _) fun added => ?_
  exact .map (.resolveLive (ColumnEntry.resolve_reports l table) _) _

theorem render_reports (o : RenderOptions) (table : String) (c : TableChange) :
    Reports (c.render o table) (c.defects table) := by
  have columns := columnAlterations_reports o.limits table c.columns
  have primary := columnAlterations_reports o.limits table c.primaryKeyColumns
  have indexes := Reports.resolveAdded (IndexEntry.resolve_reports table) c.indexes
  have keys := Reports.resolveAdded (ForeignKeyEntry.resolve_reports table) c.foreignKeys
  have checks := Reports.resolveAdded (ConstraintEntry.resolveCheck_reports table) c.checks
  have exclusions :=
    Reports.resolveAdded (ConstraintEntry.resolveExclusion_reports table) c.exclusions
  have uniques := Reports.resolveAdded (UniqueEntry.resolve_reports table) c.uniques
  refine .bind ?_ fun alterations => .bind ?_ fun keys => .map ?_ _
  · exact columns.bind fun _ => primary.bind fun _ => indexes.map _
  · exact (Reports.rejectRenames table .foreignKey _).bind fun _ => keys.map _
  · refine (Reports.rejectRenames table .check _).bind fun _ => checks.bind fun _ => ?_
    refine (Reports.rejectRenames table .exclusion _).bind fun _ => exclusions.bind fun _ => ?_
    exact (Reports.rejectRenames table .unique _).bind fun _ => uniques.map _

end TableChange

namespace Delta

def defects (d : Delta) : List Failure :=
  d.add.entries.flatMap (fun e => e.2.defects e.1) ++
    d.change.entries.flatMap fun e => e.2.defects e.1

theorem mem_defects {d : Delta} {f : Failure} : f ∈ d.defects ↔ d.Defect f := by
  simp only [defects, List.mem_append, List.mem_flatMap, TableSpec.mem_defects,
    TableChange.mem_defects]
  constructor
  · rintro (⟨⟨name, s⟩, table, defect⟩ | ⟨⟨name, c⟩, table, defect⟩)
    · exact .added table defect
    · exact .changed table defect
  · rintro (⟨table, defect⟩ | ⟨table, defect⟩)
    · exact .inl ⟨_, table, defect⟩
    · exact .inr ⟨_, table, defect⟩

theorem render_reports (o : RenderOptions) (d : Delta) : Reports (d.render o) d.defects := by
  refine .map ?_ _
  refine .bind (.mapM (fun e => e.2.render_reports o e.1) _) fun created => ?_
  exact .map (.mapM (fun e => e.2.render_reports o e.1) _) _

theorem render_error_iff (o : RenderOptions) (d : Delta) (f : Failure) :
    d.render o = .error f ↔ d.defects.head? = some f :=
  (d.render_reports o).error_iff f

theorem exists_script_iff (o : RenderOptions) (d : Delta) :
    (∃ script, d.render o = .ok script) ↔ d.defects = [] :=
  (d.render_reports o).exists_ok_iff

end Delta

/- Deletions are never checked. -/

def ChangeSet.withoutDeletions (s : ChangeSet α) : ChangeSet α := { s with delete := {} }

def TableChange.withoutDeletions (c : TableChange) : TableChange :=
  { c with
    columns := c.columns.withoutDeletions
    primaryKeyColumns := c.primaryKeyColumns.withoutDeletions
    indexes := c.indexes.withoutDeletions
    foreignKeys := c.foreignKeys.withoutDeletions
    checks := c.checks.withoutDeletions
    exclusions := c.exclusions.withoutDeletions
    uniques := c.uniques.withoutDeletions }

def Delta.withoutDeletions (d : Delta) : Delta :=
  { d with change := d.change.map TableChange.withoutDeletions, delete := {} }

theorem Delta.defects_withoutDeletions (d : Delta) : d.withoutDeletions.defects = d.defects := by
  have changes (table : String) (c : TableChange) :
      c.withoutDeletions.defects table = c.defects table := rfl
  simp only [defects, withoutDeletions, Keyed.map, Keyed.mapWithKey, List.flatMap_map, changes]

/-- A delta cannot be rendered exactly if it has a defect: an entry that lacks its field, or a
    key or constraint to rename. The failure is one of the defects, the same whatever the
    options, and the same again if nothing was to be deleted. -/
theorem Delta.render_fails_iff_defect (d : Delta) :
    (∀ o, (∃ f, d.render o = .error f) ↔ ∃ f, d.Defect f) ∧
    (∀ o f, d.render o = .error f → d.Defect f) ∧
    (∀ o o' f, d.render o = .error f ↔ d.render o' = .error f) ∧
    ∀ o f, d.withoutDeletions.render o = .error f ↔ d.render o = .error f := by
  have first (o : RenderOptions) (f : Failure) (fails : d.render o = .error f) : d.Defect f := by
    have head := (d.render_error_iff o f).1 fails
    exact mem_defects.1 (List.mem_of_head? head)
  refine ⟨fun o => ?_, first, fun o o' f => ?_, fun o f => ?_⟩
  · constructor
    · rintro ⟨f, fails⟩
      exact ⟨f, first o f fails⟩
    · rintro ⟨f, defect⟩
      have nonempty := List.ne_nil_of_mem (mem_defects.2 defect)
      exact ⟨d.defects.head nonempty, (d.render_error_iff o _).2 (List.head?_eq_some_head nonempty)⟩
  · rw [render_error_iff, render_error_iff]
  · rw [render_error_iff, render_error_iff, defects_withoutDeletions]

end SchemaEvolution
