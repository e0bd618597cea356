import Mathlib.Data.List.Induction
import SchemaEvolution.Proofs.Schema.Visits

/-! Foreign keys and the tables that they point to. A key is only added if its table is
   there. A table that is dropped or renamed later leaves the keys that point to it
   behind, and no other operation does. -/
namespace SchemaEvolution

namespace TableState

def references (t : TableState) : List String := t.foreignKeys.values.map ForeignKey.toTable

theorem mem_references_insert {t : TableState} {k : ForeignKey} {n : String}
    (member : n ∈ references { t with foreignKeys := t.foreignKeys.insert k.name k }) :
    n = k.toTable ∨ n ∈ t.references := by
  obtain ⟨held, within, rfl⟩ := List.mem_map.mp member
  obtain ⟨e, entry, rfl⟩ := List.mem_map.mp within
  rcases Keyed.mem_put entry with rfl | old
  · exact .inl rfl
  · exact .inr (List.mem_map_of_mem (List.mem_map_of_mem old))

theorem mem_references_erase {t : TableState} {name n : String}
    (member : n ∈ references { t with foreignKeys := t.foreignKeys.erase name }) :
    n ∈ t.references := by
  obtain ⟨held, within, rfl⟩ := List.mem_map.mp member
  obtain ⟨e, entry, rfl⟩ := List.mem_map.mp within
  exact List.mem_map_of_mem (List.mem_map_of_mem (List.mem_filter.mp entry).1)

theorem references_ofCreateTable (create : CreateTable) :
    (ofCreateTable create).references = [] := by
  rw [ofCreateTable, foldl_addConstraint]
  rfl

variable {t u : TableState} {table : String}

theorem references_alter {a : Alteration} (done : t.alter table a = .ok u) :
    u.references = t.references := by
  rw [references, references, (alter_leaves done).1]

theorem references_lone (a : Alteration) :
    (t.applyAlteration table a).state.references = t.references :=
  Replayed.ofExcept_invariant (p := fun u => u.references = t.references) rfl
    fun _ done => references_alter done

theorem references_block (as : List Alteration) :
    (replayAll (applyAlteration table) t as).state.references = t.references :=
  replay_invariant (p := fun u => u.references = t.references)
    (fun same done => (references_alter done).trans same) rfl as

end TableState

namespace Schema

/-- Every foreign key points to a table that is there. -/
def Integral (s : Schema) : Prop :=
  ∀ e ∈ s.tables.entries, ∀ n ∈ e.2.references, n ∈ s.tables.keys

instance (s : Schema) : Decidable s.Integral :=
  inferInstanceAs (Decidable (∀ e ∈ s.tables.entries, _))

theorem integral_iff {s : Schema} :
    s.Integral ↔ ∀ name t, s.table? name = some t → ∀ n ∈ t.references, n ∈ s.tables.keys :=
  ⟨fun sound name t found => sound (name, t) (Keyed.mem_of_get? found),
    fun sound e member => sound e.1 e.2 (Keyed.get?_of_mem member)⟩

end Schema

/-- The operation takes a name away that a foreign key left over points to. -/
def Operation.Strands (s : Schema) : Operation → Prop
  | renameTable source _ => ∃ e ∈ s.tables.entries, source ∈ e.2.references
  | dropTable name => ∃ e ∈ s.tables.entries, e.1 ≠ name ∧ name ∈ e.2.references
  | _ => False

namespace Schema

variable {s : Schema}

namespace Integral

theorem onTable (sound : s.Integral) {name : String} {f : TableState → Replayed TableState}
    (kept : ∀ t, ∀ n ∈ (f t).state.references, n ∈ t.references ∨ n ∈ s.tables.keys) :
    (s.onTable name f).state.Integral := by
  rw [integral_iff] at sound ⊢
  intro name' u found n member
  rw [keys_onTable]
  rw [table?_onTable] at found
  split at found
  case isTrue =>
    obtain ⟨t, held, rfl⟩ := Option.map_eq_some_iff.mp found
    exact (kept t n member).elim (sound name t held n) id
  case isFalse => exact sound name' u found n member

theorem create (sound : s.Integral) (create : CreateTable) :
    (s.withTable create.name (.ofCreateTable create)).Integral := by
  intro e entry n member
  rcases Keyed.mem_put entry with rfl | old
  · rw [TableState.references_ofCreateTable] at member
    exact nomatch member
  · exact Keyed.mem_keys_insert.mpr (.inr (sound e old n member))

theorem rename_iff (sound : s.Integral) {source target : String} {t : TableState}
    (found : s.table? source = some t) (free : target ∉ s.tables.keys) :
    Integral ⟨(s.tables.erase source).insert target t⟩ ↔
      ¬ (Operation.renameTable source target).Strands s := by
  have keys {n : String} : n ∈ ((s.tables.erase source).insert target t).keys ↔
      n = target ∨ (n ∈ s.tables.keys ∧ n ≠ source) := by
    rw [Keyed.mem_keys_insert, Keyed.mem_keys_erase]
  have present : source ∈ s.tables.keys := Keyed.mem_keys_of_get? found
  rw [integral_iff]
  constructor
  · rintro kept ⟨e, entry, member⟩
    -- The table that points to the old name is still there, itself moved or not.
    have held : ∃ n, table? ⟨(s.tables.erase source).insert target t⟩ n = some e.2 := by
      by_cases moved : e.1 = source
      · obtain rfl : e.2 = t := Option.some.inj <|
          (Keyed.get?_of_mem entry).symm.trans (moved ▸ found)
        exact ⟨target, Keyed.get?_insert_self ..⟩
      · have other : e.1 ≠ target := fun same => free (same ▸ List.mem_map_of_mem entry)
        refine ⟨e.1, ?_⟩
        rw [table?, Keyed.get?_insert, if_neg other, Keyed.get?_erase, if_neg moved]
        exact Keyed.get?_of_mem entry
    obtain ⟨n, held⟩ := held
    rcases keys.mp (kept n e.2 held source member) with same | ⟨_, changed⟩
    · exact free (same ▸ present)
    · exact changed rfl
  · intro unstranded name u held n member
    have old : ∃ e ∈ s.tables.entries, e.2 = u := by
      rcases Keyed.mem_put (Keyed.mem_of_get? held) with same | within
      · exact ⟨(source, t), Keyed.mem_of_get? found, (congrArg Prod.snd same).symm⟩
      · exact ⟨(name, u), (List.mem_filter.mp within).1, rfl⟩
    obtain ⟨e, entry, rfl⟩ := old
    refine keys.mpr (.inr ⟨sound e entry n member, fun same => ?_⟩)
    exact unstranded ⟨e, entry, same ▸ member⟩

theorem drop_iff (sound : s.Integral) {name : String} :
    Integral ⟨s.tables.erase name⟩ ↔ ¬ (Operation.dropTable name).Strands s := by
  constructor
  · rintro kept ⟨e, entry, other, member⟩
    have left : e ∈ (s.tables.erase name).entries :=
      List.mem_filter.mpr ⟨entry, bne_iff_ne.mpr other⟩
    exact (Keyed.mem_keys_erase.mp (kept e left name member)).2 rfl
  · intro unstranded e left n member
    obtain ⟨entry, other⟩ := List.mem_filter.mp left
    refine Keyed.mem_keys_erase.mpr ⟨sound e entry n member, fun same => ?_⟩
    exact unstranded ⟨e, entry, bne_iff_ne.mp other, same ▸ member⟩

/-- Drops and renames of tables that are pointed to break references, and nothing else does. -/
theorem apply_iff (sound : s.Integral) {op : Operation} (accepted : (s.apply op).conflict = none) :
    (s.apply op).state.Integral ↔ ¬ op.Strands s := by
  -- Only renames and drops take a name away. The only new reference is a checked one.
  cases op with
  | createTable create =>
    refine iff_of_true ?_ id
    simp only [Schema.apply]
    split
    · exact sound
    · exact sound.create create
  | renameTable source target =>
    simp only [Schema.apply] at accepted ⊢
    split at accepted
    case isTrue => contradiction
    case isFalse free =>
      rw [hasTable_iff] at free
      split at accepted
      case h_1 => contradiction
      case h_2 t found =>
        simp only [hasTable_iff, if_neg free]
        exact sound.rename_iff found free
  | dropTable name =>
    simp only [Schema.apply] at accepted ⊢
    split at accepted
    case isTrue present =>
      rw [if_pos present]
      exact sound.drop_iff
    case isFalse => contradiction
  | changeTable table as =>
    refine iff_of_true (sound.onTable fun t n member => .inl ?_) id
    rwa [TableState.references_block] at member
  | alter table a =>
    refine iff_of_true (sound.onTable fun t n member => .inl ?_) id
    rwa [TableState.references_lone] at member
  | addForeignKey table k =>
    simp only [Schema.apply] at accepted ⊢
    split at accepted
    case isTrue present =>
      rw [if_pos present]
      refine iff_of_true (sound.onTable fun t n member => ?_) id
      rcases TableState.mem_references_insert member with rfl | old
      · exact .inr (hasTable_iff.mp present)
      · exact .inl old
    case isFalse => contradiction
  | removeForeignKey table name =>
    refine iff_of_true (sound.onTable fun t n member => .inl ?_) id
    refine Replayed.ofExcept_invariant
      (p := fun u => ∀ n ∈ TableState.references u, n ∈ t.references)
      (fun _ => id) (fun u done => ?_) n member
    obtain ⟨k, _, rest⟩ := Keyed.take_bind_eq_ok_iff.mp done
    obtain rfl := TableState.done_iff.mp rest
    exact fun n => TableState.mem_references_erase
  | changeTableOptions table options => exact iff_of_true (sound.onTable fun t n => .inl) id
  | changeTableComment table comment => exact iff_of_true (sound.onTable fun t n => .inl) id

end Integral

theorem accepted_before {ops before : List Operation} (accepted : (s.replay ops).conflict = none)
    (first : before <+: ops) : (s.replay before).conflict = none := by
  obtain ⟨rest, rfl⟩ := first
  rw [replay_append] at accepted
  cases stopped : (s.replay before).conflict with
  | none => rfl
  | some c => simp [Replayed.andThen, stopped] at accepted

theorem replay_snoc {before : List Operation} (op : Operation)
    (accepted : (s.replay before).conflict = none) :
    s.replay (before ++ [op]) = (s.replay before).state.apply op := by
  rw [replay_append, Replayed.andThen, accepted]
  exact replay_singleton ..

/-- A step that goes through keeps all foreign keys pointing to tables that are there, if and
    only if it neither renames nor drops a table that a foreign key left over points to. A run
    that goes through keeps them so all the way, if and only if none of its steps does that. -/
theorem references_kept_iff (sound : s.Integral) :
    (∀ op, (s.apply op).conflict = none → ((s.apply op).state.Integral ↔ ¬ op.Strands s)) ∧
    ∀ ops, (s.replay ops).conflict = none →
      ((∀ before, before <+: ops → (s.replay before).state.Integral) ↔
        ∀ before op, before ++ [op] <+: ops → ¬ op.Strands (s.replay before).state) := by
  refine ⟨fun op accepted => sound.apply_iff accepted, fun ops accepted => ?_⟩
  have step {before : List Operation} {op : Operation} (first : before ++ [op] <+: ops)
      (kept : (s.replay before).state.Integral) :
      (s.replay (before ++ [op])).state.Integral ↔ ¬ op.Strands (s.replay before).state := by
    have run := replay_snoc op
      (accepted_before accepted ((List.prefix_append before [op]).trans first))
    have through := accepted_before accepted first
    rw [run] at through ⊢
    exact kept.apply_iff through
  constructor
  · intro kept before op first
    exact (step first (kept before ((List.prefix_append before [op]).trans first))).mp
      (kept _ first)
  · intro unstranded before first
    -- By induction from the last step back: what comes before it has kept the references.
    induction before using List.reverseRecOn with
    | nil => exact sound
    | append_singleton before op ih =>
      exact (step first (ih ((List.prefix_append before [op]).trans first))).mpr
        (unstranded before op first)

end Schema

/-- A table of people, each of whom has a boss among them, gets another name. -/
def peopleMoved : List Operation :=
  [.createTable { name := "people", columns := [⟨"id", .bigint, {}⟩, ⟨"boss_id", .bigint, {}⟩] },
    .addForeignKey "people" ⟨"boss", "boss_id", "people", "id", none, none⟩,
    .renameTable "people" "staff"]

theorem references_lost_in_peopleMoved :
    Schema.empty.Integral ∧ (Schema.empty.replay peopleMoved).conflict = none ∧
      ¬ ∀ before, before <+: peopleMoved → (Schema.empty.replay before).state.Integral := by
  have sound : Schema.empty.Integral := by decide
  have accepted : (Schema.empty.replay peopleMoved).conflict = none := by decide
  have stranded : (Operation.renameTable "people" "staff").Strands
      (Schema.empty.replay (peopleMoved.take 2)).state := ⟨_, .head _, by decide⟩
  have exact := (Schema.references_kept_iff sound).2 peopleMoved accepted
  exact ⟨sound, accepted, fun kept => exact.mp kept _ _ List.prefix_rfl stranded⟩

end SchemaEvolution
