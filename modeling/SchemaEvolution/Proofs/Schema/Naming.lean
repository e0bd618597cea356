import SchemaEvolution.Proofs.Schema.Visits

/-! Names of elements. Columns, indexes and foreign keys are stored under the names that
   they carry themselves, and no sequence of operations makes the two differ. -/
namespace SchemaEvolution

namespace Keyed

variable {α : Type} {name : α → String} {m : Keyed α}

/-- Every value is stored under its own name. -/
def Named (name : α → String) (m : Keyed α) : Prop := ∀ e ∈ m.entries, name e.2 = e.1

instance : Decidable (m.Named name) := inferInstanceAs (Decidable (∀ e ∈ m.entries, _))

namespace Named

theorem empty : (Keyed.empty : Keyed α).Named name := fun _ member => nomatch member

theorem get? (named : m.Named name) {key : String} {v : α} (found : m.get? key = some v) :
    name v = key := named (key, v) (mem_of_get? found)

theorem insert (named : m.Named name) {key : String} {v : α} (own : name v = key) :
    (m.insert key v).Named name := by
  intro e member
  rcases mem_put member with rfl | old
  · exact own
  · exact named e old

theorem erase (named : m.Named name) (key : String) : (m.erase key).Named name :=
  fun e member => named e (List.mem_filter.mp member).1

theorem insertAll (named : m.Named name) {es : List (String × α)}
    (own : ∀ e ∈ es, name e.2 = e.1) : (m.insertAll es).Named name := by
  induction es generalizing m with
  | nil => exact named
  | cons e es ih =>
    rw [List.forall_mem_cons] at own
    exact ih (named.insert own.1) own.2

end Named

end Keyed

namespace TableState

structure WellKeyed (t : TableState) : Prop where
  columns : t.columns.Named Column.name
  indexes : t.indexes.Named Index.name
  foreignKeys : t.foreignKeys.Named ForeignKey.name

instance (t : TableState) : Decidable t.WellKeyed :=
  decidable_of_iff
    (t.columns.Named Column.name ∧ t.indexes.Named Index.name ∧ t.foreignKeys.Named ForeignKey.name)
    ⟨fun ⟨c, i, k⟩ => ⟨c, i, k⟩, fun ⟨c, i, k⟩ => ⟨c, i, k⟩⟩

variable {t u : TableState} {table : String}

theorem wellKeyed_ofCreateTable (create : CreateTable) : (ofCreateTable create).WellKeyed := by
  rw [ofCreateTable, foldl_addConstraint]
  refine ⟨Keyed.Named.empty.insertAll ?_, Keyed.Named.empty.insertAll ?_, Keyed.Named.empty⟩
  · intro e member
    obtain ⟨c, _, rfl⟩ := List.mem_map.mp member
    rfl
  · intro e member
    obtain ⟨i, _, rfl⟩ := List.mem_map.mp member
    rfl

namespace WellKeyed

theorem alter {a : Alteration} (keyed : t.WellKeyed) (done : t.alter table a = .ok u) :
    u.WellKeyed := by
  cases a with
  | addColumn c =>
    obtain ⟨_, rfl⟩ := alter_addColumn_iff.mp done
    exact { keyed with columns := keyed.columns.insert rfl }
  | renameColumn source target =>
    obtain ⟨c, _, rfl⟩ := alter_renameColumn_iff.mp done
    exact { keyed with columns := (keyed.columns.erase source).insert rfl }
  | changeColumn c =>
    obtain ⟨_, rfl⟩ := alter_changeColumn_iff.mp done
    exact { keyed with columns := keyed.columns.insert rfl }
  | removeColumn name =>
    obtain ⟨_, _, rfl⟩ := alter_removeColumn_iff.mp done
    exact { keyed with columns := keyed.columns.erase name }
  | addIndex i =>
    obtain rfl := alter_addIndex_iff.mp done
    exact { keyed with indexes := keyed.indexes.insert rfl }
  | renameIndex source target =>
    obtain ⟨i, _, rfl⟩ := alter_renameIndex_iff.mp done
    exact { keyed with indexes := (keyed.indexes.erase source).insert rfl }
  | removeIndex name =>
    obtain ⟨_, _, rfl⟩ := alter_removeIndex_iff.mp done
    exact { keyed with indexes := keyed.indexes.erase name }
  | addConstraint c =>
    obtain rfl := alter_addConstraint_iff.mp done
    exact ⟨keyed.columns, keyed.indexes, keyed.foreignKeys⟩
  | removeConstraint kind name =>
    obtain ⟨_, _, rfl⟩ := alter_removeConstraint_iff.mp done
    exact ⟨keyed.columns, keyed.indexes, keyed.foreignKeys⟩

theorem block (keyed : t.WellKeyed) (as : List Alteration) :
    (replayAll (applyAlteration table) t as).state.WellKeyed :=
  replay_invariant (fun keyed done => keyed.alter done) keyed as

end WellKeyed

end TableState

namespace Schema

def WellKeyed (s : Schema) : Prop := ∀ e ∈ s.tables.entries, e.2.WellKeyed

instance (s : Schema) : Decidable s.WellKeyed :=
  inferInstanceAs (Decidable (∀ e ∈ s.tables.entries, _))

theorem wellKeyed_iff {s : Schema} :
    s.WellKeyed ↔ ∀ name t, s.table? name = some t → t.WellKeyed :=
  ⟨fun keyed name t found => keyed (name, t) (Keyed.mem_of_get? found),
    fun keyed e member => keyed e.1 e.2 (Keyed.get?_of_mem member)⟩

namespace WellKeyed

variable {s : Schema}

theorem onTable (keyed : s.WellKeyed) {name : String} {f : TableState → Replayed TableState}
    (kept : ∀ t, t.WellKeyed → (f t).state.WellKeyed) : (s.onTable name f).state.WellKeyed := by
  rw [wellKeyed_iff] at keyed ⊢
  intro n u found
  rw [table?_onTable] at found
  split at found
  case isTrue =>
    obtain ⟨t, held, rfl⟩ := Option.map_eq_some_iff.mp found
    exact kept t (keyed name t held)
  case isFalse => exact keyed n u found

theorem insert (keyed : s.WellKeyed) {t : TableState} (own : t.WellKeyed) (name : String) :
    (s.withTable name t).WellKeyed := by
  intro e member
  rcases Keyed.mem_put member with rfl | old
  · exact own
  · exact keyed e old

theorem erase (keyed : s.WellKeyed) (name : String) : WellKeyed ⟨s.tables.erase name⟩ :=
  fun e member => keyed e (List.mem_filter.mp member).1

/-- An operation that meets a conflict leaves the schema as it was, or a block cut short. -/
theorem apply (keyed : s.WellKeyed) (op : Operation) : (s.apply op).state.WellKeyed := by
  cases op with
  | createTable create =>
    simp only [Schema.apply]
    split
    · exact keyed
    · exact keyed.insert (TableState.wellKeyed_ofCreateTable create) create.name
  | renameTable source target =>
    simp only [Schema.apply]
    split
    · exact keyed
    · split
      case h_1 => exact keyed
      case h_2 t found =>
        exact (keyed.erase source).insert (wellKeyed_iff.mp keyed source t found) target
  | dropTable name =>
    simp only [Schema.apply]
    split
    · exact keyed.erase name
    · exact keyed
  | changeTable table as => exact keyed.onTable fun t own => own.block as
  | alter table a =>
    exact keyed.onTable fun t own => Replayed.ofExcept_invariant own fun _ done => own.alter done
  | addForeignKey table k =>
    simp only [Schema.apply]
    split
    · exact keyed.onTable fun t own => { own with foreignKeys := own.foreignKeys.insert rfl }
    · exact keyed
  | removeForeignKey table name =>
    refine keyed.onTable fun t own => Replayed.ofExcept_invariant own fun u done => ?_
    obtain ⟨k, _, rest⟩ := Keyed.take_bind_eq_ok_iff.mp done
    obtain rfl := TableState.done_iff.mp rest
    exact { own with foreignKeys := own.foreignKeys.erase name }
  | changeTableOptions table options =>
    exact keyed.onTable fun t own => ⟨own.columns, own.indexes, own.foreignKeys⟩
  | changeTableComment table comment =>
    exact keyed.onTable fun t own => ⟨own.columns, own.indexes, own.foreignKeys⟩

end WellKeyed

/-- Over any operations in a row, each applied whether or not the one before it went
    through, elements stay under their own names. So do they where a replay stops. In any
    schema on the way, also one that a block cut short leaves, a rename that goes through files
    the old element under the new name with that name in it, and a changed column takes the
    place of the one of its name. -/
theorem elements_stored_under_own_names {s : Schema} (keyed : s.WellKeyed)
    (ops : List Operation) :
    (s.after ops).WellKeyed ∧ (s.replay ops).state.WellKeyed ∧
      ∀ table t, (s.after ops).table? table = some t →
        (∀ source target u, t.alter table (.renameColumn source target) = .ok u →
          ∃ c, t.columns.get? source = some c ∧ c.name = source ∧
            u.columns.get? target = some { c with name := target }) ∧
        (∀ source target u, t.alter table (.renameIndex source target) = .ok u →
          ∃ i, t.indexes.get? source = some i ∧ i.name = source ∧
            u.indexes.get? target = some { i with name := target }) ∧
        ∀ c u, t.alter table (.changeColumn c) = .ok u →
          ∃ old, t.columns.get? c.name = some old ∧ old.name = c.name ∧
            u.columns = t.columns.mapWithKey fun key held => if key = c.name then c else held := by
  have reached (ops : List Operation) : (s.after ops).WellKeyed :=
    after_invariant (fun op keyed => keyed.apply op) keyed ops
  refine ⟨reached ops, ?_, fun table t found => ⟨?_, ?_, ?_⟩⟩
  · obtain ⟨done, _, left⟩ := exists_replay_state s ops
    exact left ▸ reached done
  · intro source target u done
    obtain ⟨c, held, rfl⟩ := TableState.alter_renameColumn_iff.mp done
    have own := (wellKeyed_iff.mp (reached ops) table t found).columns.get? held
    exact ⟨c, held, own, Keyed.get?_insert_self ..⟩
  · intro source target u done
    obtain ⟨i, held, rfl⟩ := TableState.alter_renameIndex_iff.mp done
    have own := (wellKeyed_iff.mp (reached ops) table t found).indexes.get? held
    exact ⟨i, held, own, Keyed.get?_insert_self ..⟩
  · intro c u done
    obtain ⟨present, rfl⟩ := TableState.alter_changeColumn_iff.mp done
    obtain ⟨old, held⟩ := Keyed.exists_get? present
    have own := (wellKeyed_iff.mp (reached ops) table t found).columns.get? held
    exact ⟨old, held, own, Keyed.insert_eq_mapWithKey c present⟩

end Schema

def addressBook : Schema where
  tables := .ofList [("people", .ofColumns [("street", .string), ("town", .string)])]

def addressBookUpdate : Operation :=
  .changeTable "people" [.renameColumn "street" "road", .removeColumn "country"]

theorem names_in_addressBook :
    addressBook.WellKeyed ∧ (addressBook.apply addressBookUpdate).conflict =
        some (.elementMissing .column "people" "country") ∧
      (addressBook.after [addressBookUpdate]).WellKeyed := by
  have keyed : addressBook.WellKeyed := by decide
  have stored := Schema.elements_stored_under_own_names keyed [addressBookUpdate]
  exact ⟨keyed, by decide, stored.1⟩

end SchemaEvolution
