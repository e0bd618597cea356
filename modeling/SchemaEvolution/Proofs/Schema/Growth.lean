import SchemaEvolution.Proofs.Schema.Visits

/-! Additions to a table and renames in it. One that goes through keeps all other elements,
   and as many as there should be, if and only if the name that it takes is free. -/
namespace SchemaEvolution

namespace Keyed

variable {α : Type} {m n o : Keyed α}

/-- Elements that are not renamed stay as they are, and the number of elements grows by the
    number of additions. -/
structure Grows (renamed : List String) (added : Nat) (m n : Keyed α) : Prop where
  kept : ∀ k v, k ∉ renamed → m.get? k = some v → n.get? k = some v
  size : n.size = m.size + added

namespace Grows

theorem refl (m : Keyed α) : m.Grows [] 0 m := ⟨fun _ _ _ found => found, rfl⟩

theorem trans {a b : List String} {x y : Nat} (first : m.Grows a x n) (second : n.Grows b y o) :
    m.Grows (a ++ b) (x + y) o where
  kept k v other found := by
    rw [List.mem_append, not_or] at other
    exact second.kept k v other.2 (first.kept k v other.1 found)
  size := by
    rw [second.size, first.size, Nat.add_assoc]

theorem insert {key : String} (fresh : key ∉ m.keys) (v : α) : m.Grows [] 1 (m.insert key v) where
  kept k w _ found := by
    have other : k ≠ key := fun same => fresh (same ▸ mem_keys_of_get? found)
    rw [get?_insert, if_neg other, found]
  size := size_insert_of_not_mem fresh

theorem rename {source target : String} (present : source ∈ m.keys)
    (free : ¬ (target ≠ source ∧ target ∈ m.keys)) (v : α) :
    m.Grows [source] 0 ((m.erase source).insert target v) where
  kept k w unmoved found := by
    rw [List.mem_singleton] at unmoved
    have other : k ≠ target := by
      rintro rfl
      exact free ⟨unmoved, mem_keys_of_get? found⟩
    rw [get?_insert, if_neg other, get?_erase, if_neg unmoved, found]
  size := by
    have absent : target ∉ (m.erase source).keys := by
      rw [mem_keys_erase]
      rintro ⟨held, other⟩
      exact free ⟨other, held⟩
    rw [size_insert_of_not_mem absent, size_erase present]
    rfl

end Grows

theorem size_rename_taken {source target : String} (present : source ∈ m.keys)
    (other : target ≠ source) (taken : target ∈ m.keys) (v : α) :
    ((m.erase source).insert target v).size < m.size := by
  have left : target ∈ (m.erase source).keys := mem_keys_erase.mpr ⟨taken, other⟩
  rw [size_insert_of_mem left, ← size_erase present]
  exact Nat.lt_succ_self _

end Keyed

namespace Alteration

def Constructive : Alteration → Prop
  | addColumn _ | renameColumn _ _ | addIndex _ | renameIndex _ _ | addConstraint _ => True
  | _ => False

/-- The name that an addition or rename takes belongs to another element. -/
def Clashes (t : TableState) : Alteration → Prop
  | addColumn c => c.name ∈ t.columns.keys
  | renameColumn source target => target ≠ source ∧ target ∈ t.columns.keys
  | addIndex i => i.name ∈ t.indexes.keys
  | renameIndex source target => target ≠ source ∧ target ∈ t.indexes.keys
  | addConstraint c => c.name ∈ t.constraints.keys
  | _ => False

/-- One of the alterations in a row meets a table in which it clashes. -/
def SomeClashes (table : String) : TableState → List Alteration → Prop
  | _, [] => False
  | t, a :: as => a.Clashes t ∨ ∃ u, t.alter table a = .ok u ∧ SomeClashes table u as

def renamed? : ElementKind → Alteration → Option String
  | .column, renameColumn source _ => some source
  | .index, renameIndex source _ => some source
  | _, _ => none

def adds : ElementKind → Alteration → Bool
  | .column, addColumn _ => true
  | .index, addIndex _ => true
  | .constraint, addConstraint _ => true
  | _, _ => false

end Alteration

namespace TableState

variable {t u w : TableState} {table : String} {a : Alteration} {as : List Alteration}

/-- From `t` to `u` nothing is lost: what the alterations do not rename is as it was, and each
    kind of element has grown by its additions, foreign keys by `keys`. -/
structure Grows (as : List Alteration) (keys : Nat) (t u : TableState) : Prop where
  columns :
    t.columns.Grows (as.filterMap (·.renamed? .column)) (as.countP (·.adds .column)) u.columns
  indexes :
    t.indexes.Grows (as.filterMap (·.renamed? .index)) (as.countP (·.adds .index)) u.indexes
  constraints : t.constraints.Grows [] (as.countP (·.adds .constraint)) u.constraints
  foreignKeys : t.foreignKeys.Grows [] keys u.foreignKeys
  options : u.options = t.options
  comment : u.comment = t.comment

theorem Grows.refl (t : TableState) : t.Grows [] 0 t :=
  ⟨.refl _, .refl _, .refl _, .refl _, rfl, rfl⟩

theorem Grows.trans {bs : List Alteration} {x y : Nat} (first : t.Grows as x u)
    (second : u.Grows bs y w) : t.Grows (as ++ bs) (x + y) w where
  columns := by
    rw [List.filterMap_append, List.countP_append]
    exact first.columns.trans second.columns
  indexes := by
    rw [List.filterMap_append, List.countP_append]
    exact first.indexes.trans second.indexes
  constraints := by
    rw [List.countP_append]
    exact first.constraints.trans second.constraints
  foreignKeys := first.foreignKeys.trans second.foreignKeys
  options := second.options.trans first.options
  comment := second.comment.trans first.comment

theorem grows_alter (constructive : a.Constructive) (done : t.alter table a = .ok u)
    (free : ¬ a.Clashes t) : t.Grows [a] 0 u := by
  cases a with
  | addColumn c =>
    obtain ⟨fresh, rfl⟩ := alter_addColumn_iff.mp done
    exact { Grows.refl t with columns := .insert fresh c }
  | renameColumn source target =>
    obtain ⟨c, found, rfl⟩ := alter_renameColumn_iff.mp done
    exact { Grows.refl t with columns := .rename (Keyed.mem_keys_of_get? found) free _ }
  | addIndex i =>
    obtain rfl := alter_addIndex_iff.mp done
    exact { Grows.refl t with indexes := .insert free i }
  | renameIndex source target =>
    obtain ⟨i, found, rfl⟩ := alter_renameIndex_iff.mp done
    exact { Grows.refl t with indexes := .rename (Keyed.mem_keys_of_get? found) free _ }
  | addConstraint c =>
    obtain rfl := alter_addConstraint_iff.mp done
    exact { Grows.refl t with constraints := .insert free c.text }
  | changeColumn c => exact constructive.elim
  | removeColumn name => exact constructive.elim
  | removeIndex name => exact constructive.elim
  | removeConstraint kind name => exact constructive.elim

/-- The elements of a table other than foreign keys, which alterations leave alone. -/
def count (t : TableState) : Nat := t.columns.size + t.indexes.size + t.constraints.size

def additions (as : List Alteration) : Nat :=
  as.countP (·.adds .column) + as.countP (·.adds .index) + as.countP (·.adds .constraint)

theorem additions_cons (a : Alteration) (as : List Alteration) :
    additions (a :: as) = additions [a] + additions as := by
  rw [← List.singleton_append, additions, additions, additions]
  simp only [List.countP_append]
  omega

theorem Grows.count {keys : Nat} (grows : t.Grows as keys u) :
    u.count = t.count + additions as := by
  have columns := grows.columns.size
  have indexes := grows.indexes.size
  have constraints := grows.constraints.size
  rw [TableState.count, TableState.count, additions]
  omega

/-- A step that goes through in spite of a clash loses an element. -/
theorem count_of_clash (clash : a.Clashes t) (done : t.alter table a = .ok u) :
    u.count < t.count + additions [a] := by
  -- A rename that clashes loses an element, and an addition that clashes adds none.
  cases a with
  | addColumn c => exact absurd clash (alter_addColumn_iff.mp done).1
  | renameColumn source target =>
    obtain ⟨c, found, rfl⟩ := alter_renameColumn_iff.mp done
    have fewer := Keyed.size_rename_taken (Keyed.mem_keys_of_get? found) clash.1 clash.2
      (c.renamed target)
    have none : additions [.renameColumn source target] = 0 := rfl
    simp only [count, none]
    omega
  | addIndex i =>
    obtain rfl := alter_addIndex_iff.mp done
    have same := Keyed.size_insert_of_mem (v := i) clash
    have one : additions [.addIndex i] = 1 := rfl
    simp only [count, one]
    omega
  | renameIndex source target =>
    obtain ⟨i, found, rfl⟩ := alter_renameIndex_iff.mp done
    have fewer := Keyed.size_rename_taken (Keyed.mem_keys_of_get? found) clash.1 clash.2
      (i.renamed target)
    have none : additions [.renameIndex source target] = 0 := rfl
    simp only [count, none]
    omega
  | addConstraint c =>
    obtain rfl := alter_addConstraint_iff.mp done
    have same := Keyed.size_insert_of_mem (v := c.text) clash
    have one : additions [.addConstraint c] = 1 := rfl
    simp only [count, addConstraint, one]
    omega
  | changeColumn c => exact clash.elim
  | removeColumn name => exact clash.elim
  | removeIndex name => exact clash.elim
  | removeConstraint kind name => exact clash.elim

theorem count_alter_le (constructive : a.Constructive) (done : t.alter table a = .ok u) :
    u.count ≤ t.count + additions [a] := by
  by_cases clash : a.Clashes t
  · exact Nat.le_of_lt (count_of_clash clash done)
  · exact Nat.le_of_eq (grows_alter constructive done clash).count

/- Blocks. -/

theorem replay_cons_done (done : replayAll (applyAlteration table) t (a :: as) = ⟨w, none⟩) :
    ∃ u, t.alter table a = .ok u ∧ replayAll (applyAlteration table) u as = ⟨w, none⟩ := by
  rw [replayAll, applyAlteration] at done
  cases step : t.alter table a with
  | ok u => exact ⟨u, rfl, by rwa [step] at done⟩
  | error c =>
    rw [step] at done
    exact absurd (congrArg Replayed.conflict done) (Option.some_ne_none c)

theorem grows_block (constructive : ∀ a ∈ as, a.Constructive)
    (done : replayAll (applyAlteration table) t as = ⟨w, none⟩)
    (free : ¬ Alteration.SomeClashes table t as) : t.Grows as 0 w := by
  induction as generalizing t with
  | nil =>
    obtain rfl : t = w := congrArg Replayed.state done
    exact .refl t
  | cons a as ih =>
    rw [List.forall_mem_cons] at constructive
    obtain ⟨u, first, rest⟩ := replay_cons_done done
    rw [Alteration.SomeClashes, not_or] at free
    have later := ih constructive.2 rest fun clash => free.2 ⟨u, first, clash⟩
    exact (grows_alter constructive.1 first free.1).trans later

theorem count_block_le (constructive : ∀ a ∈ as, a.Constructive)
    (done : replayAll (applyAlteration table) t as = ⟨w, none⟩) :
    w.count ≤ t.count + additions as := by
  induction as generalizing t with
  | nil =>
    obtain rfl : t = w := congrArg Replayed.state done
    exact Nat.le_add_right ..
  | cons a as ih =>
    rw [List.forall_mem_cons] at constructive
    obtain ⟨u, first, rest⟩ := replay_cons_done done
    have here := count_alter_le constructive.1 first
    have later := ih constructive.2 rest
    rw [additions_cons]
    omega

theorem count_block_of_clash (constructive : ∀ a ∈ as, a.Constructive)
    (done : replayAll (applyAlteration table) t as = ⟨w, none⟩)
    (clash : Alteration.SomeClashes table t as) : w.count < t.count + additions as := by
  induction as generalizing t with
  | nil => exact clash.elim
  | cons a as ih =>
    rw [List.forall_mem_cons] at constructive
    obtain ⟨u, first, rest⟩ := replay_cons_done done
    rw [additions_cons]
    -- What the clash loses, the members after it cannot make up for.
    rcases clash with here | ⟨u', first', later⟩
    · have lost := count_of_clash here first
      have most := count_block_le constructive.2 rest
      omega
    · obtain rfl : u' = u := Except.ok.inj (first'.symm.trans first)
      have most := count_alter_le constructive.1 first
      have lost := ih constructive.2 rest later
      omega

theorem grows_block_iff (constructive : ∀ a ∈ as, a.Constructive)
    (done : replayAll (applyAlteration table) t as = ⟨w, none⟩) :
    t.Grows as 0 w ↔ ¬ Alteration.SomeClashes table t as :=
  ⟨fun grows clash =>
    absurd grows.count (Nat.ne_of_lt (count_block_of_clash constructive done clash)),
    grows_block constructive done⟩

theorem grows_addForeignKey_iff (k : ForeignKey) :
    t.Grows [] 1 { t with foreignKeys := t.foreignKeys.insert k.name k } ↔
      k.name ∉ t.foreignKeys.keys := by
  refine ⟨fun grows taken => ?_, fun fresh => { Grows.refl t with foreignKeys := .insert fresh k }⟩
  have more := grows.foreignKeys.size
  rw [Keyed.size_insert_of_mem taken] at more
  omega

end TableState

end SchemaEvolution
