import SchemaEvolution.Proofs.Schema.Growth

/-! Operations that add and rename. Creating a table, renaming one and adding a column look
   for the name first; the others write over an element that has it. -/
namespace SchemaEvolution

namespace Operation

def Constructive : Operation → Prop
  | createTable _ | renameTable _ _ | addForeignKey _ _ => True
  | changeTable _ as => ∀ a ∈ as, a.Constructive
  | alter _ a => a.Constructive
  | _ => False

/-- The name that is taken belongs to another table, or to another element of the table. -/
def Clashes (s : Schema) : Operation → Prop
  | createTable create => create.name ∈ s.tables.keys
  | renameTable _ target => target ∈ s.tables.keys
  | changeTable table as => ∃ t, s.table? table = some t ∧ Alteration.SomeClashes table t as
  | alter table a => ∃ t, s.table? table = some t ∧ a.Clashes t
  | addForeignKey table k => ∃ t, s.table? table = some t ∧ k.name ∈ t.foreignKeys.keys
  | _ => False

/-- Operations that look for a clash before they do anything. -/
def ChecksName : Operation → Prop
  | createTable _ | renameTable _ _ | alter _ (.addColumn _) => True
  | _ => False

def nameAfter (name : String) : Operation → String
  | renameTable source target => if name = source then target else name
  | _ => name

def alterationsOf (name : String) : Operation → List Alteration
  | changeTable table as => if name = table then as else []
  | alter table a => if name = table then [a] else []
  | _ => []

def keysFor (name : String) : Operation → Nat
  | addForeignKey table _ => if name = table then 1 else 0
  | _ => 0

def tablesAdded : Operation → Nat
  | createTable _ => 1
  | _ => 0

end Operation

namespace Schema

variable {s : Schema} {op : Operation}

/-- From `s` to `u` nothing is lost: every table is there, a renamed one under its new name,
    each with all that the operation does not rename as it was; and the numbers of tables and
    of elements have grown by the additions. -/
structure Grows (op : Operation) (s u : Schema) : Prop where
  tables : ∀ name t, s.table? name = some t →
    ∃ t', u.table? (op.nameAfter name) = some t' ∧
      t.Grows (op.alterationsOf name) (op.keysFor name) t'
  size : u.tables.size = s.tables.size + op.tablesAdded

theorem grows_onTable_iff (op : Operation) {table : String} {t : TableState}
    {f : TableState → Replayed TableState} (found : s.table? table = some t)
    (stays : ∀ name, op.nameAfter name = name) (whole : op.tablesAdded = 0)
    (others : ∀ name, name ≠ table → op.alterationsOf name = [] ∧ op.keysFor name = 0) :
    s.Grows op (s.onTable table f).state ↔
      t.Grows (op.alterationsOf table) (op.keysFor table) (f t).state := by
  constructor
  · intro grows
    obtain ⟨t', held, there⟩ := grows.tables table t found
    rw [stays, table?_onTable, if_pos rfl, found] at held
    obtain rfl : (f t).state = t' := Option.some.inj held
    exact there
  · refine fun there => ⟨fun name t' held => ?_, ?_⟩
    · rw [stays, table?_onTable]
      by_cases same : name = table
      · subst same
        obtain rfl : t = t' := Option.some.inj (found.symm.trans held)
        exact ⟨(f t).state, by rw [if_pos rfl, found]; rfl, there⟩
      · rw [if_neg same, (others name same).1, (others name same).2]
        exact ⟨t', held, .refl t'⟩
    · rw [Keyed.size_eq_length_keys, Keyed.size_eq_length_keys, keys_onTable, whole]
      rfl

theorem exists_of_onTable {table : String} {f : TableState → Replayed TableState}
    (accepted : (s.onTable table f).conflict = none) :
    ∃ t, s.table? table = some t ∧ (f t).conflict = none := by
  cases found : s.table? table with
  | none =>
    rw [onTable_missing found] at accepted
    exact absurd accepted (Option.some_ne_none _)
  | some t =>
    rw [onTable_found found] at accepted
    exact ⟨t, rfl, accepted⟩

theorem clashes_iff_of_found {table : String} {t : TableState} {p : TableState → Prop}
    (found : s.table? table = some t) : (∃ t, s.table? table = some t ∧ p t) ↔ p t := by
  rw [found]
  exact ⟨fun ⟨t', same, holds⟩ => Option.some.inj same ▸ holds, fun holds => ⟨t, rfl, holds⟩⟩

theorem grows_changeTable_iff {table : String} {as : List Alteration}
    (constructive : ∀ a ∈ as, a.Constructive)
    (accepted : (s.apply (.changeTable table as)).conflict = none) :
    s.Grows (.changeTable table as) (s.apply (.changeTable table as)).state ↔
      ¬ (Operation.changeTable table as).Clashes s := by
  obtain ⟨t, found, through⟩ := exists_of_onTable accepted
  have visit := grows_onTable_iff (.changeTable table as)
    (f := fun t => replayAll (TableState.applyAlteration table) t as) found (fun _ => rfl) rfl
    fun name other => ⟨if_neg other, rfl⟩
  rw [Operation.Clashes, clashes_iff_of_found found]
  refine visit.trans ?_
  simp only [Operation.alterationsOf, Operation.keysFor, if_pos]
  exact TableState.grows_block_iff constructive (congrArg (Replayed.mk _) through)

theorem grows_alter_iff {table : String} {a : Alteration} (constructive : a.Constructive)
    (accepted : (s.apply (.alter table a)).conflict = none) :
    s.Grows (.alter table a) (s.apply (.alter table a)).state ↔
      ¬ (Operation.alter table a).Clashes s := by
  have block : s.apply (.alter table a) = s.apply (.changeTable table [a]) := by
    simp only [apply, replayAll, Replayed.andThen_idle]
  have grows (u : Schema) : s.Grows (.alter table a) u ↔ s.Grows (.changeTable table [a]) u :=
    ⟨fun grows => ⟨grows.tables, grows.size⟩, fun grows => ⟨grows.tables, grows.size⟩⟩
  have clashes : (Operation.alter table a).Clashes s ↔
      (Operation.changeTable table [a]).Clashes s := by
    simp [Operation.Clashes, Alteration.SomeClashes]
  rw [block, grows, clashes]
  exact grows_changeTable_iff (List.forall_mem_singleton.mpr constructive) (block ▸ accepted)

theorem grows_keyAdded_iff {table : String} {k : ForeignKey}
    (accepted : (s.apply (.addForeignKey table k)).conflict = none) :
    s.Grows (.addForeignKey table k) (s.apply (.addForeignKey table k)).state ↔
      ¬ (Operation.addForeignKey table k).Clashes s := by
  simp only [apply] at accepted ⊢
  split at accepted
  case isTrue present =>
    obtain ⟨t, found, _⟩ := exists_of_onTable accepted
    have visit := grows_onTable_iff (.addForeignKey table k) found (fun _ => rfl) rfl
      (f := fun t => ⟨{ t with foreignKeys := t.foreignKeys.insert k.name k }, none⟩)
      fun name other => ⟨rfl, if_neg other⟩
    rw [if_pos present, Operation.Clashes, clashes_iff_of_found found]
    refine visit.trans ?_
    simp only [Operation.alterationsOf, Operation.keysFor, if_pos]
    exact TableState.grows_addForeignKey_iff k
  case isFalse => exact absurd accepted (Option.some_ne_none _)

theorem grows_created {create : CreateTable} (free : create.name ∉ s.tables.keys) :
    s.Grows (.createTable create) (s.withTable create.name (.ofCreateTable create)) where
  tables name t found := by
    have other : name ≠ create.name := fun same => free (same ▸ Keyed.mem_keys_of_get? found)
    exact ⟨t, (table?_withTable_of_ne _ other).trans found, .refl t⟩
  size := Keyed.size_insert_of_not_mem free

theorem grows_renamed {source target : String} {moved : TableState}
    (found : s.table? source = some moved) (free : target ∉ s.tables.keys) :
    s.Grows (.renameTable source target) ⟨(s.tables.erase source).insert target moved⟩ where
  tables name t held := by
    refine ⟨t, ?_, .refl t⟩
    rw [table?, Operation.nameAfter, Keyed.get?_insert]
    by_cases same : name = source
    · subst same
      rw [if_pos rfl, if_pos rfl]
      exact found.symm.trans held
    · have other : name ≠ target := fun met => free (met ▸ Keyed.mem_keys_of_get? held)
      rw [if_neg same, if_neg other, Keyed.get?_erase, if_neg same]
      exact held
  size := by
    have absent : target ∉ (s.tables.erase source).keys :=
      fun member => free (Keyed.mem_keys_erase.mp member).1
    rw [Keyed.size_insert_of_not_mem absent, Keyed.size_erase (Keyed.mem_keys_of_get? found)]
    rfl

theorem apply_grows_iff (constructive : op.Constructive) (accepted : (s.apply op).conflict = none) :
    s.Grows op (s.apply op).state ↔ ¬ op.Clashes s := by
  cases op with
  | createTable create =>
    simp only [apply] at accepted ⊢
    split at accepted
    case isTrue => exact absurd accepted (Option.some_ne_none _)
    case isFalse free =>
      rw [if_neg free]
      rw [hasTable_iff] at free
      exact iff_of_true (grows_created free) free
  | renameTable source target =>
    simp only [apply] at accepted ⊢
    split at accepted
    case isTrue => exact absurd accepted (Option.some_ne_none _)
    case isFalse free =>
      rw [if_neg free]
      rw [hasTable_iff] at free
      split at accepted
      case h_1 => exact absurd accepted (Option.some_ne_none _)
      case h_2 moved found =>
        exact iff_of_true (grows_renamed found free) free
  | changeTable table as => exact grows_changeTable_iff constructive accepted
  | alter table a => exact grows_alter_iff constructive accepted
  | addForeignKey table k => exact grows_keyAdded_iff accepted
  | dropTable name => exact constructive.elim
  | removeForeignKey table name => exact constructive.elim
  | changeTableOptions table options => exact constructive.elim
  | changeTableComment table comment => exact constructive.elim

/-- An operation that looks for a clash first leaves the schema as it was. -/
theorem refused_of_clash (checks : op.ChecksName) (clash : op.Clashes s) :
    (s.apply op).conflict ≠ none ∧ (s.apply op).state = s := by
  cases op with
  | createTable create =>
    rw [apply_createTable_taken (hasTable_iff.mpr clash)]
    exact ⟨Option.some_ne_none _, rfl⟩
  | renameTable source target =>
    rw [apply, if_pos (hasTable_iff.mpr clash)]
    exact ⟨Option.some_ne_none _, rfl⟩
  | alter table a =>
    cases a with
    | addColumn c =>
      obtain ⟨t, found, taken⟩ := clash
      have refused : t.alter table (.addColumn c) = .error (.columnExists table c.name) :=
        if_pos (Keyed.contains_iff.mpr taken)
      rw [apply, onTable_found found, TableState.applyAlteration, refused]
      exact ⟨Option.some_ne_none _, withTable_table? found⟩
    | _ => exact checks.elim
  | _ => exact checks.elim

/-- An addition or rename that goes through, on its own or a block of them, loses nothing if
    and only if no name that it takes belongs to another. Creating a table, renaming one and
    adding a column make sure of that: they refuse a name that is taken. -/
theorem grows_iff_no_clash (s : Schema) (op : Operation) (constructive : op.Constructive) :
    ((s.apply op).conflict = none → (s.Grows op (s.apply op).state ↔ ¬ op.Clashes s)) ∧
    (op.ChecksName → op.Clashes s → (s.apply op).conflict ≠ none ∧ (s.apply op).state = s) :=
  ⟨apply_grows_iff constructive, refused_of_clash⟩

end Schema

def guestBook : Schema where
  tables := .ofList [("guests", .ofColumns [("name", .string), ("nick", .text)])]

/-- The nickname goes by the name from then on, and the column of that name is gone. -/
theorem name_lost_in_guestBook :
    let op := Operation.alter "guests" (.renameColumn "nick" "name")
    op.Constructive ∧ (guestBook.apply op).conflict = none ∧
      ¬ guestBook.Grows op (guestBook.apply op).state := by
  intro op
  have constructive : op.Constructive := trivial
  have accepted : (guestBook.apply op).conflict = none := by decide
  have clash : op.Clashes guestBook :=
    ⟨.ofColumns [("name", .string), ("nick", .text)], rfl, by decide, by decide⟩
  have exact := (Schema.grows_iff_no_clash guestBook op constructive).1 accepted
  exact ⟨constructive, accepted, fun grows => exact.mp grows clash⟩

end SchemaEvolution
