import SchemaEvolution.Proofs.Schema.Visits

/-! What an operation depends on and what it changes: the tables that it touches, and of the
   table that a foreign key points to no more than that it is there. Operations that keep out
   of each other's way may change places. -/
namespace SchemaEvolution

namespace Operation

/-- The tables that an operation looks into, and that alone it changes. -/
def touched : Operation → List String
  | renameTable source target => [source, target]
  | op => [op.table]

def target? : Operation → Option String
  | addForeignKey _ k => some k.toTable
  | _ => none

def isVisit : Operation → Bool
  | createTable _ => false
  | renameTable _ _ => false
  | dropTable _ => false
  | _ => true

/-- Neither operation sees anything of what the other one does. -/
structure Independent (x y : Operation) : Prop where
  apart : ∀ n ∈ x.touched, n ∉ y.touched
  left : x.isVisit = true ∨ ∀ n ∈ y.target?, n ∉ x.touched
  right : y.isVisit = true ∨ ∀ n ∈ x.target?, n ∉ y.touched

theorem Independent.symm {x y : Operation} (free : Independent x y) : Independent y x :=
  ⟨fun n right left => free.apart n left right, free.right, free.left⟩

end Operation

namespace Schema

/-- The same tables, in whatever order. -/
def Same (s s' : Schema) : Prop := ∀ n, s.table? n = s'.table? n

variable {s s' t : Schema} {op x y : Operation} {n name : String}
  {f : TableState → Replayed TableState}

theorem Same.refl (s : Schema) : Same s s := fun _ => rfl

theorem Same.trans {u : Schema} (first : Same s t) (second : Same t u) : Same s u :=
  fun n => (first n).trans (second n)

theorem Same.hasTable (same : Same s s') (n : String) : s.hasTable n = s'.hasTable n :=
  congrArg Option.isSome (same n)

/- When an operation goes through, and what it leaves. -/

theorem hasTable_eq_false_iff : s.hasTable n = false ↔ s.table? n = none := by
  rw [← Option.not_isSome_iff_eq_none, ← Bool.not_eq_true]
  rfl

theorem onTable_done_iff :
    s.onTable name f = ⟨t, none⟩ ↔
      ∃ u, s.table? name = some u ∧ (f u).conflict = none ∧ t = s.withTable name (f u).state := by
  cases found : s.table? name with
  | none => simp [onTable_missing found]
  | some u => simp [onTable_found found, and_comm, eq_comm]

theorem createTable_done_iff {create : CreateTable} :
    s.apply (.createTable create) = ⟨t, none⟩ ↔
      s.table? create.name = none ∧ t = s.withTable create.name (.ofCreateTable create) := by
  rw [← hasTable_eq_false_iff]
  cases taken : s.hasTable create.name with
  | true => simp [apply_createTable_taken taken]
  | false => simp [apply_createTable_free taken, eq_comm]

theorem renameTable_done_iff {source target : String} :
    s.apply (.renameTable source target) = ⟨t, none⟩ ↔
      s.table? target = none ∧ ∃ u, s.table? source = some u ∧
        t = ⟨(s.tables.erase source).insert target u⟩ := by
  rw [← hasTable_eq_false_iff, apply]
  cases s.hasTable target with
  | true => simp
  | false => cases s.table? source <;> simp [eq_comm]

theorem dropTable_done_iff :
    s.apply (.dropTable name) = ⟨t, none⟩ ↔
      s.hasTable name = true ∧ t = ⟨s.tables.erase name⟩ := by
  rw [apply]
  cases s.hasTable name <;> simp [eq_comm]

theorem exists_visit (visit : op.isVisit = true) :
    op.touched = [op.table] ∧ ∃ f, ∀ s t : Schema, s.apply op = ⟨t, none⟩ ↔
      (∀ n ∈ op.target?, s.hasTable n = true) ∧ s.onTable op.table f = ⟨t, none⟩ := by
  have unasked {f : TableState → Replayed TableState} (none : op.target? = none)
      (same : ∀ s : Schema, s.apply op = s.onTable op.table f) (s t : Schema) :
      s.apply op = ⟨t, .none⟩ ↔
        (∀ n ∈ op.target?, s.hasTable n = true) ∧ s.onTable op.table f = ⟨t, .none⟩ := by
    simp [none, same]
  cases op with
  | createTable create => contradiction
  | renameTable source target => contradiction
  | dropTable name => contradiction
  | addForeignKey table k =>
    let add (t : TableState) : Replayed TableState :=
      ⟨{ t with foreignKeys := t.foreignKeys.insert k.name k }, none⟩
    refine ⟨rfl, add, fun s t => ?_⟩
    simp only [apply, Operation.target?, Option.mem_def, Option.some.injEq, forall_eq']
    split
    next present => exact (and_iff_right present).symm
    next absent => simp [absent]
  | changeTable table as => exact ⟨rfl, _, unasked rfl fun _ => rfl⟩
  | alter table a => exact ⟨rfl, _, unasked rfl fun _ => rfl⟩
  | removeForeignKey table key => exact ⟨rfl, _, unasked rfl fun _ => rfl⟩
  | changeTableOptions table options => exact ⟨rfl, _, unasked rfl fun _ => rfl⟩
  | changeTableComment table comment => exact ⟨rfl, _, unasked rfl fun _ => rfl⟩

/- The footprint of an operation. -/

theorem table?_withTable (u : TableState) (n : String) :
    (s.withTable name u).table? n = if n = name then some u else s.table? n :=
  Keyed.get?_insert ..

theorem table?_renamed {source target : String} (u : TableState) (n : String) :
    table? ⟨(s.tables.erase source).insert target u⟩ n =
      if n = target then some u else if n = source then none else s.table? n := by
  rw [table?, Keyed.get?_insert, Keyed.get?_erase]
  rfl

theorem table?_dropped (n : String) :
    table? ⟨s.tables.erase name⟩ n = if n = name then none else s.table? n :=
  Keyed.get?_erase ..

theorem apply_elsewhere (done : s.apply op = ⟨t, none⟩) (other : n ∉ op.touched) :
    t.table? n = s.table? n := by
  cases visit : op.isVisit with
  | true =>
    obtain ⟨touched, f, done_iff⟩ := exists_visit visit
    obtain ⟨_, _, _, rfl⟩ := onTable_done_iff.mp ((done_iff s t).mp done).2
    rw [touched, List.mem_singleton] at other
    rw [table?_withTable, if_neg other]
  | false =>
    cases op with
    | createTable create =>
      obtain ⟨_, rfl⟩ := createTable_done_iff.mp done
      have other : n ≠ create.name := List.mem_singleton.not.mp other
      rw [table?_withTable, if_neg other]
    | renameTable source target =>
      obtain ⟨_, u, _, rfl⟩ := renameTable_done_iff.mp done
      have other : n ≠ source ∧ n ≠ target := by simpa [Operation.touched] using other
      rw [table?_renamed, if_neg other.2, if_neg other.1]
    | dropTable name =>
      obtain ⟨_, rfl⟩ := dropTable_done_iff.mp done
      have other : n ≠ name := List.mem_singleton.not.mp other
      rw [table?_dropped, if_neg other]
    | _ => contradiction

/-- An operation does the same to schemas that agree on its footprint. -/
theorem apply_local (agree : ∀ n ∈ op.touched, s.table? n = s'.table? n)
    (present : ∀ n ∈ op.target?, s.hasTable n = s'.hasTable n) (done : s.apply op = ⟨t, none⟩) :
    ∃ t', s'.apply op = ⟨t', none⟩ ∧ ∀ n ∈ op.touched, t.table? n = t'.table? n := by
  -- A visit reads and writes one table. The three other operations are done one by one.
  cases visit : op.isVisit with
  | true =>
    obtain ⟨touched, f, done_iff⟩ := exists_visit visit
    obtain ⟨asked, visited⟩ := (done_iff s t).mp done
    obtain ⟨u, found, fine, rfl⟩ := onTable_done_iff.mp visited
    have there : ∀ n ∈ op.target?, s'.hasTable n = true := fun n member =>
      (present n member).symm.trans (asked n member)
    have found' : s'.table? op.table = some u := by
      rw [← agree op.table (touched ▸ List.mem_singleton_self _), found]
    have visited' := onTable_done_iff.mpr ⟨u, found', fine, rfl⟩
    refine ⟨_, (done_iff s' _).mpr ⟨there, visited'⟩, fun n member => ?_⟩
    rw [table?_withTable, table?_withTable, agree n member]
  | false =>
    cases op with
    | createTable create =>
      obtain ⟨free, rfl⟩ := createTable_done_iff.mp done
      have free' : s'.table? create.name = none := by
        rw [← agree create.name (List.mem_singleton_self _), free]
      refine ⟨_, createTable_done_iff.mpr ⟨free', rfl⟩, fun n member => ?_⟩
      rw [table?_withTable, table?_withTable, agree n member]
    | renameTable source target =>
      obtain ⟨free, u, found, rfl⟩ := renameTable_done_iff.mp done
      have free' : s'.table? target = none := by
        rw [← agree target (by simp [Operation.touched]), free]
      have found' : s'.table? source = some u := by
        rw [← agree source (by simp [Operation.touched]), found]
      refine ⟨_, renameTable_done_iff.mpr ⟨free', u, found', rfl⟩, fun n member => ?_⟩
      rw [table?_renamed, table?_renamed, agree n member]
    | dropTable name =>
      obtain ⟨there, rfl⟩ := dropTable_done_iff.mp done
      have there' : s'.hasTable name = true := by
        have same : s.hasTable name = s'.hasTable name :=
          congrArg Option.isSome (agree name (List.mem_singleton_self _))
        rw [← same, there]
      refine ⟨_, dropTable_done_iff.mpr ⟨there', rfl⟩, fun n member => ?_⟩
      rw [table?_dropped, table?_dropped, agree n member]
    | _ => contradiction

theorem hasTable_of_visit (visit : op.isVisit = true) (done : s.apply op = ⟨t, none⟩)
    (n : String) : t.hasTable n = s.hasTable n := by
  obtain ⟨_, f, done_iff⟩ := exists_visit visit
  obtain ⟨u, found, _, rfl⟩ := onTable_done_iff.mp ((done_iff s t).mp done).2
  have keys := keys_withTable (f u).state found
  rw [Bool.eq_iff_iff, hasTable_iff, hasTable_iff, keys]

/- Changing places. -/

/-- Wherever the first operations go through, so do the second ones, to the same tables. -/
def Follows (ops ops' : List Operation) : Prop :=
  ∀ s s' t : Schema, Same s s' → s.replay ops = ⟨t, none⟩ →
    ∃ t', s'.replay ops' = ⟨t', none⟩ ∧ Same t t'

theorem replay_cons_done_iff {ops : List Operation} :
    s.replay (op :: ops) = ⟨t, none⟩ ↔
      ∃ u, s.apply op = ⟨u, none⟩ ∧ u.replay ops = ⟨t, none⟩ := by
  rw [replay_cons]
  rcases s.apply op with ⟨u, _ | c⟩ <;> simp

theorem replay_append_done_iff {a b : List Operation} :
    s.replay (a ++ b) = ⟨t, none⟩ ↔ ∃ u, s.replay a = ⟨u, none⟩ ∧ u.replay b = ⟨t, none⟩ := by
  rw [replay_append]
  rcases s.replay a with ⟨u, _ | c⟩ <;> simp

theorem Same.apply (same : Same s s') (done : s.apply op = ⟨t, none⟩) :
    ∃ t', s'.apply op = ⟨t', none⟩ ∧ Same t t' := by
  obtain ⟨t', done', agree⟩ := apply_local (fun n _ => same n) (fun n _ => same.hasTable n) done
  refine ⟨t', done', fun n => ?_⟩
  by_cases touched : n ∈ op.touched
  · exact agree n touched
  · rw [apply_elsewhere done touched, apply_elsewhere done' touched, same n]

theorem hasTable_independent (free : x.Independent y) (done : s.apply x = ⟨t, none⟩) :
    ∀ n ∈ y.target?, t.hasTable n = s.hasTable n := by
  intro n asked
  rcases free.left with visit | spared
  · exact hasTable_of_visit visit done n
  · exact congrArg Option.isSome (apply_elsewhere done (spared n asked))

namespace Follows

variable {a a' b b' c : List Operation}

theorem refl (ops : List Operation) : Follows ops ops := by
  intro s s' t same done
  induction ops generalizing s s' with
  | nil =>
    obtain rfl : s = t := congrArg Replayed.state done
    exact ⟨s', rfl, same⟩
  | cons op ops ih =>
    obtain ⟨u, first, rest⟩ := replay_cons_done_iff.mp done
    obtain ⟨u', first', same'⟩ := same.apply first
    obtain ⟨t', rest', left⟩ := ih u u' same' rest
    exact ⟨t', replay_cons_done_iff.mpr ⟨u', first', rest'⟩, left⟩

theorem trans (first : Follows a b) (second : Follows b c) : Follows a c := by
  intro s s' t same done
  obtain ⟨u, done', left⟩ := first s s' t same done
  obtain ⟨v, done'', left'⟩ := second s' s' u (.refl s') done'
  exact ⟨v, done'', left.trans left'⟩

theorem append (first : Follows a a') (second : Follows b b') : Follows (a ++ b) (a' ++ b') := by
  intro s s' t same done
  obtain ⟨u, one, two⟩ := replay_append_done_iff.mp done
  obtain ⟨u', one', same'⟩ := first s s' u same one
  obtain ⟨t', two', left⟩ := second u u' t same' two
  exact ⟨t', replay_append_done_iff.mpr ⟨u', one', two'⟩, left⟩

/-- The second operation finds its footprint as it is without the first one, and the first
    one finds its own as it was. -/
theorem swap (free : x.Independent y) : Follows [x, y] [y, x] := by
  intro s s' t same done
  obtain ⟨u, first, rest⟩ := replay_cons_done_iff.mp done
  rw [replay_singleton] at rest
  -- Each operation finds its footprint as it was before the other one, and does the same there.
  have agree : ∀ n ∈ y.touched, u.table? n = s'.table? n := fun n right => by
    rw [apply_elsewhere first fun left => free.apart n left right, same n]
  have present : ∀ n ∈ y.target?, u.hasTable n = s'.hasTable n := fun n asked => by
    rw [hasTable_independent free first n asked, same.hasTable n]
  obtain ⟨u', first', right⟩ := apply_local agree present rest
  have agree' : ∀ n ∈ x.touched, s.table? n = u'.table? n := fun n left => by
    rw [apply_elsewhere first' (free.apart n left), same n]
  have present' : ∀ n ∈ x.target?, s.hasTable n = u'.hasTable n := fun n asked => by
    rw [hasTable_independent free.symm first' n asked, same.hasTable n]
  obtain ⟨t', rest', left⟩ := apply_local agree' present' first
  have done' := replay_cons_done_iff.mpr ⟨u', first', (replay_singleton u' x).trans rest'⟩
  refine ⟨t', done', fun n => ?_⟩
  by_cases inLeft : n ∈ x.touched
  · rw [apply_elsewhere rest (free.apart n inLeft), left n inLeft]
  · by_cases inRight : n ∈ y.touched
    · rw [right n inRight, apply_elsewhere rest' inLeft]
    · rw [apply_elsewhere rest inRight, apply_elsewhere first inLeft, same n,
        apply_elsewhere rest' inLeft, apply_elsewhere first' inRight]

theorem pass (free : ∀ y ∈ b, x.Independent y) : Follows (x :: b) (b ++ [x]) := by
  induction b with
  | nil => exact refl [x]
  | cons y b ih =>
    rw [List.forall_mem_cons] at free
    have first : Follows ([x, y] ++ b) ([y, x] ++ b) := (swap free.1).append (refl b)
    have rest : Follows ([y] ++ (x :: b)) ([y] ++ (b ++ [x])) := (refl [y]).append (ih free.2)
    exact first.trans rest

theorem swap_lists (free : ∀ x ∈ a, ∀ y ∈ b, x.Independent y) : Follows (a ++ b) (b ++ a) := by
  induction a with
  | nil =>
    rw [List.append_nil]
    exact refl b
  | cons x a ih =>
    rw [List.forall_mem_cons] at free
    have rest : Follows ([x] ++ (a ++ b)) ([x] ++ (b ++ a)) := (refl [x]).append (ih free.2)
    have first : Follows ((x :: b) ++ a) ((b ++ [x]) ++ a) := (pass free.1).append (refl a)
    rw [List.append_assoc] at first
    exact rest.trans first

/-- Groups of operations that are independent of one another may come in any order. -/
theorem of_perm {f : α → List Operation} {es es' : List α} (perm : es.Perm es')
    (free : es.Pairwise fun e e' => ∀ x ∈ f e, ∀ y ∈ f e', x.Independent y) :
    Follows (es.flatMap f) (es'.flatMap f) := by
  induction perm with
  | nil => exact refl []
  | cons e _ ih =>
    rw [List.flatMap_cons, List.flatMap_cons]
    exact (refl (f e)).append (ih (List.pairwise_cons.mp free).2)
  | swap e e' es =>
    simp only [List.flatMap_cons, ← List.append_assoc]
    have pair := (List.pairwise_cons.mp free).1 e List.mem_cons_self
    exact (swap_lists pair).append (refl _)
  | trans first _ ih ih' =>
    have free' := first.pairwise free fun pair x left y right => (pair y right x left).symm
    exact (ih free).trans (ih' free')

end Follows

end Schema

end SchemaEvolution
