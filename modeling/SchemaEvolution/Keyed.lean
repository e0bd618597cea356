/-! Finite maps from names to values that remember the order of first insertion.
   Writing to a present name keeps its place; erasing closes the gap. The names
   are distinct by construction, so a look-up has at most one answer. -/
namespace SchemaEvolution

structure Keyed (α : Type u) where
  entries : List (String × α)
  distinct : (entries.map Prod.fst).Nodup

namespace Keyed

variable {α : Type u} {β : Type v}

instance [DecidableEq α] : DecidableEq (Keyed α) := fun a b =>
  if same : a.entries = b.entries then
    .isTrue (by cases a; cases b; simp_all)
  else .isFalse (fun h => same (by rw [h]))

def empty : Keyed α := ⟨[], List.nodup_nil⟩

instance : Inhabited (Keyed α) := ⟨empty⟩
instance : EmptyCollection (Keyed α) := ⟨empty⟩

def keys (m : Keyed α) : List String := m.entries.map Prod.fst
def values (m : Keyed α) : List α := m.entries.map Prod.snd
def size (m : Keyed α) : Nat := m.entries.length
def isEmpty (m : Keyed α) : Bool := m.entries.isEmpty

def lookup (key : String) : List (String × α) → Option α
  | [] => none
  | (k, v) :: rest => if k = key then some v else lookup key rest

def get? (m : Keyed α) (key : String) : Option α := lookup key m.entries
def contains (m : Keyed α) (key : String) : Bool := (m.get? key).isSome

theorem eq_of_entries {a b : Keyed α} (same : a.entries = b.entries) : a = b := by
  cases a; cases b; simp_all

/-- Replaces the value of a present name where it stands, or adds a last entry. -/
def put (key : String) (value : α) : List (String × α) → List (String × α)
  | [] => [(key, value)]
  | (k, v) :: rest => if k = key then (key, value) :: rest else (k, v) :: put key value rest

theorem mem_keys_put {key k : String} {value : α} {es : List (String × α)} :
    k ∈ (put key value es).map Prod.fst ↔ k = key ∨ k ∈ es.map Prod.fst := by
  induction es with
  | nil => simp [put]
  | cons e es ih =>
    obtain ⟨j, w⟩ := e
    by_cases same : j = key
    · simp [put, same]
    · simp only [put, if_neg same, List.map_cons, List.mem_cons, ih]
      constructor
      · rintro (h | h | h) <;> simp [h]
      · rintro (h | h | h) <;> simp [h]

theorem put_distinct {key : String} {value : α} {es : List (String × α)}
    (distinct : (es.map Prod.fst).Nodup) : ((put key value es).map Prod.fst).Nodup := by
  induction es with
  | nil => simp [put]
  | cons e es ih =>
    obtain ⟨j, w⟩ := e
    simp only [List.map_cons, List.nodup_cons] at distinct
    by_cases same : j = key
    · subst same
      simpa [put] using distinct
    · simp only [put, if_neg same, List.map_cons, List.nodup_cons]
      refine ⟨fun h => ?_, ih distinct.2⟩
      rcases mem_keys_put.1 h with h | h
      · exact same h
      · exact distinct.1 h

def insert (m : Keyed α) (key : String) (value : α) : Keyed α :=
  ⟨put key value m.entries, put_distinct m.distinct⟩

def filter (keep : String → α → Bool) (m : Keyed α) : Keyed α where
  entries := m.entries.filter fun e => keep e.1 e.2
  distinct := m.distinct.sublist (List.filter_sublist.map Prod.fst)

def erase (m : Keyed α) (key : String) : Keyed α := m.filter fun k _ => k != key

def mapWithKey (f : String → α → β) (m : Keyed α) : Keyed β where
  entries := m.entries.map fun e => (e.1, f e.1 e.2)
  distinct := by simpa [Function.comp_def] using m.distinct

def map (f : α → β) (m : Keyed α) : Keyed β := m.mapWithKey fun _ v => f v

def modify (m : Keyed α) (key : String) (f : α → α) : Keyed α :=
  m.mapWithKey fun k v => if k = key then f v else v

/-- Reads a list from left to right: of two equal names the later value wins, at
   the place of the first. -/
def ofList (es : List (String × α)) : Keyed α :=
  es.foldl (fun m e => m.insert e.1 e.2) empty

def agrees (same : α → α → Bool) (a b : Keyed α) : Bool :=
  a.size == b.size && a.entries.all fun e =>
    match b.get? e.1 with
    | some v => same e.2 v
    | none => false

theorem keys_nodup (m : Keyed α) : m.keys.Nodup := m.distinct

theorem lookup_put {key k : String} {value : α} {es : List (String × α)} :
    lookup k (put key value es) = if k = key then some value else lookup k es := by
  induction es with
  | nil => simp [put, lookup, eq_comm]
  | cons e es ih => grind [put, lookup]

theorem get?_insert (m : Keyed α) (key k : String) (value : α) :
    (m.insert key value).get? k = if k = key then some value else m.get? k := lookup_put

theorem put_eq_append {key : String} {value : α} {es : List (String × α)}
    (fresh : key ∉ es.map Prod.fst) : put key value es = es ++ [(key, value)] := by
  induction es with
  | nil => rfl
  | cons e es ih =>
    obtain ⟨j, w⟩ := e
    simp only [List.map_cons, List.mem_cons, not_or] at fresh
    simp [put, Ne.symm fresh.1, ih fresh.2]

theorem lookup_filter_ne {key k : String} {es : List (String × α)} :
    lookup k (es.filter fun e => e.1 != key) = if k = key then none else lookup k es := by
  induction es with
  | nil => simp [lookup]
  | cons e es ih => grind [lookup]

theorem get?_erase (m : Keyed α) (key k : String) :
    (m.erase key).get? k = if k = key then none else m.get? k := lookup_filter_ne

end Keyed

end SchemaEvolution
