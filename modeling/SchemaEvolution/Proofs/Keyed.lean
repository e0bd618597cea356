import Mathlib.Data.List.Basic
import SchemaEvolution.Keyed

/-! Laws of insertion-ordered maps: what a look-up finds after a map was written to,
   thinned out or renamed in, and how these steps pass each other. -/
namespace SchemaEvolution.Keyed

variable {α : Type u} {β : Type v}

theorem lookup_eq_none_iff {key : String} {es : List (String × α)} :
    lookup key es = none ↔ key ∉ es.map Prod.fst := by
  induction es with
  | nil => simp [lookup]
  | cons e es ih =>
    by_cases same : e.1 = key
    · simp [lookup, same]
    · simp [lookup, same, ih, Ne.symm same]

theorem lookup_of_mem {key : String} {v : α} {es : List (String × α)}
    (distinct : (es.map Prod.fst).Nodup) (member : (key, v) ∈ es) : lookup key es = some v := by
  induction es with
  | nil => simp at member
  | cons e es ih =>
    rw [List.map_cons, List.nodup_cons] at distinct
    rcases List.mem_cons.mp member with first | later
    · subst first
      simp [lookup]
    · have other : e.1 ≠ key := by
        intro same
        exact distinct.1 (same ▸ List.mem_map_of_mem later)
      simp [lookup, other, ih distinct.2 later]

theorem mem_of_lookup {key : String} {v : α} {es : List (String × α)}
    (found : lookup key es = some v) : (key, v) ∈ es := by
  induction es with
  | nil => simp [lookup] at found
  | cons e es ih =>
    by_cases same : e.1 = key
    · simp only [lookup, if_pos same, Option.some.injEq] at found
      simp [← same, ← found]
    · simp only [lookup, if_neg same] at found
      exact List.mem_cons_of_mem e (ih found)

theorem lookup_append {key : String} (es fs : List (String × α)) :
    lookup key (es ++ fs) = (lookup key es).or (lookup key fs) := by
  induction es with
  | nil => rfl
  | cons e es ih =>
    by_cases here : e.1 = key
    · simp [lookup, here]
    · simpa [lookup, here] using ih

theorem get?_eq_none_iff {m : Keyed α} {key : String} : m.get? key = none ↔ key ∉ m.keys :=
  lookup_eq_none_iff

theorem get?_of_mem {m : Keyed α} {key : String} {v : α} (member : (key, v) ∈ m.entries) :
    m.get? key = some v := lookup_of_mem m.distinct member

theorem mem_of_get? {m : Keyed α} {key : String} {v : α} (found : m.get? key = some v) :
    (key, v) ∈ m.entries := mem_of_lookup found

theorem perm_of_get? {m n : Keyed α} (same : ∀ key, m.get? key = n.get? key) :
    m.entries.Perm n.entries := by
  have distinct (m : Keyed α) : m.entries.Nodup :=
    List.Pairwise.of_map Prod.fst (fun _ _ other same => other (congrArg Prod.fst same)) m.distinct
  refine (List.perm_ext_iff_of_nodup (distinct m) (distinct n)).mpr fun e => ?_
  constructor
  · intro member
    exact mem_of_get? ((same e.1).symm.trans (get?_of_mem member))
  · intro member
    exact mem_of_get? ((same e.1).trans (get?_of_mem member))

theorem contains_iff {m : Keyed α} {key : String} : m.contains key = true ↔ key ∈ m.keys := by
  rw [contains, Option.isSome_iff_ne_none, ne_eq, get?_eq_none_iff, not_not]

theorem exists_get? {m : Keyed α} {key : String} (present : key ∈ m.keys) :
    ∃ v, m.get? key = some v :=
  Option.ne_none_iff_exists'.mp fun missing => get?_eq_none_iff.mp missing present

theorem mem_keys_of_get? {m : Keyed α} {key : String} {v : α} (found : m.get? key = some v) :
    key ∈ m.keys := List.mem_map_of_mem (mem_of_get? found)

/- Writing. -/

theorem put_put {key : String} {v w : α} {es : List (String × α)} :
    put key w (put key v es) = put key w es := by
  induction es with
  | nil => simp [put]
  | cons e es ih =>
    by_cases same : e.1 = key
    · simp [put, same]
    · simp [put, same, ih]

theorem mem_put {key : String} {v : α} {es : List (String × α)} {e : String × α}
    (member : e ∈ put key v es) : e = (key, v) ∨ e ∈ es := by
  induction es with
  | nil => exact .inl (List.mem_singleton.mp member)
  | cons x es ih =>
    by_cases same : x.1 = key
    · rw [put, if_pos same, List.mem_cons] at member
      exact member.imp_right (List.mem_cons_of_mem x)
    · rw [put, if_neg same, List.mem_cons] at member
      rcases member with first | later
      · exact .inr (first ▸ List.mem_cons_self)
      · exact (ih later).imp_right (List.mem_cons_of_mem x)

theorem put_lookup {key : String} {v : α} {es : List (String × α)}
    (found : lookup key es = some v) : put key v es = es := by
  induction es with
  | nil => simp [lookup] at found
  | cons e es ih =>
    obtain ⟨k, x⟩ := e
    by_cases same : k = key
    · simp only [lookup, if_pos same, Option.some.injEq] at found
      simp [put, same, found]
    · simp only [lookup, if_neg same] at found
      simp [put, same, ih found]

theorem insert_insert (m : Keyed α) (key : String) (v w : α) :
    (m.insert key v).insert key w = m.insert key w :=
  eq_of_entries put_put

theorem insert_get? {m : Keyed α} {key : String} {v : α} (found : m.get? key = some v) :
    m.insert key v = m :=
  eq_of_entries (put_lookup found)

@[simp] theorem get?_insert_self (m : Keyed α) (key : String) (v : α) :
    (m.insert key v).get? key = some v := by
  simp [get?_insert]

theorem mem_keys_insert {m : Keyed α} {key k : String} {v : α} :
    k ∈ (m.insert key v).keys ↔ k = key ∨ k ∈ m.keys := mem_keys_put

theorem keys_put {key : String} {v : α} {es : List (String × α)}
    (present : key ∈ es.map Prod.fst) : (put key v es).map Prod.fst = es.map Prod.fst := by
  induction es with
  | nil => simp at present
  | cons e es ih =>
    by_cases same : e.1 = key
    · simp [put, same]
    · rw [List.map_cons, List.mem_cons] at present
      have later := ih (present.resolve_left (Ne.symm same))
      simp [put, same, later]

theorem keys_insert {m : Keyed α} {key : String} {v : α} (present : key ∈ m.keys) :
    (m.insert key v).keys = m.keys := keys_put present

theorem size_eq_length_keys (m : Keyed α) : m.size = m.keys.length := (List.length_map _).symm

theorem size_insert_of_mem {m : Keyed α} {key : String} {v : α} (present : key ∈ m.keys) :
    (m.insert key v).size = m.size := by
  rw [size_eq_length_keys, size_eq_length_keys, keys_insert present]

theorem size_insert_of_not_mem {m : Keyed α} {key : String} {v : α} (fresh : key ∉ m.keys) :
    (m.insert key v).size = m.size + 1 :=
  (congrArg List.length (put_eq_append fresh)).trans List.length_append

def insertAll (m : Keyed α) (es : List (String × α)) : Keyed α :=
  es.foldl (fun m e => m.insert e.1 e.2) m

@[simp] theorem insertAll_nil (m : Keyed α) : m.insertAll [] = m := rfl

@[simp] theorem insertAll_cons (m : Keyed α) (e : String × α) (es : List (String × α)) :
    m.insertAll (e :: es) = (m.insert e.1 e.2).insertAll es := rfl

theorem mem_keys_insertAll {m : Keyed α} {k : String} {es : List (String × α)} :
    k ∈ (m.insertAll es).keys ↔ k ∈ es.map Prod.fst ∨ k ∈ m.keys := by
  induction es generalizing m with
  | nil => simp
  | cons e es ih =>
    rw [insertAll_cons, ih, mem_keys_insert, List.map_cons, List.mem_cons]
    exact or_left_comm.trans or_assoc.symm

theorem get?_insertAll_of_not_mem {m : Keyed α} {k : String} {es : List (String × α)}
    (unwritten : k ∉ es.map Prod.fst) : (m.insertAll es).get? k = m.get? k := by
  induction es generalizing m with
  | nil => rfl
  | cons e es ih =>
    rw [List.map_cons, List.mem_cons, not_or] at unwritten
    rw [insertAll_cons, ih unwritten.2, get?_insert, if_neg unwritten.1]

theorem mem_insertAll {m : Keyed α} {es : List (String × α)} {e : String × α}
    (member : e ∈ (m.insertAll es).entries) : e ∈ es ∨ e ∈ m.entries := by
  induction es generalizing m with
  | nil => exact .inr member
  | cons x es ih =>
    rcases ih member with later | before
    · exact .inl (List.mem_cons_of_mem x later)
    · refine (mem_put before).imp_left ?_
      rintro rfl
      exact List.mem_cons_self

theorem entries_insertAll {m : Keyed α} {es : List (String × α)}
    (distinct : ((m.entries ++ es).map Prod.fst).Nodup) :
    (m.insertAll es).entries = m.entries ++ es := by
  induction es generalizing m with
  | nil => exact (List.append_nil _).symm
  | cons e es ih =>
    have fresh : e.1 ∉ m.entries.map Prod.fst := fun present => by
      rw [List.map_append] at distinct
      exact (List.nodup_append.mp distinct).2.2 e.1 present e.1 List.mem_cons_self rfl
    have written : (m.insert e.1 e.2).entries = m.entries ++ [e] := put_eq_append fresh
    rw [insertAll_cons, ih (by simpa [written] using distinct), written]
    simp

theorem ofList_entries (m : Keyed α) : ofList m.entries = m :=
  eq_of_entries (entries_insertAll (m := empty) m.distinct)

/- Mapping. -/

@[simp] theorem keys_mapWithKey (m : Keyed α) (f : String → α → β) :
    (m.mapWithKey f).keys = m.keys := by
  simp [keys, mapWithKey, Function.comp_def]

theorem lookup_map (f : String → α → β) (k : String) (es : List (String × α)) :
    lookup k (es.map fun e => (e.1, f e.1 e.2)) = (lookup k es).map (f k) := by
  induction es with
  | nil => rfl
  | cons e es ih =>
    by_cases same : e.1 = k
    · subst same
      simp [lookup]
    · simp [lookup, same, ih]

theorem get?_mapWithKey (m : Keyed α) (f : String → α → β) (k : String) :
    (m.mapWithKey f).get? k = (m.get? k).map (f k) := lookup_map f k m.entries

theorem mapWithKey_congr {m : Keyed α} {f g : String → α → β}
    (same : ∀ k v, m.get? k = some v → f k v = g k v) : m.mapWithKey f = m.mapWithKey g := by
  apply eq_of_entries
  apply List.map_congr_left
  intro e member
  rw [same e.1 e.2 (get?_of_mem member)]

theorem mapWithKey_eq_self {m : Keyed α} {f : String → α → α}
    (same : ∀ k v, m.get? k = some v → f k v = v) : m.mapWithKey f = m := by
  rw [mapWithKey_congr same]
  exact eq_of_entries (List.map_id m.entries)

theorem mapWithKey_mapWithKey (m : Keyed α) (f : String → α → β) (g : String → β → γ) :
    (m.mapWithKey f).mapWithKey g = m.mapWithKey fun k v => g k (f k v) :=
  eq_of_entries (List.map_map ..)

theorem insert_eq_mapWithKey {m : Keyed α} {key : String} (w : α) (present : key ∈ m.keys) :
    m.insert key w = m.mapWithKey fun k v => if k = key then w else v := by
  obtain ⟨es, distinct⟩ := m
  apply eq_of_entries
  simp only [insert, mapWithKey, keys] at present ⊢
  induction es with
  | nil => simp at present
  | cons e es ih =>
    obtain ⟨k, x⟩ := e
    rw [List.map_cons, List.nodup_cons] at distinct
    by_cases same : k = key
    · subst same
      -- Names are distinct, so no later entry is of this name.
      have rest : es.map (fun e => (e.1, if e.1 = k then w else e.2)) = es := by
        refine (List.map_congr_left fun e member => ?_).trans (List.map_id es)
        have other : e.1 ≠ k := fun met => distinct.1 (List.mem_map.mpr ⟨e, member, met⟩)
        simp [other]
      simp [put, rest]
    · rw [List.map_cons, List.mem_cons] at present
      have later := ih distinct.2 (present.resolve_left (Ne.symm same))
      simp [put, same, later]

theorem mapWithKey_insert (m : Keyed α) (key : String) (v : α) (f : String → α → β) :
    (m.insert key v).mapWithKey f = (m.mapWithKey f).insert key (f key v) := by
  obtain ⟨es, distinct⟩ := m
  apply eq_of_entries
  simp only [insert, mapWithKey]
  clear distinct
  induction es with
  | nil => rfl
  | cons e es ih =>
    by_cases same : e.1 = key
    · simp [put, same]
    · simp [put, same, ih]

theorem mapWithKey_insertAll (m : Keyed α) (es : List (String × α)) (f : String → α → β) :
    (m.insertAll es).mapWithKey f =
      (m.mapWithKey f).insertAll (es.map fun e => (e.1, f e.1 e.2)) := by
  induction es generalizing m with
  | nil => rfl
  | cons e es ih => rw [insertAll_cons, ih, mapWithKey_insert, List.map_cons, insertAll_cons]

/- Thinning out. -/

def without (m : Keyed α) (names : List String) : Keyed α := m.filter fun k _ => k ∉ names

theorem mem_keys_without {m : Keyed α} {names : List String} {k : String} :
    k ∈ (m.without names).keys ↔ k ∈ m.keys ∧ k ∉ names := by
  simp only [keys, without, filter, List.mem_map, List.mem_filter, decide_eq_true_eq]
  constructor
  · rintro ⟨e, ⟨member, kept⟩, rfl⟩
    exact ⟨⟨e, member, rfl⟩, kept⟩
  · rintro ⟨⟨e, member, rfl⟩, kept⟩
    exact ⟨e, ⟨member, kept⟩, rfl⟩

theorem get?_without (m : Keyed α) (names : List String) (k : String) :
    (m.without names).get? k = if k ∈ names then none else m.get? k := by
  simp only [get?, without, filter]
  induction m.entries with
  | nil => simp [lookup]
  | cons e es ih => grind [lookup]

theorem without_nil (m : Keyed α) : m.without [] = m :=
  eq_of_entries (List.filter_eq_self.mpr (by simp))

theorem without_cons (m : Keyed α) (name : String) (names : List String) :
    m.without (name :: names) = (m.erase name).without names := by
  apply eq_of_entries
  simp only [without, erase, filter, List.filter_filter]
  apply List.filter_congr
  intro e _
  by_cases same : e.1 = name <;> simp [same]

theorem keys_erase (m : Keyed α) (key : String) : (m.erase key).keys = m.keys.erase key := by
  rw [m.keys_nodup.erase_eq_filter]
  exact (List.filter_map (p := (· != key)) (f := Prod.fst) (l := m.entries)).symm

theorem mem_keys_erase {m : Keyed α} {key k : String} :
    k ∈ (m.erase key).keys ↔ k ∈ m.keys ∧ k ≠ key := by
  rw [keys_erase, m.keys_nodup.mem_erase_iff, and_comm]

theorem size_erase {m : Keyed α} {key : String} (present : key ∈ m.keys) :
    (m.erase key).size + 1 = m.size := by
  have counted := List.length_erase_of_mem present
  have positive := List.length_pos_of_mem present
  rw [size_eq_length_keys, size_eq_length_keys, keys_erase]
  omega

theorem without_append (m : Keyed α) (names more : List String) :
    m.without (names ++ more) = (m.without names).without more := by
  apply eq_of_entries
  simp only [without, filter, List.filter_filter]
  apply List.filter_congr
  intro e _
  by_cases first : e.1 ∈ names <;> simp [first]

theorem without_mapWithKey (m : Keyed α) (names : List String) (f : String → α → β) :
    (m.mapWithKey f).without names = (m.without names).mapWithKey f :=
  eq_of_entries (List.filter_map ..)

theorem put_filter {key : String} {v : α} {es : List (String × α)} {names : List String}
    (kept : key ∉ names) :
    (put key v es).filter (fun e => e.1 ∉ names) =
      put key v (es.filter fun e => e.1 ∉ names) := by
  induction es with
  | nil => simp [put, kept]
  | cons e es ih =>
    by_cases same : e.1 = key
    · simp [put, same, kept]
    · by_cases gone : e.1 ∈ names
      · simpa [put, same, gone] using ih
      · simpa [put, same, gone] using ih

theorem without_insert {m : Keyed α} {key : String} {v : α} {names : List String}
    (kept : key ∉ names) : (m.insert key v).without names = (m.without names).insert key v :=
  eq_of_entries (put_filter kept)

theorem without_insertAll {m : Keyed α} {es : List (String × α)} {names : List String}
    (kept : ∀ e ∈ es, e.1 ∉ names) :
    (m.insertAll es).without names = (m.without names).insertAll es := by
  induction es generalizing m with
  | nil => rfl
  | cons e es ih =>
    rw [insertAll_cons, ih fun x member => kept x (by simp [member]), without_insert (kept e (by simp)),
      insertAll_cons]

theorem filter_put_of_mem {key : String} {v : α} {es : List (String × α)} {names : List String}
    (gone : key ∈ names) :
    (put key v es).filter (fun e => e.1 ∉ names) = es.filter fun e => e.1 ∉ names := by
  induction es with
  | nil => simp [put, gone]
  | cons e es ih =>
    by_cases same : e.1 = key
    · simp [put, same, gone]
    · simp only [put, if_neg same, List.filter_cons, ih]

theorem without_insert_of_mem {m : Keyed α} {key : String} {v : α} {names : List String}
    (gone : key ∈ names) : (m.insert key v).without names = m.without names :=
  eq_of_entries (filter_put_of_mem gone)

theorem without_congr (m : Keyed α) {names names' : List String}
    (same : ∀ k, k ∈ names ↔ k ∈ names') : m.without names = m.without names' := by
  apply eq_of_entries
  apply List.filter_congr
  intro e _
  simp only [same]

theorem without_erase_of_mem {m : Keyed α} {key : String} {names : List String}
    (gone : key ∈ names) : (m.erase key).without names = m.without names := by
  rw [← without_cons]
  apply without_congr
  intro k
  rw [List.mem_cons]
  exact ⟨fun member => member.elim (fun same => same ▸ gone) id, .inr⟩

theorem without_insertAll_of_mem {m : Keyed α} {es : List (String × α)} {names : List String}
    (gone : ∀ e ∈ es, e.1 ∈ names) : (m.insertAll es).without names = m.without names := by
  induction es generalizing m with
  | nil => rfl
  | cons e es ih =>
    rw [List.forall_mem_cons] at gone
    rw [insertAll_cons, ih gone.2, without_insert_of_mem gone.1]

theorem without_eq_self {m : Keyed α} {names : List String} (absent : ∀ n ∈ names, n ∉ m.keys) :
    m.without names = m := by
  refine eq_of_entries (List.filter_eq_self.mpr fun e member => ?_)
  rw [decide_eq_true_eq]
  exact fun named => absent e.1 named (List.mem_map_of_mem member)

theorem without_insertAll_new {m : Keyed α} {es : List (String × α)} {names : List String}
    (written : es.map Prod.fst = names) (absent : ∀ n ∈ names, n ∉ m.keys) :
    (m.insertAll es).without names = m := by
  have gone : ∀ e ∈ es, e.1 ∈ names := fun e member => written ▸ List.mem_map_of_mem member
  rw [without_insertAll_of_mem gone, without_eq_self absent]

/- Renaming. -/

/-- The entries that a list of renames, target before source, makes of a map. -/
def renamedEntries (rename : String → α → α) (m : Keyed α) (rs : List (String × String)) :
    List (String × α) :=
  rs.filterMap fun r => (m.get? r.2).map fun v => (r.1, rename r.1 v)

/-- Renamed entries leave their places and go to the end, in the order of the renames. -/
def renameAll (rename : String → α → α) (m : Keyed α) (rs : List (String × String)) : Keyed α :=
  (m.without (rs.map Prod.snd)).insertAll (m.renamedEntries rename rs)

theorem renameAll_nil (rename : String → α → α) (m : Keyed α) : m.renameAll rename [] = m :=
  m.without_nil

theorem keys_renamedEntries {rename : String → α → α} {m : Keyed α} {rs : List (String × String)}
    (present : ∀ r ∈ rs, r.2 ∈ m.keys) :
    (m.renamedEntries rename rs).map Prod.fst = rs.map Prod.fst := by
  induction rs with
  | nil => rfl
  | cons r rs ih =>
    obtain ⟨v, found⟩ := exists_get? (present r (by simp))
    have later := ih fun x member => present x (by simp [member])
    simp only [renamedEntries] at later
    simp [renamedEntries, found, later]

theorem mem_keys_renameAll {rename : String → α → α} {m : Keyed α} {rs : List (String × String)}
    {k : String} (present : ∀ r ∈ rs, r.2 ∈ m.keys) :
    k ∈ (m.renameAll rename rs).keys ↔
      k ∈ rs.map Prod.fst ∨ (k ∈ m.keys ∧ k ∉ rs.map Prod.snd) := by
  rw [renameAll, mem_keys_insertAll, keys_renamedEntries present, mem_keys_without]

theorem renamedEntries_congr {rename : String → α → α} {m n : Keyed α}
    {rs : List (String × String)} (same : ∀ r ∈ rs, m.get? r.2 = n.get? r.2) :
    m.renamedEntries rename rs = n.renamedEntries rename rs := by
  apply List.filterMap_congr
  intro r member
  rw [same r member]

end SchemaEvolution.Keyed
