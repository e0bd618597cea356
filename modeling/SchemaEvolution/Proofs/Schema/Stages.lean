import SchemaEvolution.Proofs.Schema.Creation

/-! Stages of a replay: a run of removals, renames or writes of one kind that meets no
   conflict, and what it leaves. Each is an induction over the run, made once for maps
   and then read off for the parts of a table. -/
namespace SchemaEvolution

namespace Keyed

variable {α : Type u}

theorem foldlM_remove {step : Keyed α → β → Except ε (Keyed α)} {name : β → String}
    (acts : ∀ m b v, m.get? (name b) = some v → step m b = .ok (m.erase (name b)))
    {m : Keyed α} {bs : List β} (distinct : (bs.map name).Nodup)
    (present : ∀ n ∈ bs.map name, n ∈ m.keys) :
    bs.foldlM step m = .ok (m.without (bs.map name)) := by
  induction bs generalizing m with
  | nil => simp [without_nil, pure, Except.pure]
  | cons b bs ih =>
    simp only [List.map_cons, List.nodup_cons, List.forall_mem_cons] at distinct present
    obtain ⟨v, found⟩ := exists_get? present.1
    have left : ∀ n ∈ bs.map name, n ∈ (m.erase (name b)).keys := by
      intro n member
      have other : n ≠ name b := fun same => distinct.1 (same ▸ member)
      obtain ⟨w, held⟩ := exists_get? (present.2 n member)
      exact mem_keys_of_get? (v := w) (by rw [get?_erase, if_neg other, held])
    rw [List.foldlM_cons, acts m b v found, List.map_cons, without_cons]
    exact ih distinct.2 left

theorem foldlM_rename {rename : String → α → α}
    {step : Keyed α → String × String → Except ε (Keyed α)}
    (acts : ∀ m r v, m.get? r.2 = some v → r.1 ∉ m.keys →
      step m r = .ok ((m.erase r.2).insert r.1 (rename r.1 v)))
    {m : Keyed α} {rs : List (String × String)} (targets : (rs.map Prod.fst).Nodup)
    (sources : (rs.map Prod.snd).Nodup) (present : ∀ n ∈ rs.map Prod.snd, n ∈ m.keys)
    (fresh : ∀ n ∈ rs.map Prod.fst, n ∉ m.keys) :
    rs.foldlM step m = .ok (m.renameAll rename rs) := by
  induction rs generalizing m with
  | nil => simp [renameAll, renamedEntries, without_nil, pure, Except.pure]
  | cons r rs ih =>
    simp only [List.map_cons, List.nodup_cons, List.forall_mem_cons] at targets sources present fresh
    obtain ⟨v, found⟩ := exists_get? present.1
    let next := (m.erase r.2).insert r.1 (rename r.1 v)
    -- The first rename meets neither the sources nor the targets of the later ones.
    have kept : ∀ n ∈ rs.map Prod.snd, next.get? n = m.get? n := by
      intro n member
      have old : n ≠ r.2 := fun same => sources.1 (same ▸ member)
      have new : n ≠ r.1 := fun same => fresh.1 (same ▸ present.2 n member)
      rw [get?_insert, if_neg new, get?_erase, if_neg old]
    have stays : ∀ n ∈ rs.map Prod.snd, n ∈ next.keys := by
      intro n member
      obtain ⟨w, held⟩ := exists_get? (present.2 n member)
      exact mem_keys_of_get? (v := w) (by rw [kept n member, held])
    have still : ∀ n ∈ rs.map Prod.fst, n ∉ next.keys := by
      intro n member within
      have other : n ≠ r.1 := fun same => targets.1 (same ▸ member)
      have missing := get?_eq_none_iff.mpr (fresh.2 n member)
      refine get?_eq_none_iff.mp ?_ within
      rw [get?_insert, if_neg other, get?_erase, missing, ite_self]
    have unused : r.1 ∉ rs.map Prod.snd := fun member => fresh.1 (present.2 r.1 member)
    rw [List.foldlM_cons, acts m r v found fresh.1]
    refine (ih targets.2 sources.2 stays still).trans ?_
    have entries : next.renamedEntries rename rs = m.renamedEntries rename rs :=
      renamedEntries_congr fun x member => kept x.2 (List.mem_map_of_mem member)
    have first : m.renamedEntries rename (r :: rs) =
        (r.1, rename r.1 v) :: m.renamedEntries rename rs := by
      simp [renamedEntries, found]
    simp only [renameAll, entries, first, List.map_cons, without_cons, insertAll_cons]
    rw [without_insert unused]

theorem foldlM_insert_new {step : Keyed α → β → Except ε (Keyed α)} {entry : β → String × α}
    (acts : ∀ m b, (entry b).1 ∉ m.keys → step m b = .ok (m.insert (entry b).1 (entry b).2))
    {m : Keyed α} {bs : List β} (distinct : (bs.map fun b => (entry b).1).Nodup)
    (fresh : ∀ b ∈ bs, (entry b).1 ∉ m.keys) :
    bs.foldlM step m = .ok (m.insertAll (bs.map entry)) := by
  induction bs generalizing m with
  | nil => rfl
  | cons b bs ih =>
    simp only [List.map_cons, List.nodup_cons, List.forall_mem_cons] at distinct fresh
    rw [List.foldlM_cons, acts m b fresh.1, List.map_cons, insertAll_cons]
    refine ih distinct.2 fun x member within => ?_
    rcases mem_keys_insert.mp within with same | old
    · exact distinct.1 (List.mem_map.mpr ⟨x, member, same⟩)
    · exact fresh.2 x member old

theorem foldlM_insert_present {step : Keyed α → β → Except ε (Keyed α)} {entry : β → String × α}
    (acts : ∀ m b, (entry b).1 ∈ m.keys → step m b = .ok (m.insert (entry b).1 (entry b).2))
    {m : Keyed α} {bs : List β} (present : ∀ b ∈ bs, (entry b).1 ∈ m.keys) :
    bs.foldlM step m = .ok (m.insertAll (bs.map entry)) := by
  induction bs generalizing m with
  | nil => rfl
  | cons b bs ih =>
    simp only [List.forall_mem_cons] at present
    rw [List.foldlM_cons, acts m b present.1, List.map_cons, insertAll_cons]
    refine ih fun x member => ?_
    rw [keys_insert present.1]
    exact present.2 x member

theorem take_found {m : Keyed α} {name : String} {v : α} (found : m.get? name = some v)
    (kind : ElementKind) (table : String) : m.take kind table name = .ok (v, m.erase name) := by
  simp [take, found]

end Keyed

def Column.entry (c : Column) : String × Column := (c.name, c)

def Column.renamed (name : String) (c : Column) : Column := { c with name := name }

def Index.renamed (name : String) (i : Index) : Index := { i with name := name }

theorem replayAll_map (apply : σ → α → Replayed σ) (op : β → α) (s : σ) (bs : List β) :
    replayAll apply s (bs.map op) = replayAll (fun s b => apply s (op b)) s bs := by
  induction bs generalizing s with
  | nil => rfl
  | cons b bs ih =>
    rw [List.map_cons, replayAll, replayAll]
    congr
    funext next
    exact ih next

namespace TableState

/-- One of the maps that make up a table, to read and to replace. -/
structure Part (α : Type) where
  get : TableState → Keyed α
  set : TableState → Keyed α → TableState
  get_set : ∀ t m, get (set t m) = m
  set_set : ∀ t m n, set (set t m) n = set t n
  set_get : ∀ t, set t (get t) = t

namespace Part

def columns : Part Column :=
  ⟨TableState.columns, fun t m => { t with columns := m }, fun _ _ => rfl, fun _ _ _ => rfl,
    fun _ => rfl⟩

def indexes : Part Index :=
  ⟨TableState.indexes, fun t m => { t with indexes := m }, fun _ _ => rfl, fun _ _ _ => rfl,
    fun _ => rfl⟩

def foreignKeys : Part ForeignKey :=
  ⟨TableState.foreignKeys, fun t m => { t with foreignKeys := m }, fun _ _ => rfl,
    fun _ _ _ => rfl, fun _ => rfl⟩

def constraints : Part String :=
  ⟨TableState.constraints, fun t m => { t with constraints := m }, fun _ _ => rfl,
    fun _ _ _ => rfl, fun _ => rfl⟩

variable (p : Part α) {act : TableState → β → Replayed TableState} {t : TableState}

theorem replay (step : Keyed α → β → Except Conflict (Keyed α))
    (acts : ∀ t b, act t b = .ofExcept t ((step (p.get t) b).map (p.set t)))
    {bs : List β} {m : Keyed α} (done : bs.foldlM step (p.get t) = .ok m) :
    replayAll act t bs = ⟨p.set t m, none⟩ := by
  induction bs generalizing t with
  | nil =>
    obtain rfl : p.get t = m := Except.ok.inj done
    rw [p.set_get]
    rfl
  | cons b bs ih =>
    rw [List.foldlM_cons] at done
    cases stepped : step (p.get t) b with
    | error c =>
      rw [stepped] at done
      contradiction
    | ok n =>
      rw [stepped] at done
      have rest : bs.foldlM step (p.get (p.set t n)) = .ok m := by
        rw [p.get_set]
        exact done
      have first : act t b = ⟨p.set t n, none⟩ := by
        rw [acts, stepped]
        rfl
      rw [replayAll, first, Replayed.andThen_done, ih rest, p.set_set]

theorem replay_removals {kind : ElementKind} {table : String} {name : β → String}
    (acts : ∀ t b, act t b =
      .ofExcept t (((p.get t).take kind table (name b)).map fun r => p.set t r.2))
    {bs : List β} (distinct : (bs.map name).Nodup)
    (present : ∀ n ∈ bs.map name, n ∈ (p.get t).keys) :
    replayAll act t bs = ⟨p.set t ((p.get t).without (bs.map name)), none⟩ := by
  refine p.replay (fun m b => (m.take kind table (name b)).map Prod.snd) ?_ ?_
  · intro t b
    rw [acts]
    cases (p.get t).take kind table (name b) <;> rfl
  · refine Keyed.foldlM_remove (fun m b v found => ?_) distinct present
    rw [Keyed.take_found found]
    rfl

theorem replay_renames (rename : String → α → α) {kind : ElementKind} {table : String}
    {act : TableState → String × String → Replayed TableState}
    (acts : ∀ t r, act t r = .ofExcept t (((p.get t).take kind table r.2).map
      fun held => p.set t (held.2.insert r.1 (rename r.1 held.1))))
    {rs : List (String × String)} (targets : (rs.map Prod.fst).Nodup)
    (sources : (rs.map Prod.snd).Nodup) (present : ∀ n ∈ rs.map Prod.snd, n ∈ (p.get t).keys)
    (fresh : ∀ n ∈ rs.map Prod.fst, n ∉ (p.get t).keys) :
    replayAll act t rs = ⟨p.set t ((p.get t).renameAll rename rs), none⟩ := by
  refine p.replay (fun m r => (m.take kind table r.2).map
    fun held => held.2.insert r.1 (rename r.1 held.1)) ?_ ?_
  · intro t r
    rw [acts]
    cases (p.get t).take kind table r.2 <;> rfl
  · refine Keyed.foldlM_rename (fun m r v found _ => ?_) targets sources present fresh
    rw [Keyed.take_found found]
    rfl

end Part

variable {table : String} {t : TableState}

theorem replay_addColumns {cs : List Column} (distinct : (cs.map Column.name).Nodup)
    (fresh : ∀ c ∈ cs, c.name ∉ t.columns.keys) :
    replayAll (applyAlteration table) t (cs.map .addColumn) =
      ⟨{ t with columns := t.columns.insertAll (cs.map Column.entry) }, none⟩ := by
  rw [replayAll_map]
  refine Part.columns.replay (fun m c =>
    if m.contains c.name then .error (.columnExists table c.name)
    else .ok (m.insert c.name c)) ?_ ?_
  · intro t c
    change Replayed.ofExcept t (if t.columns.contains c.name then _ else _) =
      .ofExcept t (Except.map _ (if t.columns.contains c.name then _ else _))
    split <;> rfl
  · refine Keyed.foldlM_insert_new (fun m c absent => ?_) distinct fresh
    have missing : m.contains c.name ≠ true := fun held => absent (Keyed.contains_iff.mp held)
    simp only [if_neg missing]
    rfl

theorem replay_changeColumns {cs : List Column} (present : ∀ c ∈ cs, c.name ∈ t.columns.keys) :
    replayAll (applyAlteration table) t (cs.map .changeColumn) =
      ⟨{ t with columns := t.columns.insertAll (cs.map Column.entry) }, none⟩ := by
  rw [replayAll_map]
  refine Part.columns.replay (fun m c =>
    if m.contains c.name then .ok (m.insert c.name c)
    else .error (.elementMissing .column table c.name)) ?_ ?_
  · intro t c
    change Replayed.ofExcept t (if t.columns.contains c.name then _ else _) =
      .ofExcept t (Except.map _ (if t.columns.contains c.name then _ else _))
    split <;> rfl
  · refine Keyed.foldlM_insert_present (fun m c held => ?_) present
    have there : m.contains c.name = true := Keyed.contains_iff.mpr held
    simp only [if_pos there]
    rfl

variable {name : β → String} {bs : List β}

theorem replay_removeColumns (distinct : (bs.map name).Nodup)
    (present : ∀ n ∈ bs.map name, n ∈ t.columns.keys) :
    replayAll (applyAlteration table) t (bs.map fun b => .removeColumn (name b)) =
      ⟨{ t with columns := t.columns.without (bs.map name) }, none⟩ := by
  rw [replayAll_map]
  exact Part.columns.replay_removals (fun _ _ => rfl) distinct present

theorem replay_removeIndexes (distinct : (bs.map name).Nodup)
    (present : ∀ n ∈ bs.map name, n ∈ t.indexes.keys) :
    replayAll (applyAlteration table) t (bs.map fun b => .removeIndex (name b)) =
      ⟨{ t with indexes := t.indexes.without (bs.map name) }, none⟩ := by
  rw [replayAll_map]
  exact Part.indexes.replay_removals (fun _ _ => rfl) distinct present

theorem replay_removeConstraints {kind : β → ConstraintKind} (distinct : (bs.map name).Nodup)
    (present : ∀ n ∈ bs.map name, n ∈ t.constraints.keys) :
    replayAll (applyAlteration table) t (bs.map fun b => .removeConstraint (kind b) (name b)) =
      ⟨{ t with constraints := t.constraints.without (bs.map name) }, none⟩ := by
  rw [replayAll_map]
  exact Part.constraints.replay_removals (fun _ _ => rfl) distinct present

variable {rs : List (String × String)}

theorem replay_renameColumns (targets : (rs.map Prod.fst).Nodup)
    (sources : (rs.map Prod.snd).Nodup) (present : ∀ n ∈ rs.map Prod.snd, n ∈ t.columns.keys)
    (fresh : ∀ n ∈ rs.map Prod.fst, n ∉ t.columns.keys) :
    replayAll (applyAlteration table) t (rs.map fun r => .renameColumn r.2 r.1) =
      ⟨{ t with columns := t.columns.renameAll Column.renamed rs }, none⟩ := by
  rw [replayAll_map]
  exact Part.columns.replay_renames Column.renamed (fun _ _ => rfl) targets sources present fresh

theorem replay_renameIndexes (targets : (rs.map Prod.fst).Nodup)
    (sources : (rs.map Prod.snd).Nodup) (present : ∀ n ∈ rs.map Prod.snd, n ∈ t.indexes.keys)
    (fresh : ∀ n ∈ rs.map Prod.fst, n ∉ t.indexes.keys) :
    replayAll (applyAlteration table) t (rs.map fun r => .renameIndex r.2 r.1) =
      ⟨{ t with indexes := t.indexes.renameAll Index.renamed rs }, none⟩ := by
  rw [replayAll_map]
  exact Part.indexes.replay_renames Index.renamed (fun _ _ => rfl) targets sources present fresh

end TableState

end SchemaEvolution
