import SchemaEvolution.Proofs.Schema.Stages

/-! Replays over many tables: operations that each stay within one table of a schema
   change these tables where they stand, and whole tables come, move and go in runs. -/
namespace SchemaEvolution.Schema

theorem hasTable_iff {s : Schema} {name : String} : s.hasTable name = true ↔ name ∈ s.tables.keys :=
  Keyed.contains_iff

theorem keys_withTable {s : Schema} {name : String} {t : TableState} (u : TableState)
    (found : s.table? name = some t) : (s.withTable name u).tables.keys = s.tables.keys :=
  Keyed.keys_insert (Keyed.mem_keys_of_get? found)

theorem table?_withTable_of_ne {s : Schema} {name other : String} (t : TableState)
    (ne : other ≠ name) : (s.withTable name t).table? other = s.table? other := by
  rw [table?, withTable, Keyed.get?_insert, if_neg ne]
  rfl

/-- Over a schema with these table names in which `name` holds the first table, the
   operations leave the second one in its place and touch nothing else. -/
def Settles (names : List String) (name : String) (t u : TableState) (ops : List Operation) :
    Prop :=
  ∀ s : Schema, s.tables.keys = names → s.table? name = some t →
    s.replay ops = ⟨s.withTable name u, none⟩

namespace Settles

variable {names : List String} {name : String} {t u v : TableState}

theorem idle (names : List String) (name : String) (t : TableState) :
    Settles names name t t [] := by
  intro s _ found
  rw [withTable_table? found]
  rfl

theorem append {a b : List Operation} (first : Settles names name t u a)
    (second : Settles names name u v b) : Settles names name t v (a ++ b) := by
  intro s keys found
  have later := second (s.withTable name u) ((keys_withTable u found).trans keys)
    (table?_withTable_self s name u)
  rw [replay_append, first s keys found, Replayed.andThen_done, later, withTable_withTable]

theorem of_visits {op : β → Operation} {act : TableState → β → Replayed TableState} {bs : List β}
    (visits : ∀ s : Schema, s.tables.keys = names → ∀ b ∈ bs,
      s.apply (op b) = s.onTable name fun t => act t b)
    (done : replayAll act t bs = ⟨u, none⟩) : Settles names name t u (bs.map op) := by
  intro s keys found
  induction bs generalizing s t with
  | nil =>
    obtain rfl : t = u := congrArg Replayed.state done
    exact idle names name t s keys found
  | cons b bs ih =>
    rw [List.map_cons, replay_cons, visits s keys b (by simp), onTable_found found]
    rw [replayAll] at done
    rcases acted : act t b with ⟨next, _ | c⟩
    case some =>
      rw [acted] at done
      exact absurd (congrArg Replayed.conflict done) (by simp)
    case none =>
      rw [acted, Replayed.andThen_done] at done
      have rest := ih (fun s keys x member => visits s keys x (by simp [member])) done
        (s.withTable name next) ((keys_withTable next found).trans keys)
        (table?_withTable_self s name next)
      rw [Replayed.andThen_done, rest, withTable_withTable]

theorem alters {as : List Alteration}
    (done : replayAll (TableState.applyAlteration name) t as = ⟨u, none⟩) :
    Settles names name t u (as.map (.alter name)) :=
  of_visits (fun _ _ _ _ => rfl) done

end Settles

def changeAt (change : String → γ → TableState → TableState) (es : List (String × γ))
    (name : String) (t : TableState) : TableState :=
  match Keyed.lookup name es with
  | some c => change name c t
  | none => t

theorem changeAt_of_mem {change : String → γ → TableState → TableState} {es : List (String × γ)}
    {e : String × γ} (distinct : (es.map Prod.fst).Nodup) (member : e ∈ es) (t : TableState) :
    changeAt change es e.1 t = change e.1 e.2 t := by
  rw [changeAt, Keyed.lookup_of_mem distinct member]

theorem changeAt_of_not_mem {change : String → γ → TableState → TableState}
    {es : List (String × γ)} {name : String} (absent : name ∉ es.map Prod.fst) (t : TableState) :
    changeAt change es name t = t := by
  rw [changeAt, Keyed.lookup_eq_none_iff.mpr absent]

def changeEach (change : String → γ → TableState → TableState) (es : List (String × γ))
    (s : Schema) : Schema := ⟨s.tables.mapWithKey (changeAt change es)⟩

/-- Groups of operations that settle one table each do not meet. -/
theorem replay_changeEach {change : String → γ → TableState → TableState}
    {ops : String × γ → List Operation} {es : List (String × γ)} {s : Schema}
    (distinct : (es.map Prod.fst).Nodup) (present : ∀ e ∈ es, e.1 ∈ s.tables.keys)
    (each : ∀ e ∈ es, ∀ t, s.table? e.1 = some t →
      Settles s.tables.keys e.1 t (change e.1 e.2 t) (ops e)) :
    s.replay (es.flatMap ops) = ⟨s.changeEach change es, none⟩ := by
  induction es generalizing s with
  | nil =>
    have same : s.changeEach change [] = s :=
      congrArg Schema.mk (Keyed.mapWithKey_eq_self fun _ _ _ => rfl)
    rw [same]
    rfl
  | cons e es ih =>
    obtain ⟨name, c⟩ := e
    simp only [List.map_cons, List.nodup_cons, List.forall_mem_cons] at distinct present each
    obtain ⟨t, found⟩ := Keyed.exists_get? present.1
    let next := s.withTable name (change name c t)
    have keys : next.tables.keys = s.tables.keys := keys_withTable _ found
    -- The names are distinct, so the tables still to come are as they were.
    have others : ∀ x ∈ es, next.table? x.1 = s.table? x.1 := by
      intro x member
      exact table?_withTable_of_ne _ fun same =>
        distinct.1 (same ▸ List.mem_map_of_mem member)
    have rest : next.replay (es.flatMap ops) = ⟨next.changeEach change es, none⟩ := by
      refine ih distinct.2 ?_ ?_
      · intro x member
        rw [keys]
        exact present.2 x member
      · intro x member t' found'
        rw [others x member] at found'
        rw [keys]
        exact each.2 x member t' found'
    have merged : next.changeEach change es = s.changeEach change ((name, c) :: es) := by
      have written := Keyed.insert_eq_mapWithKey (change name c t) present.1
      simp only [next, changeEach, withTable, written, Keyed.mapWithKey_mapWithKey]
      congr 1
      refine Keyed.mapWithKey_congr fun k v held => ?_
      by_cases same : k = name
      · subst same
        obtain rfl : v = t := Option.some.inj (held.symm.trans found)
        simp [changeAt, Keyed.lookup, Keyed.lookup_eq_none_iff.mpr distinct.1]
      · simp [changeAt, Keyed.lookup, same, Ne.symm same]
    rw [List.flatMap_cons, replay_append, each.1 t found s rfl found, Replayed.andThen_done, rest,
      merged]

theorem keys_changeEach (change : String → γ → TableState → TableState)
    (es : List (String × γ)) (s : Schema) : (s.changeEach change es).tables.keys = s.tables.keys :=
  Keyed.keys_mapWithKey ..

def tablesAfter (op : Operation) (m : Keyed TableState) : Except Conflict (Keyed TableState) :=
  match Schema.apply ⟨m⟩ op with
  | ⟨s, none⟩ => .ok s.tables
  | ⟨_, some c⟩ => .error c

theorem replay_tables {op : β → Operation} {m n : Keyed TableState} {bs : List β}
    (done : bs.foldlM (fun m b => tablesAfter (op b) m) m = .ok n) :
    Schema.replay ⟨m⟩ (bs.map op) = ⟨⟨n⟩, none⟩ := by
  induction bs generalizing m with
  | nil =>
    obtain rfl : m = n := Except.ok.inj done
    rfl
  | cons b bs ih =>
    rw [List.foldlM_cons, tablesAfter] at done
    rw [List.map_cons, replay_cons]
    rcases applied : Schema.apply ⟨m⟩ (op b) with ⟨next, _ | c⟩
    case some =>
      rw [applied] at done
      contradiction
    case none =>
      rw [applied] at done
      exact ih done

variable {s : Schema}

theorem replay_creations {op : β → CreateTable} {bs : List β}
    (distinct : (bs.map fun b => (op b).name).Nodup)
    (fresh : ∀ b ∈ bs, (op b).name ∉ s.tables.keys) :
    s.replay (bs.map fun b => .createTable (op b)) =
      ⟨⟨s.tables.insertAll (bs.map fun b => ((op b).name, .ofCreateTable (op b)))⟩, none⟩ := by
  refine replay_tables (Keyed.foldlM_insert_new (fun m b absent => ?_) distinct fresh)
  have free : m.contains (op b).name = false := by
    rw [Bool.eq_false_iff, ne_eq, Keyed.contains_iff]
    exact absent
  simp [tablesAfter, apply, hasTable, free, withTable]

theorem replay_renames {rs : List (String × String)} (targets : (rs.map Prod.fst).Nodup)
    (sources : (rs.map Prod.snd).Nodup) (present : ∀ n ∈ rs.map Prod.snd, n ∈ s.tables.keys)
    (fresh : ∀ n ∈ rs.map Prod.fst, n ∉ s.tables.keys) :
    s.replay (rs.map fun r => .renameTable r.2 r.1) =
      ⟨⟨s.tables.renameAll (fun _ t => t) rs⟩, none⟩ := by
  refine replay_tables (Keyed.foldlM_rename (fun m r t found absent => ?_) targets sources
    present fresh)
  have free : m.contains r.1 = false := by
    rw [Bool.eq_false_iff, ne_eq, Keyed.contains_iff]
    exact absent
  simp [tablesAfter, apply, hasTable, table?, free, found]

theorem replay_drops {name : β → String} {bs : List β} (distinct : (bs.map name).Nodup)
    (present : ∀ n ∈ bs.map name, n ∈ s.tables.keys) :
    s.replay (bs.map fun b => .dropTable (name b)) =
      ⟨⟨s.tables.without (bs.map name)⟩, none⟩ := by
  refine replay_tables (Keyed.foldlM_remove (fun m b t found => ?_) distinct present)
  have held : m.contains (name b) = true := Keyed.contains_iff.mpr (Keyed.mem_keys_of_get? found)
  simp [tablesAfter, apply, hasTable, held]

end SchemaEvolution.Schema
