import SchemaEvolution.Proofs.Schema.Footprints

/-! Operations that do not fit. One that meets a conflict changes nothing, except that a block
   keeps its members before the one that stopped it. Fitting or not, an operation leaves the
   tables that it does not touch as they are and in their order. -/
namespace SchemaEvolution

/-- A replay that stops has done what comes before the step that stopped it. -/
theorem replayAll_stopped {apply : σ → α → Replayed σ} {s t : σ} {xs : List α} {c : Conflict}
    (stopped : replayAll apply s xs = ⟨t, some c⟩) :
    ∃ done x rest u, xs = done ++ x :: rest ∧ replayAll apply s done = ⟨u, none⟩ ∧
      apply u x = ⟨t, some c⟩ := by
  induction xs generalizing s with
  | nil => exact absurd (congrArg Replayed.conflict stopped) (Option.some_ne_none c).symm
  | cons x xs ih =>
    rw [replayAll] at stopped
    rcases step : apply s x with ⟨next, _ | d⟩
    case none =>
      rw [step, Replayed.andThen_done] at stopped
      obtain ⟨done, y, rest, u, split, before, here⟩ := ih stopped
      refine ⟨x :: done, y, rest, u, ?_, ?_, here⟩
      · rw [split, List.cons_append]
      · rw [replayAll, step, Replayed.andThen_done, before]
    case some =>
      rw [step, Replayed.andThen_stopped] at stopped
      exact ⟨[], x, xs, s, rfl, rfl, step.trans stopped⟩

theorem TableState.unchanged_of_stopped {t u : TableState} {table : String} {a : Alteration}
    {c : Conflict} (stopped : t.applyAlteration table a = ⟨u, some c⟩) : u = t := by
  rw [applyAlteration] at stopped
  cases step : t.alter table a with
  | ok next =>
    rw [step] at stopped
    exact absurd (congrArg Replayed.conflict stopped) (Option.some_ne_none c).symm
  | error d =>
    rw [step] at stopped
    exact (congrArg Replayed.state stopped).symm

namespace Schema

variable {s : Schema} {op : Operation} {name : String} {c : Conflict}
  {f : TableState → Replayed TableState}

/- Tables that are not touched. -/

theorem without_onTable {names : List String} (own : name ∈ names) :
    (s.onTable name f).state.tables.without names = s.tables.without names := by
  cases found : s.table? name with
  | none => rw [onTable_missing found]
  | some t =>
    rw [onTable_found found]
    exact Keyed.without_insert_of_mem own

theorem without_apply (s : Schema) (op : Operation) :
    (s.apply op).state.tables.without op.touched = s.tables.without op.touched := by
  cases op with
  | createTable create =>
    rw [apply]
    split
    · rfl
    · exact Keyed.without_insert_of_mem (List.mem_singleton_self create.name)
  | renameTable source target =>
    have left : source ∈ [source, target] := List.mem_cons_self
    have right : target ∈ [source, target] := List.mem_cons_of_mem source List.mem_cons_self
    rw [apply]
    split
    · rfl
    · split
      · rfl
      · exact (Keyed.without_insert_of_mem right).trans (Keyed.without_erase_of_mem left)
  | dropTable name =>
    rw [apply]
    split
    · exact Keyed.without_erase_of_mem (List.mem_singleton_self name)
    · rfl
  | addForeignKey table k =>
    rw [apply]
    split
    · exact without_onTable (List.mem_singleton_self table)
    · rfl
  | changeTable table as => exact without_onTable (List.mem_singleton_self table)
  | alter table a => exact without_onTable (List.mem_singleton_self table)
  | removeForeignKey table key => exact without_onTable (List.mem_singleton_self table)
  | changeTableOptions table options => exact without_onTable (List.mem_singleton_self table)
  | changeTableComment table comment => exact without_onTable (List.mem_singleton_self table)

/- Conflicts. -/

theorem onTable_unchanged (safe : ∀ t d, (f t).conflict = some d → (f t).state = t)
    (stopped : (s.onTable name f).conflict = some c) : (s.onTable name f).state = s := by
  cases found : s.table? name with
  | none => rw [onTable_missing found]
  | some t =>
    rw [onTable_found found] at stopped ⊢
    dsimp only at stopped ⊢
    rw [safe t c stopped, withTable_table? found]

theorem ofExcept_unchanged {t : TableState} {r : Except Conflict TableState} {d : Conflict}
    (stopped : (Replayed.ofExcept t r).conflict = some d) : (Replayed.ofExcept t r).state = t := by
  cases r with
  | ok next => exact absurd stopped (Option.some_ne_none d).symm
  | error e => rfl

theorem onTable_of_unstoppable (never : ∀ t, (f t).conflict = none)
    (stopped : (s.onTable name f).conflict = some c) : (s.onTable name f).state = s := by
  refine onTable_unchanged (fun t d impossible => ?_) stopped
  rw [never t] at impossible
  contradiction

theorem apply_unchanged (lone : op.isBulk = false) (stopped : (s.apply op).conflict = some c) :
    (s.apply op).state = s := by
  cases op with
  | createTable create =>
    cases taken : s.hasTable create.name with
    | true => rw [apply_createTable_taken taken]
    | false =>
      rw [apply_createTable_free taken] at stopped
      contradiction
  | renameTable source target =>
    cases taken : s.hasTable target with
    | true => simp [apply, taken]
    | false =>
      cases found : s.table? source with
      | none => simp [apply, taken, found]
      | some t => simp [apply, taken, found] at stopped
  | dropTable name =>
    cases present : s.hasTable name with
    | true => simp [apply, present] at stopped
    | false => simp [apply, present]
  | changeTable table as => contradiction
  | alter table a => exact onTable_unchanged (fun _ _ => ofExcept_unchanged) stopped
  | addForeignKey table k =>
    cases present : s.hasTable k.toTable with
    | true =>
      rw [apply, if_pos present] at stopped ⊢
      exact onTable_of_unstoppable (fun _ => rfl) stopped
    | false => simp [apply, present]
  | removeForeignKey table key => exact onTable_unchanged (fun _ _ => ofExcept_unchanged) stopped
  | changeTableOptions table options => exact onTable_of_unstoppable (fun _ => rfl) stopped
  | changeTableComment table comment => exact onTable_of_unstoppable (fun _ => rfl) stopped

theorem replay_alters_found {table : String} {t : TableState} (found : s.table? table = some t)
    (as : List Alteration) :
    s.replay (as.map (.alter table)) =
      ⟨s.withTable table (replayAll (TableState.applyAlteration table) t as).state,
        (replayAll (TableState.applyAlteration table) t as).conflict⟩ := by
  cases as with
  | nil =>
    rw [replayAll, withTable_table? found]
    rfl
  | cons a as => rw [replay_alters, onTable_found found]

/-- A block that stops has made the alterations before the one that stopped it, and no more. -/
theorem block_stopped {table : String} {as : List Alteration} (present : s.hasTable table = true)
    (stopped : (s.apply (.changeTable table as)).conflict = some c) :
    let left := (s.apply (.changeTable table as)).state
    ∃ done a rest, as = done ++ a :: rest ∧ s.replay (done.map (.alter table)) = ⟨left, none⟩ ∧
      left.apply (.alter table a) = ⟨left, some c⟩ := by
  obtain ⟨t, found⟩ := Option.isSome_iff_exists.mp present
  rw [apply, onTable_found found] at stopped ⊢
  rcases block : replayAll (TableState.applyAlteration table) t as with ⟨w, conflict⟩
  rw [block] at stopped
  obtain rfl : conflict = some c := stopped
  obtain ⟨done, a, rest, u, split, before, here⟩ := replayAll_stopped block
  obtain rfl := TableState.unchanged_of_stopped here
  refine ⟨done, a, rest, split, ?_, ?_⟩
  · rw [replay_alters_found found, before]
  · have again := table?_withTable_self s table w
    rw [apply, onTable_found again, here, withTable_withTable]

/-- The tables that an operation does not touch keep their content and their order. If it
    meets a conflict nothing else changes either, except by a block: of a table that is there
    it keeps the alterations up to the first one in conflict, as if they were made one by one,
    and reports that one's conflict. -/
theorem conflict_leaves_schema (s : Schema) (op : Operation) :
    let left := (s.apply op).state
    (∀ n ∉ op.touched, left.table? n = s.table? n) ∧
      left.tables.without op.touched = s.tables.without op.touched ∧
      ∀ c, (s.apply op).conflict = some c →
        (op.isBulk = false → left = s) ∧
        ∀ table as, op = .changeTable table as →
          (s.hasTable table = false → left = s) ∧
          (s.hasTable table = true →
            ∃ done a rest, as = done ++ a :: rest ∧
              s.replay (done.map (.alter table)) = ⟨left, none⟩ ∧
              left.apply (.alter table a) = ⟨left, some c⟩) := by
  intro left
  have others : left.tables.without op.touched = s.tables.without op.touched := without_apply s op
  refine ⟨fun n other => ?_, others, fun c stopped => ⟨fun lone => ?_, ?_⟩⟩
  · have kept := congrArg (·.get? n) others
    simp only [Keyed.get?_without, if_neg other] at kept
    exact kept
  · exact apply_unchanged lone stopped
  · rintro table as rfl
    constructor
    · intro missing
      have none : s.table? table = none := hasTable_eq_false_iff.mp missing
      exact congrArg Replayed.state (onTable_missing none _)
    · intro present
      exact block_stopped present stopped

end Schema

/-- The first member of the block is made, the second one stops it, and the third one is
    never tried. -/
example :
    let shop : Schema := ⟨.ofList [("guests", .ofColumns [("name", .string), ("age", .integer)]),
      ("rooms", .ofColumns [("floor", .integer)])]⟩
    shop.apply (.changeTable "guests"
        [.removeColumn "age", .removeColumn "size", .removeColumn "name"]) =
      ⟨⟨.ofList [("guests", .ofColumns [("name", .string)]),
          ("rooms", .ofColumns [("floor", .integer)])]⟩,
        some (.elementMissing .column "guests" "size")⟩ := by
  decide

end SchemaEvolution
