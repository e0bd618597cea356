import SchemaEvolution.Proofs.Rendering.Plan
import SchemaEvolution.Proofs.Schema.Footprints

/-! The order in which a delta lists its tables. Operations on different tables only meet in
   the stages of a script, and within a stage they are independent of one another. -/
namespace SchemaEvolution

open Schema (Follows)

/-- The same delta, with the tables to create, change and drop listed in another order. -/
structure Delta.Reordered (d d' : Delta) : Prop where
  add : d.add.entries.Perm d'.add.entries
  change : d.change.entries.Perm d'.change.entries
  delete : d.delete.entries.Perm d'.delete.entries
  rename : d'.rename = d.rename
  statements : d'.statements = d.statements

/- Rendering. -/

theorem Delta.exists_render_iff {o : RenderOptions} {d : Delta} :
    (∃ script, d.render o = .ok script) ↔
      (∀ e ∈ d.add.entries, ∃ p, e.2.render o e.1 = .ok p) ∧
        ∀ e ∈ d.change.entries, ∃ p, e.2.render o e.1 = .ok p := by
  constructor
  · rintro ⟨script, ok⟩
    obtain ⟨_, phases, _⟩ := Rendered.bind_ok ok
    obtain ⟨_, created, phases⟩ := Rendered.bind_ok phases
    obtain ⟨_, changed, _⟩ := Rendered.bind_ok phases
    exact ⟨Rendered.mapM_each created, Rendered.mapM_each changed⟩
  · rintro ⟨add, change⟩
    obtain ⟨created, first⟩ := Rendered.mapM_of_each add
    obtain ⟨changed, second⟩ := Rendered.mapM_of_each change
    have planned : ∃ p, d.phases o = .ok p := by
      unfold phases
      rw [first, second]
      exact ⟨_, rfl⟩
    obtain ⟨p, ok⟩ := planned
    refine ⟨p.script, ?_⟩
    rw [render, ok]
    rfl

/- Stages. -/

section Stages

variable {m m' : Keyed γ} {f : String × γ → List Operation}

theorem apart_of_touched {x y : Operation} {n n' : String} (left : x.touched = [n])
    (right : y.touched = [n']) (other : n ≠ n') : ∀ k ∈ x.touched, k ∉ y.touched := by
  rw [left, right, List.forall_mem_singleton, List.mem_singleton]
  exact other

/-- Tables may be visited in any order. -/
theorem follows_visits (perm : m.entries.Perm m'.entries)
    (visits : ∀ e, ∀ x ∈ f e, x.touched = [e.1] ∧ x.isVisit = true) :
    Follows (m.entries.flatMap f) (m'.entries.flatMap f) := by
  refine .of_perm perm ((List.pairwise_map.mp m.distinct).imp fun {e e'} other x left y right => ?_)
  obtain ⟨own, visit⟩ := visits e x left
  obtain ⟨own', visit'⟩ := visits e' y right
  exact ⟨apart_of_touched own own' other, .inl visit, .inl visit'⟩

theorem follows_moves (perm : m.entries.Perm m'.entries)
    (moves : ∀ e, ∀ x ∈ f e, x.touched = [e.1] ∧ x.target? = none) :
    Follows (m.entries.flatMap f) (m'.entries.flatMap f) := by
  refine .of_perm perm ((List.pairwise_map.mp m.distinct).imp fun {e e'} other x left y right => ?_)
  obtain ⟨own, unasked⟩ := moves e x left
  obtain ⟨own', unasked'⟩ := moves e' y right
  refine ⟨apart_of_touched own own' other, .inr ?_, .inr ?_⟩
  · simp [unasked']
  · simp [unasked]

end Stages

theorem TableChange.visits_mainSteps {a : Adapter} {l : Limits} {table : String}
    {c : TableChange} :
    ∀ x ∈ c.mainSteps ⟨false, true, a, l⟩ table, x.touched = [table] ∧ x.isVisit = true := by
  have alters (as : List Alteration) :
      ∀ x ∈ as.map (Operation.alter table), x.touched = [table] ∧ x.isVisit = true :=
    List.forall_mem_map.mpr fun _ _ => ⟨rfl, rfl⟩
  unfold mainSteps optionChanges
  simp only [block_plain, List.forall_mem_append]
  refine ⟨⟨alters _, alters _⟩, List.forall_mem_map.mpr fun _ _ => ⟨rfl, rfl⟩, fun x member => ?_⟩
  obtain ⟨text, _, rfl⟩ := Option.map_eq_some_iff.mp (Option.mem_toList.mp member)
  exact ⟨rfl, rfl⟩

namespace Delta

variable {d d' : Delta}

theorem Reordered.preSteps (reordered : d.Reordered d') : Follows d.preSteps d'.preSteps :=
  follows_visits reordered.change fun _ => List.forall_mem_map.mpr fun _ _ => ⟨rfl, rfl⟩

theorem Reordered.postSteps (reordered : d.Reordered d') : Follows d.postSteps d'.postSteps := by
  refine .append (follows_visits reordered.add ?_) (follows_visits reordered.change ?_)
  · exact fun _ => List.forall_mem_map.mpr fun _ _ => ⟨rfl, rfl⟩
  · exact fun _ => List.forall_mem_map.mpr fun _ _ => ⟨rfl, rfl⟩

theorem Reordered.mainSteps (reordered : d.Reordered d') (a : Adapter) (l : Limits) :
    Follows (d.mainSteps ⟨false, true, a, l⟩) (d'.mainSteps ⟨false, true, a, l⟩) := by
  have drops (d : Delta) : d.delete.keys.map Operation.dropTable =
      d.delete.entries.flatMap fun e => [.dropTable e.1] := by
    rw [Keyed.keys, List.map_map, List.map_eq_flatMap]
    rfl
  unfold Delta.mainSteps
  rw [reordered.rename, drops, drops]
  refine .append (.append (.append ?creations (.refl _)) ?changes) ?drops
  case creations =>
    exact follows_moves reordered.add fun _ => List.forall_mem_singleton.mpr ⟨rfl, rfl⟩
  case changes => exact follows_visits reordered.change fun _ => TableChange.visits_mainSteps
  case drops =>
    exact follows_moves reordered.delete fun _ => List.forall_mem_singleton.mpr ⟨rfl, rfl⟩

/-- The order in which a delta lists its tables does not matter. If its script goes through,
    so does that of the delta in another order, and leaves the same tables. -/
theorem replay_reordered (reordered : d.Reordered d') {o : RenderOptions} {s after : Schema}
    {script : Script} (rendered : d.render o = .ok script)
    (done : s.replay script.operations = ⟨after, none⟩) :
    ∃ script' after', d'.render o = .ok script' ∧
      s.replay script'.operations = ⟨after', none⟩ ∧
      after.tables.entries.Perm after'.tables.entries := by
  obtain ⟨add, change⟩ := exists_render_iff.mp ⟨script, rendered⟩
  have add' : ∀ e ∈ d'.add.entries, ∃ p, e.2.render o e.1 = .ok p :=
    fun e member => add e (reordered.add.mem_iff.mpr member)
  have change' : ∀ e ∈ d'.change.entries, ∃ p, e.2.render o e.1 = .ok p :=
    fun e member => change e (reordered.change.mem_iff.mpr member)
  obtain ⟨script', rendered'⟩ := exists_render_iff.mpr ⟨add', change'⟩
  -- The phases follow one another, so it is enough to reorder within each.
  have main := reordered.mainSteps o.adapter o.limits
  have follows := (reordered.preSteps.append main).append reordered.postSteps
  rw [replay_rendered rendered] at done
  obtain ⟨after', done', same⟩ := follows s s after (.refl s) done
  rw [← replay_rendered rendered'] at done'
  exact ⟨script', after', rendered', done', Keyed.perm_of_get? same⟩

end Delta

def library : Schema where
  tables := .ofList [
    ("loans", .ofColumns [("id", .bigint), ("due", .date)]),
    ("notices", .ofColumns [("id", .bigint)]),
    ("cards", .ofColumns [("id", .bigint)])]

/-- Books and authors are new and point to each other, loans point to books. Notices change
    before they go, along with the cards. -/
def libraryUpdate (arrange : {α : Type} → List α → List α) : Delta where
  add := .ofList (arrange [
    ("books", TableSpec.addForeignKey {} "author" { toTable := some "authors" }),
    ("authors", TableSpec.addForeignKey {} "debut" { toTable := some "books" })])
  change := .ofList (arrange [
    ("loans", { foreignKeys := { add := .ofList [("book", { toTable := some "books" })] } }),
    ("notices", { columns := { delete := .ofList [("id", {})] } })])
  delete := .ofList (arrange [("notices", {}), ("cards", {})])

theorem replay_libraryUpdate :
    let d := libraryUpdate fun entries => entries
    let d' := libraryUpdate List.reverse
    d.Reordered d' ∧ ∃ script after, d.render (.ofAdapter .postgres) = .ok script ∧
      library.replay script.operations = ⟨after, none⟩ ∧
      ∃ script' after', d'.render (.ofAdapter .postgres) = .ok script' ∧
        library.replay script'.operations = ⟨after', none⟩ ∧
        after.tables.entries.Perm after'.tables.entries := by
  intro d d'
  have reordered : d.Reordered d' :=
    ⟨.swap _ _ [], .swap _ _ [], .swap _ _ [], rfl, rfl⟩
  have through : (d.render (.ofAdapter .postgres)).map
      (fun script => (library.replay script.operations).conflict) = .ok none := by decide +kernel
  obtain ⟨script, after, rendered, done⟩ := Delta.exists_replay through
  exact ⟨reordered, script, after, rendered, done, Delta.replay_reordered reordered rendered done⟩

end SchemaEvolution
