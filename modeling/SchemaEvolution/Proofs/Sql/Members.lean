import Mathlib.Data.List.Forall2
import SchemaEvolution.Proofs.Script.Layout
import SchemaEvolution.Sql.Statement

/-! The members of a bulk block that a statement is made of. A member that stands for itself
   has its own statements; a run of members with clauses shares one. -/
namespace SchemaEvolution.Sql

def Group.members : Group → List Nat
  | run first rest => (first :: rest).map Prod.fst
  | lone i _ => [i]

/-- What the entries of a list have to do with a group that is made of some of them. -/
def Group.From (clause? : Alteration → Option String) (es : List (Nat × Alteration)) :
    Group → Prop
  | run first rest => ∀ p ∈ first :: rest, ∃ alteration, (p.1, alteration) ∈ es ∧
      clause? alteration = some p.2
  | lone i alteration => (i, alteration) ∈ es

theorem Group.From.cons {clause? : Alteration → Option String} {es : List (Nat × Alteration)}
    {g : Group} (origin : g.From clause? es) (e : Nat × Alteration) : g.From clause? (e :: es) := by
  cases g with
  | run first rest =>
    intro p member
    obtain ⟨alteration, listed, clause⟩ := origin p member
    exact ⟨alteration, List.mem_cons_of_mem e listed, clause⟩
  | lone i alteration => exact List.mem_cons_of_mem e origin

theorem from_groups (clause? : Alteration → Option String) (es : List (Nat × Alteration)) :
    ∀ g ∈ groups clause? es, g.From clause? es := by
  induction es with
  | nil => exact List.forall_mem_nil _
  | cons e rest ih =>
    obtain ⟨i, alteration⟩ := e
    have later : ∀ g ∈ groups clause? rest, g.From clause? ((i, alteration) :: rest) :=
      fun g member => (ih g member).cons _
    unfold groups
    split
    next none => exact List.forall_mem_cons.mpr ⟨List.mem_cons_self, later⟩
    next c clause =>
      have first : ∃ other, (i, other) ∈ (i, alteration) :: rest ∧ clause? other = some c :=
        ⟨alteration, List.mem_cons_self, clause⟩
      split
      next start more groups grouped =>
        rw [grouped, List.forall_mem_cons] at later
        refine List.forall_mem_cons.mpr ⟨?_, later.2⟩
        exact List.forall_mem_cons.mpr ⟨first, later.1⟩
      next =>
        refine List.forall_mem_cons.mpr ⟨?_, later⟩
        exact List.forall_mem_singleton.mpr first

theorem mem_numbered {as : List Alteration} {i : Nat} {alteration : Alteration} :
    (i, alteration) ∈ numbered as ↔ as[i]? = some alteration := by
  rw [numbered, List.mem_map]
  constructor
  · rintro ⟨p, listed, same⟩
    obtain ⟨rfl, rfl⟩ := Prod.mk.inj same
    exact List.mk_mem_zipIdx_iff_getElem?.mp listed
  · intro found
    exact ⟨(alteration, i), List.mk_mem_zipIdx_iff_getElem?.mpr found, rfl⟩

theorem alterClause_of_clauseInBlock {a : Adapter} {alteration : Alteration} {c : String}
    (clause : clauseInBlock a alteration = some c) : alterClause a alteration = some c := by
  unfold clauseInBlock at clause
  split at clause
  · exact clause
  · contradiction

/-- A statement, and the members of a bulk block that it is made of. -/
structure MemberStatement where
  members : List Nat
  sql : String

def memberStatements (a : Adapter) : Operation → List MemberStatement
  | .changeTable t as =>
    (groups (clauseInBlock a) (numbered as)).flatMap fun g =>
      (g.statements a t).map fun s => ⟨g.members, s.sql⟩
  | op => (statements a op).map fun sql => ⟨[], sql⟩

/-- Where a statement of an operation comes from, and the line of script text for that. -/
inductive Origin (a : Adapter) : Operation → MemberStatement → String → Prop
  | member {t : String} {as : List Alteration} {i : Nat} {alteration : Alteration} {sql : String}
      (found : as[i]? = some alteration) (own : sql ∈ alterationStatements a t alteration) :
      Origin a (.changeTable t as) ⟨[i], sql⟩ alteration.memberLine
  | several {t : String} {as : List Alteration} {members : List Nat} {clauses : List String}
      {text : String} (many : 2 ≤ members.length)
      (each : List.Forall₂ (fun i c => ∃ alteration, as[i]? = some alteration ∧
        alterClause a alteration = some c) members clauses)
      (first : (Operation.changeTable t as).scriptLines.head? = some text) :
      Origin a (.changeTable t as) ⟨members, alterTable a t (", ".intercalate clauses)⟩ text
  | whole {op : Operation} {sql text : String} (single : op.isBulk = false)
      (own : sql ∈ statements a op) (first : op.scriptLines.head? = some text) :
      Origin a op ⟨[], sql⟩ text

variable {pre main post : List Operation} {a : Adapter}

theorem shows_head {step : Step} (member : step ∈ (Script.assemble pre main post).steps) {text : String}
    (first : step.operation.scriptLines.head? = some text) :
    (Script.assemble pre main post).Shows step.line text := by
  rw [List.head?_eq_getElem?] at first
  exact Script.shows_scriptLine member first

theorem shows_member {step : Step} (member : step ∈ (Script.assemble pre main post).steps)
    {t : String} {as : List Alteration} (block : step.operation = .changeTable t as) {i : Nat}
    {alteration : Alteration} (found : as[i]? = some alteration) :
    (Script.assemble pre main post).Shows (step.memberLine i) alteration.memberLine := by
  have line : step.operation.scriptLines[i + 1]? = some alteration.memberLine := by
    obtain ⟨bound, _⟩ := List.getElem?_eq_some_iff.mp found
    have inside : i < (as.map Alteration.memberLine).length := by
      rw [List.length_map]
      exact bound
    rw [block, Operation.scriptLines, List.cons_append, List.getElem?_cons_succ,
      List.getElem?_append_left inside, List.getElem?_map, found]
    rfl
  have shown := Script.shows_scriptLine member line
  have place : step.line + (i + 1) = step.memberLine i := by
    unfold Step.memberLine
    omega
  rwa [place] at shown

def AtOrigin (a : Adapter) (script : Script) (op : Operation) (p : PlacedStatement)
    (s : MemberStatement) : Prop :=
  p.sql = s.sql ∧ ∃ text, Origin a op s text ∧ script.Shows p.line text

theorem forall₂_map_same {r : β → γ → Prop} {f : α → β} {g : α → γ} {xs : List α}
    (each : ∀ x ∈ xs, r (f x) (g x)) : List.Forall₂ r (xs.map f) (xs.map g) := by
  rw [List.forall₂_map_left_iff, List.forall₂_map_right_iff, List.forall₂_same]
  exact each

theorem group_at_origin {step : Step} (member : step ∈ (Script.assemble pre main post).steps)
    {t : String} {as : List Alteration} (block : step.operation = .changeTable t as) {g : Group}
    (origin : g.From (clauseInBlock a) (numbered as)) :
    List.Forall₂ (AtOrigin a (Script.assemble pre main post) step.operation)
      ((g.statements a t).map fun s => ⟨(s.member.map step.memberLine).getD step.line, s.sql⟩)
      ((g.statements a t).map fun s => ⟨g.members, s.sql⟩) := by
  refine forall₂_map_same fun s made => ⟨rfl, ?_⟩
  rw [block]
  match g, origin with
  | .lone i alteration, listed =>
    obtain ⟨sql, own, rfl⟩ := List.mem_map.mp made
    have found := mem_numbered.mp listed
    exact ⟨_, .member found own, shows_member member block found⟩
  | .run (i, c) [], each =>
    -- With nobody to share it, the statement is the member's own.
    obtain rfl := List.mem_singleton.mp made
    obtain ⟨alteration, listed, clause⟩ := each (i, c) List.mem_cons_self
    have found := mem_numbered.mp listed
    have own : alterTable a t c ∈ alterationStatements a t alteration := by
      rw [alterationStatements, alterClause_of_clauseInBlock clause]
      exact List.mem_singleton_self _
    exact ⟨_, .member found own, shows_member member block found⟩
  | .run first (next :: rest), each =>
    obtain rfl := List.mem_singleton.mp made
    have many : 2 ≤ (Group.run first (next :: rest)).members.length := by
      simp [Group.members]
    have clauses : List.Forall₂ (fun i c => ∃ alteration, as[i]? = some alteration ∧
        alterClause a alteration = some c)
        ((first :: next :: rest).map Prod.fst) ((first :: next :: rest).map Prod.snd) := by
      refine forall₂_map_same fun p listed => ?_
      obtain ⟨alteration, numbered, clause⟩ := each p listed
      exact ⟨alteration, mem_numbered.mp numbered, alterClause_of_clauseInBlock clause⟩
    have head : (Operation.changeTable t as).scriptLines.head? =
        some ("change_table(" ++ Text.quoted t ++ ", bulk: true) do |t|") := rfl
    exact ⟨_, .several many clauses head, shows_head member (block ▸ head)⟩

/-- Every statement of a step is placed on the line that it comes from. -/
theorem placed_at_origin (a : Adapter) {step : Step}
    (member : step ∈ (Script.assemble pre main post).steps) :
    List.Forall₂ (AtOrigin a (Script.assemble pre main post) step.operation)
      (stepStatements a step) (memberStatements a step.operation) := by
  unfold stepStatements
  split
  next t as block =>
    rw [block, memberStatements, bulkStatements, List.map_flatMap, ← block]
    have same : List.Forall₂ (fun g g' => g = g' ∧ g.From (clauseInBlock a) (numbered as))
        (groups (clauseInBlock a) (numbered as)) (groups (clauseInBlock a) (numbered as)) :=
      List.forall₂_same.mpr fun g listed => ⟨rfl, from_groups _ _ g listed⟩
    refine List.rel_flatMap same ?_
    rintro g _ ⟨rfl, origin⟩
    exact group_at_origin member block origin
  next op other =>
    have single : step.operation.isBulk = false := by
      unfold Operation.isBulk
      split
      next t as block => exact absurd block (other t as)
      next => rfl
    have apart : memberStatements a step.operation =
        (statements a step.operation).map fun sql => ⟨[], sql⟩ := by
      unfold memberStatements
      split
      next t as block => exact absurd block (other t as)
      next => rfl
    obtain ⟨text, below, lines⟩ := List.exists_cons_of_ne_nil step.operation.scriptLines_ne_nil
    have first : step.operation.scriptLines.head? = some text := by rw [lines]; rfl
    rw [apart]
    refine forall₂_map_same fun sql own => ⟨rfl, text, .whole single own first, ?_⟩
    exact shows_head member first

theorem origin_of_placed {script : Script} {op : Operation} {ps : List PlacedStatement}
    {ss : List MemberStatement} (origins : List.Forall₂ (AtOrigin a script op) ps ss)
    {p : PlacedStatement} (member : p ∈ ps) : ∃ s ∈ ss, AtOrigin a script op p s := by
  induction origins with
  | nil => contradiction
  | cons first _ ih =>
    rcases List.mem_cons.mp member with rfl | later
    · exact ⟨_, List.mem_cons_self, first⟩
    · obtain ⟨s, listed, placed⟩ := ih later
      exact ⟨s, List.mem_cons_of_mem _ listed, placed⟩

end SchemaEvolution.Sql
