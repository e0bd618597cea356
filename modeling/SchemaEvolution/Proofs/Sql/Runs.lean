import Mathlib.Data.List.Forall2
import Mathlib.Data.List.SplitBy
import SchemaEvolution.Proofs.Sql.Members

/-! The runs of a bulk block. Its members fall into parts: the longest runs of neighbours that
   have clauses, and the others each on their own. There is one way to do that, and a block
   has the statements of its parts, in their order. -/
namespace SchemaEvolution.Sql

def Joint (a : Adapter) (part : List (Nat × Alteration)) : Prop :=
  combinesClauses a = true ∧ ∀ e ∈ part, (alterClause a e.2).isSome

/-- The parts of a block. Neighbouring parts are never joint both, so a joint part ends where
   a member without a clause begins. -/
structure Split (a : Adapter) (es : List (Nat × Alteration))
    (parts : List (List (Nat × Alteration))) : Prop where
  whole : parts.flatten = es
  filled : [] ∉ parts
  joint_or_lone : ∀ part ∈ parts, Joint a part ∨ ∃ e, part = [e]
  maximal : parts.IsChain fun p q => ¬(Joint a p ∧ Joint a q)

def soleMember : List (Nat × Alteration) → Option Nat
  | [(i, _)] => some i
  | _ => none

/-- The statements of a part. Joint members are put together from what each of them would
   run with on its own. -/
inductive Gives (a : Adapter) (t : String) :
    List (Nat × Alteration) → List BulkStatement → Prop
  | joint {part : List (Nat × Alteration)} {clauses : List String} (together : Joint a part)
      (own : List.Forall₂ (fun e c => alterClause a e.2 = some c ∧
        alterationStatements a t e.2 = [alterTable a t c]) part clauses) :
      Gives a t part [⟨soleMember part, alterTable a t (", ".intercalate clauses)⟩]
  | lone {i : Nat} {alteration : Alteration} (apart : ¬Joint a [(i, alteration)])
      (some_sql : alterationStatements a t alteration ≠ []) :
      Gives a t [(i, alteration)]
        ((alterationStatements a t alteration).map fun sql => ⟨some i, sql⟩)

/- There is only one split. -/

section Unique

variable {a : Adapter} {part : List (Nat × Alteration)} {es : List (Nat × Alteration)}
  {parts : List (List (Nat × Alteration))}

def neighbours (a : Adapter) (e e' : Nat × Alteration) : Bool :=
  (clauseInBlock a e.2).isSome && (clauseInBlock a e'.2).isSome

theorem clauseInBlock_isSome {alteration : Alteration} :
    (clauseInBlock a alteration).isSome ↔
      combinesClauses a = true ∧ (alterClause a alteration).isSome := by
  unfold clauseInBlock
  split
  next combines => exact (and_iff_right combines).symm
  next apart => exact ⟨nofun, fun both => absurd both.1 apart⟩

theorem joint_singleton {e : Nat × Alteration} : Joint a [e] ↔ (clauseInBlock a e.2).isSome := by
  rw [clauseInBlock_isSome, Joint, List.forall_mem_singleton]

theorem clause_of_mem (kind : Joint a part ∨ ∃ e, part = [e]) {e : Nat × Alteration}
    (member : e ∈ part) : (clauseInBlock a e.2).isSome ↔ Joint a part := by
  rcases kind with joint | ⟨e', rfl⟩
  · exact iff_of_true (clauseInBlock_isSome.mpr ⟨joint.1, joint.2 e member⟩) joint
  · rw [List.mem_singleton.mp member, joint_singleton]

theorem Split.eq_splitBy (split : Split a es parts) : es.splitBy (neighbours a) = parts := by
  have kind := split.joint_or_lone
  refine List.splitBy_eq_iff.mpr ⟨split.whole.symm, split.filled, ?_, ?_⟩
  · intro part listed
    rcases kind part listed with joint | ⟨e, rfl⟩
    · have clause {e : Nat × Alteration} (member : e ∈ part) : (clauseInBlock a e.2).isSome :=
        (clause_of_mem (.inl joint) member).mpr joint
      refine (List.pairwise_of_forall_mem_list fun e one e' other => ?_).isChain
      rw [neighbours, clause one, clause other, Bool.and_self]
    · exact List.isChain_singleton e
  · refine split.maximal.imp_of_mem_imp fun p q left right apart => ?_
    have someLeft : p ≠ [] := fun none => split.filled (none ▸ left)
    have someRight : q ≠ [] := fun none => split.filled (none ▸ right)
    refine ⟨someLeft, someRight, Bool.eq_false_iff.mpr fun both => apart ?_⟩
    obtain ⟨last, head⟩ := Bool.and_eq_true_iff.mp both
    exact ⟨(clause_of_mem (kind p left) (List.getLast_mem someLeft)).mp last,
      (clause_of_mem (kind q right) (List.head_mem someRight)).mp head⟩

end Unique

/- The groups of a block are its parts. -/

/-- A group, and the part that it stands for. -/
inductive Group.For (a : Adapter) : List (Nat × Alteration) → Group → Prop
  | run {part : List (Nat × Alteration)} {first : Nat × String} {rest : List (Nat × String)}
      (together : Joint a part)
      (each : List.Forall₂ (fun e c => e.1 = c.1 ∧ alterClause a e.2 = some c.2)
        part (first :: rest)) : For a part (.run first rest)
  | lone {i : Nat} {alteration : Alteration} (apart : ¬Joint a [(i, alteration)]) :
      For a [(i, alteration)] (.lone i alteration)

section Groups

variable {a : Adapter} {part : List (Nat × Alteration)} {e : Nat × Alteration}
  {es : List (Nat × Alteration)} {parts : List (List (Nat × Alteration))}

theorem Split.cons (split : Split a es parts)
    (apart : ∀ p ∈ parts.head?, ¬(Joint a [e] ∧ Joint a p)) :
    Split a (e :: es) ([e] :: parts) where
  whole := by rw [List.flatten_cons, split.whole]; rfl
  filled := List.not_mem_cons_of_ne_of_not_mem nofun split.filled
  joint_or_lone := List.forall_mem_cons.mpr ⟨.inr ⟨e, rfl⟩, split.joint_or_lone⟩
  maximal := List.isChain_cons.mpr ⟨apart, split.maximal⟩

theorem Joint.cons (first : Joint a [e]) (joint : Joint a part) : Joint a (e :: part) :=
  ⟨joint.1, List.forall_mem_cons.mpr ⟨first.2 e List.mem_cons_self, joint.2⟩⟩

theorem Split.extend (split : Split a es (part :: parts)) (first : Joint a [e])
    (joint : Joint a part) : Split a (e :: es) ((e :: part) :: parts) where
  whole := by rw [← split.whole]; rfl
  filled := List.not_mem_cons_of_ne_of_not_mem nofun (List.not_mem_of_not_mem_cons split.filled)
  joint_or_lone := by
    have later := (List.forall_mem_cons.mp split.joint_or_lone).2
    exact List.forall_mem_cons.mpr ⟨.inl (first.cons joint), later⟩
  maximal := by
    obtain ⟨next, later⟩ := List.isChain_cons.mp split.maximal
    exact List.isChain_cons.mpr ⟨fun p head both => next p head ⟨joint, both.2⟩, later⟩

theorem Group.For.run_of_joint {g : Group} (stands : Group.For a part g) (joint : Joint a part) :
    ∃ first rest, g = .run first rest := by
  cases stands with
  | run together each => exact ⟨_, _, rfl⟩
  | lone apart => contradiction

theorem exists_split (a : Adapter) (es : List (Nat × Alteration)) :
    ∃ parts, Split a es parts ∧ List.Forall₂ (Group.For a) parts (groups (clauseInBlock a) es) := by
  induction es with
  | nil => exact ⟨[], ⟨rfl, List.not_mem_nil, List.forall_mem_nil _, .nil⟩, .nil⟩
  | cons e es ih =>
    obtain ⟨parts, split, stand⟩ := ih
    obtain ⟨i, alteration⟩ := e
    unfold groups
    split
    next none =>
      have apart : ¬Joint a [(i, alteration)] := fun joint => by
        have clause := joint_singleton.mp joint
        rw [none] at clause
        contradiction
      exact ⟨_, split.cons fun _ _ both => apart both.1, .cons (.lone apart) stand⟩
    next c clause =>
      have first : Joint a [(i, alteration)] :=
        joint_singleton.mpr (Option.isSome_of_eq_some clause)
      have own := alterClause_of_clauseInBlock clause
      split
      next start more later grouped =>
        -- The member goes in front of the run that its neighbour begins.
        rw [grouped] at stand
        cases stand with
        | cons head tail =>
          cases head with
          | run together each =>
            have extended : Group.For a ((i, alteration) :: _) (.run (i, c) (start :: more)) :=
              .run (first.cons together) (.cons ⟨rfl, own⟩ each)
            exact ⟨_, split.extend first together, .cons extended tail⟩
      next other =>
        have begins : Group.For a [(i, alteration)] (.run (i, c) []) :=
          .run first (.cons ⟨rfl, own⟩ .nil)
        refine ⟨_, split.cons ?_, .cons begins stand⟩
        rintro p head ⟨-, joint⟩
        obtain ⟨ps, rfl⟩ := List.head?_eq_some_iff.mp head
        obtain ⟨g, gs, stands, -, grouped⟩ := List.forall₂_cons_left_iff.mp stand
        obtain ⟨start, more, rfl⟩ := stands.run_of_joint joint
        exact other start more gs grouped

end Groups

/- What a block says. -/

theorem loneStatements_ne_nil {a : Adapter} (t : String) {alteration : Alteration}
    (none : alterClause a alteration = none) : loneStatements a t alteration ≠ [] := by
  cases a with
  | mysql => unfold alterClause mysqlClause at none; unfold loneStatements mysqlLone; grind
  | postgres => unfold alterClause postgresClause at none; unfold loneStatements postgresLone; grind
  | sqlite => unfold alterClause sqliteClause at none; unfold loneStatements sqliteLone; grind

theorem alterationStatements_ne_nil (a : Adapter) (t : String) (alteration : Alteration) :
    alterationStatements a t alteration ≠ [] := by
  unfold alterationStatements
  split
  next => exact List.cons_ne_nil _ _
  next none => exact loneStatements_ne_nil t none

theorem Group.For.gives {a : Adapter} {part : List (Nat × Alteration)} {g : Group}
    (stands : Group.For a part g) (t : String) : Gives a t part (g.statements a t) := by
  cases stands with
  | lone apart => exact .lone apart (alterationStatements_ne_nil a t _)
  | @run _ first rest together each =>
    have own : List.Forall₂ (fun e c => alterClause a e.2 = some c ∧
        alterationStatements a t e.2 = [alterTable a t c])
        part ((first :: rest).map Prod.snd) := by
      refine List.forall₂_map_right_iff.mpr (each.imp fun e c same => ⟨same.2, ?_⟩)
      rw [alterationStatements, same.2]
    have made : (Group.run first rest).statements a t =
        [⟨soleMember part, alterTable a t (", ".intercalate ((first :: rest).map Prod.snd))⟩] := by
      cases each with
      | cons same later =>
        cases later with
        | nil =>
          rw [Group.statements, soleMember, same.1]
          rfl
        | cons _ _ => rfl
    exact made ▸ .joint together own

theorem getElem?_numbered (as : List Alteration) (i : Nat) :
    (numbered as)[i]? = as[i]?.map fun alteration => (i, alteration) := by
  rw [numbered, List.getElem?_map, List.getElem?_zipIdx, Option.map_map, Nat.zero_add]
  rfl

/-- A block has one split into parts, in which every member stands once and in its place, and
    its statements are those of the parts. -/
theorem bulkStatements_by_parts (a : Adapter) (t : String) (as : List Alteration) :
    ∃ parts : List (List (Nat × Alteration)),
      (∀ other, Split a (numbered as) other ↔ other = parts) ∧
      (∀ i : Nat, parts.flatten[i]? = as[i]?.map fun alteration => (i, alteration)) ∧
      ∃ outputs, List.Forall₂ (Gives a t) parts outputs ∧
        bulkStatements a t as = outputs.flatten := by
  obtain ⟨parts, split, stand⟩ := exists_split a (numbered as)
  have unique (other : List (List (Nat × Alteration))) :
      Split a (numbered as) other ↔ other = parts := by
    constructor
    · intro another
      exact another.eq_splitBy.symm.trans split.eq_splitBy
    · rintro rfl
      exact split
  have placed (i : Nat) : parts.flatten[i]? = as[i]?.map fun alteration => (i, alteration) := by
    rw [split.whole, getElem?_numbered]
  have given : List.Forall₂ (Gives a t) parts
      ((groups (clauseInBlock a) (numbered as)).map (Group.statements a t)) :=
    List.forall₂_map_right_iff.mpr (stand.imp fun _ _ stands => stands.gives t)
  exact ⟨parts, unique, placed, _, given, List.flatMap_def⟩

end SchemaEvolution.Sql
