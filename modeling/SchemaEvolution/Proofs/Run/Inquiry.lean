import SchemaEvolution.Proofs.Run.Journal
import SchemaEvolution.Run.Guard

/-! Guards. What one answers, and what is seen of asking it, depends on nothing but the
   guard and on what the database says to queries. -/
namespace SchemaEvolution

def Event.executed? : Event → Option String
  | .execute sql => some sql
  | _ => none

def Event.observed? : Event → Option String
  | .observe sql => some sql
  | _ => none

/-- What a database says to queries at one moment. -/
abbrev Answers := String → Except Failure (Option String)

def Predicate.verdict (answers : Answers) : Predicate → Except GuardError Bool
  | answer pass => .ok pass
  | failure messages => .error (.ofChain messages)
  | panic message => .error ⟨"guard panicked: " ++ message.getD "unknown panic", []⟩
  | ask query next => (next (answers query)).verdict answers

def Predicate.queries (answers : Answers) : Predicate → List String
  | ask query next => query :: (next (answers query)).queries answers
  | _ => []

def Guard.answer (answers : Answers) : Guard → Except GuardError Bool
  | query sql =>
    match answers sql with
    | .ok value => .ok ((value.map isTruthy).getD false)
    | .error e => .error ⟨e.message, []⟩
  | predicate p => p.verdict answers

def RawStatement.allowed (answers : Answers) (s : RawStatement) : Bool :=
  match s.guard with
  | none => true
  | some guard => (guard.answer answers).toOption.getD false

def Guard.inquiry (answers : Answers) : Guard → List Event
  | query sql => [.query sql]
  | predicate p => (p.queries answers).map .query

/-- What is seen of asking the guard of a statement. -/
def RawStatement.inquiry (answers : Answers) (debug : Bool) (s : RawStatement) : List Event :=
  match s.guard with
  | none => []
  | some guard =>
    match guard.answer answers with
    | .ok _ => guard.inquiry answers
    | .error e => guard.inquiry answers ++ [.log (s.skipWarning debug e)]

/-- The statements that are let through, each asked for when its turn comes: after these deliveries,
    and after the statements before it that were let through and sent. -/
def RawStatement.chosen (b : Database) (past : List Delivery) :
    List RawStatement → List RawStatement
  | [] => []
  | s :: rest =>
    if s.allowed (b.select past) then s :: chosen b (past ++ [⟨.connection, s.sql⟩]) rest
    else chosen b past rest

/-- Queries are answered without regard to what was sent. -/
def Database.Steady (b : Database) : Prop := ∀ past, b.select past = b.select []

theorem RawStatement.chosen_of_steady {b : Database} (steady : b.Steady) (past : List Delivery)
    (ss : List RawStatement) : chosen b past ss = ss.filter (·.allowed (b.select [])) := by
  induction ss generalizing past with
  | nil => rfl
  | cons s ss ih =>
    rw [chosen, steady past, ih, ih, List.filter_cons]

theorem RawStatement.mem_inquiry {answers : Answers} {debug : Bool} {s : RawStatement} {e : Event}
    (member : e ∈ s.inquiry answers debug) :
    (∃ sql, e = .query sql) ∨ ∃ error, e = .log (s.skipWarning debug error) := by
  have queries (g : Guard) : ∀ e ∈ g.inquiry answers, ∃ sql, e = .query sql := by
    cases g with
    | query sql => exact List.forall_mem_singleton.mpr ⟨sql, rfl⟩
    | predicate p => exact List.forall_mem_map.mpr fun sql _ => ⟨sql, rfl⟩
  unfold inquiry at member
  split at member
  · contradiction
  · split at member
    · exact .inl (queries _ e member)
    · rcases List.mem_append.mp member with asked | warned
      · exact .inl (queries _ e asked)
      · exact .inr ⟨_, List.mem_singleton.mp warned⟩

theorem RawStatement.quiet_inquiry (answers : Answers) (debug : Bool) (s : RawStatement) :
    ∀ e ∈ s.inquiry answers debug, e.executed? = none ∧ e.observed? = none := by
  intro e member
  rcases mem_inquiry member with ⟨sql, rfl⟩ | ⟨error, rfl⟩
  · constructor <;> rfl
  · constructor <;> rfl

section Asking

variable {past : List Delivery} (b : Database)

theorem Predicate.yields_evaluate (p : Predicate) :
    Run.Yields past (p.evaluate b) (.ok (p.verdict (b.select past)))
      ⟨⟨(p.queries (b.select past)).map .query, []⟩, []⟩ := by
  induction p with
  | answer pass => exact Run.yields_pure _
  | failure messages => exact Run.yields_pure _
  | panic message => exact Run.yields_pure _
  | ask query next ih =>
    have asked : Run.Yields past (b.ask query >>= fun told => (next told).evaluate b) _ _ :=
      (b.yields_ask query).bind_quiet rfl (ih (b.select past query))
    exact asked

theorem Guard.yields_evaluate (g : Guard) :
    Run.Yields past (g.evaluate b) (.ok (g.answer (b.select past)))
      ⟨⟨g.inquiry (b.select past), []⟩, []⟩ := by
  cases g with
  | query sql =>
    refine (b.yields_ask sql).before_silence fun _ => ?_
    unfold answer
    dsimp only
    cases b.select past sql with
    | ok value => exact Run.yields_pure _
    | error e => exact Run.yields_pure _
  | predicate p => exact p.yields_evaluate b

theorem RawStatement.yields_passes (debug : Bool) (s : RawStatement) :
    Run.Yields past (s.passes b debug) (.ok (s.allowed (b.select past)))
      ⟨⟨s.inquiry (b.select past) debug, []⟩, []⟩ := by
  unfold passes allowed inquiry
  cases s.guard with
  | none => exact Run.yields_pure true
  | some g =>
    have asked : Run.Yields past _ _ _ := g.yields_evaluate b
    dsimp only
    cases answer : g.answer (b.select past) with
    | ok pass =>
      rw [answer] at asked
      exact asked.before_silence fun _ => Run.yields_pure pass
    | error e =>
      rw [answer] at asked
      refine asked.bind_quiet (n := ⟨⟨[.log (s.skipWarning debug e)], []⟩, []⟩) rfl ?_
      exact (Run.yields_emit _).before_silence fun _ => Run.yields_pure false

end Asking

end SchemaEvolution
