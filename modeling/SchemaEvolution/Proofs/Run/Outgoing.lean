import SchemaEvolution.Proofs.Run.LiveRun
import SchemaEvolution.Proofs.Sql.Recognition

/-! What a live run shows an observer, and what becomes of it. How a statement of the script is
   sent can be told from its first words. -/
namespace SchemaEvolution

namespace Sql

open Text

instance (start sql : String) : Decidable (Starts start sql) := by
  refine decidable_of_iff (start.toList <+: sql.toList) ⟨?_, Starts.prefixed⟩
  rintro ⟨rest, whole⟩
  exact ⟨String.ofList rest, String.toList_inj.mp (by simp [← whole])⟩

/-- A statement of the script as it is sent. A remark is not sent, and an ALTER statement goes on
    with the extra text. -/
def outgoing? (extra : Option String) (sql : String) : Option String :=
  if Starts "-- " sql then none
  else
    match extra with
    | some extra => some (if Starts "ALTER " sql then sql ++ "," ++ extra else sql)
    | none => some sql

theorem Starts.head? {start sql : String} {c : Char} (starts : Starts start sql)
    (first : start.toList.head? = some c) : sql.toList.head? = some c := by
  obtain ⟨rest, whole⟩ := starts.prefixed
  rw [← whole, List.head?_append, first]
  rfl

theorem isAlter_of_head? {sql : String} {c : Char} (first : sql.toList.head? = some c)
    (solid : isBlank c = false) (other : c.toUpper ≠ 'A') : isAlter sql = false := by
  have kept : dropBlanks sql.toList = sql.toList := by
    refine dropBlanks_eq_self fun b head => ?_
    obtain rfl := Option.some.inj (first.symm.trans head)
    exact solid
  obtain ⟨rest, spelled⟩ := List.head?_eq_some_iff.mp first
  rw [isAlter, startsWithWord, kept, spelled, show "ALTER".toList = 'A' :: "LTER".toList from rfl,
    stripWord, if_neg other]

namespace Shape

variable {a : Adapter} {sql : String}

theorem isAlter_iff (shape : Shape a sql) : isAlter sql = true ↔ Starts "ALTER " sql := by
  -- The first letter tells all other statements.
  have told {start : String} {c : Char} (starts : Starts start sql)
      (first : start.toList.head? = some c) (letter : isBlank c = false ∧ c.toUpper ≠ 'A') :
      isAlter sql = true ↔ Starts "ALTER " sql := by
    have head := starts.head? first
    refine iff_of_false ?_ fun alter => ?_
    · rw [isAlter_of_head? head letter.1 letter.2]
      exact Bool.false_ne_true
    · obtain rfl : 'A' = c := Option.some.inj ((alter.head? rfl).symm.trans head)
      exact letter.2 (by decide)
  cases shape with
  | structural word known starts =>
    simp only [structuralWords, List.mem_cons, List.not_mem_nil, or_false] at known
    rcases known with rfl | rfl | rfl | rfl
    · exact told (c := 'C') starts rfl (by decide +kernel)
    · exact iff_of_true (startsWithWord_of_starts (by decide) starts) starts
    · exact told (c := 'D') starts rfl (by decide +kernel)
    · exact told (c := 'R') starts rfl (by decide +kernel)
  | remark foreign starts => exact told (c := '-') starts rfl (by decide +kernel)
  | commentOn own starts => exact told (c := 'C') starts rfl (by decide +kernel)

theorem isComment_iff (shape : Shape a sql) : isComment sql = true ↔ Starts "-- " sql := by
  refine ⟨fun comment => ?_, isComment_of_starts⟩
  cases shape with
  | structural word known starts =>
    have structural := isStructural_of_starts known starts
    rw [isStructural_of_isComment comment] at structural
    contradiction
  | remark foreign starts => exact starts
  | commentOn own starts =>
    have first : Starts "COMMENT ON" "COMMENT ON " := ⟨" ", by decide⟩
    rw [(plain_of_commentOn (first.trans starts)).1] at comment
    contradiction

theorem outgoing (shape : Shape a sql) (d : Dispatch) :
    outgoing? d.alterExtra sql =
      if isComment (d.decorate sql) then none else some (d.decorate sql) := by
  have remark : isComment (d.decorate sql) = true ↔ Starts "-- " sql :=
    (StatementClass.holds_decorate a d sql .remark).trans shape.isComment_iff
  simp only [outgoing?, remark]
  split
  · rfl
  · unfold Dispatch.decorate
    simp only [shape.isAlter_iff]
    cases d.alterExtra <;> rfl

end Shape

end Sql

namespace Journal

/-- The statements that the database was given. -/
def executed (j : Journal) : List String := j.trace.filterMap Event.executed?

/-- The statements that an observer saw. -/
def observed (j : Journal) : List String := j.trace.filterMap Event.observed?

theorem executed_append (a b : Journal) : (a ++ b).executed = a.executed ++ b.executed :=
  List.filterMap_append

theorem observed_append (a b : Journal) : (a ++ b).observed = a.observed ++ b.observed :=
  List.filterMap_append

end Journal

theorem Delivery.observed_event (d : Delivery) : d.event.observed? = none := by
  obtain ⟨receiver, sql⟩ := d
  cases receiver <;> rfl

namespace Move

/-- Sends to the database or not at all, and nothing before that. -/
structure Direct (m : Move) : Prop where
  quiet : ∀ e ∈ m.before, e.executed? = none
  receiver : ∀ d ∈ m.delivery, d.receiver = .connection

theorem quiet_notices (d : Dispatch) (sql : String) :
    ∀ e ∈ d.notices sql, e.executed? = none ∧ e.observed? = none := by
  unfold Dispatch.notices
  split
  · simp [Event.executed?, Event.observed?]
  · split
    · exact List.forall_mem_nil _
    · simp [Event.executed?, Event.observed?]

theorem direct_note {e : Event} (quiet : e.executed? = none) : (note e).Direct :=
  ⟨List.forall_mem_singleton.mpr quiet, by simp [note]⟩

theorem direct_given (entry : LogEntry) (sql : String) : (given entry sql).Direct :=
  ⟨List.forall_mem_singleton.mpr rfl, by simp [given]⟩

theorem direct_generated {d : Dispatch} (direct : d.externalScript = none)
    (s : Sql.PlacedStatement) : (generated d s).Direct := by
  constructor
  · exact List.forall_mem_cons.mpr ⟨rfl, fun e member => (quiet_notices d _ e member).1⟩
  · unfold generated
    dsimp only
    split
    · simp
    · simp [Dispatch.delivery, Dispatch.scriptTarget?, direct]

theorem executed_cons {m : Move} (direct : m.Direct) (ms : List Move) :
    (journal (m :: ms)).executed = m.delivery.toList.map Delivery.sql ++ (journal ms).executed := by
  have before : m.before.filterMap Event.executed? = [] :=
    List.filterMap_eq_nil_iff.mpr direct.quiet
  have first : (journal [m]).executed = m.delivery.toList.map Delivery.sql := by
    rw [journal_singleton, Journal.executed, events, List.filterMap_append, before]
    cases delivered : m.delivery with
    | none => rfl
    | some d => simp [Delivery.event, direct.receiver d delivered, Event.executed?]
  rw [← first, ← Journal.executed_append, ← journal_append, List.singleton_append]

theorem toDatabase_executed {ms : List Move} (direct : ∀ m ∈ ms, m.Direct) :
    Execution.toDatabase (journal ms).executed = deliveries ms := by
  induction ms with
  | nil => rfl
  | cons m ms ih =>
    rw [List.forall_mem_cons] at direct
    rw [executed_cons direct.1, Execution.toDatabase_append, ih direct.2, deliveries_cons]
    cases delivered : m.delivery with
    | none => rfl
    | some d =>
      obtain ⟨receiver, sql⟩ := d
      obtain rfl : receiver = .connection := direct.1.receiver _ delivered
      rfl

theorem observed_cons (m : Move) (ms : List Move) :
    (journal (m :: ms)).observed =
      m.before.filterMap Event.observed? ++ (journal ms).observed := by
  have first : (journal [m]).observed = m.before.filterMap Event.observed? := by
    rw [journal_singleton, Journal.observed, events, List.filterMap_append]
    cases m.delivery <;> simp [Delivery.observed_event]
  rw [← first, ← Journal.observed_append, ← journal_append, List.singleton_append]

theorem observed_generated (d : Dispatch) (s : Sql.PlacedStatement) (ms : List Move) :
    (journal (generated d s :: ms)).observed = s.sql :: (journal ms).observed := by
  have silent : (d.notices (d.decorate s.sql)).filterMap Event.observed? = [] :=
    List.filterMap_eq_nil_iff.mpr fun e member => (quiet_notices d _ e member).2
  have shown : Event.observed? (.observe s.sql) = some s.sql := rfl
  rw [observed_cons, generated, List.filterMap_cons_some shown, silent]
  rfl

theorem observed_flatMap (f : α → List Move) (xs : List α) :
    (journal (xs.flatMap f)).observed = xs.flatMap fun x => (journal (f x)).observed := by
  induction xs with
  | nil => rfl
  | cons x xs ih =>
    rw [List.flatMap_cons, List.flatMap_cons, journal_append, Journal.observed_append, ih]

/-- The moves that a script asks for. -/
inductive OfScript (d : Dispatch) (a : Adapter) : Move → Prop
  | note (s : Step) : OfScript d a (note (.log (s.announcement false)))
  | statement (p : Sql.PlacedStatement) (shape : Sql.Shape a p.sql) : OfScript d a (generated d p)

namespace OfScript

variable {d : Dispatch} {a : Adapter} {m : Move}

theorem direct (move : m.OfScript d a) (noScript : d.externalScript = none) : m.Direct := by
  cases move with
  | note s => exact direct_note rfl
  | statement p shape => exact direct_generated noScript p

/-- What the observer is shown is sent, as it goes out. -/
theorem executed_eq (noScript : d.externalScript = none) {ms : List Move}
    (moves : ∀ m ∈ ms, m.OfScript d a) :
    (journal ms).executed = (journal ms).observed.filterMap (Sql.outgoing? d.alterExtra) := by
  induction ms with
  | nil => rfl
  | cons m ms ih =>
    rw [List.forall_mem_cons] at moves
    rw [executed_cons (moves.1.direct noScript), ih moves.2]
    cases moves.1 with
    | note s =>
      rw [observed_cons]
      rfl
    | statement p shape =>
      rw [observed_generated, List.filterMap_cons, shape.outgoing d, generated]
      dsimp only
      split
      · rfl
      · simp [Dispatch.delivery, Dispatch.scriptTarget?, noScript]

theorem shown_of_delivery (move : m.OfScript d a) (noScript : d.externalScript = none)
    {sql : String} (delivered : m.delivery = some ⟨.connection, sql⟩) :
    ∃ p, (journal [m]).observed = [p] ∧ Sql.outgoing? d.alterExtra p = some sql := by
  cases move with
  | note s => contradiction
  | statement p shape =>
    refine ⟨p.sql, observed_generated d p [], ?_⟩
    rw [shape.outgoing d]
    unfold generated at delivered
    dsimp only at delivered
    split at delivered
    · contradiction
    · rw [if_neg ‹_›]
      simp [Dispatch.delivery, Dispatch.scriptTarget?, noScript] at delivered
      rw [delivered]

end OfScript

end Move

namespace Execution

variable {o : MigrationOptions} {a : Adapter} {b : Database} {past : List Delivery}

theorem ofScript_of_mem {steps : List Step} :
    ∀ m ∈ steps.flatMap (stepMoves o a), m.OfScript o.dispatch a := by
  refine List.forall_mem_flatMap.mpr fun s _ => List.forall_mem_cons.mpr ⟨.note s, ?_⟩
  refine List.forall_mem_map.mpr fun p placed => .statement p ?_
  refine Sql.shape_statements a s.operation p.sql ?_
  rw [← Sql.sql_stepStatements]
  exact List.mem_map_of_mem placed

theorem observed_placed (d : Dispatch) (ps : List Sql.PlacedStatement) :
    (Move.journal (ps.map (.generated d))).observed = ps.map Sql.PlacedStatement.sql := by
  induction ps with
  | nil => rfl
  | cons p ps ih => rw [List.map_cons, Move.observed_generated, ih, List.map_cons]

theorem observed_steps (o : MigrationOptions) (a : Adapter) (script : Script) :
    (Move.journal (script.steps.flatMap (stepMoves o a))).observed =
      Sql.scriptStatements a script := by
  rw [Move.observed_flatMap, scriptStatements_eq]
  refine List.flatMap_congr fun s _ => ?_
  rw [stepMoves, Move.observed_cons, observed_placed, Sql.sql_stepStatements]
  rfl

theorem direct_wrapperMoves (sql : Option String) : ∀ m ∈ wrapperMoves sql, m.Direct :=
  List.forall_mem_map.mpr fun sql _ => Move.direct_given (wrapperEntry sql) sql

theorem executed_wrapperMoves (sql : Option String) :
    (Move.journal (wrapperMoves sql)).executed = sql.toList := by
  cases sql <;> rfl

theorem observed_wrapperMoves (sql : Option String) :
    (Move.journal (wrapperMoves sql)).observed = [] := by
  cases sql <;> rfl

theorem direct_rawMoves (statements : List RawStatement) :
    ∀ m ∈ rawMoves o b past statements, m.Direct := by
  induction statements generalizing past with
  | nil => exact List.forall_mem_nil _
  | cons s ss ih =>
    rw [rawMoves, List.forall_mem_cons]
    refine ⟨⟨fun e member => (s.quiet_inquiry _ o.debug e member).1, by simp⟩, ?_⟩
    split
    · exact List.forall_mem_cons.mpr ⟨Move.direct_given _ _, ih⟩
    · exact ih

theorem executed_rawMoves (statements : List RawStatement) :
    (Move.journal (rawMoves o b past statements)).executed =
      (RawStatement.chosen b past statements).map RawStatement.sql := by
  induction statements generalizing past with
  | nil => rfl
  | cons s ss ih =>
    have asked := fun e member => (s.quiet_inquiry (b.select past) o.debug e member).1
    rw [rawMoves, RawStatement.chosen, Move.executed_cons ⟨asked, by simp⟩]
    split
    · rw [Move.executed_cons (Move.direct_given _ _), ih]
      rfl
    · exact ih

theorem observed_rawMoves (statements : List RawStatement) :
    (Move.journal (rawMoves o b past statements)).observed = [] := by
  induction statements generalizing past with
  | nil => rfl
  | cons s ss ih =>
    have asked : (s.inquiry (b.select past) o.debug).filterMap Event.observed? = [] :=
      List.filterMap_eq_nil_iff.mpr fun e member => (s.quiet_inquiry _ o.debug e member).2
    rw [rawMoves, Move.observed_cons, asked, List.nil_append]
    split
    · rw [Move.observed_cons, ih]
      rfl
    · exact ih

end Execution

end SchemaEvolution
