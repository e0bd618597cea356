import SchemaEvolution.Proofs.Run.Inquiry
import SchemaEvolution.Run.Execution

/-! A live run as a list of moves. The list is made out as if every statement were accepted.
   What the database and the external script say only decides how far the run gets: the first
   move that is turned down is the last one that is made. -/
namespace SchemaEvolution

namespace World

/-- What the receiver of a statement says to it, after these deliveries. -/
def answer (w : World) (past : List Delivery) (d : Delivery) : Except Failure Unit :=
  match d.receiver with
  | .connection => w.database.accept past d.sql
  | .program script table =>
    match w.program past script d.sql table with
    | .success => .ok ()
    | .failed status => .error (.externalScript script status d.sql)
    | .notStarted reason => .error (.io reason)

/-- Each of the deliveries is accepted, after those before it. -/
def Accepts (w : World) (past : List Delivery) : List Delivery → Prop
  | [] => True
  | d :: rest => w.answer past d = .ok () ∧ w.Accepts (past ++ [d]) rest

theorem accepts_append {w : World} {past ds es : List Delivery} :
    w.Accepts past (ds ++ es) ↔ w.Accepts past ds ∧ w.Accepts (past ++ ds) es := by
  induction ds generalizing past with
  | nil => simp [Accepts]
  | cons d ds ih => simp [Accepts, ih, and_assoc]

end World

def Delivery.event (d : Delivery) : Event :=
  match d.receiver with
  | .connection => .execute d.sql
  | .program script table =>
    .log ⟨.info, "Running external script", [("script", script), ("table", table)]⟩

/-- Some events, and then perhaps a delivery, on behalf of a script line. Line 0 stands
    for none. -/
structure Move where
  line : Nat := 0
  before : List Event := []
  delivery : Option Delivery := none

namespace Move

def note (e : Event) : Move := { before := [e] }

def events (m : Move) : List Event := m.before ++ m.delivery.toList.map Delivery.event

def answer (w : World) (past : List Delivery) (m : Move) : Except Failure Unit :=
  match m.delivery with
  | none => .ok ()
  | some d => w.answer past d

def deliveries (ms : List Move) : List Delivery := ms.filterMap delivery

theorem deliveries_cons (m : Move) (ms : List Move) :
    deliveries (m :: ms) = m.delivery.toList ++ deliveries ms := by
  cases delivered : m.delivery <;> simp [deliveries, delivered]

theorem deliveries_append (ms ns : List Move) :
    deliveries (ms ++ ns) = deliveries ms ++ deliveries ns := List.filterMap_append

theorem answer_ok_iff {w : World} {past : List Delivery} {m : Move} :
    m.answer w past = .ok () ↔ w.Accepts past m.delivery.toList := by
  unfold answer
  cases m.delivery <;> simp [World.Accepts]

theorem answer_error_iff {w : World} {past : List Delivery} {m : Move} {e : Failure} :
    m.answer w past = .error e ↔ ∃ d, m.delivery = some d ∧ w.answer past d = .error e := by
  unfold answer
  cases m.delivery <;> simp

def journal (ms : List Move) : Journal := ⟨⟨ms.flatMap events, []⟩, deliveries ms⟩

theorem journal_append (ms ns : List Move) : journal (ms ++ ns) = journal ms ++ journal ns := by
  simp [journal, deliveries_append, Journal.append_eq]

theorem journal_singleton (m : Move) : journal [m] = ⟨⟨m.events, []⟩, m.delivery.toList⟩ := by
  cases delivered : m.delivery <;> simp [journal, deliveries, delivered]

end Move

namespace World

/-- Makes moves until one is turned down. Gives what comes of them, and those made. -/
def play (w : World) (script : Script) (past : List Delivery) :
    List Move → Except Failure Unit × List Move
  | [] => (.ok (), [])
  | m :: rest =>
    match m.answer w past with
    | .ok () =>
      let later := w.play script (past ++ m.delivery.toList) rest
      (later.1, m :: later.2)
    | .error e => (.error (e.attribute script m.line), [m])

variable {w : World} {script : Script} {past : List Delivery}

theorem play_cases (w : World) (script : Script) (past : List Delivery) (ms : List Move) :
    w.Accepts past (Move.deliveries ms) ∧ w.play script past ms = (.ok (), ms) ∨
      ∃ made m unmade d e, ms = made ++ m :: unmade ∧ m.delivery = some d ∧
        w.Accepts past (Move.deliveries made) ∧
        w.answer (past ++ Move.deliveries made) d = .error e ∧
        w.play script past ms = (.error (e.attribute script m.line), made ++ [m]) := by
  induction ms generalizing past with
  | nil => exact .inl ⟨trivial, rfl⟩
  | cons m ms ih =>
    rw [play]
    cases answer : m.answer w past with
    | error e =>
      obtain ⟨d, delivered, rejected⟩ := Move.answer_error_iff.mp answer
      right
      refine ⟨[], m, ms, d, e, rfl, delivered, trivial, ?_, rfl⟩
      rw [Move.deliveries, List.filterMap_nil, List.append_nil, rejected]
    | ok _ =>
      have first := Move.answer_ok_iff.mp answer
      -- What is accepted here is part of the past of the moves after it.
      rcases ih (past ++ m.delivery.toList) with
        ⟨accepted, played⟩ | ⟨made, n, unmade, d, e, split, delivered, accepted, rejected, played⟩
      · left
        rw [Move.deliveries_cons, accepts_append, played]
        exact ⟨⟨first, accepted⟩, rfl⟩
      · right
        refine ⟨m :: made, n, unmade, d, e, congrArg (m :: ·) split, delivered, ?_, ?_, ?_⟩
        · rw [Move.deliveries_cons, accepts_append]
          exact ⟨first, accepted⟩
        · rw [Move.deliveries_cons, ← List.append_assoc, rejected]
        · rw [played]
          rfl

theorem play_append (ms ns : List Move) :
    w.play script past (ms ++ ns) =
      match w.play script past ms with
      | (.ok (), made) =>
        let later := w.play script (past ++ Move.deliveries ms) ns
        (later.1, made ++ later.2)
      | (.error e, made) => (.error e, made) := by
  induction ms generalizing past with
  | nil => simp [play, Move.deliveries]
  | cons m ms ih =>
    rw [List.cons_append, play, play]
    cases m.answer w past with
    | error e => rfl
    | ok _ =>
      rw [ih, Move.deliveries_cons, ← List.append_assoc]
      obtain ⟨result, made⟩ := w.play script (past ++ m.delivery.toList) ms
      cases result <;> rfl

end World

namespace Run

/-- The action makes these moves, after these deliveries. Unless one is turned down it results
    in the value. -/
def Makes (w : World) (script : Script) (past : List Delivery) (act : Run α) (a : α)
    (ms : List Move) : Prop :=
  Yields past act ((w.play script past ms).1.map fun _ => a)
    (Move.journal (w.play script past ms).2)

variable {w : World} {script : Script} {past : List Delivery}

theorem makes_pure (a : α) : Makes w script past (pure a) a [] := yields_pure a

theorem makes_emit (e : Event) : Makes w script past (emit e) () [.note e] := yields_emit e

theorem makes_quiet {act : Run α} {a : α} {es : List Event}
    (yields : Yields past act (.ok a) ⟨⟨es, []⟩, []⟩) :
    Makes w script past act a [⟨0, es, none⟩] := by
  have told : Move.journal [⟨0, es, none⟩] = ⟨⟨es, []⟩, []⟩ := by
    simp [Move.journal_singleton, Move.events]
  rw [← told] at yields
  exact yields

theorem makes_move {act : Run Unit} {m : Move}
    (yields : Yields past act ((m.answer w past).mapError (·.attribute script m.line))
      ⟨⟨m.events, []⟩, m.delivery.toList⟩) : Makes w script past act () [m] := by
  rw [← Move.journal_singleton] at yields
  unfold Makes World.play
  cases answer : m.answer w past with
  | ok _ =>
    rw [answer] at yields
    exact yields
  | error e =>
    rw [answer] at yields
    exact yields

namespace Makes

variable {act : Run α} {next : α → Run β} {a : α} {b : β} {ms ns : List Move}

theorem bind (first : Makes w script past act a ms)
    (second : Makes w script (past ++ Move.deliveries ms) (next a) b ns) :
    Makes w script past (act >>= next) b (ms ++ ns) := by
  unfold Makes at first second ⊢
  rw [World.play_append]
  rcases w.play_cases script past ms with ⟨_, played⟩ | ⟨made, m, _, _, e, _, _, _, _, played⟩
  · rw [played] at first ⊢
    rw [Move.journal_append]
    exact Yields.bind first second
  · rw [played] at first ⊢
    exact Yields.stop first

theorem before_silence (first : Makes w script past act a ms)
    (second : ∀ past, Makes w script past (next a) b []) :
    Makes w script past (act >>= next) b ms := by
  have both := first.bind (second _)
  rw [List.append_nil] at both
  exact both

theorem followed_by {last : Run β} (first : Makes w script past act a ms)
    (second : Makes w script (past ++ Move.deliveries ms) last b ns) :
    Makes w script past (act >>= fun _ => last) b (ms ++ ns) := first.bind second

theorem forM {f : γ → Run Unit} {moves : γ → List Move}
    (each : ∀ past x, Makes w script past (f x) () (moves x)) (xs : List γ) :
    Makes w script past (xs.forM f) () (xs.flatMap moves) := by
  induction xs generalizing past with
  | nil => exact makes_pure ()
  | cons x xs ih => exact (each past x).followed_by ih

end Makes

end Run

end SchemaEvolution
