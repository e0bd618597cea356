import SchemaEvolution.Proofs.Run.LiveRun

/-! What a live run has to send, and on behalf of which line. The first statement that is
   rejected is the last one that is sent, and the failure is attributed to its line. -/
namespace SchemaEvolution

/-- A statement on its way out, on behalf of a script line; line 0 stands for none. -/
structure Sending where
  line : Nat
  delivery : Delivery

namespace Sending

def given (sql : String) : Sending := ⟨0, ⟨.connection, sql⟩⟩

def generated? (d : Dispatch) (p : Sql.PlacedStatement) : Option Sending :=
  let sql := d.decorate p.sql
  if Sql.isComment sql then none else some ⟨p.line, d.delivery sql⟩

theorem line_of_generated {d : Dispatch} {p : Sql.PlacedStatement} {x : Sending}
    (sent : generated? d p = some x) : x.line = p.line := by
  unfold generated? at sent
  dsimp only at sent
  split at sent
  · contradiction
  · obtain rfl := Option.some.inj sent
    rfl

end Sending

def Move.sending? (m : Move) : Option Sending := m.delivery.map fun d => ⟨m.line, d⟩

theorem Move.sending?_generated (d : Dispatch) (p : Sql.PlacedStatement) :
    (generated d p).sending? = Sending.generated? d p := by
  unfold sending? generated Sending.generated?
  dsimp only
  split
  · rfl
  · rfl

namespace Move

theorem sending?_of_delivery {m : Move} {d : Delivery} (delivered : m.delivery = some d) :
    m.sending? = some ⟨m.line, d⟩ := by
  rw [sending?, delivered, Option.map_some]

theorem deliveries_eq (ms : List Move) :
    deliveries ms = (ms.filterMap sending?).map Sending.delivery := by
  have same : (fun m => (sending? m).map Sending.delivery) = delivery := by
    funext m
    rw [sending?, Option.map_map]
    exact Option.map_id_apply
  rw [List.map_filterMap, same, deliveries]

end Move

namespace Execution

def scriptSendings (o : MigrationOptions) (a : Adapter) (script : Script) : List Sending :=
  o.preQuery.toList.map .given
    ++ script.steps.flatMap fun step =>
      (Sql.stepStatements a step).filterMap (Sending.generated? o.dispatch)

/-- What a live run has to send, in order. -/
def sendings (o : MigrationOptions) (b : Database) (script : Script)
    (statements : List RawStatement) : List Sending :=
  let first := scriptSendings o b.adapter script
  let chosen := RawStatement.chosen b (first.map Sending.delivery) statements
  first ++ chosen.map (fun s => .given s.sql) ++ o.postQuery.toList.map .given

variable {o : MigrationOptions} {a : Adapter} {b : Database} {script : Script}

theorem sending_wrapperMoves (sql : Option String) :
    (wrapperMoves sql).filterMap Move.sending? = sql.toList.map .given := by
  cases sql <;> rfl

theorem sending_stepMoves (step : Step) :
    (stepMoves o a step).filterMap Move.sending? =
      (Sql.stepStatements a step).filterMap (Sending.generated? o.dispatch) := by
  have quiet : (Move.note (.log (step.announcement false))).sending? = none := rfl
  rw [stepMoves, List.filterMap_cons_none quiet, List.filterMap_map]
  exact List.filterMap_congr fun p _ => Move.sending?_generated o.dispatch p

theorem sending_scriptMoves :
    (scriptMoves o a script).filterMap Move.sending? = scriptSendings o a script := by
  rw [scriptMoves, List.filterMap_append, sending_wrapperMoves, List.filterMap_flatMap]
  exact congrArg _ (List.flatMap_congr fun step _ => sending_stepMoves step)

theorem beforeRaw_eq : beforeRaw o a script = (scriptSendings o a script).map Sending.delivery := by
  rw [beforeRaw, Move.deliveries_eq, sending_scriptMoves]

theorem sending_rawMoves (past : List Delivery) (statements : List RawStatement) :
    (rawMoves o b past statements).filterMap Move.sending? =
      (RawStatement.chosen b past statements).map fun s => .given s.sql := by
  induction statements generalizing past with
  | nil => rfl
  | cons s ss ih =>
    rw [rawMoves, RawStatement.chosen, List.filterMap_cons_none rfl]
    split
    · rw [List.map_cons, ← ih]
      rfl
    · exact ih past

theorem sending_moves (statements : List RawStatement) :
    (moves o b script statements).filterMap Move.sending? = sendings o b script statements := by
  simp only [moves, sendings, List.filterMap_append, sending_wrapperMoves, sending_scriptMoves,
    sending_rawMoves, beforeRaw_eq, List.append_assoc]

theorem source_of_sending {statements : List RawStatement} {x : Sending}
    (member : x ∈ sendings o b script statements) :
    (∃ sql, x = .given sql) ∨
      ∃ step ∈ script.steps, ∃ p ∈ Sql.stepStatements b.adapter step,
        Sending.generated? o.dispatch p = some x := by
  have user {xs : List String} (listed : x ∈ xs.map Sending.given) : ∃ sql, x = .given sql := by
    obtain ⟨sql, _, rfl⟩ := List.mem_map.mp listed
    exact ⟨sql, rfl⟩
  unfold sendings scriptSendings at member
  rcases List.mem_append.mp member with member | last
  · rcases List.mem_append.mp member with member | raw
    · rcases List.mem_append.mp member with first | generated
      · exact .inl (user first)
      · obtain ⟨step, listed, placed⟩ := List.mem_flatMap.mp generated
        obtain ⟨p, own, sent⟩ := List.mem_filterMap.mp placed
        exact .inr ⟨step, listed, p, own, sent⟩
    · obtain ⟨s, _, rfl⟩ := List.mem_map.mp raw
      exact .inl ⟨s.sql, rfl⟩
  · exact .inl (user last)

/-- A live run has all that it sends accepted, or it fails with the first that is rejected. -/
theorem outcome_sendings (live : o.dryRun = false) (w : World) (script : Script)
    (statements : List RawStatement) :
    let all := sendings o w.database script statements
    let ran := (run o w script statements).outcome
    w.Accepts [] (all.map Sending.delivery) ∧ (∃ result, ran.1 = .ok result) ∨
      ∃ before x after e, all = before ++ x :: after ∧
        w.Accepts [] (before.map Sending.delivery) ∧
        w.answer (before.map Sending.delivery) x.delivery = .error e ∧
        ran.1 = .error (e.attribute script x.line) ∧
        ran.2.delivered = (before ++ [x]).map Sending.delivery := by
  intro all ran
  have sent : (moves o w.database script statements).filterMap Move.sending? = all :=
    sending_moves statements
  rcases outcome_live live w script statements with
    ⟨accepted, done⟩ | ⟨made, m, unmade, d, e, split, delivered, accepted, rejected, stopped⟩
  · left
    rw [← sent, ← Move.deliveries_eq]
    exact ⟨accepted, _, congrArg Prod.fst done⟩
  · right
    have sends := Move.sending?_of_delivery delivered
    have stopped : ran = (.error (e.attribute script m.line), Move.journal (made ++ [m])) := stopped
    refine ⟨made.filterMap Move.sending?, ⟨m.line, d⟩, unmade.filterMap Move.sending?, e, ?_⟩
    rw [← Move.deliveries_eq]
    refine ⟨?_, accepted, rejected, by rw [stopped], ?_⟩
    · rw [← sent, split, List.filterMap_append, List.filterMap_cons_some sends]
    · rw [stopped, Move.journal, Move.deliveries_eq, List.filterMap_append,
        List.filterMap_cons_some sends]
      rfl

end Execution

end SchemaEvolution
