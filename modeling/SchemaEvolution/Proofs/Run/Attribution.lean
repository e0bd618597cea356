import SchemaEvolution.Proofs.Run.Marking
import SchemaEvolution.Proofs.Run.Sendings
import SchemaEvolution.Proofs.Sql.Members

/-! A failed run points at the line that the rejected statement comes from: the member of a
   bulk block that it is made of alone, else the first line of its operation. What the user
   gives comes from no line. -/
namespace SchemaEvolution

namespace Execution

/-- A live run that is not accepted to its end fails with the first statement that is
    rejected. A generated one is reported with its line, which is the only marked row of the
    excerpt and shows the text that the statement comes from. One that the user gave is
    reported without a line, and nothing is marked. -/
theorem failure_points_at_origin (o : MigrationOptions) (w : World)
    (pre main post : List Operation) (statements : List RawStatement) :
    let o := { o with dryRun := false }
    let a := w.database.adapter
    let script := Script.assemble pre main post
    let all := sendings o w.database script statements
    let ran := (run o w script statements).outcome
    (∀ step ∈ script.steps,
      List.Forall₂ (Sql.AtOrigin a script step.operation) (Sql.stepStatements a step)
        (Sql.memberStatements a step.operation)) ∧
      (w.Accepts [] (all.map Sending.delivery) ∧ (∃ result, ran.1 = .ok result) ∨
        ∃ before x after e, all = before ++ x :: after ∧
          w.Accepts [] (before.map Sending.delivery) ∧
          w.answer (before.map Sending.delivery) x.delivery = .error e ∧
          ran.2.delivered = (before ++ [x]).map Sending.delivery ∧
          ∃ failure, ran.1 = .error failure ∧
            ((∃ sql, x = .given sql) ∧
                failure = .execution e ("\n".intercalate (listing script.lines)) 0 ∧
                failure.line? = none ∧ (listing script.lines).filter isMarkedRow = [] ∨
              ∃ step ∈ script.steps, ∃ p ∈ Sql.stepStatements a step, ∃ text,
                let rows := excerptRows script.lines p.line
                Sending.generated? o.dispatch p = some x ∧
                failure = .execution e ("\n".intercalate rows) p.line ∧
                failure.line? = some p.line ∧ script.Shows p.line text ∧
                rows.filter isMarkedRow =
                  ["* " ++ alignRight script.lineCount.repr.length p.line ++ ": " ++ text])) := by
  intro o a script all ran
  have origins : ∀ step ∈ script.steps,
      List.Forall₂ (Sql.AtOrigin a script step.operation) (Sql.stepStatements a step)
        (Sql.memberStatements a step.operation) := fun step => Sql.placed_at_origin a
  refine ⟨origins, ?_⟩
  rcases outcome_sendings (o := o) rfl w script statements with
    done | ⟨before, x, after, e, cut, accepted, rejected, stopped, delivered⟩
  · exact .inl done
  · right
    have member : x ∈ all := by
      rw [show all = before ++ x :: after from cut]
      exact List.mem_append_right _ List.mem_cons_self
    refine ⟨before, x, after, e, cut, accepted, rejected, delivered, _, stopped, ?_⟩
    rcases source_of_sending member with ⟨sql, rfl⟩ | ⟨step, listed, p, own, generated⟩
    · left
      have whole : excerptRows script.lines (Sending.given sql).line = listing script.lines :=
        excerptRows_unmarked _
      refine ⟨⟨sql, rfl⟩, ?_, rfl, listing_unmarked _⟩
      rw [Failure.attribute, excerpt, whole]
      rfl
    · right
      -- The line is known from the step, whatever receiver turned the statement down.
      have place : x.line = p.line := Sending.line_of_generated generated
      obtain ⟨_, _, _, text, _, shown⟩ := Sql.origin_of_placed (origins step listed) own
      have known : ¬ p.line = 0 := by
        obtain ⟨positive, _⟩ := shown
        omega
      rw [place]
      exact ⟨step, listed, p, own, text, generated, rfl, if_neg known, shown, marked_rows shown⟩

/-- Two members share a statement, and the third one has its own. -/
example :
    let block : Operation :=
      .changeTable "a" [.removeColumn "x", .removeColumn "y", .removeIndex "by_z"]
    let script := Script.assemble [.removeForeignKey "b" "owner"] [block] []
    let lines (a : Adapter) := script.steps.map fun s =>
      (Sql.stepStatements a s).map Sql.PlacedStatement.line
    lines .postgres = [[1], [3, 6]] ∧ lines .sqlite = [[1], [4, 5, 6]] ∧
      excerptRows script.lines 6 =
        ["  1: remove_foreign_key(\x22b\x22, name: \x22owner\x22)",
          "  2: ",
          "  3: change_table(\x22a\x22, bulk: true) do |t|",
          "  4:   t.remove(\x22x\x22)",
          "  5:   t.remove(\x22y\x22)",
          "* 6:   t.remove_index(name: \x22by_z\x22)",
          "  7: end"] := by
  decide +kernel

end Execution

end SchemaEvolution
