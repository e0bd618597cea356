import SchemaEvolution.Script

/-! Where the lines of a step stand in a script: from the step's own line on, one below the
   other. -/
namespace SchemaEvolution

namespace Script

/-- The text stands on that line; the first line is line 1. -/
def Shows (s : Script) (line : Nat) (text : String) : Prop :=
  0 < line ∧ s.lines[line - 1]? = some text

theorem Shows.le_lineCount {s : Script} {line : Nat} {text : String} (shows_ : s.Shows line text) :
    line ≤ s.lineCount := by
  obtain ⟨positive, found⟩ := shows_
  obtain ⟨bound, _⟩ := List.getElem?_eq_some_iff.mp found
  unfold lineCount
  omega

/-- The lines of a step stand together; what is above them is counted by its line. -/
theorem lay_split (previous : Option (Phase × String)) (used : Nat)
    (ops : List (Phase × Operation)) :
    ∀ step ∈ (lay previous used ops).steps, ∃ above below,
      step.line = used + above.length + 1 ∧
        (lay previous used ops).lines = above ++ step.operation.scriptLines ++ below := by
  induction ops generalizing previous used with
  | nil => exact List.forall_mem_nil _
  | cons p rest ih =>
    obtain ⟨phase, op⟩ := p
    refine List.forall_mem_cons.mpr ⟨⟨_, _, rfl, rfl⟩, fun step member => ?_⟩
    obtain ⟨above, below, line, lines⟩ := ih _ _ step member
    refine ⟨gap previous phase op.table ++ op.scriptLines ++ above, below, ?_, ?_⟩
    · rw [line, List.length_append, List.length_append]
      omega
    · rw [lay]
      dsimp only
      rw [lines]
      simp only [List.append_assoc]

theorem inPhase_lay (previous : Option (Phase × String)) (used : Nat)
    (ops : List (Phase × Operation)) (phase : Phase) :
    (lay previous used ops).inPhase phase =
      (ops.filter fun p => p.1 = phase).map Prod.snd := by
  induction ops generalizing previous used with
  | nil => rfl
  | cons p rest ih =>
    obtain ⟨own, op⟩ := p
    have below := ih (some (own, op.table))
      (used + (gap previous own op.table).length + op.scriptLines.length)
    unfold inPhase at below ⊢
    by_cases same : own = phase
    · simp [lay, same, ← below]
    · simp [lay, same, ← below]

variable {pre main post : List Operation}

theorem inPhase_assemble (pre main post : List Operation) (phase : Phase) :
    (assemble pre main post).inPhase phase =
      match phase with
      | .pre => pre
      | .main => main
      | .post => post := by
  have kept (own : Phase) (ops : List Operation) :
      ((ops.map (own, ·)).filter fun p => p.1 = phase).map Prod.snd =
        if own = phase then ops else [] := by
    by_cases same : own = phase
    · simp [List.filter_map, Function.comp_def, same]
    · simp [List.filter_map, Function.comp_def, same]
  rw [assemble, inPhase_lay, List.filter_append, List.filter_append, List.map_append,
    List.map_append, kept, kept, kept]
  cases phase with
  | pre => simp
  | main => simp
  | post => simp

/-- The lines of an operation follow each other from the step's line on. -/
theorem shows_scriptLine {step : Step} (member : step ∈ (assemble pre main post).steps) {i : Nat}
    {text : String} (found : step.operation.scriptLines[i]? = some text) :
    (assemble pre main post).Shows (step.line + i) text := by
  obtain ⟨above, below, line, lines⟩ := lay_split none 0 _ step member
  obtain ⟨bound, _⟩ := List.getElem?_eq_some_iff.mp found
  have place : step.line + i - 1 = above.length + i := by omega
  refine ⟨by omega, ?_⟩
  change (lay none 0 _).lines[_]? = _
  rw [lines, place, List.append_assoc, List.getElem?_append_right (by omega),
    Nat.add_sub_cancel_left, List.getElem?_append_left bound, found]

end Script

end SchemaEvolution
