import Mathlib.Data.List.Basic
import SchemaEvolution.Proofs.Script.Layout
import SchemaEvolution.Run.Excerpt

/-! The marked row of an excerpt. The window always holds the marked line, and no other
   row carries the mark; without a marked line the excerpt is a plain listing. -/
namespace SchemaEvolution

def isMarkedRow (row : String) : Bool := "* ".toList.isPrefixOf row.toList

def listing (lines : List String) : List String :=
  lines.zipIdx.map fun p =>
    "  " ++ alignRight lines.length.repr.length (p.2 + 1) ++ ": " ++ p.1

theorem isMarkedRow_excerptRow (width marked number : Nat) (line : String) :
    isMarkedRow (excerptRow width marked number line) = decide (number = marked) := by
  unfold isMarkedRow excerptRow
  by_cases same : number = marked
  · simp [same]
  · simp [same, List.isPrefixOf]

theorem filter_zipIdx_index (xs : List α) (start k : Nat) :
    (xs.zipIdx start).filter (fun p => p.2 = start + k) =
      (xs[k]?.map fun x => (x, start + k)).toList := by
  induction xs generalizing start k with
  | nil => rfl
  | cons x xs ih =>
    rw [List.zipIdx_cons]
    cases k with
    | zero =>
      have rest : (xs.zipIdx (start + 1)).filter (fun p => p.2 = start) = [] := by
        rw [List.filter_eq_nil_iff]
        intro p member
        have later := List.le_snd_of_mem_zipIdx member
        simp only [decide_eq_true_eq]
        omega
      simp [rest]
    | succ k =>
      have place : start + (k + 1) = start + 1 + k := by omega
      rw [List.filter_cons_of_neg (by simp), place, ih, List.getElem?_cons_succ]

theorem excerptRows_of_window {lines : List String} {marked first last : Nat}
    (window : excerptWindow lines.length marked = (first, last)) :
    excerptRows lines marked =
      (lines.zipIdx.filter fun p => first ≤ p.2 + 1 && p.2 + 1 ≤ last).map fun p =>
        excerptRow lines.length.repr.length marked (p.2 + 1) p.1 := by
  unfold excerptRows
  dsimp only
  rw [window]

theorem marked_rows {script : Script} {line : Nat} {text : String}
    (shown : script.Shows line text) :
    (excerptRows script.lines line).filter isMarkedRow =
      ["* " ++ alignRight script.lineCount.repr.length line ++ ": " ++ text] := by
  let width := script.lines.length.repr.length
  obtain ⟨positive, found⟩ := shown
  have inside : line ≤ script.lines.length := Script.Shows.le_lineCount ⟨positive, found⟩
  have window : excerptWindow script.lines.length line =
      (max 1 (line - linesBefore), min script.lines.length (line + linesAfter)) := by
    unfold excerptWindow
    exact if_neg (by omega)
  have only : (script.lines.zipIdx.filter fun p => p.2 = line - 1) = [(text, line - 1)] := by
    have entry := filter_zipIdx_index script.lines 0 (line - 1)
    rw [found, Nat.zero_add] at entry
    exact entry
  rw [excerptRows_of_window window, List.filter_map, List.filter_filter]
  -- The window holds the marked line, so it does not restrict the marked rows any further.
  have same : ∀ p ∈ script.lines.zipIdx,
      (((isMarkedRow ∘ fun p : String × Nat => excerptRow width line (p.2 + 1) p.1) p) &&
        (decide (max 1 (line - linesBefore) ≤ p.2 + 1) &&
          decide (p.2 + 1 ≤ min script.lines.length (line + linesAfter)))) =
        decide (p.2 = line - 1) := by
    intro p _
    rw [Function.comp_apply, isMarkedRow_excerptRow, ← Bool.decide_and, ← Bool.decide_and,
      decide_eq_decide]
    omega
  rw [List.filter_congr same, only, List.map_singleton, excerptRow, if_pos (by omega)]
  have place : line - 1 + 1 = line := by omega
  rw [place, Script.lineCount]

theorem excerptRows_unmarked (lines : List String) : excerptRows lines 0 = listing lines := by
  have all : ∀ p ∈ lines.zipIdx,
      (decide (1 ≤ p.2 + 1) && decide (p.2 + 1 ≤ lines.length)) = true := by
    intro p member
    have bound := List.snd_lt_of_mem_zipIdx member
    simp only [Bool.and_eq_true, decide_eq_true_eq]
    omega
  have window : excerptWindow lines.length 0 = (1, lines.length) := rfl
  rw [excerptRows_of_window window, List.filter_eq_self.mpr all]
  exact List.map_congr_left fun p _ => by rw [excerptRow, if_neg (Nat.succ_ne_zero p.2)]

theorem listing_unmarked (lines : List String) : (listing lines).filter isMarkedRow = [] := by
  rw [← excerptRows_unmarked, List.filter_eq_nil_iff]
  intro row member
  obtain ⟨p, _, rfl⟩ := List.mem_map.mp member
  rw [isMarkedRow_excerptRow, decide_eq_true_eq]
  exact Nat.succ_ne_zero p.2

end SchemaEvolution
