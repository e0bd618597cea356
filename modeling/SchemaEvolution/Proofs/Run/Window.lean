import Mathlib.Data.List.Forall2
import Mathlib.Data.List.Intervals
import Mathlib.Data.Nat.Log
import SchemaEvolution.Proofs.Run.Marking

/-! The window of an excerpt. It holds consecutive lines around the marked one, as far as there
   are any, and every row of it has its colon in the same column. -/
namespace SchemaEvolution

def digitCount (n : Nat) : Nat := Nat.log 10 n + 1

/-- The numbers of the lines that are shown: up to six above the marked line and four below it,
    and all of them if no line is marked. -/
def windowNumbers (total marked : Nat) : List Nat :=
  if marked = 0 then List.Ico 1 (total + 1)
  else if marked ≤ total then List.Ico (max 1 (marked - 6)) (min total (marked + 4) + 1)
  else List.Ico (max 1 (marked - 6)) (total + 1)

/-- The row of a line: a marker, its number with blanks before it, a colon and the line. -/
inductive ShownAs (lines : List String) (marked number : Nat) : String → Prop
  | row {line : String} {blanks : Nat} (positive : 1 ≤ number)
      (found : lines[number - 1]? = some line)
      (aligned : blanks + digitCount number = digitCount lines.length) :
      ShownAs lines marked number
        ((if number = marked then "* " else "  ") ++ String.ofList (List.replicate blanks ' ')
          ++ number.repr ++ ": " ++ line)

theorem length_repr (n : Nat) : n.repr.length = digitCount n := by
  unfold digitCount
  refine Nat.le_antisymm ?_ ?_
  · rw [Nat.length_repr_le_iff (Nat.succ_pos _)]
    exact Nat.lt_pow_succ_log_self (by decide) n
  · have bound : n < 10 ^ n.repr.length :=
      (Nat.length_repr_le_iff Nat.length_repr_pos).mp (Nat.le_refl _)
    exact Nat.log_lt_of_lt_pow' Nat.length_repr_pos.ne' bound

theorem digitCount_le {m n : Nat} (below : m ≤ n) : digitCount m ≤ digitCount n :=
  Nat.succ_le_succ (Nat.log_mono_right below)

theorem ShownAs.colon {lines : List String} {marked number : Nat} {row : String}
    (shown : ShownAs lines marked number row) :
    row.toList[digitCount lines.length + 2]? = some ':' := by
  obtain @⟨line, blanks, _, _, aligned⟩ := shown
  let marker := if number = marked then "* " else "  "
  have mark : marker.toList.length = 2 := by
    unfold marker
    split <;> rfl
  have front : (marker.toList ++ List.replicate blanks ' ' ++ number.repr.toList).length =
      digitCount lines.length + 2 := by
    simp only [List.length_append, mark, List.length_replicate, String.length_toList, length_repr]
    omega
  simp only [String.toList_append, String.toList_ofList, List.append_assoc _ ": ".toList]
  rw [← front, List.getElem?_append_right (Nat.le_refl _), Nat.sub_self]
  rfl

theorem shownAs_excerptRow {lines : List String} {line : String} {place : Nat} (marked : Nat)
    (found : lines[place]? = some line) :
    ShownAs lines marked (place + 1)
      (excerptRow lines.length.repr.length marked (place + 1) line) := by
  obtain ⟨bound, _⟩ := List.getElem?_eq_some_iff.mp found
  have fits : digitCount (place + 1) ≤ digitCount lines.length := digitCount_le bound
  have aligned : lines.length.repr.length - (place + 1).repr.length + digitCount (place + 1) =
      digitCount lines.length := by
    rw [length_repr, length_repr]
    omega
  have row : ShownAs lines marked (place + 1) _ :=
    .row (Nat.le_add_left 1 place) found aligned
  simpa only [excerptRow, alignRight, String.append_assoc] using row

theorem filter_numbers (lines : List String) (first last : Nat) :
    (lines.zipIdx.filter fun p => first ≤ p.2 + 1 && p.2 + 1 ≤ last).map (fun p => p.2 + 1) =
      List.Ico (max 1 first) (min (lines.length + 1) (last + 1)) := by
  have numbers : lines.zipIdx.map (fun p => p.2 + 1) = List.Ico 1 (lines.length + 1) := by
    have places : lines.zipIdx.map Prod.snd = List.Ico 0 lines.length := List.zipIdx_map_snd 0 lines
    have shifted : (List.Ico 0 lines.length).map (1 + ·) = List.Ico 1 (lines.length + 1) :=
      List.Ico.map_add 0 lines.length 1
    rw [← shifted, ← places, List.map_map]
    exact List.map_congr_left fun p _ => Nat.add_comm p.2 1
  have kept : List.Ico (max 1 first) (min (lines.length + 1) (last + 1)) =
      (List.Ico 1 (lines.length + 1)).filter fun n => first ≤ n && n ≤ last := by
    rw [← List.Ico.filter_lt, ← List.Ico.filter_le, List.filter_filter]
    exact List.filter_congr fun n _ => by simp only [Nat.lt_succ_iff, Bool.and_comm]
  rw [kept, ← numbers, List.filter_map]
  rfl

theorem numbers_of_window {total marked first last : Nat}
    (window : excerptWindow total marked = (first, last)) :
    List.Ico (max 1 first) (min (total + 1) (last + 1)) = windowNumbers total marked := by
  unfold excerptWindow linesBefore linesAfter at window
  unfold windowNumbers
  split_ifs at window ⊢ with none inside
  · obtain ⟨rfl, rfl⟩ := Prod.mk.inj window
    rw [Nat.max_self, Nat.min_self]
  · obtain ⟨rfl, rfl⟩ := Prod.mk.inj window
    congr 1 <;> omega
  · -- Below the last line there is nothing to go on with, so the window ends there.
    obtain ⟨rfl, rfl⟩ := Prod.mk.inj window
    congr 1 <;> omega

theorem mem_windowNumbers_self (total marked : Nat) :
    marked ∈ windowNumbers total marked ↔ 1 ≤ marked ∧ marked ≤ total := by
  unfold windowNumbers
  split_ifs <;> rw [List.Ico.mem] <;> omega

theorem length_windowNumbers (total marked : Nat) :
    marked = 0 ∨ (windowNumbers total marked).length ≤ 11 := by
  unfold windowNumbers
  split_ifs <;> simp only [List.Ico.length] <;> omega

/-- An excerpt is a window of consecutive lines, one row a line. It holds the marked line, if there
    is one of that number, and then eleven lines at most. The row of the marked line is the one
    with the mark, and all rows have their colon in the same column. -/
theorem excerpt_window (lines : List String) (marked : Nat) :
    ∃ rows, excerpt lines marked = "\n".intercalate rows ∧
      List.Forall₂ (ShownAs lines marked) (windowNumbers lines.length marked) rows ∧
      (∀ row ∈ rows, row.toList[digitCount lines.length + 2]? = some ':') ∧
      (marked ∈ windowNumbers lines.length marked ↔ 1 ≤ marked ∧ marked ≤ lines.length) ∧
      (marked = 0 ∨ (windowNumbers lines.length marked).length ≤ 11) := by
  obtain ⟨first, last, window⟩ :
      ∃ first last, excerptWindow lines.length marked = (first, last) := ⟨_, _, rfl⟩
  let shown := lines.zipIdx.filter fun p => first ≤ p.2 + 1 && p.2 + 1 ≤ last
  let row (p : String × Nat) : String :=
    excerptRow lines.length.repr.length marked (p.2 + 1) p.1
  have each : ∀ p ∈ shown, ShownAs lines marked (p.2 + 1) (row p) := by
    intro p member
    have found := List.mem_zipIdx_iff_getElem?.mp (List.mem_of_mem_filter member)
    exact shownAs_excerptRow marked found
  have numbers : shown.map (fun p => p.2 + 1) = windowNumbers lines.length marked := by
    rw [filter_numbers, numbers_of_window window]
  refine ⟨shown.map row, ?_, ?_, ?_, mem_windowNumbers_self _ _, length_windowNumbers _ _⟩
  · rw [excerpt, excerptRows_of_window window]
  · rw [← numbers, List.forall₂_map_left_iff, List.forall₂_map_right_iff]
    exact List.forall₂_same.mpr each
  · exact List.forall_mem_map.mpr fun p member => (each p member).colon

/-- A mark below the last line marks nothing, but the lines close above it are shown. -/
example : excerpt ["begin", "insert", "commit"] 8 = "  2: insert\n  3: commit" := by
  decide +kernel

end SchemaEvolution
