import Mathlib.Algebra.GroupWithZero.Nat
import Mathlib.Data.List.Chain
import SchemaEvolution.Proofs.Script.Layout

/-! The layout of a script to the line. Its steps take up the lines one below the other, and
   an empty line sets apart two that differ in phase or in table. -/
namespace SchemaEvolution

namespace Step

def height (a : Step) : Nat := a.operation.scriptLines.length

/-- The first line below a step. -/
def stop (a : Step) : Nat := a.line + a.height

def Apart (a b : Step) : Prop := a.phase ≠ b.phase ∨ a.operation.table ≠ b.operation.table

instance (a b : Step) : Decidable (a.Apart b) := inferInstanceAs (Decidable (_ ∨ _))

def blank (a b : Step) : List String := if a.Apart b then [""] else []

theorem blank_eq_gap (a b : Step) :
    a.blank b = Script.gap (some (a.phase, a.operation.table)) b.phase b.operation.table := by
  have same : (a.phase, a.operation.table) = (b.phase, b.operation.table) ↔ ¬ a.Apart b := by
    rw [Apart, Prod.mk.injEq]
    tauto
  simp only [blank, Script.gap, same, ite_not]

theorem length_blank (a b : Step) : (a.blank b).length = if a.Apart b then 1 else 0 := by
  unfold blank
  split <;> rfl

theorem height_pos (a : Step) : 0 < a.height :=
  List.length_pos_iff.2 a.operation.scriptLines_ne_nil

end Step

theorem Operation.ne_empty_of_mem_scriptLines (op : Operation) :
    ∀ text ∈ op.scriptLines, text ≠ "" := by
  have members (as : List Alteration) : ∀ text ∈ as.map Alteration.memberLine, text ≠ "" := by
    simp [Alteration.memberLine]
  cases op with
  | createTable t =>
    simp only [scriptLines, List.forall_mem_append, List.forall_mem_cons]
    exact ⟨⟨by simp, members _⟩, by simp⟩
  | changeTable t as =>
    simp only [scriptLines, List.forall_mem_append, List.forall_mem_cons]
    exact ⟨⟨by simp, members _⟩, by simp⟩
  | _ => simp [scriptLines, Alteration.loneLine]

namespace Script

/-- The lines from one line on and above another. -/
def between (s : Script) (start stop : Nat) : List String :=
  (s.lines.drop (start - 1)).take (stop - start)

theorem between_of_split {s : Script} {above block below : List String}
    (lines : s.lines = above ++ block ++ below) :
    s.between (above.length + 1) (above.length + 1 + block.length) = block := by
  simp [between, lines]

structure Holds (s : Script) (a : Step) : Prop where
  positive : 0 < a.line
  shown : s.between a.line a.stop = a.operation.scriptLines

/-- Two steps follow each other, with nothing but the line that sets them apart between them. -/
structure Spaced (s : Script) (a b : Step) : Prop where
  place : b.line = a.stop + (a.blank b).length
  shown : s.between a.stop b.line = a.blank b

/-- A step and those after it take up the rest of the lines. -/
inductive Stacked (s : Script) : Step → List Step → Prop
  | last {a : Step} (holds : s.Holds a) (ends : a.stop = s.lineCount + 1) : s.Stacked a []
  | next {a b : Step} {rest : List Step} (holds : s.Holds a) (spaced : s.Spaced a b)
    (below : s.Stacked b rest) : s.Stacked a (b :: rest)

theorem holds_of_split {s : Script} {a : Step} {above below : List String}
    (line : a.line = above.length + 1)
    (lines : s.lines = above ++ a.operation.scriptLines ++ below) : s.Holds a := by
  constructor
  · omega
  · rw [Step.stop, line]
    exact between_of_split lines

theorem spaced_of_split {s : Script} {a b : Step} {above below : List String}
    (stop : a.stop = above.length + 1) (place : b.line = a.stop + (a.blank b).length)
    (lines : s.lines = above ++ a.blank b ++ below) : s.Spaced a b := by
  constructor
  · exact place
  · rw [place, stop]
    exact between_of_split lines

theorem stacked_lay {s : Script} (a : Step) (above : List String) (ops : List (Phase × Operation))
    (line : a.line = above.length + 1) :
    let below := lay (some (a.phase, a.operation.table)) (above.length + a.height) ops
    s.lines = above ++ a.operation.scriptLines ++ below.lines → s.Stacked a below.steps := by
  induction ops generalizing a above with
  | nil =>
    intro below lines
    refine .last (holds_of_split line lines) ?_
    rw [lineCount, lines, Step.stop, line]
    simp only [below, lay, empty, List.length_append, List.length_nil, Step.height]
    omega
  | cons p rest ih =>
    intro below lines
    obtain ⟨phase, op⟩ := p
    -- The text above the next step is that above `a`, then `a` itself and the gap between them.
    let before := gap (some (a.phase, a.operation.table)) phase op.table
    let b : Step := ⟨phase, above.length + a.height + before.length + 1, op⟩
    have blank : a.blank b = before := a.blank_eq_gap b
    have stop : a.stop = (above ++ a.operation.scriptLines).length + 1 := by
      simp only [Step.stop, Step.height, line, List.length_append]
      omega
    have place : b.line = a.stop + (a.blank b).length := by
      rw [blank, stop]
      simp only [b, Step.height, List.length_append]
      omega
    have used : above.length + a.height + before.length =
        (above ++ a.operation.scriptLines ++ before).length := by
      simp only [List.length_append, Step.height]
    have split : s.lines = above ++ a.operation.scriptLines ++ before ++ op.scriptLines ++
        (lay (some (phase, op.table)) (above.length + a.height + before.length + b.height)
          rest).lines := by
      rw [lines]
      simp only [below, lay, List.append_assoc, before, b, Step.height]
    have later := ih b (above ++ a.operation.scriptLines ++ before) (by rw [← used])
    rw [← used] at later
    have spaced : s.Spaced a b := by
      rw [List.append_assoc _ op.scriptLines, ← blank] at split
      exact spaced_of_split stop place split
    exact .next (holds_of_split line lines) spaced (later split)

theorem mem_between {s : Script} {start stop n : Nat} {text : String} (positive : 0 < start)
    (above : start ≤ n) (below : n < stop) (shown : s.Shows n text) :
    text ∈ s.between start stop := by
  have found : (s.between start stop)[n - start]? = some text := by
    have place : start - 1 + (n - start) = n - 1 := by omega
    rw [between, List.getElem?_take_of_lt (by omega), List.getElem?_drop, place]
    exact shown.2
  exact List.mem_of_getElem? found

theorem Holds.ne_empty {s : Script} {a : Step} (holds : s.Holds a) {n : Nat} {text : String}
    (above : a.line ≤ n) (below : n < a.stop) (shown : s.Shows n text) : text ≠ "" := by
  have member := mem_between holds.positive above below shown
  rw [holds.shown] at member
  exact a.operation.ne_empty_of_mem_scriptLines text member

namespace Spaced

variable {s : Script} {a b : Step}

theorem line_lt (spaced : s.Spaced a b) : a.line < b.line := by
  have place := spaced.place
  have height := a.height_pos
  unfold Step.stop at place
  omega

theorem empty_between (spaced : s.Spaced a b) {n : Nat} {text : String}
    (above : a.stop ≤ n) (below : n < b.line) (shown : s.Shows n text) :
    text = "" ∧ b.line = n + 1 := by
  have place := spaced.place
  have positive : 0 < a.stop := Nat.lt_of_lt_of_le a.height_pos (Nat.le_add_left ..)
  have member := mem_between positive above below shown
  rw [spaced.shown] at member
  unfold Step.blank at member place
  split at member
  next apart =>
    rw [if_pos apart] at place
    exact ⟨List.mem_singleton.1 member, by simp at place; omega⟩
  next => contradiction

end Spaced

/-- How many pairs of consecutive steps are set apart. -/
def boundaries (s : Script) : Nat :=
  (s.steps.zip s.steps.tail).countP fun p => p.1.Apart p.2

namespace Stacked

variable {s : Script} {a : Step} {rest : List Step}

theorem holds (stacked : s.Stacked a rest) : ∀ b ∈ a :: rest, s.Holds b := by
  induction stacked with
  | last holds ends => exact List.forall_mem_singleton.2 holds
  | next holds spaced below ih => exact List.forall_mem_cons.2 ⟨holds, ih⟩

theorem spaced (stacked : s.Stacked a rest) : (a :: rest).IsChain s.Spaced := by
  induction stacked with
  | last holds ends => exact .singleton _
  | next holds spaced below ih => exact .cons_cons spaced ih

theorem increasing (stacked : s.Stacked a rest) :
    (a :: rest).Pairwise fun a b => a.line < b.line := by
  have : IsTrans Step fun a b => a.line < b.line := ⟨fun _ _ _ => Nat.lt_trans⟩
  exact (stacked.spaced.imp fun _ _ spaced => spaced.line_lt).pairwise

theorem ends (stacked : s.Stacked a rest) :
    ∀ z ∈ (a :: rest).getLast?, z.stop = s.lineCount + 1 := by
  induction stacked with
  | last holds ends =>
    rintro z ⟨⟩
    exact ends
  | next holds spaced below ih => exact ih

theorem remaining (stacked : s.Stacked a rest) {n : Nat} {text : String} (reached : a.line ≤ n)
    (shown : s.Shows n text) : (∃ b ∈ a :: rest, b.line ≤ n ∧ n < b.stop) ∨ text = "" := by
  induction stacked with
  | last holds ends =>
    have bound := shown.le_lineCount
    exact .inl ⟨_, List.mem_singleton_self _, reached, by omega⟩
  | @next a b rest holds spaced below ih =>
    by_cases own : n < a.stop
    · exact .inl ⟨a, List.mem_cons_self, reached, own⟩
    · by_cases above : n < b.line
      · exact .inr (spaced.empty_between (by omega) above shown).1
      · rcases ih (by omega) with ⟨c, member, bounds⟩ | blank
        · exact .inl ⟨c, List.mem_cons_of_mem _ member, bounds⟩
        · exact .inr blank

theorem step_below_empty (stacked : s.Stacked a rest) {n : Nat} (reached : a.line ≤ n)
    (shown : s.Shows n "") : ∃ b ∈ rest, b.line = n + 1 := by
  induction stacked with
  | last holds ends =>
    have bound := shown.le_lineCount
    exact absurd rfl (holds.ne_empty reached (by omega) shown)
  | @next a b rest holds spaced below ih =>
    by_cases own : n < a.stop
    · exact absurd rfl (holds.ne_empty reached own shown)
    · by_cases above : n < b.line
      · exact ⟨b, List.mem_cons_self, (spaced.empty_between (by omega) above shown).2⟩
      · obtain ⟨c, member, line⟩ := ih (by omega)
        exact ⟨c, List.mem_cons_of_mem _ member, line⟩

theorem counted (stacked : s.Stacked a rest) :
    s.lineCount + 1 = a.line + ((a :: rest).map Step.height).sum +
      ((a :: rest).zip rest).countP fun p => p.1.Apart p.2 := by
  induction stacked with
  | last holds ends => simp [← ends, Step.stop]
  | @next a b rest holds spaced below ih =>
    have place := spaced.place
    rw [Step.length_blank, Step.stop] at place
    rw [List.map_cons, List.sum_cons, List.zip_cons_cons, List.countP_cons, ih, place]
    simp only [decide_eq_true_eq]
    omega

end Stacked

/-- The layout of a script, to the line. Between two consecutive steps stands one empty line if
    they differ in phase or in table, and nothing otherwise. -/
structure Exact (s : Script) : Prop where
  increasing : s.steps.Pairwise fun a b => a.line < b.line
  holds : ∀ a ∈ s.steps, s.Holds a
  spaced : s.steps.IsChain s.Spaced
  starts : ∀ a ∈ s.steps.head?, a.line = 1
  ends : ∀ a ∈ s.steps.getLast?, a.stop = s.lineCount + 1
  remaining : ∀ n text, s.Shows n text → (∃ a ∈ s.steps, a.line ≤ n ∧ n < a.stop) ∨ text = ""
  counted : s.lineCount = (s.steps.map Step.height).sum + s.boundaries
  sparse : ∀ n, s.Shows n "" → ¬ s.Shows (n + 1) ""

theorem exact_of_stacked {s : Script} {a : Step} {rest : List Step} (steps : s.steps = a :: rest)
    (top : a.line = 1) (stacked : s.Stacked a rest) : s.Exact where
  increasing := steps ▸ stacked.increasing
  holds := steps ▸ stacked.holds
  spaced := steps ▸ stacked.spaced
  starts := by
    rw [steps]
    rintro b ⟨⟩
    exact top
  ends := steps ▸ stacked.ends
  remaining := by
    intro n text shown
    rw [steps]
    exact stacked.remaining (top ▸ shown.1) shown
  counted := by
    have counted := stacked.counted
    rw [boundaries, steps, List.tail_cons]
    omega
  sparse := by
    intro n blank below
    obtain ⟨b, member, line⟩ := stacked.step_below_empty (top ▸ blank.1) blank
    -- A second empty line would have to be a line of the step that starts there.
    have holds := stacked.holds b (List.mem_cons_of_mem a member)
    have height := b.height_pos
    have inside : n + 1 < b.stop := by
      unfold Step.stop
      omega
    exact absurd rfl (holds.ne_empty (Nat.le_of_eq line) inside below)

theorem exact_lay (ops : List (Phase × Operation)) : (lay none 0 ops).Exact := by
  cases ops with
  | nil =>
    have silent (n : Nat) (text : String) : ¬ (lay none 0 []).Shows n text := by
      simp [Shows, lay, empty]
    constructor
    case remaining => exact fun n text shown => absurd shown (silent n text)
    case sparse => exact fun n shown => absurd shown (silent n "")
    all_goals simp [lay, empty, lineCount, boundaries]
  | cons p rest =>
    obtain ⟨phase, op⟩ := p
    let a : Step := ⟨phase, 1, op⟩
    let below := lay (some (phase, op.table)) (0 + a.height) rest
    have whole : lay none 0 ((phase, op) :: rest) =
        ⟨a :: below.steps, op.scriptLines ++ below.lines⟩ := by
      simp [lay, gap, below, a, Step.height]
    rw [whole]
    exact exact_of_stacked rfl rfl (stacked_lay a [] rest rfl rfl)

theorem steps_lay (previous : Option (Phase × String)) (used : Nat)
    (ops : List (Phase × Operation)) :
    (lay previous used ops).steps.map (fun a => (a.phase, a.operation)) = ops := by
  induction ops generalizing previous used with
  | nil => rfl
  | cons p rest ih => exact congrArg (p :: ·) (ih ..)

/-- An assembled script has the steps of its phases in order, each where it says, below each
   other with one empty line where the phase or the table changes and no other empty lines. -/
theorem assemble_exact (pre main post : List Operation) :
    (assemble pre main post).steps.map (fun a => (a.phase, a.operation)) =
        pre.map (Phase.pre, ·) ++ main.map (Phase.main, ·) ++ post.map (Phase.post, ·) ∧
      (assemble pre main post).Exact :=
  ⟨steps_lay .., exact_lay _⟩

/-- A phase of its own, a block of three lines, the same table again, another table. -/
example :
    let main : List Operation := [
      .createTable { name := "users", columns := [⟨"id", .integer, {}⟩] },
      .alter "users" (.removeColumn "legacy"),
      .dropTable "sessions"]
    (assemble [.removeForeignKey "orders" "fk1"] main []).steps.map Step.line = [1, 3, 6, 8] := by
  decide +kernel

end Script

end SchemaEvolution
