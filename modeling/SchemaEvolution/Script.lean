import SchemaEvolution.Operation.ScriptText

/-! A script holds the operations of a delta in three phases, each with the line its
   text starts on. Between two operations stands one empty line if they differ in
   phase or in table. -/
namespace SchemaEvolution

inductive Phase where
  | pre
  | main
  | post
  deriving DecidableEq, Repr

def Phase.label : Phase → String
  | pre => "Pre"
  | main => "Main"
  | post => "Post"

structure Step where
  phase : Phase
  line : Nat
  operation : Operation
  deriving DecidableEq, Repr

def Step.memberLine (s : Step) (index : Nat) : Nat := s.line + 1 + index

structure Script where
  steps : List Step
  lines : List String
  deriving DecidableEq, Repr

namespace Script

def empty : Script := ⟨[], []⟩

/-- The empty line, if any, before an operation that follows another one. -/
def gap (previous : Option (Phase × String)) (phase : Phase) (table : String) : List String :=
  match previous with
  | some p => if p = (phase, table) then [] else [""]
  | none => []

/-- Lays out operations below `used` lines. -/
def lay (previous : Option (Phase × String)) (used : Nat) : List (Phase × Operation) → Script
  | [] => empty
  | (phase, op) :: rest =>
    let before := gap previous phase op.table
    let start := used + before.length
    let below := lay (some (phase, op.table)) (start + op.scriptLines.length) rest
    ⟨⟨phase, start + 1, op⟩ :: below.steps, before ++ op.scriptLines ++ below.lines⟩

def assemble (pre main post : List Operation) : Script :=
  lay none 0 (pre.map (Phase.pre, ·) ++ main.map (Phase.main, ·) ++ post.map (Phase.post, ·))

def operations (s : Script) : List Operation := s.steps.map Step.operation

def inPhase (s : Script) (phase : Phase) : List Operation :=
  (s.steps.filter fun step => step.phase = phase).map Step.operation

def isEmpty (s : Script) : Bool := s.steps.isEmpty
def lineCount (s : Script) : Nat := s.lines.length
def text (s : Script) : String := "\n".intercalate s.lines

/-- The text as it is printed: every line is ended. -/
def printed (s : Script) : String := String.join (s.lines.map (· ++ "\n"))

theorem lay_operations (previous : Option (Phase × String)) (used : Nat)
    (ops : List (Phase × Operation)) : (lay previous used ops).operations = ops.map Prod.snd := by
  induction ops generalizing previous used with
  | nil => rfl
  | cons p rest ih =>
    obtain ⟨phase, op⟩ := p
    have below := ih (some (phase, op.table))
      (used + (gap previous phase op.table).length + op.scriptLines.length)
    simp only [operations] at below
    simp [lay, operations, below]

theorem assemble_operations (pre main post : List Operation) :
    (assemble pre main post).operations = pre ++ main ++ post := by
  simp [assemble, lay_operations, Function.comp_def]

end Script

end SchemaEvolution
