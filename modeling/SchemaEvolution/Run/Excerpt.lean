import SchemaEvolution.Failure
import SchemaEvolution.Run.CauseChain
import SchemaEvolution.Script

/-! Numbered excerpts of a script around the line that a failure comes from. -/
namespace SchemaEvolution

def linesBefore : Nat := 6
def linesAfter : Nat := 4

/-- The first and last line shown; line 0 marks none and shows all. -/
def excerptWindow (total marked : Nat) : Nat × Nat :=
  if marked = 0 then (1, total) else (max 1 (marked - linesBefore), min total (marked + linesAfter))

def excerptRow (width marked number : Nat) (line : String) : String :=
  (if number = marked then "* " else "  ") ++ alignRight width number ++ ": " ++ line

def excerptRows (lines : List String) (marked : Nat) : List String :=
  let total := lines.length
  let (first, last) := excerptWindow total marked
  let shown := lines.zipIdx.filter fun p => first ≤ p.2 + 1 && p.2 + 1 ≤ last
  shown.map fun p => excerptRow total.repr.length marked (p.2 + 1) p.1

def excerpt (lines : List String) (marked : Nat) : String :=
  "\n".intercalate (excerptRows lines marked)

def Failure.attribute (script : Script) (line : Nat) (f : Failure) : Failure :=
  .execution f (excerpt script.lines line) line

end SchemaEvolution
