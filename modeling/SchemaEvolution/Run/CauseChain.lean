/-! Full reports of an error with the causes behind it, outermost first. -/
namespace SchemaEvolution

/-- Puts every line after the first below the start of the first. -/
def indentLines (first later : String) (text : String) : String :=
  match text.splitOn "\n" with
  | [] => first
  | line :: rest => first ++ line ++ String.join (rest.map fun l => "\n" ++ later ++ l)

def alignRight (width : Nat) (n : Nat) : String :=
  let digits := n.repr
  String.ofList (List.replicate (width - digits.length) ' ') ++ digits

def numberedCause (n : Nat) (cause : String) : String :=
  indentLines (alignRight 5 n ++ ": ") "       " cause

/-- A single cause stands under the message; several are numbered. -/
def causeReport (message : String) (causes : List String) : String :=
  match causes with
  | [] => message
  | [cause] => message ++ "\n\nCaused by:\n" ++ indentLines "    " "    " cause
  | many =>
    message ++ "\n\nCaused by:\n"
      ++ "\n".intercalate (many.zipIdx.map fun c => numberedCause c.2 c.1)

end SchemaEvolution
