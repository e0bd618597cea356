import SchemaEvolution.Json.Number

/-! Documents as read: members keep their order and may repeat a key. A text is
   absent (`none`) where surrogate escapes do not pair; such a text, like a number
   out of range, is well formed but cannot be used. -/
namespace SchemaEvolution

inductive Json where
  | null
  | bool (b : Bool)
  | number (n : Json.Number)
  | text (s : Option String)
  | array (items : List Json)
  | object (members : List (Option String × Json))
  deriving Repr, Inhabited

namespace Json

def ofString (s : String) : Json := .text (some s)
def ofNat (n : Nat) : Json := .number (.natural n)

def ofInt : Int → Json
  | .ofNat n => .number (.natural n)
  | .negSucc n => .number (.negative (n + 1))

def record (fields : List (String × Json)) : Json :=
  .object (fields.map fun f => (some f.1, f.2))

def present (key : String) (value : Option Json) : List (String × Json) :=
  match value with
  | some v => [(key, v)]
  | none => []

def flagged (key : String) (flag : Bool) : List (String × Json) :=
  if flag then [(key, .bool true)] else []

def ofOption (f : α → Json) : Option α → Json
  | some a => f a
  | none => .null

def ofList (f : α → Json) (xs : List α) : Json := .array (xs.map f)

def ofStrings (xs : List String) : Json := ofList ofString xs

end Json

end SchemaEvolution
