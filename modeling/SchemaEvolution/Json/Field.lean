import SchemaEvolution.Json.Value
import SchemaEvolution.Keyed

/-! Reading typed values out of a document. A record is given as an object, whose
   unknown keys are passed over and whose known keys stand at most once, or as an
   array of its fields in order. A reader is told how many containers enclose its
   value: values nested deeper than the limit are refused. -/
namespace SchemaEvolution.Json

abbrev Reader (α : Type) := Nat → Json → Option α

def depthLimit : Nat := 127

def enter (depth : Nat) : Option Nat := if depth < depthLimit then some (depth + 1) else none

def readString : Reader String
  | _, .text (some s) => some s
  | _, _ => none

def readBool : Reader Bool
  | _, .bool b => some b
  | _, _ => none

def readWord : Reader UInt32
  | _, .number (.natural n) => if n < 4294967296 then some (UInt32.ofNat n) else none
  | _, _ => none

def readInt : Reader Int64
  | _, .number (.natural n) => if n ≤ greatestInt then some (Int64.ofInt n) else none
  | _, .number (.negative n) => some (Int64.ofInt (-n))
  | _, _ => none

def readOption (r : Reader α) : Reader (Option α)
  | _, .null => some none
  | depth, j => (r depth j).map some

def readList (r : Reader α) : Reader (List α)
  | depth, .array items => (enter depth).bind fun inner => items.mapM (r inner)
  | _, _ => none

def readMember (r : Reader α) (depth : Nat) (m : Option String × Json) : Option (String × α) := do
  return (← m.1, ← r depth m.2)

/-- A map: of two members with one key the later counts, at the place of the first. -/
def readKeyed (r : Reader α) : Reader (Keyed α)
  | depth, .object ms => do
    let inner ← enter depth
    return Keyed.ofList (← ms.mapM (readMember r inner))
  | _, _ => none

structure Fields where
  depth : Nat
  found : List (String × Json)

def Fields.get? (fs : Fields) (key : String) : Option Json := Keyed.lookup key fs.found

def knownMembers (names : List String) (ms : List (Option String × Json)) :
    Option (List (String × Json)) := do
  let keyed ← ms.mapM fun m => m.1.map fun k => (k, m.2)
  let known := keyed.filter fun m => names.contains m.1
  if (known.map Prod.fst).Nodup then some known else none

/-- A record whose missing fields take their defaults; an array may then be short. -/
def readFields (names : List String) : Reader Fields
  | depth, .object ms => do
    let inner ← enter depth
    return ⟨inner, ← knownMembers names ms⟩
  | depth, .array items => do
    let inner ← enter depth
    if items.length ≤ names.length then some ⟨inner, names.zip items⟩ else none
  | _, _ => none

/-- A record without defaults: as an array it has all its fields. -/
def readWholeFields (names : List String) : Reader Fields
  | depth, .array items =>
    if items.length = names.length then readFields names depth (.array items) else none
  | depth, j => readFields names depth j

def Fields.getD (fs : Fields) (key : String) (r : Reader α) (default : α) : Option α :=
  match fs.get? key with
  | some j => r fs.depth j
  | none => some default

def Fields.require (fs : Fields) (key : String) (r : Reader α) : Option α :=
  (fs.get? key).bind (r fs.depth)

def Fields.optional (fs : Fields) (key : String) (r : Reader α) : Option (Option α) :=
  fs.getD key (readOption r) none

def readVariant (depth : Nat) : Json → Option (String × Nat × Json)
  | .object [(some key, v)] => (enter depth).map fun inner => (key, inner, v)
  | _ => none

mutual

/-- Whether a value is usable throughout: texts that pair, numbers in range, and no
   nesting beyond the limit. -/
def usable (depth : Nat) : Json → Bool
  | .text none => false
  | .number .outOfRange => false
  | .array items => depth < depthLimit && usableItems (depth + 1) items
  | .object members => depth < depthLimit && usableMembers (depth + 1) members
  | _ => true

def usableItems (depth : Nat) : List Json → Bool
  | [] => true
  | v :: rest => usable depth v && usableItems depth rest

def usableMembers (depth : Nat) : List (Option String × Json) → Bool
  | [] => true
  | (k, v) :: rest => k.isSome && usable depth v && usableMembers depth rest

end

end SchemaEvolution.Json
