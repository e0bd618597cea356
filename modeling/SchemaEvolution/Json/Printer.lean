import SchemaEvolution.Decimal.Layout
import SchemaEvolution.Json.Value

/-! Writing documents, on one line without blanks or over indented lines. -/
namespace SchemaEvolution.Json

open Decimal

/-- Doubles are positional from 10 ^ -5 to below 10 ^ 16, always with a fraction
   digit or an exponent, and the exponent always has its sign. -/
def numberLayout : Layout := ⟨.even, fun e => -5 ≤ e && e ≤ 15, true, true⟩

def Number.write : Number → String
  | .natural n => n.repr
  | .negative n => "-" ++ n.repr
  | .real x => numberLayout.write x
  | .outOfRange => "null"

def hexDigits (n : Nat) : List Char := Nat.toDigits 16 n

def escape (c : Char) : List Char :=
  if c = '\x22' then ['\\', '\x22']
  else if c = '\\' then ['\\', '\\']
  else if c = '\x08' then ['\\', 'b']
  else if c = '\x0c' then ['\\', 'f']
  else if c = '\n' then ['\\', 'n']
  else if c = '\r' then ['\\', 'r']
  else if c = '\t' then ['\\', 't']
  else if c.toNat < 0x20 then
    ['\\', 'u', '0', '0'] ++ (if c.toNat < 16 then ['0'] else []) ++ hexDigits c.toNat
  else [c]

def writeText (s : String) : String :=
  String.ofList ('\x22' :: s.toList.flatMap escape ++ ['\x22'])

def writeMaybe : Option String → String
  | some s => writeText s
  | none => writeText ""

def joined (separator : String) (parts : List String) : String := separator.intercalate parts

mutual

def write : Json → String
  | .null => "null"
  | .bool true => "true"
  | .bool false => "false"
  | .number n => n.write
  | .text s => writeMaybe s
  | .array items => "[" ++ joined "," (writeItems items) ++ "]"
  | .object members => "\x7b" ++ joined "," (writeMembers members) ++ "\x7d"

def writeItems : List Json → List String
  | [] => []
  | v :: rest => v.write :: writeItems rest

def writeMembers : List (Option String × Json) → List String
  | [] => []
  | (k, v) :: rest => (writeMaybe k ++ ":" ++ v.write) :: writeMembers rest

end

def indentation (depth : Nat) : String := "\n" ++ String.ofList (List.replicate (2 * depth) ' ')

def block (opening closing : String) (depth : Nat) (parts : List String) : String :=
  if parts.isEmpty then opening ++ closing
  else
    opening ++ indentation (depth + 1) ++ joined ("," ++ indentation (depth + 1)) parts
      ++ indentation depth ++ closing

mutual

def writeIndented (depth : Nat) : Json → String
  | .array items => block "[" "]" depth (indentedItems (depth + 1) items)
  | .object members => block "\x7b" "\x7d" depth (indentedMembers (depth + 1) members)
  | v => v.write

def indentedItems (depth : Nat) : List Json → List String
  | [] => []
  | v :: rest => v.writeIndented depth :: indentedItems depth rest

def indentedMembers (depth : Nat) : List (Option String × Json) → List String
  | [] => []
  | (k, v) :: rest =>
    (writeMaybe k ++ ": " ++ v.writeIndented depth) :: indentedMembers depth rest

end

end SchemaEvolution.Json
