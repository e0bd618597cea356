import SchemaEvolution.Adapter
import SchemaEvolution.Column
import SchemaEvolution.Decimal.Integer
import SchemaEvolution.Decimal.Layout

/-! Quoting of identifiers and literals. Inside quotes the quote itself is doubled;
   MySQL also reads a backslash as an escape, so there it is doubled before. -/
namespace SchemaEvolution.Sql

open Decimal

def identifierMark : Adapter → Char
  | .mysql => '\x60'
  | .postgres => '\x22'
  | .sqlite => '\x22'

def literalMark : Char := '\x27'

def doubled (twice : Char → Bool) (cs : List Char) : List Char :=
  cs.flatMap fun c => if twice c then [c, c] else [c]

def enclosed (mark : Char) (cs : List Char) : String := String.ofList (mark :: cs ++ [mark])

def quoteIdentifier (a : Adapter) (name : String) : String :=
  enclosed (identifierMark a) (doubled (· = identifierMark a) name.toList)

def escapeBackslashes (a : Adapter) (cs : List Char) : List Char :=
  if a.isMysql then doubled (· = '\\') cs else cs

def quoteString (a : Adapter) (s : String) : String :=
  enclosed literalMark (doubled (· = literalMark) (escapeBackslashes a s.toList))

def columnList (a : Adapter) (columns : List String) : String :=
  ", ".intercalate (columns.map (quoteIdentifier a))

def parenthesised (inner : String) : String := "(" ++ inner ++ ")"

/-- Floats are always positional, and integral ones have no fraction. -/
def numberLayout : Layout := ⟨.up, fun _ => true, false, false⟩

def truth : Adapter → Bool → String
  | .postgres, b => if b then "TRUE" else "FALSE"
  | _, b => if b then "1" else "0"

def literal (a : Adapter) : Literal → String
  | .null => "NULL"
  | .bool b => truth a b
  | .integer i => intText i.toInt
  | .float x => numberLayout.write x
  | .string s => quoteString a s

def defaultText (a : Adapter) : DefaultValue → String
  | .literal l => literal a l
  | .expression sql => sql

theorem doubled_append (twice : Char → Bool) (a b : List Char) :
    doubled twice (a ++ b) = doubled twice a ++ doubled twice b := by
  simp [doubled]

end SchemaEvolution.Sql
