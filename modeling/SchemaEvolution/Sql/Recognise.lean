import SchemaEvolution.Text.Blank
import SchemaEvolution.Text.Word

/-! What kind of statement a text is, by its first words. Letters count without their
   case; the words searched for have no letters that fold outside ASCII. -/
namespace SchemaEvolution.Sql

open Text

def stripWord : List Char → List Char → Option (List Char)
  | [], cs => some cs
  | _ :: _, [] => none
  | k :: ks, c :: cs => if c.toUpper = k then stripWord ks cs else none

def startsWithWord (word : String) (cs : List Char) : Bool :=
  match stripWord word.toList (dropBlanks cs) with
  | some rest => endsWord rest
  | none => false

def isComment (sql : String) : Bool := ['-', '-'].isPrefixOf (dropBlanks sql.toList)

def structuralWords : List String := ["CREATE", "ALTER", "DROP", "RENAME"]

def isStructural (sql : String) : Bool := structuralWords.any (startsWithWord · sql.toList)

def isAlter (sql : String) : Bool := startsWithWord "ALTER" sql.toList

def stripSpacedWord (word : String) (cs : List Char) : Option (List Char) :=
  match stripWord word.toList (dropBlanks cs) with
  | some (c :: rest) => if isBlank c then some rest else none
  | _ => none

def isNameQuote (c : Char) : Bool := c = '\x60' || c = '\x22'

def dropNameQuote : List Char → List Char
  | c :: cs => if isNameQuote c then cs else c :: cs
  | [] => []

/-- The table that an ALTER TABLE names: what stands, after at most one quote, before
   the next blank or quote. -/
def alterTableTarget (sql : String) : Option String := do
  let rest ← stripSpacedWord "ALTER" sql.toList
  let rest ← stripSpacedWord "TABLE" rest
  let name := (dropNameQuote (dropBlanks rest)).takeWhile fun c => !isBlank c && !isNameQuote c
  if name.isEmpty then none else some (String.ofList name)

end SchemaEvolution.Sql
