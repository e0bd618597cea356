import SchemaEvolution.Text.Hidden

/-! Quoted strings of script text. A string stays on its line: every control is
   written as an escape, so neither a line feed nor a bare quote is left inside. -/
namespace SchemaEvolution.Text

/-- A hidden character shows as its code point in hexadecimal between braces. -/
def escapeHidden (c : Char) : List Char :=
  ['\\', 'u', '\x7b'] ++ Nat.toDigits 16 c.toNat ++ ['\x7d']

def escape (c : Char) : List Char :=
  if c = '\x00' then ['\\', '0']
  else if c = '\t' then ['\\', 't']
  else if c = '\n' then ['\\', 'n']
  else if c = '\r' then ['\\', 'r']
  else if c = '\x22' then ['\\', '\x22']
  else if c = '\\' then ['\\', '\\']
  else if isHidden c then escapeHidden c
  else [c]

def quotedChars (cs : List Char) : List Char := '\x22' :: cs.flatMap escape ++ ['\x22']

def quoted (s : String) : String := String.ofList (quotedChars s.toList)

end SchemaEvolution.Text
