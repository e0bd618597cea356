import SchemaEvolution.Decimal.Shortest

/-! Writing a double with its shortest digits, positionally or with an exponent.
   The choices of a format are one `Layout` value. -/
namespace SchemaEvolution.Decimal

structure Layout where
  tie : Tie
  /-- Whether a number whose leading digit stands at 10 ^ e is written positionally. -/
  positional : Int → Bool
  /-- Whether an integral number written positionally keeps a fraction digit. -/
  fraction : Bool
  /-- Whether a positive exponent has its sign. -/
  plus : Bool

def zeros (n : Nat) : List Char := List.replicate n '0'

def Layout.writePositional (l : Layout) (ds : List Char) (power lead : Int) : List Char :=
  if 0 ≤ power then
    ds ++ zeros power.toNat ++ (if l.fraction then ['.', '0'] else [])
  else if 0 ≤ lead then
    ds.take (lead.toNat + 1) ++ '.' :: ds.drop (lead.toNat + 1)
  else
    '0' :: '.' :: zeros (-lead - 1).toNat ++ ds

def Layout.writeScientific (l : Layout) (ds : List Char) (lead : Int) : List Char :=
  let mantissa :=
    match ds with
    | d :: e :: rest => d :: '.' :: e :: rest
    | short => short
  let sign := if lead < 0 then ['-'] else if l.plus then ['+'] else []
  mantissa ++ 'e' :: sign ++ lead.natAbs.repr.toList

def Layout.write (l : Layout) (x : Double) : String :=
  let d := shortest l.tie x.magnitude
  let ds := d.number.repr.toList
  let lead := d.power + (ds.length : Int) - 1
  let body :=
    if l.positional lead then l.writePositional ds d.power lead else l.writeScientific ds lead
  String.ofList (if x.negative then '-' :: body else body)

end SchemaEvolution.Decimal
