/-! Integers in decimal digits. -/
namespace SchemaEvolution.Decimal

def intText : Int → String
  | .ofNat n => n.repr
  | .negSucc n => "-" ++ (n + 1).repr

def wordText (n : UInt32) : String := n.toNat.repr

end SchemaEvolution.Decimal
