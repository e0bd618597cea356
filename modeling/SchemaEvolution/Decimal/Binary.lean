/-! Finite binary floating-point numbers of 53 significant bits, in exact natural
   arithmetic. A magnitude is significand · 2 ^ exponent; every operation rounds
   its exact result to the nearest magnitude, ties to the even significand. -/
namespace SchemaEvolution.Decimal

def twoTo (k : Nat) : Nat := Nat.pow 2 k
def tenTo (k : Nat) : Nat := Nat.pow 10 k

structure Magnitude where
  significand : Nat
  exponent : Int
  deriving DecidableEq, Repr

namespace Magnitude

def fullSignificand : Nat := twoTo 52

def leastExponent : Int := -1074
def greatestExponent : Int := 971

def zero : Magnitude := ⟨0, leastExponent⟩
def isZero (x : Magnitude) : Bool := x.significand == 0

/-- The quotient rounded to the nearest natural number, a half to the even one. -/
def roundHalfEven (num den : Nat) : Nat :=
  let below := num / den
  let twice := 2 * (num % den)
  if twice < den then below
  else if den < twice then below + 1
  else if below % 2 = 0 then below else below + 1

def scale (num den : Nat) (q : Int) : Nat × Nat :=
  (num * twoTo (-q).toNat, den * twoTo q.toNat)

/-- The exponent at which num / den has a 53-bit integer part, if it is in range. -/
def fittingExponent (num den : Nat) : Int :=
  let q : Int := (num.log2 : Int) - (den.log2 : Int) - 52
  let (n, d) := scale num den q
  max leastExponent (if n < fullSignificand * d then q - 1 else q)

/-- The nearest magnitude to num / den; none past the greatest. -/
def round (num den : Nat) : Option Magnitude :=
  if num = 0 then some zero
  else
    let q := fittingExponent num den
    let (n, d) := scale num den q
    let s := roundHalfEven n d
    let x : Magnitude := if s = 2 * fullSignificand then ⟨fullSignificand, q + 1⟩ else ⟨s, q⟩
    if greatestExponent < x.exponent then none else some x

def ofNat (n : Nat) : Option Magnitude := round n 1

def mul (x y : Magnitude) : Option Magnitude :=
  let (n, d) := scale (x.significand * y.significand) 1 (-(x.exponent + y.exponent))
  round n d

def div (x y : Magnitude) : Option Magnitude :=
  let (n, d) := scale x.significand y.significand (y.exponent - x.exponent)
  round n d

end Magnitude

structure Double where
  negative : Bool
  magnitude : Magnitude
  deriving DecidableEq, Repr

namespace Double

def sameValue (x y : Double) : Bool :=
  x.magnitude == y.magnitude && (x.negative == y.negative || x.magnitude.isZero)

end Double

end SchemaEvolution.Decimal
