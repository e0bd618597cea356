import SchemaEvolution.Decimal.Binary

/-! The shortest decimal that reads back to a magnitude. The reals that round to
   significand · 2 ^ exponent form an interval, whose ends belong to it when the
   significand is even. On each grid of multiples of 10 ^ k, coarsest first, only
   the two neighbours of the value can be the nearest points inside. -/
namespace SchemaEvolution.Decimal

/-- Where a value half-way between two candidates goes. -/
inductive Tie where
  | even
  | up
  deriving DecidableEq, Repr

structure Digits where
  number : Nat
  power : Int
  deriving DecidableEq, Repr

/-- The interval of a magnitude in units of 2 ^ (exponent - 2). -/
structure Interval where
  low : Nat
  value : Nat
  high : Nat
  closed : Bool
  unit : Int
  deriving DecidableEq, Repr

def Magnitude.interval (x : Magnitude) : Interval :=
  let s := x.significand
  let low := if s = fullSignificand ∧ x.exponent ≠ leastExponent then 4 * s - 1 else 4 * s - 2
  ⟨low, 4 * s, 4 * s + 2, s % 2 = 0, x.exponent - 2⟩

/-- Factors (g, h) with n · 10 ^ k ≤ t · 2 ^ unit exactly if n · g ≤ t · h. -/
def gridFactors (k unit : Int) : Nat × Nat :=
  (tenTo k.toNat * twoTo (-unit).toNat, tenTo (-k).toNat * twoTo unit.toNat)

def Interval.holds (i : Interval) (g h n : Nat) : Bool :=
  if i.closed then i.low * h ≤ n * g && n * g ≤ i.high * h
  else i.low * h < n * g && n * g < i.high * h

def Interval.onGrid (tie : Tie) (i : Interval) (k : Int) : Option Digits :=
  let (g, h) := gridFactors k i.unit
  let below := i.value * h / g
  let lower := below ≠ 0 && i.holds g h below
  let upper := i.holds g h (below + 1)
  let twice := 2 * (i.value * h)
  let middle := (2 * below + 1) * g
  if lower && upper then
    if twice < middle then some ⟨below, k⟩
    else if middle < twice then some ⟨below + 1, k⟩
    else if tie = .even && below % 2 = 0 then some ⟨below, k⟩
    else some ⟨below + 1, k⟩
  else if lower then some ⟨below, k⟩
  else if upper then some ⟨below + 1, k⟩
  else none

def grids : List Int := (List.range 633).map fun i : Nat => 308 - (i : Int)

def shortest (tie : Tie) (x : Magnitude) : Digits :=
  if x.isZero then ⟨0, 0⟩
  else (grids.findSome? (x.interval.onGrid tie)).getD ⟨0, 0⟩

end SchemaEvolution.Decimal
