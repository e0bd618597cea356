import SchemaEvolution.Decimal.Binary

/-! Numbers of a document. An integer keeps its value as long as it fits a signed or
   unsigned word of 64 bits; any other number is a double.

   A double is read from the leading digits that fit 64 bits: they are rounded once,
   and then multiplied or divided once by a rounded power of ten (a division beyond
   10 ^ 308 goes in steps). The result may differ from the nearest double by a unit. -/
namespace SchemaEvolution.Json

open Decimal

inductive Number where
  | natural (n : Nat)
  | negative (n : Nat)
  | real (x : Double)
  | outOfRange
  deriving DecidableEq, Repr

structure Spelling where
  minus : Bool := false
  whole : List Nat
  fraction : Option (List Nat) := none
  exponent : Option (Bool × List Nat) := none
  deriving DecidableEq, Repr

def wordLimit : Nat := twoTo 64

def greatestInt : Nat := 9223372036854775807
def leastIntDepth : Nat := 9223372036854775808

/-- Appends digits while the result fits 64 bits; also counts the digits taken. -/
def appendDigits (significand : Nat) : List Nat → Nat × Nat
  | [] => (significand, 0)
  | d :: ds =>
    if significand * 10 + d < wordLimit then
      let (s, n) := appendDigits (significand * 10 + d) ds
      (s, n + 1)
    else (significand, 0)

def power (k : Nat) : Option Magnitude := Magnitude.ofNat (tenTo k)

def scaleByTen (x : Magnitude) (k : Int) : Option Magnitude :=
  if k.natAbs ≤ 308 then
    if 0 ≤ k then (power k.toNat).bind x.mul else (power (-k).toNat).bind x.div
  else if x.isZero then some x
  else if 0 ≤ k then none
  else ((power 308).bind x.div).bind fun y => scaleByTen y (k + 308)
termination_by (-k).toNat
decreasing_by omega

def realOfParts (minus : Bool) (significand : Nat) (k : Int) : Number :=
  match (Magnitude.ofNat significand).bind fun x => scaleByTen x k with
  | some x => .real ⟨minus, x⟩
  | none => .outOfRange

def integerOf (minus : Bool) (n : Nat) : Number :=
  if minus then
    if n = 0 ∨ leastIntDepth < n then realOfParts true n 0 else .negative n
  else .natural n

def digitsValue (ds : List Nat) : Nat := ds.foldl (fun n d => n * 10 + d) 0

/-- An exponent of more than 31 bits leaves nothing, or more than any double. -/
def realWithExponent (minus : Bool) (significand : Nat) (start : Int) (down : Bool)
    (exponent : Nat) : Number :=
  if exponent < twoTo 31 then
    realOfParts minus significand (if down then start - exponent else start + exponent)
  else if significand ≠ 0 && !down then .outOfRange
  else .real ⟨minus, .zero⟩

def Number.ofSpelling (s : Spelling) : Number :=
  let (w, taken) := appendDigits 0 s.whole
  let dropped := s.whole.length - taken
  match s.fraction, s.exponent with
  | none, none => if dropped = 0 then integerOf s.minus w else realOfParts s.minus w dropped
  | none, some (down, es) => realWithExponent s.minus w dropped down (digitsValue es)
  | some ds, exponent =>
    let (f, n) := appendDigits w ds
    let start : Int := (dropped : Int) - n
    match exponent with
    | none => realOfParts s.minus f start
    | some (down, es) => realWithExponent s.minus f start down (digitsValue es)

end SchemaEvolution.Json
