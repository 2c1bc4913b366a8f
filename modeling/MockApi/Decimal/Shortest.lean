import MockApi.Decimal.Binary64

/-!
The shortest decimal that reads back as a given double, found by exact arithmetic on decimal grids,
and the layouts in which such a decimal is written.
-/
namespace MockApi

/-- The number `0.d₁d₂… * 10 ^ point` with the digits of `digits`. -/
structure Decimal where
  digits : List Char
  point : Int
  deriving DecidableEq, Repr

inductive Tie where
  | even | up
  deriving DecidableEq, Repr

namespace Decimal

/-- The reals that round to a double, as numerators over one denominator. -/
structure Interval where
  low : Nat
  value : Nat
  high : Nat
  closed : Bool

/-- Numerators in quarters of the unit of the significand. -/
def Interval.of (x : Binary64) : Interval :=
  let m := x.significand
  { low := if x.atBinade then 4 * m - 1 else 4 * m - 2
    value := 4 * m
    high := 4 * m + 2
    closed := m % 2 == 0 }

def Interval.holds (i : Interval) (num den k : Nat) : Bool :=
  if i.closed then decide (i.low * num ≤ k * den) && decide (k * den ≤ i.high * num)
  else decide (i.low * num < k * den) && decide (k * den < i.high * num)

/-- The grid neighbour of the value that lies in the interval, the nearer one if both do. -/
def Interval.nearest? (i : Interval) (tie : Tie) (num den : Nat) : Option Nat :=
  let k := i.value * num / den
  let rest := i.value * num % den
  match i.holds num den k, i.holds num den (k + 1) with
  | true, true =>
      if 2 * rest < den then some k
      else if den < 2 * rest then some (k + 1)
      else match tie with
        | .even => some (if k % 2 = 0 then k else k + 1)
        | .up => some (k + 1)
  | true, false => some k
  | false, true => some (k + 1)
  | false, false => none

def gridRatio (scale place : Int) : Nat × Nat :=
  let binary := scale - 2
  (2 ^ binary.toNat * 10 ^ (-place).toNat, 2 ^ (-binary).toNat * 10 ^ place.toNat)

/-- The first grid with a point in the interval, from the coarsest of `fuel` grids on. -/
def search (i : Interval) (tie : Tie) (scale : Int) : (fuel : Nat) → (place : Int) → Nat × Int
  | 0, place =>
      let ratio := gridRatio scale place
      (i.value * ratio.1 / ratio.2, place)
  | fuel + 1, place =>
      let ratio := gridRatio scale place
      match i.nearest? tie ratio.1 ratio.2 with
      | some k => (k, place)
      | none => search i tie scale fuel (place - 1)

def leadingPlace (x : Binary64) : Int :=
  let ratio := gridRatio x.scale (-400)
  ((Nat.toDigits 10 (4 * x.significand * ratio.1 / ratio.2)).length : Int) - 401

def dropTrailingZeros (digits : List Char) : List Char :=
  (digits.reverse.dropWhile (· == '0')).reverse

/-- The shortest decimal of a double's magnitude; zero has no digits. -/
def shortest (tie : Tie) (x : Binary64) : Decimal :=
  if x.isZero then ⟨[], 0⟩
  else
    let found := search (Interval.of x) tie x.scale 17 (leadingPlace x)
    let digits := Nat.toDigits 10 found.1
    ⟨dropTrailingZeros digits, digits.length + found.2⟩

structure Layout where
  tie : Tie
  /-- The exponents of the leading digit that are written positionally; none for all. -/
  positional : Option (Int × Int)
  /-- A whole number keeps `.0`. -/
  keepsPoint : Bool

def zeros (n : Nat) : List Char := List.replicate n '0'

def plain (d : Decimal) (keepsPoint : Bool) : List Char :=
  let count : Int := d.digits.length
  let tail := if keepsPoint then ['.', '0'] else []
  if d.digits = [] then '0' :: tail
  else if d.point ≤ 0 then '0' :: '.' :: zeros (-d.point).toNat ++ d.digits
  else if count ≤ d.point then d.digits ++ zeros (d.point - count).toNat ++ tail
  else d.digits.take d.point.toNat ++ '.' :: d.digits.drop d.point.toNat

/-- One digit, the point only before further digits, and a signed exponent. -/
def scientific (d : Decimal) : List Char :=
  let exponent := d.point - 1
  let mantissa := match d.digits with
    | [] => ['0']
    | [first] => [first]
    | first :: rest => first :: '.' :: rest
  let sign := if exponent < 0 then '-' else '+'
  mantissa ++ 'e' :: sign :: Nat.toDigits 10 exponent.natAbs

def Layout.render (layout : Layout) (x : Binary64) : String :=
  let d := shortest layout.tie x
  let written := match layout.positional with
    | none => plain d layout.keepsPoint
    | some (least, greatest) =>
        let exponent := d.point - 1
        if d.digits = [] ∨ (least ≤ exponent ∧ exponent ≤ greatest) then
          plain d layout.keepsPoint
        else scientific d
  String.ofList (if x.negative then '-' :: written else written)

end Decimal
end MockApi
