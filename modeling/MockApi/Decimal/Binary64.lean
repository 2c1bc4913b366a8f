import MockApi.Power

/-!
Finite doubles held by their bits, read as an integer significand times a power of two.
-/
namespace MockApi

def exponentField (bits : UInt64) : UInt64 := (bits >>> 52) &&& 0x7ff

/-- A finite double. Two of them are equal when their bits are, so that zero and negative zero
stay apart. -/
structure Binary64 where
  bits : UInt64
  finite : exponentField bits ≠ 0x7ff
  deriving DecidableEq

namespace Binary64

def ofFloat? (x : Float) : Option Binary64 :=
  if h : exponentField x.toBits ≠ 0x7ff then some ⟨x.toBits, h⟩ else none

def toFloat (x : Binary64) : Float := Float.ofBits x.bits

def zero : Binary64 := ⟨0, by decide⟩

def negZero : Binary64 := ⟨0x8000000000000000, by decide⟩

def negative (x : Binary64) : Bool := x.bits >>> 63 == 1

def isZero (x : Binary64) : Bool := x.bits &&& 0x7fffffffffffffff == 0

def fractionField (x : Binary64) : Nat := (x.bits &&& 0xfffffffffffff).toNat

/-- The integer significand, with the leading bit of a normal number. -/
def significand (x : Binary64) : Nat :=
  if exponentField x.bits = 0 then x.fractionField else x.fractionField + 2 ^ 52

def scale (x : Binary64) : Int :=
  if exponentField x.bits = 0 then -1074 else (exponentField x.bits).toNat - 1075

/-- The magnitude to the nearest integer; a half goes up. -/
def roundedMagnitude (x : Binary64) : Nat :=
  match x.scale with
  | .ofNat up => x.significand * 2 ^ up
  | .negSucc down => (x.significand + 2 ^ down) / 2 ^ (down + 1)

/-- The number below lies at half the distance of the number above. -/
def atBinade (x : Binary64) : Bool := x.fractionField == 0 && exponentField x.bits > 1

/-- Equal as numbers: the two zeros are one. -/
def same (x y : Binary64) : Bool := x == y || (x.isZero && y.isZero)

theorem same_refl (x : Binary64) : x.same x = true := by simp [same]

/-- The double nearest to `digits * 10 ^ exponent`, absent when it is out of range. -/
def ofScientific? (negative : Bool) (digits : Nat) (exponent : Int) : Option Binary64 :=
  if digits = 0 then some (if negative then negZero else zero)
  else
    let size : Int := digits.log2
    if exponent > 400 then none
    else if 10 * exponent + 4 * size < -4000 then some (if negative then negZero else zero)
    else
      let magnitude := Float.ofScientific digits (exponent < 0) exponent.natAbs
      ofFloat? (if negative then -magnitude else magnitude)

end Binary64
end MockApi
