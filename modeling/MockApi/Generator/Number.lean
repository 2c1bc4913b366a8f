import MockApi.Generator.Basic

/-!
Generators of integers, numbers and truth values.
-/
namespace MockApi.Generator

def integerParam (name : String) : ParamSpec := ⟨name, .integer, false⟩

def numberParam (name : String) : ParamSpec := ⟨name, .number, false⟩

def intOr (params : Params) (name : String) (default : Int) : Int :=
  ((params.find? name).bind Json.asInt64?).getD default

def floatOfInt (n : Int) : Float :=
  match Binary64.ofScientific? (n < 0) n.natAbs 0 with
  | some x => x.toFloat
  | none => 0

def asFloat? : Json → Option Float
  | .int n => some (floatOfInt n)
  | .float x => some x.toFloat
  | _ => none

def floatOr (params : Params) (name : String) (default : Float) : Float :=
  ((params.find? name).bind asFloat?).getD default

/-- The double as it is written in a message; one that is not finite is never written. -/
def written (x : Float) : Binary64 := (Binary64.ofFloat? x).getD .zero

def integer : Generator where
  id := "integer"
  output := .integer
  params := [integerParam "min", integerParam "max"]
  produce params := do
    let min := intOr params "min" 0
    let max := intOr params "max" 100
    if min > max then refuse (.reversedIntegers min max)
    Json.int <$> ExceptT.lift (Draw.between min max)

/-- Rounds to decimal places, half away from zero, and back into the range. -/
def roundTo (places : Nat) (min max value : Float) : Float :=
  let factor := floatOfInt (10 ^ places)
  let rounded := (value * factor).round / factor
  let raised := if rounded < min then min else rounded
  if raised > max then max else raised

def maxPrecision : Int := 12

def rounded (params : Params) (min max value : Float) : Attempt Float :=
  match (params.find? "precision").bind Json.asInt64? with
  | none => return value
  | some places =>
      if places < 0 ∨ maxPrecision < places then refuse (.precision places)
      else return roundTo places.toNat min max value

/-- Any double between `min` and `max`, by default from 0 to 100, rounded to `precision` places if
they are given. The places are looked at after the draw. A distance that is just finite passes the
check, and the draw crashes on it. -/
def float : Generator where
  id := "float"
  output := .number
  params := [numberParam "min", numberParam "max", integerParam "precision"]
  produce params := do
    let min := floatOr params "min" 0
    let max := floatOr params "max" 100
    if min > max then refuse (.reversedNumbers (written min) (written max))
    if (Binary64.ofFloat? (max - min)).isNone then
      refuse (.rangeTooWide (written min) (written max))
    let drawn ← drawOrCrash (Draw.floatBetween? min max)
    let value ← rounded params min max drawn
    match Binary64.ofFloat? value with
    | some value => return .float value
    | none => refuse .notFinite

def boolean : Generator where
  id := "boolean"
  output := .boolean
  params := [numberParam "ratio"]
  produce params := do
    let ratio := floatOr params "ratio" 0.5
    if ratio < 0 ∨ 1 < ratio then refuse (.ratio (written ratio))
    Json.bool <$> ExceptT.lift (Draw.chance ratio)

end MockApi.Generator
