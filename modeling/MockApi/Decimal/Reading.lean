import MockApi.Decimal.Binary64
import MockApi.Text.Digits

/-!
Decimal numbers read from text: a sign, digits with a point somewhere, and an exponent.
-/
namespace MockApi.Decimal

open Text (isDigit digitsValue)

def splitSign : List Char → Bool × List Char
  | '-' :: rest => (true, rest)
  | '+' :: rest => (false, rest)
  | rest => (false, rest)

/-- An exponent with its letter; none at all is zero. -/
def exponent? : List Char → Option Int
  | [] => some 0
  | letter :: text =>
      let (negative, digits) := splitSign text
      if (letter = 'e' ∨ letter = 'E') ∧ digits ≠ [] ∧ digits.all isDigit then
        some (if negative then -(digitsValue digits : Int) else digitsValue digits)
      else none

/-- The double nearest to a decimal number; none if the text is no number or the number is out of
range. -/
def read? (text : List Char) : Option Binary64 := do
  let (negative, unsigned) := splitSign text
  let whole := unsigned.takeWhile isDigit
  let behind := unsigned.drop whole.length
  let places := match behind with
    | '.' :: rest => rest.takeWhile isDigit
    | _ => []
  let rest := match behind with
    | '.' :: rest => rest.drop places.length
    | rest => rest
  if whole = [] ∧ places = [] then none
  else
    let exponent ← exponent? rest
    Binary64.ofScientific? negative (digitsValue (whole ++ places)) (exponent - places.length)

def readInt? (text : List Char) : Option Int :=
  let (negative, digits) := splitSign text
  if digits ≠ [] ∧ digits.all isDigit then
    some (if negative then -(digitsValue digits : Int) else digitsValue digits)
  else none

end MockApi.Decimal
