import MockApi.Decimal.Shortest
import MockApi.Definition.Outline
import MockApi.Settings.Basic

/-!
The outline of settings, and how scalars of one kind are taken for another: a number or a truth
value where a text is expected, or a word where a number is. Integers keep their low bits only.
-/
namespace MockApi

def ServerSettings.outline : Outline := .record [("host", .text), ("port", .natural 16)]

def EngineSettings.outline : Outline :=
  .record [("max_depth", .natural 64), ("max_items", .natural 64), ("cache_enabled", .flag),
    ("placeholder", .text), ("default_project", .text)]

def RateLimit.outline : Outline :=
  .record [("enabled", .flag), ("requests_per_second", .natural 32), ("burst_size", .natural 32)]

def Settings.outline : Outline :=
  .record [("server", ServerSettings.outline), ("engine", EngineSettings.outline),
    ("rate_limit", .optional RateLimit.outline), ("schemas", .list Schema.outline),
    ("endpoints", .list Endpoint.outline), ("response_wrappers", .list Envelope.outline)]

namespace Json

/-- Numbers as text have no exponent and no needless point. -/
def coercedNumber : Decimal.Layout := ⟨.up, none, false⟩

def wordValue? (word : String) : Option Bool :=
  let lower := word.map Char.toLower
  if ["true", "on", "yes"].contains lower then some true
  else if ["false", "off", "no"].contains lower then some false
  else none

def toText : Json → Json
  | bool value => str (if value then "true" else "false")
  | int n => str (toString n)
  | float x => str (coercedNumber.render x)
  | json => json

def toFlag? : Json → Option Json
  | int n => some (bool (n ≠ 0))
  | float x => some (bool (!x.isZero))
  | str "1" => some (bool true)
  | str "0" => some (bool false)
  | str word => bool <$> wordValue? word
  | json => some json

/-- An integer of 64 bits from a scalar; a double is rounded and brought into their range. -/
def toWord? : Json → Option Nat
  | bool value => some value.toNat
  | int n => if 0 ≤ n then some n.toNat else none
  | float x => some (if x.negative then 0 else min x.roundedMagnitude (2 ^ 64 - 1))
  | str text =>
      match wordValue? text with
      | some value => some value.toNat
      | none => Text.readBelow? (2 ^ 64) text.toList
  | _ => none

/-- Integers that do not fit into 64 bits with a sign are held as doubles. -/
def widened : Json → Json
  | int n =>
      if -2 ^ 63 ≤ n ∧ n < 2 ^ 63 then int n
      else ((Binary64.ofScientific? (decide (n < 0)) n.natAbs 0).map float).getD (int n)
  | json => json

def coerced? (outline : Outline) (json : Json) : Option Json :=
  match outline, json with
  | _, null => some null
  | .optional outline, json => coerced? outline json
  | .text, json => some json.toText
  | .flag, json => json.toFlag?
  | .natural bits, json => json.toWord?.map fun n => ofNat (n % 2 ^ bits)
  | _, json => some json

mutual

/-- A document with its scalars brought to the kinds that are expected. -/
def fitted? (outline : Outline) : Json → Option Json
  | obj entries => obj <$> fittedMembers? outline entries
  | arr items => arr <$> fittedItems? outline 0 items
  | scalar => coerced? outline scalar.widened

def fittedItems? (outline : Outline) : Nat → List Json → Option (List Json)
  | _, [] => some []
  | i, item :: rest => do
      return (← fitted? (outline.itemAt i) item) :: (← fittedItems? outline (i + 1) rest)

def fittedMembers? (outline : Outline) : List (String × Json) → Option (List (String × Json))
  | [] => some []
  | (name, value) :: rest => do
      return (name, ← fitted? (outline.under name) value) :: (← fittedMembers? outline rest)

end

end Json
end MockApi
