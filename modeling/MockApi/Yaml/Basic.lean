import MockApi.Decimal.Reading
import MockApi.Json.Basic
import MockApi.Outline

/-!
YAML documents as trees of scalars, and what a plain scalar stands for. A scalar keeps its text, so
that a reader who wants text gets it as it was written.
-/
namespace MockApi

namespace Yaml

structure Scalar where
  text : String
  /-- Written without quotes and not as a block. -/
  plain : Bool
  deriving DecidableEq, Repr

end Yaml

inductive Yaml where
  | scalar (leaf : Yaml.Scalar)
  | seq (items : List Yaml)
  | map (members : List (Yaml.Scalar × Yaml))

namespace Yaml

def absent : Yaml := .scalar ⟨"", true⟩

def quoted (text : List Char) : Yaml := .scalar ⟨String.ofList text, false⟩

def plain (text : List Char) : Yaml := .scalar ⟨String.ofList text, true⟩

structure ScalarRules where
  nulls : List String
  trues : List String
  falses : List String
  number? : List Char → Option Json
  /-- Numbers may name members. -/
  numbersAsNames : Bool

namespace ScalarRules

def based? (mark : Char) (base : Nat) (text : List Char) : Option Nat :=
  let digits := text.drop 2
  let value? (c : Char) : Option Nat := (Text.hexValue? c).filter fun n => n < base
  if text.take 2 = ['0', mark] ∧ digits ≠ [] then
    digits.foldlM (fun n c => (value? c).map (base * n + ·)) 0
  else none

def padded (text : List Char) : Bool :=
  let digits := (Decimal.splitSign text).2
  digits.all Text.isDigit && digits.head? == some '0' && decide (1 < digits.length)

def word? (n : Int) : Option Json := if -2 ^ 63 ≤ n ∧ n < 2 ^ 64 then some (.int n) else none

def signedWord? (n : Int) : Option Json := if -2 ^ 63 ≤ n ∧ n < 2 ^ 63 then some (.int n) else none

/-- Infinities and not-a-number have no value in JSON. -/
def notFinite (text : List Char) : Bool :=
  [".inf", ".Inf", ".INF", "+.inf", "+.Inf", "+.INF", "-.inf", "-.Inf", "-.INF", ".nan", ".NaN",
    ".NAN"].contains (String.ofList text)

def float? (text : List Char) : Option Json :=
  if notFinite text then some .null else Json.float <$> Decimal.read? text

/-- Numbers of the core schema: decimal, and with a sign hexadecimal, octal and binary. -/
def coreNumber? (text : List Char) : Option Json :=
  let (negative, unsigned) := Decimal.splitSign text
  let natural := (based? 'x' 16 unsigned) <|> (based? 'o' 8 unsigned) <|> based? 'b' 2 unsigned
  let whole := (natural.map fun n => if negative then -(n : Int) else (n : Int)) <|>
    Decimal.readInt? text
  if padded text then none else (whole >>= word?) <|> float? text

def core : ScalarRules :=
  { nulls := ["null", "Null", "NULL", "~"]
    trues := ["true", "True", "TRUE"]
    falses := ["false", "False", "FALSE"]
    number? := coreNumber?
    numbersAsNames := false }

/-- Any decimal digits are a number, and only lower-case words count. -/
def looseNumber? (text : List Char) : Option Json :=
  let natural := (based? 'x' 16 text) <|> based? 'o' 8 text
  let whole := (natural.map Int.ofNat) <|> Decimal.readInt? text
  (whole >>= signedWord?) <|> float? text

def loose : ScalarRules :=
  { nulls := ["null", "~"]
    trues := ["true"]
    falses := ["false"]
    number? := looseNumber?
    numbersAsNames := true }

def isNull (rules : ScalarRules) (scalar : Scalar) : Bool :=
  scalar.plain && (scalar.text = "" || rules.nulls.contains scalar.text)

/-- What a scalar stands for; in quotes it is text. -/
def resolve (rules : ScalarRules) (scalar : Scalar) : Json :=
  if ¬ scalar.plain then .str scalar.text
  else if rules.isNull scalar then .null
  else if scalar.text ∈ rules.trues then .bool true
  else if scalar.text ∈ rules.falses then .bool false
  else (rules.number? scalar.text.toList).getD (.str scalar.text)

def name? (rules : ScalarRules) (scalar : Scalar) : Option String :=
  match rules.resolve scalar with
  | .str text => some text
  | .int n => if rules.numbersAsNames then some (toString n) else none
  | _ => none

end ScalarRules

/-- A text is taken as it is written, and nothing at all is a list without items. -/
def ScalarRules.resolveAs (rules : ScalarRules) (scalar : Scalar) : Outline → Json
  | .text => .str scalar.text
  | .optional value =>
      if rules.isNull scalar then .null else rules.resolveAs scalar value
  | .list _ => if scalar = ⟨"", true⟩ then .arr [] else rules.resolve scalar
  | _ => rules.resolve scalar

mutual

/-- A tree as JSON, read with an outline. The names of a record are texts, and what has no value in
JSON is null there; anywhere else it is refused. -/
def toJson? (rules : ScalarRules) (outline : Outline) : Yaml → Option Json
  | .scalar leaf => some (rules.resolveAs leaf outline)
  | .seq items => Json.arr <$> itemsToJson? rules outline 0 items
  | .map members => Json.obj <$> membersToJson? rules outline members

def itemsToJson? (rules : ScalarRules) (outline : Outline) : Nat → List Yaml → Option (List Json)
  | _, [] => some []
  | i, item :: rest => do
      return (← toJson? rules (outline.itemAt i) item) ::
        (← itemsToJson? rules outline (i + 1) rest)

def membersToJson? (rules : ScalarRules) (outline : Outline) :
    List (Scalar × Yaml) → Option (List (String × Json))
  | [] => some []
  | (key, value) :: rest => do
      let found := toJson? rules (outline.under key.text) value
      let member ← if outline.isRecord then some (key.text, found.getD .null)
        else do pure (← rules.name? key, ← found)
      return member :: (← membersToJson? rules outline rest)

end

end Yaml
end MockApi
