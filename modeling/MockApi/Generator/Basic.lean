import MockApi.Calendar.Instant
import MockApi.Decimal.Shortest
import MockApi.Definition.Basic
import MockApi.Failure
import MockApi.Random

/-!
Generators: what they declare about their parameters and output, the check of given parameters
against the declaration, and the faults with which parameters are refused.
-/
namespace MockApi

inductive OutputKind where
  | string | integer | number | boolean | date | any
  deriving DecidableEq, Repr

def OutputKind.name : OutputKind → String
  | string => "string"
  | integer => "integer"
  | number => "number"
  | boolean => "boolean"
  | date => "date"
  | any => "any"

inductive ParamKind where
  | integer | number | string | list | any
  deriving DecidableEq, Repr

namespace ParamKind

def title : ParamKind → String
  | integer => "Integer"
  | number => "Number"
  | string => "String"
  | list => "List"
  | any => "Any"

/-- The name in listings. -/
def name (kind : ParamKind) : String := kind.title.toLower

def accepts (kind : ParamKind) (value : Json) : Bool :=
  match kind with
  | integer => value.asInt64?.isSome
  | number => value.isNumber
  | string => value.asString?.isSome
  | list => value.asArray?.isSome
  | any => true

end ParamKind

structure ParamSpec where
  name : String
  kind : ParamKind
  required : Bool
  deriving DecidableEq, Repr

inductive ParamFault where
  | unknown (name : String)
  | missing (name : String)
  | wrongKind (name : String) (kind : ParamKind)
  | reversedIntegers (min max : Int)
  | reversedNumbers (min max : Binary64)
  | rangeTooWide (min max : Binary64)
  | precision (digits : Int)
  | ratio (value : Binary64)
  | notFinite
  | negativeCount (name : String)
  | countTooLarge (name : String) (count : Nat)
  | reversedCounts (minName : String) (min : Nat) (maxName : String) (max : Nat)
  | unreadableDate (name : String) (fault : TimeFault)
  | unreadableTimestamp (name : String) (fault : TimeFault)
  | reversedTimes (start stop : String)
  | nothingToChoose
  deriving DecidableEq

/-- Numbers in messages are written without exponents, and whole ones without a point. -/
def messageNumber : Decimal.Layout := ⟨.up, none, false⟩

/-- The most words of a sentence and sentences of a paragraph. -/
def maxTextCount : Nat := 1000

namespace ParamFault

open Failure (quoted)

def reversed (minName min maxName max : String) : String :=
  minName ++ " (" ++ min ++ ") must not exceed " ++ maxName ++ " (" ++ max ++ ")"

def message : ParamFault → String
  | unknown name => "unknown parameter " ++ quoted name
  | missing name => "missing required parameter " ++ quoted name
  | wrongKind name kind => "parameter " ++ quoted name ++ " must be of type " ++ kind.title
  | reversedIntegers min max => reversed "min" (toString min) "max" (toString max)
  | reversedNumbers min max =>
      reversed "min" (messageNumber.render min) "max" (messageNumber.render max)
  | rangeTooWide min max =>
      "range " ++ messageNumber.render min ++ ".." ++ messageNumber.render max ++ " is too wide"
  | precision digits => "precision (" ++ toString digits ++ ") must be between 0 and 12"
  | ratio value => "ratio (" ++ messageNumber.render value ++ ") must be between 0 and 1"
  | notFinite => "generated non-finite number"
  | negativeCount name => quoted name ++ " must be a non-negative integer"
  | countTooLarge name count =>
      name ++ " (" ++ toString count ++ ") must not exceed " ++ toString maxTextCount
  | reversedCounts minName min maxName max =>
      reversed minName (toString min) maxName (toString max)
  | unreadableDate name fault => quoted name ++ " is not a YYYY-MM-DD date: " ++ fault.message
  | unreadableTimestamp name fault =>
      quoted name ++ " is not an RFC 3339 timestamp: " ++ fault.message
  | reversedTimes start stop =>
      "from (" ++ start ++ ") must not be after to (" ++ stop ++ ")"
  | nothingToChoose => "'values' must not be empty"

end ParamFault

/-- A draw that may refuse its parameters, or crash on them; the source stays as far advanced as it
was then. -/
abbrev Attempt := ExceptT (Abort ParamFault) Draw

def refuse {α ε : Type} (fault : ε) : ExceptT (Abort ε) Draw α := throw (.fault fault)

/-- A draw that crashes where it gives nothing. -/
def drawOrCrash {α ε : Type} (draw : Draw (Option α)) : ExceptT (Abort ε) Draw α := do
  match ← ExceptT.lift draw with
  | some value => return value
  | none => throw .crash

structure Generator where
  id : String
  output : OutputKind
  params : List ParamSpec
  produce : Params → Attempt Json

namespace Generator

/-- Every given name is declared, every required one given, and every value of the declared kind;
the first given name that is unknown comes first, then the declarations in their order. -/
def check (specs : List ParamSpec) (params : Params) : Except ParamFault Unit := do
  match (Keyed.keys params.members).find? (fun name => specs.all (fun spec => spec.name ≠ name)) with
  | some name => throw (.unknown name)
  | none =>
      specs.forM fun spec =>
        match params.find? spec.name with
        | none => if spec.required then throw (.missing spec.name) else pure ()
        | some value =>
            if spec.kind.accepts value then pure () else throw (.wrongKind spec.name spec.kind)

def run (generator : Generator) (params : Params) : Attempt Json :=
  match check generator.params params with
  | .ok () => generator.produce params
  | .error fault => refuse fault

def ofText (id : String) (draw : Draw String) : Generator :=
  { id, output := .string, params := [], produce := fun _ => ExceptT.lift (Json.str <$> draw) }

end Generator

inductive GeneratorFault where
  | unknown (generator : String)
  | refused (generator reason : String)
  deriving DecidableEq, Repr

namespace GeneratorFault

open Failure (quoted)

def message : GeneratorFault → String
  | unknown generator => "Unknown generator " ++ quoted generator
  | refused generator reason =>
      "Invalid parameters for generator " ++ quoted generator ++ ": " ++ reason

def toFailure (path : FieldPath) : GeneratorFault → Failure
  | unknown generator => .unknownGenerator generator path.render
  | refused generator reason => .badParameters generator reason path.render

end GeneratorFault
end MockApi
