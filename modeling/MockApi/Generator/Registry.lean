import MockApi.Generator.Number
import MockApi.Generator.Person
import MockApi.Generator.Phrase
import MockApi.Generator.Time

/-!
The generators that exist, found by their ids.
-/
namespace MockApi.Generator

def choice : Generator where
  id := "enum"
  output := .any
  params := [⟨"values", .list, true⟩]
  produce params := do
    let values := ((params.find? "values").bind Json.asArray?).getD []
    match ← ExceptT.lift (Draw.pick? values) with
    | some value => return value
    | none => refuse .nothingToChoose

def constant : Generator where
  id := "constant"
  output := .any
  params := [⟨"value", .any, true⟩]
  produce params := return (params.find? "value").getD .null

def all : List Generator :=
  [integer, float, boolean] ++ personal ++
    [sentence, paragraph, date, dateTime, pattern, choice, constant]

def find? (id : String) : Option Generator := all.find? (fun generator => generator.id = id)

def known (id : String) : Bool := (find? id).isSome

def sorted : List Generator := all.mergeSort (fun a b => decide (a.id ≤ b.id))

def describe (generator : Generator) : Json :=
  .obj [("id", .str generator.id), ("output", .str generator.output.name),
    ("params", .arr (generator.params.map fun spec =>
      .obj [("name", .str spec.name), ("kind", .str spec.kind.name),
        ("required", .bool spec.required)]))]

def generate (id : String) (params : Params) : ExceptT (Abort GeneratorFault) Draw Json :=
  match find? id with
  | none => refuse (.unknown id)
  | some generator =>
      (generator.run params).adapt (Abort.map fun fault => .refused id fault.message)

def generateSeeded (id : String) (params : Params) (seed : UInt64) :
    Except (Abort GeneratorFault) Json :=
  ((generate id params).run.run (Source.ofSeed seed)).1

end MockApi.Generator
