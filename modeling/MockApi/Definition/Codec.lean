import MockApi.Definition.Basic

/-!
Definitions as JSON. `encode` writes every field in a fixed order and leaves out absent ones;
`decode?` accepts an object, whatever else it holds, or in most places a list of the fields in that
order. Decoding what was encoded gives it back.
-/
namespace MockApi

/-- Where a JSON value stands: on its own, in a text that is read into definitions directly, or
inside a field, whose members are collected before its kind is known. -/
inductive Origin where
  | value | text | collected
  deriving DecidableEq, Repr

namespace Origin

/-- A kind may be given by its number. -/
def numbersKinds (origin : Origin) : Bool := origin == .collected

/-- The two ends of a range may be given as a list. -/
def listsRanges (origin : Origin) : Bool := origin != .value

end Origin

namespace Json

def member? (name : String) (members : List (String × Json)) : Option (Option Json) :=
  match members.filter (fun entry => entry.1 = name) with
  | [] => some none
  | [(_, value)] => some (some value)
  | _ => none

/-- The values under some names, given as members or as a list that may end early. -/
def record? (names : List String) : Json → Option (List (Option Json))
  | obj members => names.mapM (fun name => member? name members)
  | arr items =>
      if items.length ≤ names.length then
        some (items.map some ++ List.replicate (names.length - items.length) none)
      else none
  | _ => none

/-- An absent value has a default; null is no value. -/
def orElse {α : Type} (default : α) (decode? : Json → Option α) : Option Json → Option α
  | none => some default
  | some json => decode? json

def optional {α : Type} (decode? : Json → Option α) : Option Json → Option (Option α)
  | none | some null => some none
  | some json => (decode? json).map some

def required {α : Type} (decode? : Json → Option α) : Option Json → Option α
  | none => none
  | some json => decode? json

def listOf? {α : Type} (decode? : Json → Option α) (json : Json) : Option (List α) :=
  json.asArray? >>= List.mapM decode?

/-- A kind by its name, or by its place among the names. -/
def kind? (names : List String) (numbered : Bool) : Json → Option String
  | str name => if name ∈ names then some name else none
  | int n => if numbered ∧ 0 ≤ n then names[n.toNat]? else none
  | _ => none

end Json

open Json (record? required optional orElse listOf? member?)

namespace Method

def encode (method : Method) : Json := .str method.name

def decode? (json : Json) : Option Method := do
  let text ← json.asString?
  match parse text with
  | .ok method => some method
  | .error _ => none

end Method

namespace Params

def encode (params : Params) : Json := .obj params.members

def decode? : Json → Option Params
  | .obj members => some (ofMembers members)
  | _ => none

end Params

namespace Binding

def encode (binding : Binding) : Json :=
  .obj (("generator", .str binding.generator) ::
    if binding.params.members.isEmpty then [] else [("params", binding.params.encode)])

def decode? (json : Json) : Option Binding := do
  match ← record? ["generator", "params"] json with
  | [generator, params] =>
      return { generator := ← required Json.asString? generator
               params := ← orElse Params.empty Params.decode? params }
  | _ => none

end Binding

namespace ItemCount

def encode : ItemCount → Json
  | fixed n => .obj [("fixed", .ofNat n)]
  | range min max => .obj [("range", .obj [("min", .ofNat min), ("max", .ofNat max)])]

def decodeRange? (json : Json) : Option ItemCount := do
  match ← record? ["min", "max"] json with
  | [min, max] => return range (← required Json.asSize? min) (← required Json.asSize? max)
  | _ => none

/-- An object with one member. -/
def decode? (origin : Origin) : Json → Option ItemCount
  | .obj [("fixed", n)] => fixed <$> n.asSize?
  | .obj [("range", .arr ends)] => if origin.listsRanges then decodeRange? (.arr ends) else none
  | .obj [("range", json)] => decodeRange? json
  | _ => none

end ItemCount

namespace Element

def encode : Element → Json
  | leaf binding => .obj [("kind", .str "primitive"), ("faker_type", binding.encode)]
  | nested schema => .obj [("kind", .str "object"), ("object_schema", .str schema)]

def kinds : List String := ["primitive", "object"]

/-- A kind with its payload, either as members or as a list of the two. -/
def decode? (origin : Origin) (json : Json) : Option Element := do
  match json with
  | .obj members =>
      let kind ← Json.kind? kinds origin.numbersKinds (← (← member? "kind" members))
      if kind = "primitive" then
        leaf <$> Binding.decode? (← (← member? "faker_type" members))
      else
        nested <$> Json.asString? (← (← member? "object_schema" members))
  | .arr [kind, payload] =>
      let kind ← Json.kind? kinds origin.numbersKinds kind
      if kind = "primitive" then leaf <$> Binding.decode? payload
      else nested <$> payload.asString?
  | _ => none

end Element

namespace Shape

def encodeList (element : Element) (count : ItemCount) : Json :=
  .obj [("element", element.encode), ("count", count.encode)]

def decodeList? (origin : Origin) (json : Json) : Option (Element × ItemCount) := do
  match ← record? ["element", "count"] json with
  | [element, count] =>
      return (← required (Element.decode? origin) element,
        ← orElse ItemCount.standard (ItemCount.decode? origin) count)
  | _ => none

def kinds : List String := ["primitive", "object", "array"]

end Shape

namespace Field

def encode (field : Field) : Json :=
  let payload : List (String × Json) := match field.shape with
    | .leaf binding => [("kind", .str "primitive"), ("faker_type", binding.encode)]
    | .nested schema => [("kind", .str "object"), ("object_type", .str schema)]
    | .list element count => [("kind", .str "array"), ("array_type", Shape.encodeList element count)]
  .obj (("name", .str field.name) :: payload)

/-- Only members are accepted, and of the payloads only the one of the kind is looked at. -/
def decode? : Json → Option Field
  | .obj members => do
      let name ← Json.asString? (← (← member? "name" members))
      let kind ← Json.kind? Shape.kinds true (← (← member? "kind" members))
      if kind = "primitive" then
        let binding ← Binding.decode? (← (← member? "faker_type" members))
        return ⟨name, .leaf binding⟩
      else if kind = "object" then
        let schema ← Json.asString? (← (← member? "object_type" members))
        return ⟨name, .nested schema⟩
      else
        let (element, count) ←
          Shape.decodeList? .collected (← (← member? "array_type" members))
        return ⟨name, .list element count⟩
  | _ => none

end Field

namespace Schema

def encode (schema : Schema) : Json :=
  .obj [("id", .str schema.id), ("project_id", .str schema.project), ("name", .str schema.name),
    ("version", .ofNat schema.version.toNat), ("fields", .arr (schema.fields.map Field.encode))]

def decodeVersion? (json : Json) : Option UInt64 := UInt64.ofNat <$> json.asSize?

def decode? (json : Json) : Option Schema := do
  match ← record? ["id", "project_id", "name", "version", "fields"] json with
  | [id, project, name, version, fields] =>
      return { id := ← required Json.asString? id
               project := ← orElse defaultProject Json.asString? project
               name := ← orElse "" Json.asString? name
               version := ← orElse 0 decodeVersion? version
               fields := ← orElse [] (listOf? Field.decode?) fields }
  | _ => none

end Schema

namespace Endpoint

def decodeStatus? (json : Json) : Option Nat := json.asBelow? (2 ^ 16)

def encode (endpoint : Endpoint) : Json :=
  let present (name : String) (value : Option Json) : List (String × Json) :=
    value.toList.map fun json => (name, json)
  .obj ([("id", .str endpoint.id), ("project_id", .str endpoint.project),
      ("method", endpoint.method.encode), ("path", .str endpoint.path),
      ("schema_id", .str endpoint.schema)] ++
    present "wrapper_id" (endpoint.envelope.map .str) ++
    present "status" (endpoint.status.map .ofNat))

def decode? (json : Json) : Option Endpoint := do
  match ← record? ["id", "project_id", "method", "path", "schema_id", "wrapper_id", "status"]
      json with
  | [id, project, method, path, schema, envelope, status] =>
      return { id := ← required Json.asString? id
               project := ← orElse defaultProject Json.asString? project
               method := ← required Method.decode? method
               path := ← required Json.asString? path
               schema := ← required Json.asString? schema
               envelope := ← optional Json.asString? envelope
               status := ← optional decodeStatus? status }
  | _ => none

end Endpoint

namespace Envelope

def encode (envelope : Envelope) : Json :=
  .obj [("id", .str envelope.id), ("project_id", .str envelope.project),
    ("name", .str envelope.name), ("json", .str envelope.template)]

def decode? (json : Json) : Option Envelope := do
  match ← record? ["id", "project_id", "name", "json"] json with
  | [id, project, name, template] =>
      return { id := ← required Json.asString? id
               project := ← orElse defaultProject Json.asString? project
               name := ← orElse "" Json.asString? name
               template := ← required Json.asString? template }
  | _ => none

end Envelope
end MockApi
