import MockApi.Generator.Registry
import MockApi.Route
import MockApi.Settings.Basic

/-!
What settings must satisfy. Every violated condition is a fault with its own place; references that
lead nowhere are no faults but warnings, as they only concern the requests that meet them.
-/
namespace MockApi

inductive Definable where
  | schema | endpoint | envelope
  deriving DecidableEq, Repr

/-- A violated condition. Indices count within the list of the kind; of several earlier occurrences
the nearest one is named. -/
inductive SettingsFault where
  | emptyHost
  | zeroPort
  | badDepth
  | badItems
  | emptyPlaceholder
  | emptyDefaultProject
  | zeroRate
  | zeroBurst
  | emptyId (kind : Definable) (index : Nat)
  | repeatedId (kind : Definable) (id : String) (earlier index : Nat)
  | emptyFieldName (schema field : Nat)
  | repeatedFieldName (schema field : String)
  | repeatedRoute (method : Method) (path project : String) (earlier index : Nat)
  | emptySchemaId (endpoint : Nat)
  | badStatus (endpoint status : Nat)
  deriving DecidableEq, Repr

namespace SettingsFault

def maxDepth : Nat := 256

def maxItems : Nat := 100000

def listName : Definable → String
  | .schema => "schemas"
  | .endpoint => "endpoints"
  | .envelope => "response_wrappers"

def kindName : Definable → String
  | .schema => "Schema"
  | .endpoint => "Endpoint"
  | .envelope => "Response wrapper"

def entryAt (list : String) (index : Nat) : String := list ++ "[" ++ toString index ++ "]"

def missing (place : String) : String := "Missing required field: " ++ place

def invalid (place reason : String) : String := "Invalid value for " ++ place ++ ": " ++ reason

def duplicate (entry : String) : String := "Duplicate entry: " ++ entry

def indices (earlier index : Nat) : String :=
  " appears at indices " ++ toString earlier ++ " and " ++ toString index

open Failure (quoted)

def message : SettingsFault → String
  | emptyHost => missing "server.host"
  | zeroPort => invalid "server.port" "Port must be greater than 0"
  | badDepth => invalid "engine.max_depth" ("must be between 1 and " ++ toString maxDepth)
  | badItems => invalid "engine.max_items" ("must be between 1 and " ++ toString maxItems)
  | emptyPlaceholder => missing "engine.placeholder"
  | emptyDefaultProject => missing "engine.default_project"
  | zeroRate => invalid "rate_limit.requests_per_second" "Rate must be greater than 0"
  | zeroBurst => invalid "rate_limit.burst_size" "Burst size must be greater than 0"
  | emptyId kind index => missing (entryAt (listName kind) index ++ ".id")
  | repeatedId kind id earlier index =>
      duplicate (kindName kind ++ " id " ++ quoted id ++ indices earlier index)
  | emptyFieldName schema field =>
      missing (entryAt (listName .schema) schema ++ "." ++ entryAt "fields" field ++ ".name")
  | repeatedFieldName schema field =>
      duplicate ("Field " ++ quoted field ++ " appears more than once in schema " ++ quoted schema)
  | repeatedRoute method path project earlier index =>
      duplicate ("Route " ++ method.name ++ " " ++ path ++ " in project " ++ quoted project ++
        indices earlier index)
  | emptySchemaId endpoint => missing (entryAt (listName .endpoint) endpoint ++ ".schema_id")
  | badStatus endpoint status =>
      invalid (entryAt (listName .endpoint) endpoint ++ ".status")
        (toString status ++ " is not a 2xx status code")

end SettingsFault

inductive DeadReference where
  | schemaOfField (schema field target : String)
  | generatorOfField (schema field generator : String)
  | schemaOfEndpoint (endpoint target : String)
  | envelopeOfEndpoint (endpoint target : String)
  deriving DecidableEq, Repr

namespace DeadReference

open Failure (quoted)

def message : DeadReference → String
  | schemaOfField schema field target =>
      "Field " ++ quoted (schema ++ "." ++ field) ++ " references unknown schema " ++ quoted target
  | generatorOfField schema field generator =>
      "Field " ++ quoted (schema ++ "." ++ field) ++ " uses unknown generator " ++ quoted generator
  | schemaOfEndpoint endpoint target =>
      "Endpoint " ++ quoted endpoint ++ " references unknown schema " ++ quoted target
  | envelopeOfEndpoint endpoint target =>
      "Endpoint " ++ quoted endpoint ++ " references unknown response wrapper " ++ quoted target

end DeadReference

namespace Validation

def eachAfter {α β : Type} (check : List α → α → List β) : (earlier : List α) → List α → List β
  | _, [] => []
  | earlier, x :: rest => check earlier x ++ eachAfter check (earlier ++ [x]) rest

def lastIndex? {α κ : Type} [DecidableEq κ] (key : α → κ) (k : κ) (entries : List α) :
    Option Nat :=
  (entries.zipIdx.reverse.find? fun entry => key entry.1 = k).map (·.2)

def faultIf (condition : Bool) (fault : SettingsFault) : List SettingsFault :=
  if condition then [fault] else []

/-- An entry whose key stands further in front already. -/
def repeated {α κ : Type} [DecidableEq κ] (key : α → κ) (fault : Nat → SettingsFault)
    (earlier : List α) (entry : α) : List SettingsFault :=
  (lastIndex? key (key entry) earlier).toList.map fault

def checkServer (server : ServerSettings) : List SettingsFault :=
  faultIf (server.host = "") .emptyHost ++ faultIf (server.port = 0) .zeroPort

def checkEngine (engine : EngineSettings) : List SettingsFault :=
  faultIf (engine.limits.maxDepth = 0 || SettingsFault.maxDepth < engine.limits.maxDepth)
      .badDepth ++
    faultIf (engine.limits.maxItems = 0 || SettingsFault.maxItems < engine.limits.maxItems)
      .badItems ++
    faultIf (engine.placeholder = "") .emptyPlaceholder ++
    faultIf (engine.defaultProject = "") .emptyDefaultProject

/-- A rate limit that is not enabled may hold anything. -/
def checkRateLimit : Option RateLimit → List SettingsFault
  | none => []
  | some limit =>
      faultIf (limit.enabled && limit.perSecond = 0) .zeroRate ++
        faultIf (limit.enabled && limit.burst = 0) .zeroBurst

/-- Ids are not empty and do not repeat within their kind. -/
def checkId {α : Type} (kind : Definable) (id : α → String) (earlier : List α) (entry : α) :
    List SettingsFault :=
  faultIf (id entry = "") (.emptyId kind earlier.length) ++
    repeated id (fun i => .repeatedId kind (id entry) i earlier.length) earlier entry

def checkField (index : Nat) (schema : String) (earlier : List Field) (field : Field) :
    List SettingsFault :=
  if field.name = "" then [.emptyFieldName index earlier.length]
  else faultIf (earlier.any fun other => other.name = field.name)
    (.repeatedFieldName schema field.name)

def checkSchema (earlier : List Schema) (schema : Schema) : List SettingsFault :=
  checkId .schema Schema.id earlier schema ++
    eachAfter (checkField earlier.length schema.id) [] schema.fields

/-- Two endpoints with one route could not be told apart. -/
def routeOf (endpoint : Endpoint) : RouteKey × String :=
  (⟨endpoint.project, endpoint.method⟩, Route.normalize endpoint.path)

def checkStatus (index : Nat) : Option Nat → List SettingsFault
  | none => []
  | some status => faultIf (status < 200 || 300 ≤ status) (.badStatus index status)

def checkEndpoint (earlier : List Endpoint) (endpoint : Endpoint) : List SettingsFault :=
  checkId .endpoint Endpoint.id earlier endpoint ++
    repeated routeOf (fun i => .repeatedRoute endpoint.method endpoint.path endpoint.project i
      earlier.length) earlier endpoint ++
    faultIf (endpoint.schema = "") (.emptySchemaId earlier.length) ++
    checkStatus earlier.length endpoint.status

def checkEnvelope (earlier : List Envelope) (envelope : Envelope) : List SettingsFault :=
  checkId .envelope Envelope.id earlier envelope

/-- The generator of a field or of the items of its list. -/
def generatorOf? (field : Field) : Option String :=
  match field.shape with
  | .leaf binding | .list (.leaf binding) _ => some binding.generator
  | _ => none

/-- An entry if a name is given that is not known. -/
def deadIf (known : String → Bool) (dead : String → DeadReference) (name : Option String) :
    List DeadReference :=
  (name.filter fun name => !known name).toList.map dead

end Validation

namespace Settings

open Validation

def faults (settings : Settings) : List SettingsFault :=
  checkServer settings.server ++ checkEngine settings.engine ++
    checkRateLimit settings.rateLimit ++
    eachAfter checkSchema [] settings.definitions.schemas ++
    eachAfter checkEndpoint [] settings.definitions.endpoints ++
    eachAfter checkEnvelope [] settings.definitions.envelopes

def deadReferences (settings : Settings) : List DeadReference :=
  let schemas := settings.definitions.schemas
  let endpoints := settings.definitions.endpoints
  let knownSchema (id : String) : Bool := schemas.any fun schema => schema.id = id
  let knownEnvelope (id : String) : Bool :=
    settings.definitions.envelopes.any fun envelope => envelope.id = id
  (schemas.flatMap fun schema => schema.fields.flatMap fun field =>
      deadIf knownSchema (.schemaOfField schema.id field.name) field.reference? ++
        deadIf Generator.known (.generatorOfField schema.id field.name) (generatorOf? field)) ++
    endpoints.flatMap fun endpoint =>
      deadIf knownSchema (.schemaOfEndpoint endpoint.id) (some endpoint.schema) ++
        deadIf knownEnvelope (.envelopeOfEndpoint endpoint.id) endpoint.envelope

end Settings
end MockApi
