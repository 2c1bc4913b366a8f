import MockApi.Json.Basic
import MockApi.Method

/-!
What a user defines: schemas made of fields, endpoints that serve a schema, and envelopes around
the payload. `same` on fields is the equality that decides whether a schema has changed.
-/
namespace MockApi

/-- Named generator parameters, without repeated names at any level. -/
structure Params where
  members : Keyed Json
  tidy : Json.Tidy (.obj members)

namespace Params

def empty : Params := ⟨[], by simp [Json.Tidy, Json.TidyMembers, Keyed.Unique, Keyed.keys]⟩

theorem tidy_ofMembers (members : List (String × Json)) :
    Json.Tidy (.obj (Keyed.ofEntries (Json.tidiedMembers members))) := by
  have := Json.tidy_tidied (.obj members)
  rwa [Json.tidied] at this

/-- Of a repeated name the last value counts. -/
def ofMembers (members : List (String × Json)) : Params :=
  ⟨Keyed.ofEntries (Json.tidiedMembers members), tidy_ofMembers members⟩

theorem ofMembers_members (params : Params) : ofMembers params.members = params := by
  obtain ⟨members, h⟩ := params
  have := Json.tidied_eq_self (.obj members) h
  rw [Json.tidied] at this
  injection this with this
  simp [ofMembers, this]

theorem tidy_insert (params : Params) (name : String) (value : Json) :
    Json.Tidy (.obj (Keyed.insert name value.tidied params.members)) := by
  have h := params.tidy
  rw [Json.Tidy] at h ⊢
  exact ⟨Keyed.unique_insert h.1 _ _, h.2.insert _ (Json.tidy_tidied value)⟩

def insert (name : String) (value : Json) (params : Params) : Params :=
  ⟨Keyed.insert name value.tidied params.members, tidy_insert params name value⟩

def find? (name : String) (params : Params) : Option Json := Keyed.find? name params.members

def same (a b : Params) : Bool := (Json.obj a.members).same (.obj b.members)

end Params

structure Binding where
  generator : String
  params : Params

/-- How many items a list has. -/
inductive ItemCount where
  | fixed (n : Nat)
  | range (min max : Nat)
  deriving DecidableEq, Repr

namespace ItemCount

def standard : ItemCount := .range 1 3

end ItemCount

inductive Element where
  | leaf (binding : Binding)
  | nested (schema : String)

/-- What a field holds: a generated value, an object of another schema, or a list. -/
inductive Shape where
  | leaf (binding : Binding)
  | nested (schema : String)
  | list (element : Element) (count : ItemCount)

structure Field where
  name : String
  shape : Shape

def Field.reference? (field : Field) : Option String :=
  match field.shape with
  | .nested schema | .list (.nested schema) _ => some schema
  | _ => none

/-- The project of definitions and requests that name none. -/
def defaultProject : String := "default"

/-- An object shape: fields in order, with a version that grows when they change. -/
structure Schema where
  id : String
  project : String
  name : String
  version : UInt64
  fields : List Field

namespace Schema

def ofFields (id : String) (fields : List Field) : Schema := ⟨id, defaultProject, id, 0, fields⟩

def displayName (schema : Schema) : String := if schema.name = "" then schema.id else schema.name

end Schema

/-- A route of a project that answers with data of a schema. -/
structure Endpoint where
  id : String
  project : String
  method : Method
  path : String
  schema : String
  envelope : Option String
  status : Option Nat

/-- A JSON text with a placeholder for the payload. -/
structure Envelope where
  id : String
  project : String
  name : String
  template : String

structure Definitions where
  schemas : List Schema
  endpoints : List Endpoint
  envelopes : List Envelope

def Binding.same (a b : Binding) : Bool := a.generator == b.generator && a.params.same b.params

def Element.same : Element → Element → Bool
  | .leaf a, .leaf b => a.same b
  | .nested a, .nested b => a == b
  | _, _ => false

def Shape.same : Shape → Shape → Bool
  | .leaf a, .leaf b => a.same b
  | .nested a, .nested b => a == b
  | .list a m, .list b n => a.same b && m == n
  | _, _ => false

def Field.same (a b : Field) : Bool := a.name == b.name && a.shape.same b.shape

def sameFields : List Field → List Field → Bool
  | [], [] => true
  | a :: as, b :: bs => a.same b && sameFields as bs
  | _, _ => false

def Schema.same (a b : Schema) : Bool :=
  a.id == b.id && a.project == b.project && a.name == b.name && a.version == b.version &&
    sameFields a.fields b.fields

end MockApi
