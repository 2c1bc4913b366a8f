import MockApi.Route

/-!
The definitions that a server holds. Every schema has a version that is never given to other fields
of the same id: the last version of a schema that is gone is remembered as retired.
-/
namespace MockApi

structure Store where
  schemas : Keyed Schema
  envelopes : Keyed Envelope
  routes : RouteTable
  endpointCount : Nat
  /-- The last versions of schemas that are no longer there. -/
  retired : Keyed UInt64

namespace Store

def empty : Store := ⟨[], [], [], 0, []⟩

def schema? (store : Store) (id : String) : Option Schema := Keyed.find? id store.schemas

def version? (store : Store) (id : String) : Option UInt64 := (store.schema? id).map (·.version)

def envelope? (store : Store) (id : String) : Option Envelope := Keyed.find? id store.envelopes

def endpoint? (store : Store) (project : String) (method : Method) (path : String) :
    Option Endpoint :=
  store.routes.find? ⟨project, method⟩ path

def schemaCount (store : Store) : Nat := store.schemas.length

def last? (store : Store) (id : String) : Option UInt64 :=
  (store.version? id) <|> Keyed.find? id store.retired

def HasNext (last offered : UInt64) : Prop := (max last offered).toNat + 1 < 2 ^ 64

instance (last offered : UInt64) : Decidable (HasNext last offered) :=
  inferInstanceAs (Decidable (_ < _))

/-- Above the version that was last in use, and above the one that is offered. The sum is checked:
behind the largest version comes none, and what is going on stops. -/
def nextVersion (last offered : UInt64) : Option UInt64 :=
  if HasNext last offered then some (max last offered + 1) else none

/-- The schemas and retired versions while a new set of definitions is taken over. -/
structure Intake where
  schemas : Keyed Schema
  retired : Keyed UInt64

/-- A schema with unchanged fields keeps its version, a changed or returning one gets a new one. -/
def intakeVersion (old? : Option Schema) (retired? : Option UInt64) (schema : Schema) :
    Option UInt64 :=
  match old?, retired? with
  | some old, _ =>
      if sameFields old.fields schema.fields then some old.version
      else nextVersion old.version schema.version
  | none, some last => nextVersion last schema.version
  | none, none => some schema.version

def Intake.take (previous : Store) (intake : Intake) (schema : Schema) : Option Intake := do
  let old? := previous.schema? schema.id
  let version ← intakeVersion old? (Keyed.find? schema.id intake.retired) schema
  return { schemas := Keyed.insert schema.id { schema with version } intake.schemas
           retired := if old?.isSome then intake.retired
             else Keyed.erase schema.id intake.retired }

def Intake.takeAll (previous : Store) (intake : Intake) (schemas : List Schema) : Option Intake :=
  schemas.foldlM (take previous) intake

def Intake.retireMissing (previous : Keyed Schema) (intake : Intake) : Intake :=
  previous.foldl (fun intake entry =>
    if Keyed.contains entry.1 intake.schemas then intake
    else { intake with retired := Keyed.insert entry.1 entry.2.version intake.retired }) intake

def ofIntake (intake : Intake) (definitions : Definitions) : Store :=
  { schemas := intake.schemas
    envelopes := Keyed.byId Envelope.id definitions.envelopes
    routes := definitions.endpoints.foldl RouteTable.declare []
    endpointCount := definitions.endpoints.length
    retired := intake.retired }

/-- A first state takes every schema under the version it comes with. -/
def ofDefinitions (definitions : Definitions) : Store :=
  ofIntake ⟨Keyed.byId Schema.id definitions.schemas, []⟩ definitions

/-- The state with new definitions in the place of all present ones; none if a schema gets no
version. -/
def replaceAll (store : Store) (definitions : Definitions) : Option Store := do
  let intake ← Intake.takeAll store ⟨[], store.retired⟩ definitions.schemas
  return ofIntake (intake.retireMissing store.schemas) definitions

/-- A known id always gets a new version, a new id keeps the offered one. -/
def upsertVersion (store : Store) (schema : Schema) : Option UInt64 :=
  match store.last? schema.id with
  | some last => nextVersion last schema.version
  | none => some schema.version

/-- Inserts or replaces one schema and gives the version that it gets. Without a version the schema
is not stored, but the retired version of its id has already been taken out. -/
def upsert (store : Store) (schema : Schema) : Option UInt64 × Store :=
  let retired := if (store.version? schema.id).isSome then store.retired
    else Keyed.erase schema.id store.retired
  match store.upsertVersion schema with
  | some version =>
      (some version, { store with
        schemas := Keyed.insert schema.id { schema with version } store.schemas
        retired })
  | none => (none, { store with retired })

/-- Removes a schema and retires its version; false for an id that is not there. -/
def remove (store : Store) (id : String) : Bool × Store :=
  match store.schema? id with
  | some schema =>
      (true, { store with
        schemas := Keyed.erase id store.schemas
        retired := Keyed.insert id schema.version store.retired })
  | none => (false, store)

/-! ## What a single change shows -/

@[simp] theorem upsert_fst (store : Store) (schema : Schema) :
    (store.upsert schema).1 = store.upsertVersion schema := by
  unfold upsert
  cases store.upsertVersion schema <;> rfl

/-- An upsert leaves all schemas as they are, or its schema has the version that it gives. -/
theorem schema?_upsert_self (store : Store) (schema : Schema) :
    (store.upsert schema).2.schema? schema.id =
      match store.upsertVersion schema with
      | some version => some { schema with version }
      | none => store.schema? schema.id := by
  unfold upsert
  cases store.upsertVersion schema with
  | some version => exact Keyed.find?_insert_self ..
  | none => rfl

theorem schema?_upsert_of_ne (store : Store) {schema : Schema} {id : String}
    (h : id ≠ schema.id) : (store.upsert schema).2.schema? id = store.schema? id := by
  unfold upsert
  cases store.upsertVersion schema with
  | some version => exact Keyed.find?_insert_of_ne h ..
  | none => rfl

theorem retired_upsert (store : Store) (schema : Schema) :
    (store.upsert schema).2.retired = if (store.version? schema.id).isSome then store.retired
      else Keyed.erase schema.id store.retired := by
  unfold upsert
  cases store.upsertVersion schema <;> rfl

@[simp] theorem schema?_remove_self (store : Store) (id : String) :
    (store.remove id).2.schema? id = none := by
  unfold remove
  cases h : store.schema? id with
  | none => simpa using h
  | some schema => exact Keyed.find?_erase_self id store.schemas

theorem schema?_remove_of_ne (store : Store) {id other : String} (h : other ≠ id) :
    (store.remove id).2.schema? other = store.schema? other := by
  unfold remove
  cases hs : store.schema? id with
  | none => rfl
  | some schema => exact Keyed.find?_erase_of_ne h store.schemas

end Store
end MockApi
