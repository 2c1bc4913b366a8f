import Mathlib.Data.List.Nodup
import MockApi.Settings.Validation

/-! What can be wrong with settings, condition by condition and place by place, apart from how it is
found; and the settings with which nothing is wrong. -/
namespace MockApi

variable {α κ : Type}

/-! ## Repetition in lists -/

/-- The entry at an index stands further in front already. -/
def RepeatedAt (entries : List κ) (index : Nat) : Prop :=
  index < entries.length ∧ ∃ earlier < index, entries[earlier]? = entries[index]?

/-- Of the earlier places of the entry at an index the nearest one. -/
structure NearestBefore (entries : List κ) (earlier index : Nat) : Prop where
  inside : index < entries.length
  lt : earlier < index
  same : entries[earlier]? = entries[index]?
  nearest : ∀ between, earlier < between → between < index → entries[between]? ≠ entries[index]?

theorem nodup_iff_not_repeatedAt {entries : List κ} :
    entries.Nodup ↔ ∀ index, ¬RepeatedAt entries index := by
  rw [List.nodup_iff_getElem?_ne_getElem?]
  constructor
  · rintro h index ⟨hinside, earlier, hlt, hsame⟩
    exact h earlier index hlt hinside hsame
  · intro h earlier index hlt hinside hsame
    exact h index ⟨hinside, earlier, hlt, hsame⟩

/-! ## Defects -/

/-- A condition that settings can violate, with the place where they do. -/
inductive Defect where
  | emptyHost
  | zeroPort
  | badDepth
  | badItems
  | emptyPlaceholder
  | emptyDefaultProject
  | zeroRate
  | zeroBurst
  | emptyId (kind : Definable) (index : Nat)
  | repeatedId (kind : Definable) (index : Nat)
  | emptyFieldName (schema field : Nat)
  | repeatedFieldName (schema field : Nat)
  | repeatedRoute (endpoint : Nat)
  | emptySchemaId (endpoint : Nat)
  | badStatus (endpoint : Nat)

namespace Settings

def ids (settings : Settings) : Definable → List String
  | .schema => settings.definitions.schemas.map Schema.id
  | .endpoint => settings.definitions.endpoints.map Endpoint.id
  | .envelope => settings.definitions.envelopes.map Envelope.id

def routes (settings : Settings) : List (RouteKey × String) :=
  settings.definitions.endpoints.map Validation.routeOf

end Settings

namespace Schema

def fieldNames (schema : Schema) : List String := schema.fields.map Field.name

end Schema

namespace Defect

/-- The condition is violated at the place. A name that is empty is not also a repeated one. -/
def Occurs (settings : Settings) : Defect → Prop
  | emptyHost => settings.server.host = ""
  | zeroPort => settings.server.port = 0
  | badDepth => ¬(1 ≤ settings.engine.limits.maxDepth ∧ settings.engine.limits.maxDepth ≤ 256)
  | badItems => ¬(1 ≤ settings.engine.limits.maxItems ∧ settings.engine.limits.maxItems ≤ 100000)
  | emptyPlaceholder => settings.engine.placeholder = ""
  | emptyDefaultProject => settings.engine.defaultProject = ""
  | zeroRate => ∃ limit, settings.rateLimit = some limit ∧ limit.enabled = true ∧ limit.perSecond = 0
  | zeroBurst => ∃ limit, settings.rateLimit = some limit ∧ limit.enabled = true ∧ limit.burst = 0
  | emptyId kind index => (settings.ids kind)[index]? = some ""
  | repeatedId kind index => RepeatedAt (settings.ids kind) index
  | emptyFieldName index field => ∃ schema, settings.definitions.schemas[index]? = some schema ∧
      schema.fieldNames[field]? = some ""
  | repeatedFieldName index field => ∃ schema,
      settings.definitions.schemas[index]? = some schema ∧
      schema.fieldNames[field]? ≠ some "" ∧ RepeatedAt schema.fieldNames field
  | repeatedRoute index => RepeatedAt settings.routes index
  | emptySchemaId index => ∃ endpoint, settings.definitions.endpoints[index]? = some endpoint ∧
      endpoint.schema = ""
  | badStatus index => ∃ endpoint status,
      settings.definitions.endpoints[index]? = some endpoint ∧ endpoint.status = some status ∧
      ¬(200 ≤ status ∧ status ≤ 299)

/-- The fault that reports a defect. What repeats is shown with the nearest earlier place, a field
name with the id of its schema. -/
inductive ReportedAs (settings : Settings) : Defect → SettingsFault → Prop
  | emptyHost : ReportedAs settings emptyHost .emptyHost
  | zeroPort : ReportedAs settings zeroPort .zeroPort
  | badDepth : ReportedAs settings badDepth .badDepth
  | badItems : ReportedAs settings badItems .badItems
  | emptyPlaceholder : ReportedAs settings emptyPlaceholder .emptyPlaceholder
  | emptyDefaultProject : ReportedAs settings emptyDefaultProject .emptyDefaultProject
  | zeroRate : ReportedAs settings zeroRate .zeroRate
  | zeroBurst : ReportedAs settings zeroBurst .zeroBurst
  | emptyId (kind : Definable) (index : Nat) :
      ReportedAs settings (emptyId kind index) (.emptyId kind index)
  | repeatedId {kind : Definable} {id : String} {earlier index : Nat}
      (hid : (settings.ids kind)[index]? = some id)
      (hnearest : NearestBefore (settings.ids kind) earlier index) :
      ReportedAs settings (repeatedId kind index) (.repeatedId kind id earlier index)
  | emptyFieldName (index field : Nat) :
      ReportedAs settings (emptyFieldName index field) (.emptyFieldName index field)
  | repeatedFieldName {schema : Schema} {name : String} {index field : Nat}
      (hschema : settings.definitions.schemas[index]? = some schema)
      (hname : schema.fieldNames[field]? = some name) :
      ReportedAs settings (repeatedFieldName index field) (.repeatedFieldName schema.id name)
  | repeatedRoute {endpoint : Endpoint} {earlier index : Nat}
      (hendpoint : settings.definitions.endpoints[index]? = some endpoint)
      (hnearest : NearestBefore settings.routes earlier index) :
      ReportedAs settings (repeatedRoute index)
        (.repeatedRoute endpoint.method endpoint.path endpoint.project earlier index)
  | emptySchemaId (index : Nat) :
      ReportedAs settings (emptySchemaId index) (.emptySchemaId index)
  | badStatus {endpoint : Endpoint} {index status : Nat}
      (hendpoint : settings.definitions.endpoints[index]? = some endpoint)
      (hstatus : endpoint.status = some status) :
      ReportedAs settings (badStatus index) (.badStatus index status)

/-- The entry of a list that a defect lies in. -/
def entry? : Defect → Option (Definable × Nat)
  | emptyId kind index | repeatedId kind index => some (kind, index)
  | emptyFieldName index _ | repeatedFieldName index _ => some (.schema, index)
  | repeatedRoute index | emptySchemaId index | badStatus index => some (.endpoint, index)
  | _ => none

end Defect

/-! ## Settings without defects -/

/-- What settings must satisfy to be accepted. -/
structure Settings.Valid (settings : Settings) : Prop where
  host : settings.server.host ≠ ""
  port : settings.server.port ≠ 0
  depth : 1 ≤ settings.engine.limits.maxDepth ∧ settings.engine.limits.maxDepth ≤ 256
  items : 1 ≤ settings.engine.limits.maxItems ∧ settings.engine.limits.maxItems ≤ 100000
  placeholder : settings.engine.placeholder ≠ ""
  defaultProject : settings.engine.defaultProject ≠ ""
  rates : ∀ limit, settings.rateLimit = some limit → limit.enabled = true →
    limit.perSecond ≠ 0 ∧ limit.burst ≠ 0
  named : ∀ kind, "" ∉ settings.ids kind
  distinct : ∀ kind, (settings.ids kind).Nodup
  fieldsNamed : ∀ schema ∈ settings.definitions.schemas, "" ∉ schema.fieldNames
  fieldsDistinct : ∀ schema ∈ settings.definitions.schemas, schema.fieldNames.Nodup
  routesDistinct : settings.routes.Nodup
  schemasNamed : ∀ endpoint ∈ settings.definitions.endpoints, endpoint.schema ≠ ""
  statuses : ∀ endpoint ∈ settings.definitions.endpoints, ∀ status, endpoint.status = some status →
    200 ≤ status ∧ status ≤ 299

theorem Settings.Valid.not_occurs {settings : Settings} (h : settings.Valid) :
    ∀ defect : Defect, ¬defect.Occurs settings
  | .emptyHost => h.host
  | .zeroPort => h.port
  | .badDepth => not_not_intro h.depth
  | .badItems => not_not_intro h.items
  | .emptyPlaceholder => h.placeholder
  | .emptyDefaultProject => h.defaultProject
  | .zeroRate => fun ⟨limit, hlimit, henabled, hzero⟩ => (h.rates limit hlimit henabled).1 hzero
  | .zeroBurst => fun ⟨limit, hlimit, henabled, hzero⟩ => (h.rates limit hlimit henabled).2 hzero
  | .emptyId kind _ => fun hempty => h.named kind (List.mem_of_getElem? hempty)
  | .repeatedId kind index => nodup_iff_not_repeatedAt.mp (h.distinct kind) index
  | .emptyFieldName _ _ => fun ⟨schema, hschema, hempty⟩ =>
      h.fieldsNamed schema (List.mem_of_getElem? hschema) (List.mem_of_getElem? hempty)
  | .repeatedFieldName _ field => fun ⟨schema, hschema, _, hrepeated⟩ =>
      nodup_iff_not_repeatedAt.mp (h.fieldsDistinct schema (List.mem_of_getElem? hschema)) field
        hrepeated
  | .repeatedRoute index => nodup_iff_not_repeatedAt.mp h.routesDistinct index
  | .emptySchemaId _ => fun ⟨endpoint, hendpoint, hempty⟩ =>
      h.schemasNamed endpoint (List.mem_of_getElem? hendpoint) hempty
  | .badStatus _ => fun ⟨endpoint, status, hendpoint, hstatus, hbad⟩ =>
      hbad (h.statuses endpoint (List.mem_of_getElem? hendpoint) status hstatus)

theorem Settings.valid_of_not_occurs {settings : Settings}
    (h : ∀ defect : Defect, ¬defect.Occurs settings) : settings.Valid where
  host := h .emptyHost
  port := h .zeroPort
  depth := not_not.mp (h .badDepth)
  items := not_not.mp (h .badItems)
  placeholder := h .emptyPlaceholder
  defaultProject := h .emptyDefaultProject
  rates limit hlimit henabled :=
    ⟨fun hzero => h .zeroRate ⟨limit, hlimit, henabled, hzero⟩,
      fun hzero => h .zeroBurst ⟨limit, hlimit, henabled, hzero⟩⟩
  named kind hmem := by
    obtain ⟨index, hempty⟩ := List.mem_iff_getElem?.mp hmem
    exact h (.emptyId kind index) hempty
  distinct kind := nodup_iff_not_repeatedAt.mpr fun index => h (.repeatedId kind index)
  fieldsNamed schema hmem hempty := by
    obtain ⟨index, hschema⟩ := List.mem_iff_getElem?.mp hmem
    obtain ⟨field, hfield⟩ := List.mem_iff_getElem?.mp hempty
    exact h (.emptyFieldName index field) ⟨schema, hschema, hfield⟩
  fieldsDistinct schema hmem := by
    obtain ⟨index, hschema⟩ := List.mem_iff_getElem?.mp hmem
    refine nodup_iff_not_repeatedAt.mpr fun field hrepeated => ?_
    by_cases hempty : schema.fieldNames[field]? = some ""
    · exact h (.emptyFieldName index field) ⟨schema, hschema, hempty⟩
    · exact h (.repeatedFieldName index field) ⟨schema, hschema, hempty, hrepeated⟩
  routesDistinct := nodup_iff_not_repeatedAt.mpr fun index => h (.repeatedRoute index)
  schemasNamed endpoint hmem hempty := by
    obtain ⟨index, hendpoint⟩ := List.mem_iff_getElem?.mp hmem
    exact h (.emptySchemaId index) ⟨endpoint, hendpoint, hempty⟩
  statuses endpoint hmem status hstatus := by
    obtain ⟨index, hendpoint⟩ := List.mem_iff_getElem?.mp hmem
    exact not_not.mp fun hbad => h (.badStatus index) ⟨endpoint, status, hendpoint, hstatus, hbad⟩

theorem Settings.valid_iff {settings : Settings} :
    settings.Valid ↔ ∀ defect : Defect, ¬defect.Occurs settings :=
  ⟨Valid.not_occurs, valid_of_not_occurs⟩

end MockApi
