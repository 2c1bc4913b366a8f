import MockApi.Proofs.Json.Record

/-! Decoding definitions undoes encoding them, and decoded definitions keep to the widths of their
numbers. -/
namespace MockApi

open Json (record? required optional orElse listOf?)

/-! ## Widths -/

/-- Sizes and versions have 64 bits. -/
def ItemCount.Fits : ItemCount → Prop
  | .fixed n => n < 2 ^ 64
  | .range min max => min < 2 ^ 64 ∧ max < 2 ^ 64

def Field.Fits (field : Field) : Prop :=
  ∀ element count, field.shape = .list element count → count.Fits

def Schema.Fits (schema : Schema) : Prop := ∀ field ∈ schema.fields, field.Fits

/-- Status codes have 16 bits. -/
def Endpoint.Fits (endpoint : Endpoint) : Prop :=
  ∀ status, endpoint.status = some status → status < 2 ^ 16

/-! ## What was encoded is decoded -/

theorem Method.decode?_encode (method : Method) : decode? method.encode = some method := by
  rw [encode, decode?]
  simp only [Json.asString?, Option.bind_eq_bind, Option.bind_some, parse_name]

theorem Params.decode?_encode (params : Params) : decode? params.encode = some params :=
  congrArg some params.ofMembers_members

theorem Binding.decode?_encode (binding : Binding) : decode? binding.encode = some binding := by
  obtain ⟨generator, params⟩ := binding
  cases hmembers : params.members with
  | nil =>
    have hempty : Params.empty = params := by
      obtain ⟨members, htidy⟩ := params
      subst hmembers
      rfl
    have hrecord : record? ["generator", "params"] (encode ⟨generator, params⟩) =
        some [some (.str generator), none] := by
      rw [encode, hmembers]
      exact Json.record?_present (by decide) rfl rfl
    rw [decode?, hrecord, ← hempty]
    rfl
  | cons member rest =>
    have hrecord : record? ["generator", "params"] (encode ⟨generator, params⟩) =
        some [some (.str generator), some params.encode] := by
      rw [encode, hmembers]
      exact Json.record?_present (by decide) rfl rfl
    rw [decode?, hrecord, Option.bind_eq_bind, Option.bind_some]
    dsimp only [orElse]
    rw [params.decode?_encode]
    rfl

namespace ItemCount

theorem decodeRange?_encode {min max : Nat} (hmin : min < 2 ^ 64) (hmax : max < 2 ^ 64) :
    decodeRange? (.obj [("min", .ofNat min), ("max", .ofNat max)]) = some (range min max) := by
  have hrecord : record? ["min", "max"] (.obj [("min", .ofNat min), ("max", .ofNat max)]) =
      some [some (.ofNat min), some (.ofNat max)] :=
    Json.record?_present (by decide) rfl rfl
  rw [decodeRange?, hrecord, Option.bind_eq_bind, Option.bind_some]
  dsimp only
  rw [required, required, Json.asSize?_ofNat hmin, Json.asSize?_ofNat hmax]
  rfl

theorem decode?_encode {origin : Origin} {count : ItemCount} (h : count.Fits) :
    decode? origin count.encode = some count := by
  cases count with
  | fixed n =>
    rw [encode, decode?, Json.asSize?_ofNat h]
    rfl
  | range min max =>
    rw [encode, decode?]
    · exact decodeRange?_encode h.1 h.2
    · exact nofun

end ItemCount

theorem Element.decode?_encode {origin : Origin} (element : Element) :
    decode? origin element.encode = some element := by
  cases element with
  | leaf binding =>
    change leaf <$> Binding.decode? binding.encode = _
    rw [binding.decode?_encode]
    rfl
  | nested schema => rfl

theorem Shape.decodeList?_encodeList {origin : Origin} {element : Element} {count : ItemCount}
    (h : count.Fits) : decodeList? origin (encodeList element count) = some (element, count) := by
  have hrecord : record? ["element", "count"] (encodeList element count) =
      some [some element.encode, some count.encode] :=
    Json.record?_present (by decide) rfl rfl
  rw [decodeList?, hrecord, Option.bind_eq_bind, Option.bind_some]
  dsimp only
  rw [required, orElse, element.decode?_encode, ItemCount.decode?_encode h]
  rfl

theorem Field.decode?_encode {field : Field} (h : field.Fits) :
    decode? field.encode = some field := by
  obtain ⟨name, binding | schema | ⟨element, count⟩⟩ := field
  · change (Binding.decode? binding.encode).bind (fun binding => some (Field.mk name (.leaf binding))) = _
    rw [binding.decode?_encode]
    rfl
  · rfl
  · change (Shape.decodeList? .collected (Shape.encodeList element count)).bind
      (fun list => some (Field.mk name (.list list.1 list.2))) = _
    rw [Shape.decodeList?_encodeList (h element count rfl)]
    rfl

theorem Schema.decodeVersion?_ofNat (version : UInt64) :
    decodeVersion? (.ofNat version.toNat) = some version := by
  rw [decodeVersion?, Json.asSize?_ofNat version.toNat_lt]
  exact congrArg some (UInt64.ofNat_toNat)

theorem Schema.decode?_encode {schema : Schema} (h : schema.Fits) :
    decode? schema.encode = some schema := by
  have hrecord : record? ["id", "project_id", "name", "version", "fields"] schema.encode =
      some [some (.str schema.id), some (.str schema.project), some (.str schema.name),
        some (.ofNat schema.version.toNat), some (.arr (schema.fields.map Field.encode))] :=
    Json.record?_present (by decide) rfl rfl
  have hfields : listOf? Field.decode? (.arr (schema.fields.map Field.encode)) =
      some schema.fields :=
    Json.listOf?_map fun field hfield => Field.decode?_encode (h field hfield)
  rw [decode?, hrecord, Option.bind_eq_bind, Option.bind_some]
  dsimp only
  rw [required, orElse, orElse, orElse, orElse, decodeVersion?_ofNat, hfields]
  rfl

theorem Endpoint.decode?_encode {endpoint : Endpoint} (h : endpoint.Fits) :
    decode? endpoint.encode = some endpoint := by
  obtain ⟨id, project, method, path, schema, envelope, status⟩ := endpoint
  have hrecord : record? ["id", "project_id", "method", "path", "schema_id", "wrapper_id", "status"]
      (encode ⟨id, project, method, path, schema, envelope, status⟩) =
      some [some (.str id), some (.str project), some method.encode, some (.str path),
        some (.str schema), envelope.map .str, status.map .ofNat] := by
    cases envelope <;> cases status <;> exact Json.record?_present (by decide) rfl rfl
  have henvelope : optional Json.asString? (envelope.map .str) = some envelope :=
    Json.optional_map fun id _ => ⟨nofun, rfl⟩
  have hstatus : optional decodeStatus? (status.map .ofNat) = some status :=
    Json.optional_map fun n hn => ⟨nofun, Json.asBelow?_ofNat (h n hn)⟩
  rw [decode?, hrecord, Option.bind_eq_bind, Option.bind_some]
  dsimp only
  rw [required, orElse, required, required, required, method.decode?_encode, henvelope, hstatus]
  rfl

theorem Envelope.decode?_encode (envelope : Envelope) :
    decode? envelope.encode = some envelope := by
  have hrecord : record? ["id", "project_id", "name", "json"] envelope.encode =
      some [some (.str envelope.id), some (.str envelope.project), some (.str envelope.name),
        some (.str envelope.template)] :=
    Json.record?_present (by decide) rfl rfl
  rw [decode?, hrecord]
  rfl

/-! ## What is decoded fits -/

namespace ItemCount

theorem decodeRange?_fits : Decodes Fits decodeRange? := by
  intro json count h
  rw [decodeRange?, Option.bind_eq_bind, Option.bind_eq_some_iff] at h
  obtain ⟨values, -, h⟩ := h
  split at h
  · simp only [Option.bind_eq_bind, Option.bind_eq_some_iff] at h
    obtain ⟨min, hmin, max, hmax, heq⟩ := h
    cases heq
    exact ⟨Decodes.asBelow?.required hmin, Decodes.asBelow?.required hmax⟩
  · cases h

theorem decode?_fits {origin : Origin} : Decodes Fits (decode? origin) := by
  intro json count h
  unfold decode? at h
  split at h
  · next n =>
    obtain ⟨n, hn, rfl⟩ := Option.map_eq_some_iff.mp h
    exact Decodes.asBelow? _ n hn
  · split at h
    · exact decodeRange?_fits _ count h
    · cases h
  · exact decodeRange?_fits _ count h
  · cases h

end ItemCount

theorem Shape.decodeList?_fits {origin : Origin} :
    Decodes (fun list => list.2.Fits) (decodeList? origin) := by
  intro json list h
  rw [decodeList?, Option.bind_eq_bind, Option.bind_eq_some_iff] at h
  obtain ⟨values, -, h⟩ := h
  split at h
  · simp only [Option.bind_eq_bind, Option.bind_eq_some_iff] at h
    obtain ⟨element, -, count, hcount, heq⟩ := h
    cases heq
    have hstandard : ItemCount.standard.Fits := ⟨by decide, by decide⟩
    exact ItemCount.decode?_fits.orElse hstandard hcount
  · cases h

theorem Field.decode?_fits : Decodes Fits decode? := by
  intro json field h
  unfold decode? at h
  split at h
  · simp only [Option.bind_eq_bind, Option.bind_eq_some_iff] at h
    obtain ⟨_, -, _, -, name, -, _, -, _, -, kind, -, h⟩ := h
    split at h
    · simp only [Option.bind_eq_some_iff] at h
      obtain ⟨_, -, _, -, binding, -, heq⟩ := h
      cases heq
      exact nofun
    · split at h
      · simp only [Option.bind_eq_some_iff] at h
        obtain ⟨_, -, _, -, schema, -, heq⟩ := h
        cases heq
        exact nofun
      · simp only [Option.bind_eq_some_iff] at h
        obtain ⟨_, -, _, -, list, hlist, heq⟩ := h
        cases heq
        rintro element count heq
        cases heq
        exact Shape.decodeList?_fits _ list hlist
  · cases h

theorem Schema.decode?_fits : Decodes Fits decode? := by
  intro json schema h
  rw [decode?, Option.bind_eq_bind, Option.bind_eq_some_iff] at h
  obtain ⟨values, -, h⟩ := h
  split at h
  · simp only [Option.bind_eq_bind, Option.bind_eq_some_iff] at h
    obtain ⟨id, -, project, -, name, -, version, -, fields, hfields, heq⟩ := h
    cases heq
    exact Field.decode?_fits.listOf?.orElse (List.forall_mem_nil _) hfields
  · cases h

theorem Endpoint.decode?_fits : Decodes Fits decode? := by
  intro json endpoint h
  rw [decode?, Option.bind_eq_bind, Option.bind_eq_some_iff] at h
  obtain ⟨values, -, h⟩ := h
  split at h
  · simp only [Option.bind_eq_bind, Option.bind_eq_some_iff] at h
    obtain ⟨_, -, _, -, _, -, _, -, _, -, _, -, status, hstatus, heq⟩ := h
    cases heq
    exact Decodes.asBelow?.optional hstatus
  · cases h

end MockApi
