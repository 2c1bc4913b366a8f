import MockApi.Proofs.Definition.RoundTrip
import MockApi.Settings.Basic

/-! Decoding undoes encoding for settings with all that they hold. -/
namespace MockApi

open Json (record? required optional orElse listOf?)

/-- Ports have 16 bits. -/
def ServerSettings.Fits (server : ServerSettings) : Prop := server.port < 2 ^ 16

def EngineSettings.Fits (engine : EngineSettings) : Prop :=
  engine.limits.maxDepth < 2 ^ 64 ∧ engine.limits.maxItems < 2 ^ 64

/-- Rates have 32 bits. -/
def RateLimit.Fits (limit : RateLimit) : Prop := limit.perSecond < 2 ^ 32 ∧ limit.burst < 2 ^ 32

structure Settings.Fits (settings : Settings) : Prop where
  server : settings.server.Fits
  engine : settings.engine.Fits
  rateLimit : ∀ limit, settings.rateLimit = some limit → limit.Fits
  schemas : ∀ schema ∈ settings.definitions.schemas, schema.Fits
  endpoints : ∀ endpoint ∈ settings.definitions.endpoints, endpoint.Fits

/-! ## What was encoded is decoded -/

theorem ServerSettings.decode?_encode {server : ServerSettings} (h : server.Fits) :
    decode? server.encode = some server := by
  have hrecord : record? ["host", "port"] server.encode =
      some [some (.str server.host), some (.ofNat server.port)] :=
    Json.record?_present (by decide) rfl rfl
  have hport : decodePort? (.ofNat server.port) = some server.port := Json.asBelow?_ofNat h
  rw [decode?, hrecord, Option.bind_eq_bind, Option.bind_some]
  dsimp only
  rw [required, required, hport]
  rfl

theorem EngineSettings.decode?_encode {engine : EngineSettings} (h : engine.Fits) :
    decode? engine.encode = some engine := by
  have hrecord : record? ["max_depth", "max_items", "cache_enabled", "placeholder",
      "default_project"] engine.encode =
      some [some (.ofNat engine.limits.maxDepth), some (.ofNat engine.limits.maxItems),
        some (.bool engine.cacheEnabled), some (.str engine.placeholder),
        some (.str engine.defaultProject)] :=
    Json.record?_present (by decide) rfl rfl
  rw [decode?, hrecord, Option.bind_eq_bind, Option.bind_some]
  dsimp only
  rw [orElse, orElse, orElse, orElse, orElse, Json.asSize?_ofNat h.1, Json.asSize?_ofNat h.2]
  rfl

theorem RateLimit.decode?_encode {limit : RateLimit} (h : limit.Fits) :
    decode? limit.encode = some limit := by
  have hrecord : record? ["enabled", "requests_per_second", "burst_size"] limit.encode =
      some [some (.bool limit.enabled), some (.ofNat limit.perSecond),
        some (.ofNat limit.burst)] :=
    Json.record?_present (by decide) rfl rfl
  have hrate : decodeRate? (.ofNat limit.perSecond) = some limit.perSecond :=
    Json.asBelow?_ofNat h.1
  have hburst : decodeRate? (.ofNat limit.burst) = some limit.burst := Json.asBelow?_ofNat h.2
  rw [decode?, hrecord, Option.bind_eq_bind, Option.bind_some]
  dsimp only
  rw [required, required, required, hrate, hburst]
  rfl

theorem Settings.decode?_encode {settings : Settings} (h : settings.Fits) :
    decode? settings.encode = some settings := by
  obtain ⟨server, engine, rateLimit, schemas, endpoints, envelopes⟩ := settings
  have hrecord : record? ["server", "engine", "rate_limit", "schemas", "endpoints",
      "response_wrappers"] (encode ⟨server, engine, rateLimit, schemas, endpoints, envelopes⟩) =
      some [some server.encode, some engine.encode,
        some ((rateLimit.map RateLimit.encode).getD .null), some (.arr (schemas.map Schema.encode)),
        some (.arr (endpoints.map Endpoint.encode)),
        some (.arr (envelopes.map Envelope.encode))] :=
    Json.record?_present (by decide) rfl rfl
  have hrate : optional RateLimit.decode? (some ((rateLimit.map RateLimit.encode).getD .null)) =
      some rateLimit := by
    cases rateLimit with
    | none => rfl
    | some limit =>
      exact Json.optional_of_decode? nofun (RateLimit.decode?_encode (h.rateLimit limit rfl))
  have hschemas : listOf? Schema.decode? (.arr (schemas.map Schema.encode)) = some schemas :=
    Json.listOf?_map fun schema hmem => Schema.decode?_encode (h.schemas schema hmem)
  have hendpoints : listOf? Endpoint.decode? (.arr (endpoints.map Endpoint.encode)) =
      some endpoints :=
    Json.listOf?_map fun endpoint hmem => Endpoint.decode?_encode (h.endpoints endpoint hmem)
  have henvelopes : listOf? Envelope.decode? (.arr (envelopes.map Envelope.encode)) =
      some envelopes :=
    Json.listOf?_map fun envelope _ => envelope.decode?_encode
  rw [decode?, hrecord, Option.bind_eq_bind, Option.bind_some]
  dsimp only
  rw [required, orElse, orElse, orElse, orElse, ServerSettings.decode?_encode h.server,
    EngineSettings.decode?_encode h.engine, hrate, hschemas, hendpoints, henvelopes]
  rfl

/-! ## What is decoded fits -/

theorem ServerSettings.decode?_fits : Decodes Fits decode? := by
  intro json server h
  rw [decode?, Option.bind_eq_bind, Option.bind_eq_some_iff] at h
  obtain ⟨values, -, h⟩ := h
  split at h
  · simp only [Option.bind_eq_bind, Option.bind_eq_some_iff] at h
    obtain ⟨host, -, port, hport, heq⟩ := h
    cases heq
    exact Decodes.asBelow?.required hport
  · cases h

theorem EngineSettings.decode?_fits : Decodes Fits decode? := by
  intro json engine h
  rw [decode?, Option.bind_eq_bind, Option.bind_eq_some_iff] at h
  obtain ⟨values, -, h⟩ := h
  split at h
  · simp only [Option.bind_eq_bind, Option.bind_eq_some_iff] at h
    obtain ⟨depth, hdepth, items, hitems, _, -, _, -, _, -, heq⟩ := h
    cases heq
    exact ⟨Decodes.asBelow?.orElse (by decide) hdepth, Decodes.asBelow?.orElse (by decide) hitems⟩
  · cases h

theorem RateLimit.decode?_fits : Decodes Fits decode? := by
  intro json limit h
  rw [decode?, Option.bind_eq_bind, Option.bind_eq_some_iff] at h
  obtain ⟨values, -, h⟩ := h
  split at h
  · simp only [Option.bind_eq_bind, Option.bind_eq_some_iff] at h
    obtain ⟨enabled, -, rate, hrate, burst, hburst, heq⟩ := h
    cases heq
    exact ⟨Decodes.asBelow?.required hrate, Decodes.asBelow?.required hburst⟩
  · cases h

theorem Settings.decode?_fits : Decodes Fits decode? := by
  intro json settings h
  rw [decode?, Option.bind_eq_bind, Option.bind_eq_some_iff] at h
  obtain ⟨values, -, h⟩ := h
  split at h
  · simp only [Option.bind_eq_bind, Option.bind_eq_some_iff] at h
    obtain ⟨server, hserver, engine, hengine, rateLimit, hrateLimit, schemas, hschemas, endpoints,
      hendpoints, envelopes, -, heq⟩ := h
    cases heq
    have hstandard : EngineSettings.standard.Fits := ⟨by decide, by decide⟩
    exact ⟨ServerSettings.decode?_fits.required hserver,
      EngineSettings.decode?_fits.orElse hstandard hengine,
      RateLimit.decode?_fits.optional hrateLimit,
      Schema.decode?_fits.listOf?.orElse (List.forall_mem_nil _) hschemas,
      Endpoint.decode?_fits.listOf?.orElse (List.forall_mem_nil _) hendpoints⟩
  · cases h

/-- Definitions and settings survive being written and read again, and what is read from any JSON
value is written in a form that does not change any more. -/
theorem decoding_undoes_encoding :
    RoundTrips Schema.Fits Schema.encode Schema.decode? ∧
    RoundTrips Endpoint.Fits Endpoint.encode Endpoint.decode? ∧
    RoundTrips (fun _ => True) Envelope.encode Envelope.decode? ∧
    RoundTrips Settings.Fits Settings.encode Settings.decode? :=
  ⟨.of_decodes (fun _ h => Schema.decode?_encode h) Schema.decode?_fits,
    .of_decodes (fun _ h => Endpoint.decode?_encode h) Endpoint.decode?_fits,
    .of_decodes (fun envelope _ => envelope.decode?_encode) fun _ _ _ => trivial,
    .of_decodes (fun _ h => Settings.decode?_encode h) Settings.decode?_fits⟩

/-- A list of fields and a kind by its number are accepted, and written as members and a name. -/
example : (Schema.decode? (.arr [.str "user", .str "shop", .str "", .int 3,
      .arr [.obj [("kind", .int 1), ("object_type", .str "role"), ("name", .str "role")]]])).map
        Schema.encode =
    some (.obj [("id", .str "user"), ("project_id", .str "shop"), ("name", .str ""),
      ("version", .int 3), ("fields", .arr [.obj [("name", .str "role"), ("kind", .str "object"),
        ("object_type", .str "role")]])]) := rfl

end MockApi
