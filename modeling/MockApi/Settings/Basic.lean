import MockApi.Composition
import MockApi.Definition.Codec
import MockApi.Resolution.Resolve

/-!
The settings of a server: its address, the limits of the engine, the rate limit, and the
definitions, with their form as JSON.
-/
namespace MockApi

structure ServerSettings where
  host : String
  port : Nat
  deriving DecidableEq, Repr

structure EngineSettings where
  limits : Limits
  cacheEnabled : Bool
  placeholder : String
  defaultProject : String
  deriving DecidableEq, Repr

def EngineSettings.standard : EngineSettings :=
  ⟨Limits.standard, true, standardPlaceholder, MockApi.defaultProject⟩

/-- Requests per second and at once that each project may make. -/
structure RateLimit where
  enabled : Bool
  perSecond : Nat
  burst : Nat
  deriving DecidableEq, Repr

structure Settings where
  server : ServerSettings
  engine : EngineSettings
  rateLimit : Option RateLimit
  definitions : Definitions

open Json (record? required optional orElse listOf?)

namespace ServerSettings

def standard : ServerSettings := ⟨"127.0.0.1", 3000⟩

def decodePort? (json : Json) : Option Nat := json.asBelow? (2 ^ 16)

def encode (server : ServerSettings) : Json :=
  .obj [("host", .str server.host), ("port", .ofNat server.port)]

def decode? (json : Json) : Option ServerSettings := do
  match ← record? ["host", "port"] json with
  | [host, port] =>
      return { host := ← required Json.asString? host
               port := ← required decodePort? port }
  | _ => none

end ServerSettings

namespace EngineSettings

def encode (engine : EngineSettings) : Json :=
  .obj [("max_depth", .ofNat engine.limits.maxDepth), ("max_items", .ofNat engine.limits.maxItems),
    ("cache_enabled", .bool engine.cacheEnabled), ("placeholder", .str engine.placeholder),
    ("default_project", .str engine.defaultProject)]

def decode? (json : Json) : Option EngineSettings := do
  match ← record? ["max_depth", "max_items", "cache_enabled", "placeholder", "default_project"]
      json with
  | [maxDepth, maxItems, cacheEnabled, placeholder, project] =>
      return { limits := { maxDepth := ← orElse standard.limits.maxDepth Json.asSize? maxDepth
                           maxItems := ← orElse standard.limits.maxItems Json.asSize? maxItems }
               cacheEnabled := ← orElse standard.cacheEnabled Json.asBool? cacheEnabled
               placeholder := ← orElse standard.placeholder Json.asString? placeholder
               defaultProject := ← orElse standard.defaultProject Json.asString? project }
  | _ => none

end EngineSettings

namespace RateLimit

/-- Rates are kept in 32 bits. -/
def decodeRate? (json : Json) : Option Nat := json.asBelow? (2 ^ 32)

def encode (limit : RateLimit) : Json :=
  .obj [("enabled", .bool limit.enabled), ("requests_per_second", .ofNat limit.perSecond),
    ("burst_size", .ofNat limit.burst)]

def decode? (json : Json) : Option RateLimit := do
  match ← record? ["enabled", "requests_per_second", "burst_size"] json with
  | [enabled, perSecond, burst] =>
      return { enabled := ← required Json.asBool? enabled
               perSecond := ← required decodeRate? perSecond
               burst := ← required decodeRate? burst }
  | _ => none

end RateLimit

namespace Settings

def encode (settings : Settings) : Json :=
  .obj [("server", settings.server.encode), ("engine", settings.engine.encode),
    ("rate_limit", (settings.rateLimit.map RateLimit.encode).getD .null),
    ("schemas", .arr (settings.definitions.schemas.map Schema.encode)),
    ("endpoints", .arr (settings.definitions.endpoints.map Endpoint.encode)),
    ("response_wrappers", .arr (settings.definitions.envelopes.map Envelope.encode))]

def decode? (json : Json) : Option Settings := do
  match ← record? ["server", "engine", "rate_limit", "schemas", "endpoints", "response_wrappers"]
      json with
  | [server, engine, rateLimit, schemas, endpoints, envelopes] =>
      return { server := ← required ServerSettings.decode? server
               engine := ← orElse EngineSettings.standard EngineSettings.decode? engine
               rateLimit := ← optional RateLimit.decode? rateLimit
               definitions :=
                 { schemas := ← orElse [] (listOf? Schema.decode?) schemas
                   endpoints := ← orElse [] (listOf? Endpoint.decode?) endpoints
                   envelopes := ← orElse [] (listOf? Envelope.decode?) envelopes } }
  | _ => none

end Settings
end MockApi
