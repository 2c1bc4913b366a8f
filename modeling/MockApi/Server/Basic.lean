import MockApi.Cache.Basic
import MockApi.Server.Metrics
import MockApi.Server.RateLimiter
import MockApi.Settings.Basic
import MockApi.Store

/-!
The state of a server: the definitions it serves, the trees resolved from them, what it counts, and
the rate limit where there is one.
-/
namespace MockApi

structure Server where
  settings : EngineSettings
  store : Store
  cache : Cache
  metrics : Metrics
  limiter : Option RateLimiter

namespace Server

def limiterOf : Option RateLimit → Except QuotaFault (Option RateLimiter)
  | some limit =>
      if limit.enabled then some <$> RateLimiter.ofRate limit.perSecond limit.burst else .ok none
  | none => .ok none

def start (settings : Settings) : Except QuotaFault Server := do
  let limiter ← limiterOf settings.rateLimit
  return { settings := settings.engine
           store := Store.ofDefinitions settings.definitions
           cache := Cache.empty settings.engine.cacheEnabled
           metrics := Metrics.start
           limiter }

/-- What lookups in the cache depend on: the definitions as they are now. -/
def backing (server : Server) : Backing :=
  ⟨server.store.version?, resolve server.settings.limits server.store.schema?⟩

def lookup (schema : String) (server : Server) : Lookup × Server :=
  let (result, cache) := server.cache.lookup server.backing schema
  (result, { server with cache })

/-- The server with new definitions in the place of all present ones, and without any tree; none if
the definitions cannot be taken over. -/
def reload (definitions : Definitions) (server : Server) : Option Server := do
  let store ← server.store.replaceAll definitions
  return { server with store, cache := server.cache.clear }

end Server
end MockApi
