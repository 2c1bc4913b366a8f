import MockApi.Proofs.Store.Change
import MockApi.Server.Dispatch

/-! Runs of a server: requests, changes of its definitions and of its cache, one after the other. -/
namespace MockApi

/-- What can be done to a server. -/
inductive Operation where
  | dispatch (request : MockRequest)
  | reload (definitions : Definitions)
  | upsert (schema : Schema)
  | remove (id : String)
  | invalidate (schema : String)
  | clear

namespace Operation

/-- The request that an operation answers. -/
def request? : Operation → Option MockRequest
  | dispatch request => some request
  | _ => none

/-- What an operation changes in the store. -/
def change? : Operation → Option Change
  | reload definitions => some (.replaceAll definitions)
  | upsert schema => some (.upsert schema)
  | remove id => some (.remove id)
  | _ => none

/-- A request of the operation carries a seed. -/
def Seeded (operation : Operation) : Prop :=
  ∀ request, operation.request? = some request → request.seed.isSome

end Operation

namespace Server

/-- A server that has done nothing yet. -/
def fresh (engine : EngineSettings) (definitions : Definitions) (limiter : Option RateLimiter) :
    Server :=
  { settings := engine
    store := Store.ofDefinitions definitions
    cache := Cache.empty engine.cacheEnabled
    metrics := Metrics.start
    limiter }

theorem start_eq (settings : Settings) : start settings =
    (limiterOf settings.rateLimit).map (fresh settings.engine settings.definitions) := by
  unfold start
  cases limiterOf settings.rateLimit <;> rfl

theorem eq_fresh_of_start {settings : Settings} {server : Server}
    (h : start settings = .ok server) :
    ∃ limiter, server = fresh settings.engine settings.definitions limiter := by
  rw [start_eq] at h
  cases hlimiter : limiterOf settings.rateLimit with
  | error fault => simp [hlimiter, Except.map] at h
  | ok limiter =>
    rw [hlimiter] at h
    exact ⟨limiter, (Except.ok.inj h).symm⟩

/-- Does one operation and gives the answer, if it is a request; `entropy` is what a request
without a seed would draw from. -/
def perform (entropy : Source) (operation : Operation) (server : Server) :
    Option Answer × Server :=
  match operation with
  | .dispatch request =>
      let (answer, server) := server.dispatch entropy request
      (some answer, server)
  | .reload definitions => (none, (server.reload definitions).getD server)
  | .upsert schema => (none, { server with store := (server.store.upsert schema).2 })
  | .remove id => (none, { server with store := (server.store.remove id).2 })
  | .invalidate schema => (none, { server with cache := server.cache.invalidate schema })
  | .clear => (none, { server with cache := server.cache.clear })

/-- The answers of a run, one place for each operation. -/
def answers (entropy : Nat → Source) : List Operation → Server → List (Option Answer)
  | [], _ => []
  | operation :: rest, server =>
      let (answer, server) := server.perform (entropy 0) operation
      answer :: answers (fun n => entropy (n + 1)) rest server

variable {server : Server} {entropy : Source} {operation : Operation}

/-! ## What a request does -/

theorem dispatch_of_no_endpoint {request : MockRequest}
    (h : server.store.endpoint? request.project request.method request.path = none) :
    server.dispatch entropy request =
      (.error (.fault ⟨.received,
        .endpointNotFound request.project request.method request.path⟩), server) := by
  simp only [dispatch, h]

theorem dispatch_of_error {request : MockRequest} {endpoint : Endpoint} {failure : Failure}
    {cache : Cache}
    (h : server.store.endpoint? request.project request.method request.path = some endpoint)
    (hlookup : server.cache.lookup server.backing endpoint.schema = (.error failure, cache)) :
    server.dispatch entropy request =
      (.error (.fault ⟨.resolving, failure⟩), { server with cache }) := by
  simp only [dispatch, h, lookup, hlookup]

theorem dispatch_of_ok {request : MockRequest} {endpoint : Endpoint} {tree : Tree}
    {outcome : Outcome} {cache : Cache}
    (h : server.store.endpoint? request.project request.method request.path = some endpoint)
    (hlookup : server.cache.lookup server.backing endpoint.schema = (.ok (tree, outcome), cache)) :
    server.dispatch entropy request =
      (server.replyFrom endpoint tree (sourceOf entropy request),
        { server with cache, metrics := server.metrics.recordLookup outcome }) := by
  simp only [dispatch, h, lookup, hlookup]
  rfl

/-- A request has no endpoint, or its schema is looked up and is found or not. -/
theorem dispatch_cases (entropy : Source) (request : MockRequest) (server : Server) :
    (server.store.endpoint? request.project request.method request.path = none ∧
      server.dispatch entropy request = (.error (.fault ⟨.received,
        .endpointNotFound request.project request.method request.path⟩), server)) ∨
    ∃ endpoint cache,
      server.store.endpoint? request.project request.method request.path = some endpoint ∧
      ((∃ failure, server.cache.lookup server.backing endpoint.schema = (.error failure, cache) ∧
        server.dispatch entropy request =
          (.error (.fault ⟨.resolving, failure⟩), { server with cache })) ∨
      ∃ tree outcome,
        server.cache.lookup server.backing endpoint.schema = (.ok (tree, outcome), cache) ∧
        server.dispatch entropy request =
          (server.replyFrom endpoint tree (sourceOf entropy request),
            { server with cache, metrics := server.metrics.recordLookup outcome })) := by
  cases hendpoint : server.store.endpoint? request.project request.method request.path with
  | none => exact .inl ⟨rfl, dispatch_of_no_endpoint hendpoint⟩
  | some endpoint =>
    cases hlookup : server.cache.lookup server.backing endpoint.schema with
    | mk result cache =>
      refine .inr ⟨endpoint, cache, rfl, ?_⟩
      cases result with
      | error failure => exact .inl ⟨failure, hlookup, dispatch_of_error hendpoint hlookup⟩
      | ok found => exact .inr ⟨found.1, found.2, hlookup, dispatch_of_ok hendpoint hlookup⟩

/-- A request leaves everything but the cache and the counts as it is, and the cache as it is or as
a lookup leaves it. -/
theorem dispatch_frame (entropy : Source) (request : MockRequest) (server : Server) :
    ∃ cache metrics, (server.dispatch entropy request).2 = { server with cache, metrics } ∧
      (cache = server.cache ∨
        ∃ schema, cache = (server.cache.lookup server.backing schema).2) := by
  rcases dispatch_cases entropy request server with
    ⟨-, heq⟩ | ⟨endpoint, cache, -, ⟨failure, hlookup, heq⟩ | ⟨tree, outcome, hlookup, heq⟩⟩ <;>
    rw [heq]
  · exact ⟨server.cache, server.metrics, rfl, .inl rfl⟩
  · exact ⟨cache, server.metrics, rfl, .inr ⟨endpoint.schema, (congrArg Prod.snd hlookup).symm⟩⟩
  · exact ⟨cache, _, rfl, .inr ⟨endpoint.schema, (congrArg Prod.snd hlookup).symm⟩⟩

theorem store_dispatch (entropy : Source) (request : MockRequest) (server : Server) :
    (server.dispatch entropy request).2.store = server.store := by
  obtain ⟨cache, metrics, h, -⟩ := dispatch_frame entropy request server
  rw [h]

theorem settings_dispatch (entropy : Source) (request : MockRequest) (server : Server) :
    (server.dispatch entropy request).2.settings = server.settings := by
  obtain ⟨cache, metrics, h, -⟩ := dispatch_frame entropy request server
  rw [h]

/-- From a tree comes a breakdown, a crash if its payload crashes, or a reply of the endpoint. -/
theorem replyFrom_cases (server : Server) (endpoint : Endpoint) (tree : Tree) (source : Source) :
    (∃ breakdown, server.replyFrom endpoint tree source = .error (.fault breakdown)) ∨
    (server.replyFrom endpoint tree source = .error .crash ∧
      (tree.root.synthesizeFrom source).1 = .error .crash) ∨
    ∃ body, server.replyFrom endpoint tree source =
      .ok ⟨endpoint.replyStatus, endpoint.id, body⟩ := by
  unfold replyFrom
  cases envelopeOf server.store endpoint with
  | error failure => exact .inl ⟨_, rfl⟩
  | ok envelope =>
    cases (tree.root.synthesizeFrom source).1 with
    | error abort =>
      cases abort with
      | fault failure => exact .inl ⟨_, rfl⟩
      | crash => exact .inr (.inl ⟨rfl, rfl⟩)
    | ok payload =>
      let composed (result : Except Failure Json) : Answer :=
        Stage.composing.within result >>= fun body =>
          pure ⟨endpoint.replyStatus, endpoint.id, body⟩
      cases hbody : Envelope.wrap server.settings.placeholder payload envelope with
      | error failure => exact .inl ⟨⟨.composing, failure⟩, congrArg composed hbody⟩
      | ok body => exact .inr (.inr ⟨body, congrArg composed hbody⟩)

/-! ## What new definitions do -/

theorem reload_eq_some_iff {definitions : Definitions} {next : Server} :
    server.reload definitions = some next ↔
      ∃ store, server.store.replaceAll definitions = some store ∧
        next = { server with store, cache := server.cache.clear } := by
  simp only [reload, Option.bind_eq_bind, Option.bind_eq_some_iff, Option.pure_def,
    Option.some_inj, eq_comm (a := next)]

/-- New definitions leave everything but the store and the cache as it is, and the whole server if
they cannot be taken over. -/
theorem reload_cases (definitions : Definitions) (server : Server) :
    (server.store.replaceAll definitions = none ∧
      (server.reload definitions).getD server = server) ∨
    ∃ store, server.store.replaceAll definitions = some store ∧
      (server.reload definitions).getD server =
        { server with store, cache := server.cache.clear } := by
  rw [reload]
  cases server.store.replaceAll definitions with
  | none => exact .inl ⟨rfl, rfl⟩
  | some store => exact .inr ⟨store, rfl, rfl⟩

theorem store_reload (definitions : Definitions) (server : Server) :
    ((server.reload definitions).getD server).store =
      server.store.apply (.replaceAll definitions) := by
  rcases reload_cases definitions server with ⟨hstore, heq⟩ | ⟨store, hstore, heq⟩
  · rw [heq, Store.apply, hstore, Option.getD_none]
  · rw [heq, Store.apply_replaceAll hstore]

theorem settings_reload (definitions : Definitions) (server : Server) :
    ((server.reload definitions).getD server).settings = server.settings := by
  rcases reload_cases definitions server with ⟨-, heq⟩ | ⟨store, -, heq⟩ <;> rw [heq]

/-! ## What any operation does -/

theorem store_perform (entropy : Source) (operation : Operation) (server : Server) :
    (server.perform entropy operation).2.store = server.store.after operation.change?.toList := by
  cases operation with
  | dispatch request => exact store_dispatch entropy request server
  | reload definitions => exact store_reload definitions server
  | _ => rfl

theorem settings_perform (entropy : Source) (operation : Operation) (server : Server) :
    (server.perform entropy operation).2.settings = server.settings := by
  cases operation with
  | dispatch request => exact settings_dispatch entropy request server
  | reload definitions => exact settings_reload definitions server
  | _ => rfl

end Server
end MockApi
