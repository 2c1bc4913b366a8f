import MockApi.Proofs.Cache.Sequential
import MockApi.Proofs.Resolution.Locality
import MockApi.Proofs.Server.Runs
import MockApi.Proofs.Store.Versions

/-! The cache does not show in the answers. Of every schema that a cached tree was made from, the
store remembers which fields go with the version read; a tree that is judged current is therefore
the one that resolution gives now. -/
namespace MockApi

/-- A tree came out of an earlier state. Under the versions that it depends on, the store has the
schemas of that state or none. -/
def Tree.Faithful (limits : Limits) (store : Store) (key : String) (tree : Tree) : Prop :=
  ∃ origin, OwnIds origin ∧ resolve limits origin key = .ok tree ∧
    ∀ entry ∈ tree.dependencies, ∃ schema, origin entry.1 = some schema ∧
      store.Remembers entry.1 entry.2 (· = schema)

namespace Tree

variable {limits : Limits} {store after : Store} {key : String} {tree : Tree}

theorem faithful_of_resolve (htidy : store.Tidy)
    (h : resolve limits store.schema? key = .ok tree) : Faithful limits store key tree := by
  refine ⟨store.schema?, htidy.ownId, h, fun entry he => ?_⟩
  obtain ⟨schema, hs, hversion⟩ := dependencies_of_resolve htidy.ownId h entry he
  exact ⟨schema, hs, hversion ▸ Store.remembers_of_schema? hs rfl⟩

theorem Faithful.passage (h : Faithful limits store key tree)
    (hpassage : ∀ id, Store.Passage Eq store after id) : Faithful limits after key tree := by
  obtain ⟨origin, hown, hresolve, hremembers⟩ := h
  refine ⟨origin, hown, hresolve, fun entry he => ?_⟩
  obtain ⟨schema, hs, hold⟩ := hremembers entry he
  exact ⟨schema, hs, hold.passage (hpassage entry.1) fun _ _ heq hP => heq ▸ hP⟩

/-- A tree that is judged current is what resolution gives now. -/
theorem Faithful.resolve_eq (h : Faithful limits store key tree)
    (hcurrent : tree.current store.version? = true) :
    resolve limits store.schema? key = .ok tree := by
  obtain ⟨origin, hown, hresolve, hremembers⟩ := h
  refine resolve_of_alike hown hresolve fun entry he schema hs => ?_
  have hversion : store.version? entry.1 = some entry.2 := by
    simpa using List.all_eq_true.mp hcurrent entry he
  obtain ⟨now, hnow, hnowVersion⟩ := Option.map_eq_some_iff.mp hversion
  obtain ⟨read, hread, hstore⟩ := hremembers entry he
  have heq : now = schema := (hstore.holds now hnow hnowVersion).trans
    (Option.some.inj (hread.symm.trans hs))
  exact ⟨now, hnow, heq ▸ Schema.Alike.refl now⟩

end Tree

namespace Server

/-- Every tree in the cache is faithful to the definitions. -/
structure Coherent (server : Server) : Prop where
  tidy : server.store.Tidy
  settled : server.cache.Settled
  faithful : ∀ key tree, server.cache.tree? key = some tree →
    tree.Faithful server.settings.limits server.store key

/-- The answer to a request if its schema is resolved anew. -/
def directAnswer (source : Source) (request : MockRequest) (server : Server) : Answer :=
  match server.store.endpoint? request.project request.method request.path with
  | none =>
      .error (.fault ⟨.received, .endpointNotFound request.project request.method request.path⟩)
  | some endpoint => do
      let tree ← Stage.resolving.within
        (resolve server.settings.limits server.store.schema? endpoint.schema)
      server.replyFrom endpoint tree source

variable {server : Server} {entropy : Source}

theorem coherent_of_no_slots (htidy : server.store.Tidy) (h : server.cache.slots = []) :
    server.Coherent :=
  ⟨htidy, Cache.settled_of_no_slots h, fun key tree htree => by simp [Cache.tree?, h] at htree⟩

theorem coherent_fresh (engine : EngineSettings) (definitions : Definitions)
    (limiter : Option RateLimiter) : (fresh engine definitions limiter).Coherent :=
  coherent_of_no_slots (Store.tidy_ofDefinitions definitions) rfl

/-- What a lookup finds is what resolution gives, and what it leaves is faithful again. -/
theorem Coherent.lookup (h : server.Coherent) (schema : String) :
    (server.cache.lookup server.backing schema).1.map Prod.fst =
        resolve server.settings.limits server.store.schema? schema ∧
      ∀ metrics, Coherent { server with
        cache := (server.cache.lookup server.backing schema).2, metrics } := by
  cases henabled : server.cache.enabled with
  | false =>
    rw [Cache.lookup_of_not_enabled henabled]
    exact ⟨Cache.map_fst_map _ _, fun _ => ⟨h.tidy, h.settled, h.faithful⟩⟩
  | true =>
    by_cases hcurrent : ∃ tree, server.cache.tree? schema = some tree ∧
        tree.current server.store.version? = true
    · obtain ⟨tree, htree, hcurrent⟩ := hcurrent
      rw [Cache.lookup_of_current henabled htree hcurrent,
        (h.faithful schema tree htree).resolve_eq hcurrent]
      exact ⟨rfl, fun _ => ⟨h.tidy, h.settled, h.faithful⟩⟩
    · have hstale : ∀ tree, server.cache.tree? schema = some tree →
          tree.current server.backing.version? = false := fun tree htree =>
        Bool.eq_false_iff.mpr fun htrue => hcurrent ⟨tree, htree, htrue⟩
      obtain ⟨after, hlookup, -, hsettled, htrees⟩ :=
        Cache.lookup_of_not_current h.settled henabled hstale
      rw [hlookup]
      refine ⟨Cache.map_fst_map _ _, fun _ => ⟨h.tidy, hsettled, fun key tree htree => ?_⟩⟩
      rw [htrees] at htree
      split at htree
      · next heq =>
        subst heq
        cases hresolve : server.backing.resolve key with
        | error failure =>
          rw [hresolve] at htree
          cases htree
        | ok found =>
          rw [hresolve] at htree
          cases htree
          exact Tree.faithful_of_resolve h.tidy hresolve
      · exact h.faithful key tree htree

/-- Through the cache or past it, a request gets the answer of a direct resolution. -/
theorem Coherent.dispatch (h : server.Coherent) (entropy : Source) (request : MockRequest) :
    (server.dispatch entropy request).1 =
        server.directAnswer (sourceOf entropy request) request ∧
      (server.dispatch entropy request).2.Coherent := by
  rcases dispatch_cases entropy request server with ⟨hendpoint, heq⟩ |
      ⟨endpoint, cache, hendpoint, ⟨failure, hlookup, heq⟩ | ⟨tree, outcome, hlookup, heq⟩⟩ <;>
    simp only [heq, directAnswer, hendpoint]
  · exact ⟨trivial, h⟩
  · obtain ⟨hresult, hcoherent⟩ := h.lookup endpoint.schema
    rw [hlookup] at hresult hcoherent
    exact ⟨by rw [← hresult]; rfl, hcoherent server.metrics⟩
  · obtain ⟨hresult, hcoherent⟩ := h.lookup endpoint.schema
    rw [hlookup] at hresult hcoherent
    exact ⟨by rw [← hresult]; rfl, hcoherent _⟩

theorem Coherent.invalidate (h : server.Coherent) (schema : String) :
    Coherent { server with cache := server.cache.invalidate schema } := by
  refine ⟨h.tidy, h.settled.invalidate schema, fun key tree htree => ?_⟩
  have hold := (Cache.tree?_invalidate h.settled schema key).symm.trans htree
  exact h.faithful key tree (Option.eq_some_of_filter_eq_some hold)

/-- New definitions come with an empty cache. -/
theorem coherent_of_reload {definitions : Definitions} {next : Server}
    (h : server.reload definitions = some next) : next.Coherent := by
  obtain ⟨store, hstore, rfl⟩ := reload_eq_some_iff.mp h
  exact coherent_of_no_slots (Store.tidy_replaceAll hstore) rfl

theorem Coherent.reload (h : server.Coherent) (definitions : Definitions) :
    ((server.reload definitions).getD server).Coherent := by
  cases hnext : server.reload definitions with
  | none => exact h
  | some next => exact coherent_of_reload hnext

/-- As long as versions last, no operation makes a cached tree unfaithful. -/
theorem Coherent.perform (h : server.Coherent) (entropy : Source) {operation : Operation}
    (hfits : server.store.Fits operation.change?.toList) :
    (server.perform entropy operation).2.Coherent := by
  cases operation with
  | dispatch request => exact (h.dispatch entropy request).2
  | reload definitions => exact h.reload definitions
  | upsert schema =>
    exact ⟨h.tidy.upsert schema, h.settled, fun key tree htree =>
      (h.faithful key tree htree).passage (Store.passage_upsert hfits.1)⟩
  | remove id =>
    exact ⟨h.tidy.remove id, h.settled, fun key tree htree =>
      (h.faithful key tree htree).passage (Store.passage_remove server.store id)⟩
  | invalidate schema => exact h.invalidate schema
  | clear => exact coherent_of_no_slots h.tidy rfl

/-- Only requests are answered, and each as by a direct resolution. -/
theorem Coherent.answer_perform (h : server.Coherent) (entropy : Source) (operation : Operation) :
    (server.perform entropy operation).1 = operation.request?.map fun request =>
      server.directAnswer (sourceOf entropy request) request := by
  cases operation with
  | dispatch request => exact congrArg some (h.dispatch entropy request).1
  | _ => rfl

/-! ## Two servers -/

/-- What answers depend on is the same in two servers, whether or not they have a cache. -/
structure Alike (one two : Server) : Prop where
  store : one.store = two.store
  limits : one.settings.limits = two.settings.limits
  placeholder : one.settings.placeholder = two.settings.placeholder

variable {one two : Server}

theorem Alike.directAnswer (h : one.Alike two) (source : Source) (request : MockRequest) :
    one.directAnswer source request = two.directAnswer source request := by
  simp only [Server.directAnswer, replyFrom, h.store, h.limits, h.placeholder]

theorem Alike.perform (h : one.Alike two) (entropy entropy' : Source) (operation : Operation) :
    (one.perform entropy operation).2.Alike (two.perform entropy' operation).2 := by
  refine ⟨?_, ?_, ?_⟩
  · rw [store_perform, store_perform, h.store]
  · rw [settings_perform, settings_perform, h.limits]
  · rw [settings_perform, settings_perform, h.placeholder]

/-- A seed leaves nothing to the entropy. -/
theorem sourceOf_of_seeded {request : MockRequest} (h : request.seed.isSome)
    (entropy entropy' : Source) : sourceOf entropy request = sourceOf entropy' request := by
  obtain ⟨seed, hseed⟩ := Option.isSome_iff_exists.mp h
  simp only [sourceOf, hseed]

theorem Alike.answer_perform (h : one.Alike two) (hone : one.Coherent) (htwo : two.Coherent)
    {operation : Operation} (hseeded : operation.Seeded) (entropy entropy' : Source) :
    (one.perform entropy operation).1 = (two.perform entropy' operation).1 := by
  rw [hone.answer_perform, htwo.answer_perform]
  cases hrequest : operation.request? with
  | none => rfl
  | some request =>
    rw [Option.map_some, Option.map_some, h.directAnswer,
      sourceOf_of_seeded (hseeded request hrequest) entropy entropy']

theorem Alike.answers (operations : List Operation) (hseeded : ∀ op ∈ operations, op.Seeded)
    (h : one.Alike two) (hone : one.Coherent) (htwo : two.Coherent)
    (hfits : one.store.Fits (operations.filterMap Operation.change?))
    (entropy entropy' : Nat → Source) :
    one.answers entropy operations = two.answers entropy' operations := by
  induction operations generalizing one two entropy entropy' with
  | nil => rfl
  | cons operation rest ih =>
    have hchanges : (operation :: rest).filterMap Operation.change? =
        operation.change?.toList ++ rest.filterMap Operation.change? := by
      cases hchange : operation.change? <;> simp [hchange]
    rw [hchanges] at hfits
    obtain ⟨hfirst, hrest⟩ := hfits.append
    rw [← store_perform (entropy 0)] at hrest
    have hanswer := h.answer_perform hone htwo (hseeded operation List.mem_cons_self)
      (entropy 0) (entropy' 0)
    have hanswers := ih (fun op hop => hseeded op (List.mem_cons_of_mem _ hop))
      (h.perform (entropy 0) (entropy' 0) operation) (hone.perform (entropy 0) hfirst)
      (htwo.perform (entropy' 0) (h.store ▸ hfirst)) hrest
      (fun n => entropy (n + 1)) (fun n => entropy' (n + 1))
    simp only [Server.answers, hanswer, hanswers]

end Server

/-- The same settings with the cache switched on or off. -/
def Settings.withCache (enabled : Bool) (settings : Settings) : Settings :=
  { settings with engine := { settings.engine with cacheEnabled := enabled } }

namespace Server

/-- Whatever is done to a server in whatever order, its answers are the same with the cache and
without it, and so are the responses that are written from them. -/
theorem answers_independent_of_cache (settings : Settings) (operations : List Operation)
    (hseeded : ∀ operation ∈ operations, operation.Seeded)
    (hfits : (Store.ofDefinitions settings.definitions).Fits
      (operations.filterMap Operation.change?))
    (entropy entropy' : Nat → Source) :
    (start (settings.withCache true)).map (answers entropy operations) =
      (start (settings.withCache false)).map (answers entropy' operations) := by
  rw [start_eq, start_eq]
  change ((limiterOf settings.rateLimit).map _).map _ = ((limiterOf settings.rateLimit).map _).map _
  cases limiterOf settings.rateLimit with
  | error fault => rfl
  | ok limiter =>
    let cached := fresh (settings.withCache true).engine settings.definitions limiter
    let plain := fresh (settings.withCache false).engine settings.definitions limiter
    have halike : cached.Alike plain := ⟨rfl, rfl, rfl⟩
    have hanswers := halike.answers operations hseeded (coherent_fresh _ _ _)
      (coherent_fresh _ _ _) hfits entropy entropy'
    exact congrArg Except.ok hanswers

/-- A schema changes, goes and comes back between requests; all but one of them are answered. -/
theorem answers_while_schema_changes :
    let user := Schema.ofFields "user" []
    let endpoint : Endpoint := ⟨"users", "default", .get, "/users", "user", none, none⟩
    let settings : Settings := ⟨ServerSettings.standard, EngineSettings.standard, none,
      ⟨[user], [endpoint], []⟩⟩
    let get := Operation.dispatch ⟨"default", .get, "/users", some 7⟩
    let operations := [get, .upsert user, get, .remove "user", get, .upsert user, get,
      .invalidate "user", .reload ⟨[user], [endpoint], []⟩, get, .clear, get]
    let entropy := fun n => Source.ofSeed (UInt64.ofNat n)
    let answersWith := fun enabled => (start (settings.withCache enabled)).map
      (answers entropy operations)
    (∀ operation ∈ operations, operation.Seeded) ∧
      (Store.ofDefinitions settings.definitions).Fits (operations.filterMap Operation.change?) ∧
      answersWith true = answersWith false ∧
      ((answersWith true).map (·.map (·.bind Answer.outcome?))).toOption =
        some [some "ok", none, some "ok", none, some "DanglingReferenceError", none, some "ok",
          none, none, some "ok", none, some "ok"] := by
  intro user endpoint settings get operations entropy answersWith
  have hseeded : ∀ operation ∈ operations, operation.Seeded := by
    simp [operations, get, Operation.Seeded, Operation.request?]
  have hfits : (Store.ofDefinitions settings.definitions).Fits
      (operations.filterMap Operation.change?) := by
    exact ⟨rfl, trivial, rfl, rfl, trivial⟩
  have hoperations := answers_independent_of_cache settings operations hseeded hfits entropy entropy
  exact ⟨hseeded, hfits, hoperations, by decide +kernel⟩

end Server
end MockApi
