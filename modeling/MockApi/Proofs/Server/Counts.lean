import MockApi.Proofs.Server.Transparency
import MockApi.Proofs.Synthesis.Crash
import MockApi.Server.Handler

/-! What a server counts, against what it was asked and what it answered. Every request that ends is
counted once, under the result that its answer shows, and every schema that was found for one is
counted under the way it was found; a request that crashes stays in flight. Counts rise no further
than doubles do. -/
namespace MockApi

/-- A request behind the mock route, with the source that it draws from if it has no seed. -/
structure Call where
  entropy : Source
  request : Http.Request
  rest : List Char

/-- What a server meets with. -/
inductive Traffic where
  | call (call : Call)
  | update (change : Change)
  | reload (definitions : Definitions)
  | invalidate (schema : String)
  | clear

def Traffic.call? : Traffic → Option Call
  | .call made => some made
  | _ => none

/-- An update changes one schema and does not run out of versions. -/
def Traffic.Fits (store : Store) : Traffic → Prop
  | .update change => change.Single ∧ store.ChangeFits change
  | _ => True

/-- A reply, or the status and the body of an error. -/
abbrev Verdict := Except (Nat × Json) MockReply

namespace Verdict

def response : Verdict → Http.Response
  | .ok reply => reply.response
  | .error (status, body) => .ofJson status body

/-- The kind that the body of an error shows. -/
def kindIn? (body : Json) : Option String :=
  ((body.field? "error").bind fun error => error.field? "kind").bind Json.asString?

/-- How a request ended: `ok` for a reply, and otherwise the kind in the body of the error. -/
def outcome? : Verdict → Option String
  | .ok _ => some "ok"
  | .error (_, body) => kindIn? body

def ofFault (fault : RequestFault) : Verdict :=
  .error (fault.status, errorBody RequestFault.kind fault.message)

def ofAnswer? : Answer → Option Verdict
  | .ok reply => some (.ok reply)
  | .error (.fault breakdown) =>
      some (.error (breakdown.failure.status, breakdown.failure.body))
  | .error .crash => none

theorem response_ofAnswer? : ∀ answer : Answer, (ofAnswer? answer).map response = answer.response?
  | .ok _ | .error (.fault _) | .error .crash => rfl

theorem outcome?_ofAnswer? : ∀ answer : Answer, (ofAnswer? answer).bind outcome? = answer.outcome?
  | .ok _ | .error (.fault _) | .error .crash => rfl

end Verdict

namespace Server

variable {server : Server} {call : Call}

/-! ## One request -/

def requestOf (server : Server) (call : Call) : Except RequestFault MockRequest :=
  MockRequest.ofHttp server.settings.defaultProject call.request call.rest

def answerTo (server : Server) (call : Call) : Option Http.Response × Server :=
  server.handle call.entropy call.request call.rest

/-- What is answered to a request, before it is written; none to one that crashes. -/
def verdict? (server : Server) (call : Call) : Option Verdict :=
  match server.requestOf call with
  | .ok request => Verdict.ofAnswer? (server.dispatch call.entropy request).1
  | .error fault => some (.ofFault fault)

/-- The result that the answer to a request shows. -/
def ended? (server : Server) (call : Call) : Option String :=
  (server.verdict? call).bind Verdict.outcome?

/-- The endpoint of a request that can be read. -/
def endpointOf? (server : Server) (call : Call) : Option Endpoint :=
  (server.requestOf call).toOption.bind fun request =>
    server.store.endpoint? request.project request.method request.path

/-- The way in which a schema is found; none if it is not resolved. -/
def outcomeOf? (server : Server) (schema : String) : Option Outcome :=
  (server.cache.lookup server.backing schema).1.toOption.map Prod.snd

/-- The way in which the schema of a request is found; none without an endpoint. -/
def found? (server : Server) (call : Call) : Option Outcome :=
  (server.endpointOf? call).bind fun endpoint => server.outcomeOf? endpoint.schema

/-- A request for the values of a tree with a leaf of doubles whose range is too wide to draw
from. -/
def DrawsOverwide (server : Server) (call : Call) : Prop :=
  ∃ endpoint tree outcome place binding, server.endpointOf? call = some endpoint ∧
    (server.cache.lookup server.backing endpoint.schema).1 = .ok (tree, outcome) ∧
    tree.root.LeafOn place binding ∧ binding.generator = "float" ∧
    Generator.Overwide binding.params

end Server

namespace Metrics

def recordFound (found : Option Outcome) (metrics : Metrics) : Metrics :=
  found.elim metrics metrics.recordLookup

/-- What one request adds: the way in which its schema was found, and its label if it ends. -/
def account (found : Option Outcome) (label? : Option RequestLabel) (metrics : Metrics) :
    Metrics :=
  let metrics := metrics.enter.recordFound found
  label?.elim metrics metrics.leave

/-- How many schemas were found so. -/
def lookups (metrics : Metrics) : Outcome → Nat
  | .hit => metrics.hits
  | .miss => metrics.misses
  | .bypass => metrics.bypasses

variable (metrics : Metrics) (found : Option Outcome) (label? : Option RequestLabel)

theorem lookups_account (outcome : Outcome) :
    (metrics.account found label?).lookups outcome =
      if found = some outcome then countUp (metrics.lookups outcome)
      else metrics.lookups outcome := by
  have hleave : (metrics.account found label?).lookups outcome =
      (metrics.recordFound found).lookups outcome := by
    cases label? <;> cases found with
    | none => cases outcome <;> rfl
    | some other => cases other <;> cases outcome <;> rfl
  rw [hleave]
  cases found with
  | none => rfl
  | some other => cases other <;> cases outcome <;> rfl

theorem requests_account :
    (metrics.account found label?).requests =
      label?.elim metrics.requests metrics.requests.add := by
  cases label? <;> cases found with
  | none => rfl
  | some other => cases other <;> rfl

/-- A request that ends goes out as it came in, except at the limit of what is counted. -/
theorem inFlight_account :
    (metrics.account found label?).inFlight =
      label?.elim metrics.enter.inFlight
        fun _ => max (metrics.enter.inFlight - 1) (-countLimit) := by
  cases label? <;> cases found with
  | none => rfl
  | some other => cases other <;> rfl

end Metrics

namespace Server

variable {server : Server} {call : Call}

/-- The answer is the same whatever was counted before, and the way in which the schema was found is
counted on top of that. -/
theorem dispatch_counted (server : Server) (metrics : Metrics) (entropy : Source)
    (request : MockRequest) :
    let counted : Server := { server with metrics }
    (counted.dispatch entropy request).1 = (server.dispatch entropy request).1 ∧
    (counted.dispatch entropy request).2.metrics =
      metrics.recordFound ((server.store.endpoint? request.project request.method
        request.path).bind fun endpoint => server.outcomeOf? endpoint.schema) := by
  intro counted
  cases hendpoint : server.store.endpoint? request.project request.method request.path with
  | none =>
    have hcounted : counted.store.endpoint? request.project request.method request.path = none :=
      hendpoint
    rw [dispatch_of_no_endpoint hendpoint, dispatch_of_no_endpoint hcounted]
    exact ⟨rfl, rfl⟩
  | some endpoint =>
    have hcounted : counted.store.endpoint? request.project request.method request.path =
        some endpoint := hendpoint
    cases hlookup : server.cache.lookup server.backing endpoint.schema with
    | mk result cache =>
      have hsame : counted.cache.lookup counted.backing endpoint.schema = (result, cache) := hlookup
      cases result with
      | error failure =>
        rw [dispatch_of_error hendpoint hlookup, dispatch_of_error hcounted hsame]
        simp [outcomeOf?, hlookup, Except.toOption, Metrics.recordFound, counted]
      | ok found =>
        rw [dispatch_of_ok hendpoint hlookup, dispatch_of_ok hcounted hsame]
        simp [outcomeOf?, hlookup, Except.toOption, Metrics.recordFound, counted, replyFrom]

theorem answerTo_of_fault {fault : RequestFault} (h : server.requestOf call = .error fault) :
    server.answerTo call = (some (Verdict.ofFault fault).response,
      { server with
        metrics := server.metrics.enter.leave (call.request.method, RequestFault.kind) }) := by
  rw [requestOf] at h
  simp only [answerTo, handle, h]
  rfl

theorem answerTo_of_request {request : MockRequest} (h : server.requestOf call = .ok request) :
    let entered : Server := { server with metrics := server.metrics.enter }
    let dispatched := entered.dispatch call.entropy request
    server.answerTo call = (dispatched.1.response?,
      dispatched.2.finish call.request.method dispatched.1.outcome?) := by
  rw [requestOf] at h
  simp only [answerTo, handle, h]

theorem finish_eq (method : String) (outcome? : Option String) (server : Server) :
    server.finish method outcome? = { server with
      metrics := (outcome?.map (method, ·)).elim server.metrics server.metrics.leave } := by
  cases outcome? <;> rfl

/-- The response to a request is its verdict as it is written. -/
theorem response_answerTo (server : Server) (call : Call) :
    (server.answerTo call).1 = (server.verdict? call).map Verdict.response := by
  cases hrequest : server.requestOf call with
  | error fault =>
    simp only [verdict?, hrequest, answerTo_of_fault hrequest, Option.map_some]
  | ok request =>
    obtain ⟨hanswer, -⟩ := dispatch_counted server server.metrics.enter call.entropy request
    simp only [verdict?, hrequest, answerTo_of_request hrequest, hanswer,
      Verdict.response_ofAnswer?]

/-- Every verdict shows how the request ended. -/
theorem isSome_ended? (server : Server) (call : Call) :
    (server.ended? call).isSome = (server.verdict? call).isSome := by
  rw [ended?, verdict?]
  cases server.requestOf call with
  | error fault => rfl
  | ok request =>
    simp only [Verdict.outcome?_ofAnswer?]
    generalize (server.dispatch call.entropy request).1 = answer
    match answer with
    | .ok _ | .error (.fault _) | .error .crash => rfl

/-- A request is counted once, under its method and the result that its answer shows; without an
answer it stays in flight. -/
theorem metrics_answerTo (server : Server) (call : Call) :
    (server.answerTo call).2.metrics = server.metrics.account (server.found? call)
      ((server.ended? call).map (call.request.method, ·)) := by
  cases hrequest : server.requestOf call with
  | error fault =>
    have hnone : server.found? call = none := by
      simp [found?, endpointOf?, hrequest, Except.toOption]
    have hended : server.ended? call = some RequestFault.kind := by
      rw [ended?, verdict?, hrequest]
      rfl
    rw [answerTo_of_fault hrequest, hnone, hended]
    rfl
  | ok request =>
    obtain ⟨hanswer, hmetrics⟩ := dispatch_counted server server.metrics.enter call.entropy request
    have hfound : server.found? call = (server.store.endpoint? request.project request.method
        request.path).bind fun endpoint => server.outcomeOf? endpoint.schema := by
      simp [found?, endpointOf?, hrequest, Except.toOption]
    have hended : server.ended? call =
        (server.dispatch call.entropy request).1.outcome? := by
      simp only [ended?, verdict?, hrequest, Verdict.outcome?_ofAnswer?]
    rw [answerTo_of_request hrequest, finish_eq, hfound, hended, hanswer]
    simp only [hmetrics]
    rfl

/-- A request without an answer has crashed at a leaf of the tree that was found for it. -/
theorem drawsOverwide_of_crash (h : server.verdict? call = none) : server.DrawsOverwide call := by
  cases hrequest : server.requestOf call with
  | error fault => simp [verdict?, hrequest] at h
  | ok request =>
    have hcrash : (server.dispatch call.entropy request).1 = .error .crash := by
      simp only [verdict?, hrequest] at h
      match hanswer : (server.dispatch call.entropy request).1 with
      | .ok reply | .error (.fault breakdown) => simp [hanswer, Verdict.ofAnswer?] at h
      | .error .crash => rfl
    rcases dispatch_cases call.entropy request server with ⟨-, heq⟩ |
        ⟨endpoint, cache, hendpoint, ⟨failure, -, heq⟩ | ⟨tree, outcome, hlookup, heq⟩⟩ <;>
      rw [heq] at hcrash
    · cases hcrash
    · cases hcrash
    · have hfound : server.endpointOf? call = some endpoint := by
        simp [endpointOf?, hrequest, Except.toOption, hendpoint]
      rcases server.replyFrom_cases endpoint tree (sourceOf call.entropy request) with
        ⟨breakdown, hreply⟩ | ⟨-, hpayload⟩ | ⟨body, hreply⟩
      · cases hreply.symm.trans hcrash
      · obtain ⟨place, binding, hleaf, hfloat, hoverwide⟩ := Node.overwide_of_crash hpayload
        exact ⟨endpoint, tree, outcome, place, binding, hfound, congrArg Prod.fst hlookup, hleaf,
          hfloat, hoverwide⟩
      · cases hreply.symm.trans hcrash

/-- A request leaves all else as it is, and the cache as it is or as a lookup leaves it. -/
theorem answerTo_frame (server : Server) (call : Call) :
    ∃ cache metrics, (server.answerTo call).2 = { server with cache, metrics } ∧
      (cache = server.cache ∨
        ∃ schema, cache = (server.cache.lookup server.backing schema).2) := by
  cases hrequest : server.requestOf call with
  | error fault => exact ⟨_, _, by rw [answerTo_of_fault hrequest], .inl rfl⟩
  | ok request =>
    let entered : Server := { server with metrics := server.metrics.enter }
    obtain ⟨cache, metrics, hframe, hcache⟩ := dispatch_frame call.entropy request entered
    exact ⟨cache, _, by rw [answerTo_of_request hrequest, hframe, finish_eq], hcache⟩

theorem store_answerTo (server : Server) (call : Call) :
    (server.answerTo call).2.store = server.store := by
  obtain ⟨cache, metrics, hframe, -⟩ := answerTo_frame server call
  rw [hframe]

/-! ## Runs -/

def meet (server : Server) : Traffic → Server
  | .call call => (server.answerTo call).2
  | .update change => { server with store := server.store.apply change }
  | .reload definitions => (server.reload definitions).getD server
  | .invalidate schema => { server with cache := server.cache.invalidate schema }
  | .clear => { server with cache := server.cache.clear }

def along (server : Server) (traffic : List Traffic) : Server := traffic.foldl meet server

theorem eq_call_of_call? {one : Traffic} {call : Call} (h : one.call? = some call) :
    one = .call call := by
  cases one with
  | call made => exact congrArg Traffic.call (Option.some.inj h)
  | _ => cases h

theorem metrics_meet_of_no_call (server : Server) {one : Traffic} (h : one.call? = none) :
    (server.meet one).metrics = server.metrics := by
  cases one with
  | call call => cases h
  | reload definitions =>
    rcases reload_cases definitions server with ⟨-, heq⟩ | ⟨store, -, heq⟩ <;> rw [meet, heq]
  | _ => rfl

/-- How many requests are such, each at the server that it comes to. -/
def countCalls (such : Server → Call → Bool) : List Traffic → Server → Nat
  | [], _ => 0
  | one :: rest, server =>
      (if one.call?.any (such server) then 1 else 0) + countCalls such rest (server.meet one)

/-- What goes up with each such request is the number of these requests in the end, up to the limit
of what is counted. -/
theorem amount_along (amount : Metrics → Nat) (such : Server → Call → Bool)
    (hcall : ∀ server call, amount (server.answerTo call).2.metrics =
      if such server call then countUp (amount server.metrics) else amount server.metrics)
    {traffic : List Traffic} {server : Server} (hlimit : amount server.metrics ≤ countLimit) :
    amount (server.along traffic).metrics =
      min (amount server.metrics + countCalls such traffic server) countLimit := by
  induction traffic generalizing server with
  | nil => exact (Nat.min_eq_left hlimit).symm
  | cons one rest ih =>
    have hmeet : amount (server.meet one).metrics =
        min (amount server.metrics + if one.call?.any (such server) then 1 else 0) countLimit := by
      cases hone : one.call? with
      | none => simp [metrics_meet_of_no_call server hone, hlimit]
      | some call =>
        obtain rfl : one = .call call := eq_call_of_call? hone
        rw [meet, hcall, Option.any_some]
        split
        · rfl
        · exact (Nat.min_eq_left hlimit).symm
    have hrest := ih (hmeet ▸ Nat.min_le_right ..)
    rw [countCalls]
    refine hrest.trans ?_
    rw [hmeet]
    omega

/-- Conditions that agree wherever a request comes are met equally often. -/
theorem countCalls_congr (holds : List Traffic → Server → Prop) {such same : Server → Call → Bool}
    (hnext : ∀ one rest server, holds (one :: rest) server → holds rest (server.meet one))
    (hsame : ∀ call rest server, holds (.call call :: rest) server →
      such server call = same server call)
    {traffic : List Traffic} {server : Server} (h : holds traffic server) :
    countCalls such traffic server = countCalls same traffic server := by
  induction traffic generalizing server with
  | nil => rfl
  | cons one rest ih =>
    rw [countCalls, countCalls, ih (hnext one rest server h)]
    cases one with
    | call call => rw [Traffic.call?, Option.any_some, Option.any_some, hsame call rest server h]
    | _ => rfl

theorem countCalls_never (traffic : List Traffic) (server : Server) :
    countCalls (fun _ _ => false) traffic server = 0 := by
  induction traffic generalizing server with
  | nil => rfl
  | cons one rest ih => simp [countCalls, ih]

/-! ## How schemas are found -/

/-- Between two steps the cache is settled, and it is switched on or off as it was. -/
theorem settled_meet {enabled : Bool} {one : Traffic}
    (h : server.cache.Settled ∧ server.cache.enabled = enabled) :
    (server.meet one).cache.Settled ∧ (server.meet one).cache.enabled = enabled := by
  obtain ⟨hsettled, henabled⟩ := h
  cases one with
  | call call =>
    obtain ⟨cache, metrics, hframe, hcache⟩ := answerTo_frame server call
    rw [meet, hframe]
    obtain hsame | ⟨schema, hlookup⟩ := hcache
    · rw [hsame]
      exact ⟨hsettled, henabled⟩
    · obtain ⟨hafter, hkept, -⟩ := hsettled.lookup server.backing schema
      rw [hlookup]
      exact ⟨hafter, hkept.trans henabled⟩
  | update change => exact ⟨hsettled, henabled⟩
  | reload definitions =>
    rcases reload_cases definitions server with ⟨-, heq⟩ | ⟨store, -, heq⟩ <;> rw [meet, heq]
    · exact ⟨hsettled, henabled⟩
    · exact ⟨Cache.settled_of_no_slots rfl, henabled⟩
  | invalidate schema => exact ⟨hsettled.invalidate schema, henabled⟩
  | clear => exact ⟨Cache.settled_of_no_slots rfl, henabled⟩

/-- A schema is found past the cache exactly where the cache is switched off. -/
theorem bypass_iff_of_found? (h : server.cache.Settled) {outcome : Outcome}
    (hfound : server.found? call = some outcome) :
    outcome = .bypass ↔ server.cache.enabled = false := by
  obtain ⟨endpoint, -, hlookup⟩ := Option.bind_eq_some_iff.mp hfound
  obtain ⟨found, hsome, houtcome⟩ := Option.map_eq_some_iff.mp hlookup
  rw [← houtcome]
  refine (h.lookup server.backing endpoint.schema).2.2 found ?_
  cases hresult : (server.cache.lookup server.backing endpoint.schema).1 with
  | error failure => simp [hresult, Except.toOption] at hsome
  | ok value => simpa [hresult, Except.toOption] using hsome

/-- Every update fits where it is made. -/
def Steady : List Traffic → Server → Prop
  | [], _ => True
  | one :: rest, server => one.Fits server.store ∧ Steady rest (server.meet one)

theorem Coherent.meet {one : Traffic} (h : server.Coherent) (hfits : one.Fits server.store) :
    (server.meet one).Coherent := by
  cases one with
  | call call =>
    obtain ⟨cache, metrics, hframe, hcache⟩ := answerTo_frame server call
    rw [Server.meet, hframe]
    obtain hsame | ⟨schema, hlookup⟩ := hcache
    · rw [hsame]
      exact ⟨h.tidy, h.settled, h.faithful⟩
    · rw [hlookup]
      exact (h.lookup schema).2 metrics
  | update change =>
    obtain ⟨hsingle, hchange⟩ := hfits
    exact ⟨h.tidy.apply change, h.settled, fun key tree htree =>
      (h.faithful key tree htree).passage (Store.passage_single hsingle hchange)⟩
  | reload definitions => exact h.reload definitions
  | invalidate schema => exact h.invalidate schema
  | clear => exact coherent_of_no_slots h.tidy rfl

/-- A request has an endpoint, and its schema is resolved by the definitions as they are. -/
def resolved (server : Server) (call : Call) : Bool :=
  (server.endpointOf? call).any fun endpoint =>
    (resolve server.settings.limits server.store.schema? endpoint.schema).isOk

theorem Coherent.isSome_found? (h : server.Coherent) (call : Call) :
    (server.found? call).isSome = server.resolved call := by
  rw [found?, resolved]
  cases server.endpointOf? call with
  | none => rfl
  | some endpoint =>
    obtain ⟨hresult, -⟩ := h.lookup endpoint.schema
    rw [Option.any_some, Option.bind_some, ← hresult, outcomeOf?]
    cases (server.cache.lookup server.backing endpoint.schema).1 <;> rfl

/-! ## Whole runs -/

/-- A request that crashes. -/
def crashes (server : Server) (call : Call) : Bool := (server.verdict? call).isNone

/-- In flight are the requests that have crashed, as far as they are counted. -/
structure Stranded (crashed : Nat) (server : Server) : Prop where
  low : (min crashed (countLimit - 1) : Nat) ≤ server.metrics.inFlight
  high : server.metrics.inFlight ≤ (min crashed countLimit : Nat)

/-- At the limit a request that comes in is not counted, and still counted when it goes out. -/
theorem Stranded.answerTo {crashed : Nat} (h : server.Stranded crashed) (call : Call) :
    (server.answerTo call).2.Stranded (crashed + if server.crashes call then 1 else 0) := by
  obtain ⟨hlow, hhigh⟩ := h
  have hflight := server.metrics.inFlight_account (server.found? call)
    ((server.ended? call).map (call.request.method, ·))
  rw [← metrics_answerTo] at hflight
  have hended := isSome_ended? server call
  cases hverdict : server.verdict? call with
  | none =>
    rw [hverdict, Option.isSome_none, Option.isSome_eq_false_iff, Option.isNone_iff_eq_none]
      at hended
    rw [hended] at hflight
    simp only [crashes, hverdict, Option.isNone_none, if_true]
    change _ = min _ _ at hflight
    constructor <;> rw [hflight] <;> unfold countLimit at * <;> omega
  | some verdict =>
    rw [hverdict, Option.isSome_some, Option.isSome_iff_exists] at hended
    obtain ⟨outcome, houtcome⟩ := hended
    rw [houtcome] at hflight
    simp only [crashes, hverdict, Option.isNone_some, Bool.false_eq_true, if_false]
    change _ = max (min _ _ - 1) _ at hflight
    constructor <;> rw [hflight] <;> unfold countLimit at * <;> omega

theorem Stranded.along {crashed : Nat} (h : server.Stranded crashed) (traffic : List Traffic) :
    (server.along traffic).Stranded (crashed + countCalls crashes traffic server) := by
  induction traffic generalizing server crashed with
  | nil => exact h
  | cons one rest ih =>
    rw [countCalls, ← Nat.add_assoc]
    refine ih ?_
    cases hone : one.call? with
    | none =>
      have hmetrics := metrics_meet_of_no_call server hone
      exact ⟨hmetrics ▸ h.low, hmetrics ▸ h.high⟩
    | some call =>
      obtain rfl : one = .call call := eq_call_of_call? hone
      exact h.answerTo call

theorem Stranded.inFlight_eq {crashed : Nat} (h : server.Stranded crashed)
    (hcrashed : crashed < countLimit) : server.metrics.inFlight = crashed := by
  obtain ⟨hlow, hhigh⟩ := h
  unfold countLimit at *
  omega

theorem Stranded.inFlight_at_limit {crashed : Nat} (h : server.Stranded crashed)
    (hcrashed : countLimit ≤ crashed) :
    server.metrics.inFlight = countLimit - 1 ∨ server.metrics.inFlight = countLimit := by
  obtain ⟨hlow, hhigh⟩ := h
  unfold countLimit at *
  omega

theorem count_along (method outcome : String) (traffic : List Traffic) {server : Server}
    (hlimit : server.metrics.requests.count (method, outcome) ≤ countLimit) :
    (server.along traffic).metrics.requests.count (method, outcome) =
      min (server.metrics.requests.count (method, outcome) +
        countCalls (fun server call => call.request.method = method ∧
          server.ended? call = some outcome) traffic server) countLimit := by
  refine amount_along (fun metrics => metrics.requests.count (method, outcome)) _ ?_ hlimit
  intro server call
  rw [metrics_answerTo, Metrics.requests_account]
  cases server.ended? call with
  | none => simp
  | some ended => simp [Tally.count_add]

theorem lookups_along (outcome : Outcome) (traffic : List Traffic) {server : Server}
    (hlimit : server.metrics.lookups outcome ≤ countLimit) :
    (server.along traffic).metrics.lookups outcome = min (server.metrics.lookups outcome +
      countCalls (fun server call => server.found? call = some outcome) traffic server)
        countLimit := by
  refine amount_along (fun metrics => metrics.lookups outcome) _ ?_ hlimit
  intro server call
  simp only [metrics_answerTo, Metrics.lookups_account, decide_eq_true_eq]

/-- A schema that is found is found in one way. -/
theorem countCalls_isSome_found? (traffic : List Traffic) (server : Server) :
    countCalls (fun server call => (server.found? call).isSome) traffic server =
      countCalls (fun server call => server.found? call = some .hit) traffic server +
      countCalls (fun server call => server.found? call = some .miss) traffic server +
      countCalls (fun server call => server.found? call = some .bypass) traffic server := by
  induction traffic generalizing server with
  | nil => rfl
  | cons one rest ih =>
    simp only [countCalls, ih (server.meet one)]
    cases one.call? with
    | none => simp
    | some call =>
      have hways : ∀ found : Option Outcome, (if found.isSome then 1 else 0) =
          (if found = some .hit then 1 else 0) + (if found = some .miss then 1 else 0) +
            (if found = some .bypass then 1 else 0) := by
        rintro (_ | _ | _ | _) <;> rfl
      simp only [Option.any_some, decide_eq_true_eq, hways]
      omega

/-- Where no schema can be found in some way, none is. -/
theorem countCalls_found?_eq_zero {enabled : Bool} {server : Server}
    (hsettled : server.cache.Settled) (henabled : server.cache.enabled = enabled)
    {outcome : Outcome} (hnever : ¬ (outcome = .bypass ↔ enabled = false))
    (traffic : List Traffic) :
    countCalls (fun server call => server.found? call = some outcome) traffic server = 0 := by
  refine (countCalls_congr
    (fun _ server => server.cache.Settled ∧ server.cache.enabled = enabled)
    (fun _ _ _ h => settled_meet h) ?_ ⟨hsettled, henabled⟩).trans (countCalls_never traffic server)
  intro call rest server h
  exact decide_eq_false fun hfound => hnever (h.2 ▸ bypass_iff_of_found? h.1 hfound)

theorem countCalls_found_eq (hcoherent : server.Coherent) {traffic : List Traffic}
    (hsteady : Steady traffic server) :
    countCalls (fun server call => (server.found? call).isSome) traffic server =
      countCalls resolved traffic server := by
  refine countCalls_congr (fun traffic server => server.Coherent ∧ Steady traffic server) ?_ ?_
    ⟨hcoherent, hsteady⟩
  · intro one rest server h
    exact ⟨h.1.meet h.2.1, h.2.2⟩
  · intro call rest server h
    exact h.1.isSome_found? call

theorem started_of_start {settings : Settings} (h : start settings = .ok server) :
    server.metrics = Metrics.start ∧ server.cache.slots = [] ∧
      server.cache.enabled = settings.engine.cacheEnabled ∧ server.store.Tidy := by
  obtain ⟨limiter, rfl⟩ := eq_fresh_of_start h
  exact ⟨rfl, rfl, rfl, Store.tidy_ofDefinitions settings.definitions⟩

/-- Whatever a server that has just started meets with: in the end exactly those requests are in
flight that have crashed, and each of these asked for values of a leaf of doubles whose range is too
wide to draw from. All others are counted once, under their method and `ok` or the kind that the
body of the answer shows; and the ways in which schemas were found are as many as the requests with
an endpoint whose schema was found. None of them passes by a cache that is switched on, and all of
them do where it is switched off. Where no version is used up, a schema is found exactly where the
definitions as they are resolve it. Every number is right up to the limit of what is counted. -/
theorem metrics_account_for_requests {settings : Settings} {server : Server}
    (hstart : start settings = .ok server) (traffic : List Traffic) :
    let metrics := (server.along traffic).metrics
    let crashed := countCalls crashes traffic server
    let found := countCalls (fun server call => (server.found? call).isSome) traffic server
    (∀ (server : Server) (call : Call),
      (server.answerTo call).1 = (server.verdict? call).map Verdict.response ∧
        (server.ended? call).isSome = (server.verdict? call).isSome ∧
        (server.crashes call → server.DrawsOverwide call)) ∧
    (crashed < countLimit → metrics.inFlight = crashed) ∧
    (countLimit ≤ crashed → metrics.inFlight = countLimit - 1 ∨ metrics.inFlight = countLimit) ∧
    (∀ method outcome, metrics.requests.count (method, outcome) =
      min (countCalls (fun server call => call.request.method = method ∧
        server.ended? call = some outcome) traffic server) countLimit) ∧
    (∀ outcome, metrics.lookups outcome = min (countCalls (fun server call =>
      server.found? call = some outcome) traffic server) countLimit) ∧
    (found ≤ countLimit → metrics.hits + metrics.misses + metrics.bypasses = found) ∧
    (settings.engine.cacheEnabled = true → metrics.bypasses = 0) ∧
    (settings.engine.cacheEnabled = false → metrics.hits = 0 ∧ metrics.misses = 0) ∧
    (Steady traffic server → found = countCalls resolved traffic server) := by
  intro metrics crashed found
  obtain ⟨hmetrics, hslots, henabled, htidy⟩ := started_of_start hstart
  have hsettled : server.cache.Settled := Cache.settled_of_no_slots hslots
  have hstranded : server.Stranded 0 := by
    constructor <;> rw [hmetrics] <;> decide
  have hflight := hstranded.along traffic
  rw [Nat.zero_add] at hflight
  have hlookups (outcome : Outcome) : metrics.lookups outcome = min (countCalls
      (fun server call => server.found? call = some outcome) traffic server) countLimit := by
    have hzero : server.metrics.lookups outcome = 0 := by
      rw [hmetrics]
      cases outcome <;> rfl
    have h := lookups_along outcome traffic (hzero ▸ Nat.zero_le _)
    rwa [hzero, Nat.zero_add] at h
  have hnever (outcome : Outcome)
      (h : ¬(outcome = .bypass ↔ settings.engine.cacheEnabled = false)) :
      metrics.lookups outcome = 0 := by
    rw [hlookups, countCalls_found?_eq_zero hsettled henabled h, Nat.zero_min]
  have hcrash (server : Server) (call : Call) (h : server.crashes call) :
      server.DrawsOverwide call := drawsOverwide_of_crash (Option.isNone_iff_eq_none.mp h)
  refine ⟨fun server call =>
      ⟨response_answerTo server call, isSome_ended? server call, hcrash server call⟩,
    hflight.inFlight_eq, hflight.inFlight_at_limit, ?_, hlookups, ?_, ?_, ?_, ?_⟩
  · intro method outcome
    have hzero : server.metrics.requests.count (method, outcome) ≤ countLimit := by
      rw [hmetrics]
      exact Nat.zero_le _
    have hcount := count_along method outcome traffic hzero
    rw [hmetrics] at hcount
    exact hcount.trans (congrArg (min · countLimit) (Nat.zero_add _))
  · intro hfound
    have hways := countCalls_isSome_found? traffic server
    have hhits := hlookups .hit
    have hmisses := hlookups .miss
    have hbypasses := hlookups .bypass
    simp only [Metrics.lookups] at hhits hmisses hbypasses
    omega
  · intro hon
    exact hnever .bypass (by simp [hon])
  · intro hoff
    exact ⟨hnever .hit (by simp [hoff]), hnever .miss (by simp [hoff])⟩
  · exact countCalls_found_eq (coherent_of_no_slots htidy hslots)

/-- Requests that are answered from a new and from a kept tree, one with a seed that cannot be read,
one with a method that is not known, one without an endpoint, and one for a schema that is gone. -/
theorem counts_of_mixed_requests :
    let user := Schema.ofFields "user" []
    let endpoint : Endpoint := ⟨"users", "default", .get, "/users", "user", none, none⟩
    let settings : Settings := ⟨ServerSettings.standard, EngineSettings.standard, none,
      ⟨[user], [endpoint], []⟩⟩
    let send := fun method seed path => Traffic.call ⟨Source.ofSeed 7,
      ⟨method, ⟨"/api/mock/" ++ path, none⟩, [("x-mock-seed", seed)]⟩, path.toList⟩
    let get := send "GET" "7" "users"
    let traffic := [get, get, send "GET" "seven" "users", send "BREW" "7" "users",
      send "GET" "7" "nobody", .update (.remove "user"), get, .update (.upsert user), get,
      .reload ⟨[user], [endpoint], []⟩, get]
    ∃ server, start settings = .ok server ∧ Steady traffic server ∧
      let metrics := (server.along traffic).metrics
      metrics.inFlight = 0 ∧ metrics.requests.count ("GET", "ok") = 4 ∧
        metrics.requests.count ("GET", "BadRequest") = 1 ∧
        metrics.requests.count ("BREW", "BadRequest") = 1 ∧
        metrics.requests.count ("GET", "EndpointNotFoundError") = 1 ∧
        metrics.requests.count ("GET", "DanglingReferenceError") = 1 ∧
        metrics.bypasses = 0 ∧ metrics.hits + metrics.misses + metrics.bypasses = 4 := by
  intro user endpoint settings send get traffic
  have hstart : start settings = .ok (fresh settings.engine settings.definitions none) := rfl
  let server := fresh settings.engine settings.definitions none
  have hsteady : Steady traffic server := by
    refine ⟨trivial, trivial, trivial, trivial, trivial, ⟨trivial, trivial⟩, trivial,
      ⟨trivial, ?_⟩, trivial, trivial, trivial, trivial⟩
    simp only [get, send, meet, store_answerTo]
    rfl
  obtain ⟨-, hflight, -, hcount, -, hfound, hon, -, hresolved⟩ :=
    metrics_account_for_requests hstart traffic
  have hcrashed : countCalls crashes traffic server = 0 := by decide +kernel
  have hfour : countCalls resolved traffic server = 4 := by decide +kernel
  refine ⟨server, hstart, hsteady, ?_, ?_, ?_, ?_, ?_, ?_, hon rfl, ?_⟩
  · exact (hflight (hcrashed ▸ by decide)).trans (congrArg Nat.cast hcrashed)
  · exact (hcount _ _).trans (by decide +kernel)
  · exact (hcount _ _).trans (by decide +kernel)
  · exact (hcount _ _).trans (by decide +kernel)
  · exact (hcount _ _).trans (by decide +kernel)
  · exact (hcount _ _).trans (by decide +kernel)
  · have hcounted := (hresolved hsteady).trans hfour
    exact (hfound (hcounted ▸ by decide)).trans hcounted

/-- Up to the largest double: the distance is finite and passes the check, and the draw crashes. The
request is not answered and not counted, and it stays in flight. -/
theorem crashed_request_stays_in_flight :
    let largest : Json := .float ⟨0x7FEFFFFFFFFFFFFF, by decide⟩
    let range := Params.ofMembers [("min", .int 0), ("max", largest)]
    let meter := Schema.ofFields "meter" [⟨"value", .leaf ⟨"float", range⟩⟩]
    let endpoint : Endpoint := ⟨"meters", "default", .get, "/meters", "meter", none, none⟩
    let settings : Settings := ⟨ServerSettings.standard, EngineSettings.standard, none,
      ⟨[meter], [endpoint], []⟩⟩
    let call : Call := ⟨Source.ofSeed 7, ⟨"GET", ⟨"/api/mock/meters", none⟩, []⟩, "meters".toList⟩
    ∃ server, start settings = .ok server ∧ (server.answerTo call).1.isNone ∧
      let metrics := (server.along [.call call]).metrics
      metrics.inFlight = 1 ∧ metrics.requests = [] ∧ metrics.misses = 1 := by
  intro largest range meter endpoint settings call
  let server := fresh settings.engine settings.definitions none
  refine ⟨server, rfl, ?_, ?_, ?_, ?_⟩ <;> decide +kernel

end Server
end MockApi
