import MockApi.Proofs.Route.Declared
import MockApi.Proofs.Server.Counts
import MockApi.Server.Router

/-! Requests as they arrive at a server, each at its time: what is answered to them, and what is
left of the rate limit after them. -/
namespace MockApi

/-- A request with its time, and with the source that it draws from if it has no seed. -/
structure Arrival where
  now : Nat
  entropy : Source
  request : Http.Request

/-- A request comes in, or the buckets that are full again are forgotten. -/
inductive Moment where
  | request (arrival : Arrival)
  | sweep (now : Nat)

def Server.Target.isMock : Server.Target → Bool
  | .mock _ => true
  | _ => false

namespace Arrival

/-- A request behind the mock route that belongs to a project. -/
def isFor (standard project : String) (arrival : Arrival) : Bool :=
  (Server.target arrival.request.uri.path).isMock && arrival.request.project standard == project

theorem project_of_isFor {standard project : String} {arrival : Arrival}
    (h : arrival.isFor standard project = true) : arrival.request.project standard = project := by
  unfold isFor at h
  rw [Bool.and_eq_true, beq_iff_eq] at h
  exact h.2

/-- Requests with the method OPTIONS are answered before the rate limit is asked. -/
def isCharged (arrival : Arrival) : Bool :=
  (Server.target arrival.request.uri.path).isMock && arrival.request.method != "OPTIONS"

end Arrival

namespace Moment

end Moment

namespace Server

def answer (server : Server) (arrival : Arrival) : Option Http.Response :=
  (server.serve arrival.entropy arrival.now arrival.request).1

/-- The project that a request is charged to. -/
def payer (server : Server) (arrival : Arrival) : String :=
  arrival.request.project server.settings.defaultProject

/-- The rate limit stops a request behind the mock route. -/
def refuses (server : Server) (arrival : Arrival) : Bool :=
  arrival.isCharged && !(server.charge arrival.now (server.payer arrival)).1

def advance (server : Server) : Moment → Server
  | .request arrival => (server.serve arrival.entropy arrival.now arrival.request).2
  | .sweep now => { server with limiter := server.limiter.map (RateLimiter.evict now) }

variable {server : Server} {arrival : Arrival} {rest : List Char}

/-! ## One request -/

theorem charge_eq (now : Nat) (project : String) (server : Server) : server.charge now project =
    (server.limiter.all fun limiter => (limiter.check now project).1,
      { server with
        limiter := server.limiter.map fun limiter => (limiter.check now project).2 }) := by
  obtain ⟨settings, store, cache, metrics, limiter⟩ := server
  cases limiter <;> rfl

/-- The rest of a path as text, unless it is none. -/
def decoded? (rest : List Char) : Option (List Char) :=
  Text.strictUtf8? (Text.percentBytes rest)

def unreadablePath : Http.Response :=
  .ofText 400 "text/plain; charset=utf-8" "Invalid URL: Invalid UTF-8 in `path`"

theorem mockRoute_eq (server : Server) (arrival : Arrival) (rest : List Char) :
    let charged := server.charge arrival.now (server.payer arrival)
    server.mockRoute arrival.entropy arrival.now arrival.request rest =
      if charged.1 then
        (decoded? rest).elim (some unreadablePath, charged.2) fun below =>
          charged.2.answerTo ⟨arrival.entropy, arrival.request, below⟩
      else (some (rateLimited (server.payer arrival)), charged.2) := by
  intro charged
  simp only [mockRoute, ← payer.eq_1, ← decoded?.eq_1]
  cases hcharge : server.charge arrival.now (server.payer arrival) with
  | mk allowed after =>
    rw [show charged = (allowed, after) from hcharge]
    cases allowed with
    | false => rfl
    | true => cases decoded? rest <;> rfl

/-- What is answered to a request, by the definitions alone. -/
def directVerdict? (server : Server) (call : Call) : Option Verdict :=
  match server.requestOf call with
  | .ok request => Verdict.ofAnswer? (server.directAnswer (sourceOf call.entropy request) request)
  | .error fault => some (.ofFault fault)

/-- The response to a request behind the mock route that the rate limit lets pass. -/
def passed (server : Server) (arrival : Arrival) (rest : List Char) : Option Http.Response :=
  (decoded? rest).elim (some unreadablePath) fun below =>
    (server.directVerdict? ⟨arrival.entropy, arrival.request, below⟩).map Verdict.response

/-- Only the limiter knows of a charge. -/
theorem Coherent.charge (h : server.Coherent) (now : Nat) (project : String) :
    (server.charge now project).2.Coherent := by
  rw [charge_eq]
  exact ⟨h.tidy, h.settled, h.faithful⟩

/-- Behind the mock route a request is charged to its project; apart from that it touches the cache
and the counts alone. -/
theorem mockRoute_frame (server : Server) (arrival : Arrival) (rest : List Char) :
    ∃ cache metrics, (server.mockRoute arrival.entropy arrival.now arrival.request rest).2 =
        { (server.charge arrival.now (server.payer arrival)).2 with cache, metrics } ∧
      (cache = server.cache ∨
        ∃ schema, cache = (server.cache.lookup server.backing schema).2) := by
  rw [mockRoute_eq, charge_eq]
  split
  · cases decoded? rest with
    | none => exact ⟨_, _, rfl, .inl rfl⟩
    | some below =>
      rw [Option.elim_some]
      obtain ⟨cache, metrics, hframe, hcache⟩ := answerTo_frame _ _
      exact ⟨cache, metrics, hframe, hcache⟩
  · exact ⟨_, _, rfl, .inl rfl⟩

/-- What a request leaves of the rate limit. -/
def limiterAfter (server : Server) (arrival : Arrival) : Option RateLimiter :=
  if arrival.isCharged then
    server.limiter.map fun limiter => (limiter.check arrival.now (server.payer arrival)).2
  else server.limiter

theorem serve_eq (server : Server) (entropy : Source) (now : Nat) (request : Http.Request) :
    server.serve entropy now request =
      if request.method = "OPTIONS" then (some (openToAll (preflight request.uri.path)), server)
      else (server.route entropy now request).map (Option.map openToAll) id := by
  by_cases hoptions : request.method = "OPTIONS"
  · simp only [serve, if_pos hoptions, Option.map_some]
  · simp only [serve, if_neg hoptions]
    rfl

theorem advance_request (server : Server) (arrival : Arrival) :
    ∃ cache metrics, server.advance (.request arrival) =
        { server with cache, metrics, limiter := server.limiterAfter arrival } ∧
      (cache = server.cache ∨
        ∃ schema, cache = (server.cache.lookup server.backing schema).2) := by
  rw [advance, serve_eq]
  unfold limiterAfter Arrival.isCharged
  by_cases hoptions : arrival.request.method = "OPTIONS"
  · refine ⟨server.cache, server.metrics, ?_, .inl rfl⟩
    simp [hoptions]
  · rw [if_neg hoptions, Prod.map_snd, id]
    unfold route
    cases htarget : target arrival.request.uri.path with
    | page page =>
      refine ⟨server.cache, server.metrics, ?_, .inl rfl⟩
      dsimp only [Target.isMock]
      split
      · rfl
      · split <;> rfl
    | mock rest =>
      obtain ⟨cache, metrics, hframe, hcache⟩ := mockRoute_frame server arrival rest
      refine ⟨cache, metrics, ?_, hcache⟩
      simp [hframe, charge_eq, Target.isMock, hoptions]
    | nowhere => exact ⟨server.cache, server.metrics, rfl, .inl rfl⟩

theorem Coherent.advance (h : server.Coherent) (moment : Moment) :
    (server.advance moment).Coherent := by
  cases moment with
  | sweep now => exact ⟨h.tidy, h.settled, h.faithful⟩
  | request arrival =>
    obtain ⟨cache, metrics, hframe, hcache⟩ := advance_request server arrival
    rw [hframe]
    rcases hcache with rfl | ⟨schema, rfl⟩
    · exact ⟨h.tidy, h.settled, h.faithful⟩
    · obtain ⟨htidy, hsettled, hfaithful⟩ := (h.lookup schema).2 metrics
      exact ⟨htidy, hsettled, hfaithful⟩

theorem settings_advance (server : Server) (moment : Moment) :
    (server.advance moment).settings = server.settings := by
  cases moment with
  | sweep now => rfl
  | request arrival =>
    obtain ⟨cache, metrics, hframe, -⟩ := advance_request server arrival
    rw [hframe]

theorem store_advance (server : Server) (moment : Moment) :
    (server.advance moment).store = server.store := by
  cases moment with
  | sweep now => rfl
  | request arrival =>
    obtain ⟨cache, metrics, hframe, -⟩ := advance_request server arrival
    rw [hframe]

theorem limiter_advance_request (server : Server) (arrival : Arrival) :
    (server.advance (.request arrival)).limiter = server.limiterAfter arrival := by
  obtain ⟨cache, metrics, hframe, -⟩ := advance_request server arrival
  rw [hframe]

/-! ## The status of an answer -/

end Server
end MockApi
