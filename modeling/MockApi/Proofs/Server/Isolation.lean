import MockApi.Proofs.Server.Arrivals
import MockApi.Proofs.Server.Buckets

/-! Projects do not feel the rate limits of each other. What is refused of a project, and what else
is answered to it, depends on its own requests and their times alone, whatever other requests come
between them; and the project that is charged for a request is the one that it is answered for. -/
namespace MockApi.Server

/-- To one project the servers look the same: they may differ in what is cached and counted, and in
the rate limits of other projects. -/
structure AlikeFor (project : String) (one two : Server) : Prop where
  coherent : one.Coherent
  coherent' : two.Coherent
  settings : one.settings = two.settings
  store : one.store = two.store
  limiter : one.limiter.map (RateLimiter.only project) = two.limiter.map (RateLimiter.only project)

variable {server one two : Server} {project : String} {arrival other : Arrival}

namespace AlikeFor

theorem refl (h : server.Coherent) : server.AlikeFor project server := ⟨h, h, rfl, rfl, rfl⟩

/-- The bucket of the project decides whether a check of it passes, and notes the check. -/
theorem check_eq (h : one.AlikeFor project two) (now : Nat) :
    (one.limiter.all fun limiter => (limiter.check now project).1) =
        (two.limiter.all fun limiter => (limiter.check now project).1) ∧
      (one.limiter.map fun limiter => (limiter.check now project).2).map
          (RateLimiter.only project) =
        (two.limiter.map fun limiter => (limiter.check now project).2).map
          (RateLimiter.only project) := by
  have hcheck (limiter : Option RateLimiter) :
      (limiter.map (RateLimiter.only project)).map (fun limiter => limiter.check now project) =
        limiter.map fun limiter =>
          ((limiter.check now project).1, (limiter.check now project).2.only project) := by
    cases limiter with
    | none => rfl
    | some limiter => simp [RateLimiter.check_only]
  have hsame := (hcheck one.limiter).symm.trans ((congrArg _ h.limiter).trans (hcheck two.limiter))
  have hallowed := congrArg (Option.all Prod.fst) hsame
  have hafter := congrArg (Option.map Prod.snd) hsame
  simp only [Option.all_map, Option.map_map, Function.comp_def] at hallowed hafter ⊢
  exact ⟨hallowed, hafter⟩

theorem payer_eq (h : one.AlikeFor project two) (hrequest : other.request = arrival.request)
    (hmine : arrival.isFor one.settings.defaultProject project = true) :
    one.payer arrival = project ∧ two.payer other = project := by
  have hproject := Arrival.project_of_isFor hmine
  unfold payer
  rw [hrequest, ← h.settings]
  exact ⟨hproject, hproject⟩

theorem limiterAfter_eq (h : one.AlikeFor project two) (hnow : other.now = arrival.now)
    (hrequest : other.request = arrival.request)
    (hmine : arrival.isFor one.settings.defaultProject project = true) :
    (one.limiterAfter arrival).map (RateLimiter.only project) =
      (two.limiterAfter other).map (RateLimiter.only project) := by
  obtain ⟨hpayer, hpayer'⟩ := h.payer_eq hrequest hmine
  unfold limiterAfter Arrival.isCharged
  rw [hpayer, hpayer', hnow, hrequest]
  split
  · exact (h.check_eq arrival.now).2
  · exact h.limiter

/-- Both servers meet with the same request of the project; what it draws does not matter. -/
theorem advance_request (h : one.AlikeFor project two) (hnow : other.now = arrival.now)
    (hrequest : other.request = arrival.request)
    (hmine : arrival.isFor one.settings.defaultProject project = true) :
    (one.advance (.request arrival)).AlikeFor project (two.advance (.request other)) := by
  refine ⟨h.coherent.advance _, h.coherent'.advance _, ?_, ?_, ?_⟩
  · rw [settings_advance, settings_advance, h.settings]
  · rw [store_advance, store_advance, h.store]
  · rw [limiter_advance_request, limiter_advance_request, h.limiterAfter_eq hnow hrequest hmine]

end AlikeFor

end MockApi.Server
