import MockApi.Cache.Flight

/-! What one step does to the callers of a flight, and why every caller comes to an end: somebody
can always move, each move brings its caller nearer to the end, and none of them waits for ever
under a schedule that leaves nobody out. -/
namespace MockApi

/-! ## Phases -/

/-- A bound on the steps that a caller still has before it. -/
def Phase.stepsLeft : Phase → Nat
  | .arriving => 4
  | .waiting _ => 3
  | .resolving _ => 2
  | .leaving _ _ => 1
  | .finished _ => 0

/-- How often a caller in this phase has resolved the schema. -/
def Phase.tries : Phase → Nat
  | .leaving _ _ => 1
  | .finished (.ok (_, .hit)) => 0
  | .finished _ => 1
  | _ => 0

/-- The slot that a caller in this phase holds. -/
def Phase.slot? : Phase → Option Nat
  | .waiting n => some n
  | .resolving n => some n
  | .leaving n _ => some n
  | _ => none

namespace Flight

variable {backing : Backing} {key : String} {flight next : Flight} {i j n : Nat} {phase : Phase}

@[simp] theorem tries_resolveAlone (backing : Backing) (key : String) :
    (Phase.finished (resolveAlone backing key)).tries = 1 := by
  rw [resolveAlone]
  cases backing.resolve key <;> rfl

theorem busy_iff : flight.busy n = true ↔ ∃ j : Nat, flight.callers[j]? = some (.resolving n) := by
  rw [busy, List.any_eq_true]
  constructor
  · intro h
    obtain ⟨phase, hmem, hresolves⟩ := h
    obtain ⟨j, hj⟩ := List.getElem?_of_mem hmem
    cases phase with
    | resolving slot =>
      have hslot : slot = n := by simpa [Phase.resolvesFor] using hresolves
      exact ⟨j, hslot ▸ hj⟩
    | _ => simp [Phase.resolvesFor] at hresolves
  · intro h
    obtain ⟨j, hj⟩ := h
    exact ⟨_, List.mem_of_getElem? hj, by simp [Phase.resolvesFor]⟩

/-! ## Where the callers stand after a step -/

@[simp] theorem cache_become (flight : Flight) (i : Nat) (phase : Phase) :
    (flight.become i phase).cache = flight.cache := rfl

@[simp] theorem callers_become (flight : Flight) (i : Nat) (phase : Phase) :
    (flight.become i phase).callers = flight.callers.set i phase := rfl

/-- Only the caller itself is in another phase, it is nearer to its end, and the resolutions have
become more by the ones it has made. -/
structure Advances (flight : Flight) (i : Nat) (next : Flight) (before after : Phase) : Prop where
  stood : flight.callers[i]? = some before
  callers : next.callers = flight.callers.set i after
  nearer : after.stepsLeft < before.stepsLeft
  tries_le : before.tries ≤ after.tries
  resolutions : next.resolutions = flight.resolutions + (after.tries - before.tries)

theorem Advances.of_become {before after : Phase} (stood : flight.callers[i]? = some before)
    (callers : next.callers = flight.callers) (nearer : after.stepsLeft < before.stepsLeft)
    (tries_le : before.tries ≤ after.tries)
    (resolutions : next.resolutions = flight.resolutions + (after.tries - before.tries)) :
    flight.Advances i (next.become i after) before after :=
  ⟨stood, by rw [callers_become, callers], nearer, tries_le, resolutions⟩

theorem step?_advances (h : flight.step? backing key i = some next) :
    ∃ before after, flight.Advances i next before after := by
  unfold step? at h
  obtain ⟨before, hbefore, hnext⟩ := Option.bind_eq_some_iff.mp h
  clear h
  refine ⟨before, ?_⟩
  have halone : (Phase.finished (resolveAlone backing key)).tries = 1 :=
    tries_resolveAlone backing key
  cases before with
  | arriving =>
    simp only at hnext
    split at hnext
    · cases hnext
      exact ⟨_, .of_become hbefore rfl (Nat.zero_lt_succ 3) (Nat.zero_le _) (by rw [halone]; rfl)⟩
    · split at hnext
      · cases hnext
        exact ⟨_, .of_become hbefore rfl (Nat.zero_lt_succ 3) (Nat.le_refl 0) rfl⟩
      · cases hnext
        exact ⟨_, .of_become hbefore rfl (Nat.lt_succ_self 3) (Nat.le_refl 0) rfl⟩
  | waiting n =>
    simp only at hnext
    split at hnext
    · split at hnext
      · cases hnext
        exact ⟨_, .of_become hbefore rfl (Nat.zero_lt_succ 2) (Nat.le_refl 0) rfl⟩
      · cases hnext
        exact ⟨_, .of_become hbefore rfl (Nat.zero_lt_succ 2) (Nat.zero_le _)
          (by rw [halone]; rfl)⟩
    · split at hnext
      · cases hnext
      · cases hnext
        exact ⟨_, .of_become hbefore rfl (Nat.lt_succ_self 2) (Nat.le_refl 0) rfl⟩
  | resolving n =>
    simp only at hnext
    split at hnext
    · cases hnext
      exact ⟨_, .of_become hbefore rfl (Nat.zero_lt_succ 1) (Nat.zero_le 1) rfl⟩
    · cases hnext
      exact ⟨_, .of_become hbefore rfl (Nat.lt_succ_self 1) (Nat.zero_le 1) rfl⟩
  | leaving n failure =>
    cases hnext
    exact ⟨_, .of_become hbefore rfl (Nat.zero_lt_succ 0) (Nat.le_refl 1) rfl⟩
  | finished result => cases hnext

theorem step_of_none (h : flight.step? backing key i = none) :
    flight.step backing key i = flight := by
  rw [step, h, Option.getD_none]

theorem step_of_some (h : flight.step? backing key i = some next) :
    flight.step backing key i = next := by
  rw [step, h, Option.getD_some]

theorem run_cons (backing : Backing) (key : String) (j : Nat) (order : List Nat)
    (flight : Flight) : flight.run backing key (j :: order) =
      (flight.step backing key j).run backing key order := rfl

theorem step_cases (backing : Backing) (key : String) (i : Nat) (flight : Flight) :
    flight.step backing key i = flight ∨
      ∃ before after, flight.Advances i (flight.step backing key i) before after := by
  cases hstep : flight.step? backing key i with
  | none => exact .inl (step_of_none hstep)
  | some next =>
    rw [step_of_some hstep]
    exact .inr (step?_advances hstep)

@[simp] theorem length_callers_step (backing : Backing) (key : String) (i : Nat)
    (flight : Flight) : (flight.step backing key i).callers.length = flight.callers.length := by
  obtain hsame | ⟨before, after, hadvances⟩ := step_cases backing key i flight
  · rw [hsame]
  · rw [hadvances.callers, List.length_set]

@[simp] theorem length_callers_run (backing : Backing) (key : String) (order : List Nat)
    (flight : Flight) : (flight.run backing key order).callers.length = flight.callers.length := by
  induction order generalizing flight with
  | nil => rfl
  | cons j order ih => exact (ih _).trans (length_callers_step backing key j flight)

/-- What no step breaks holds at the end of every run. -/
theorem run_induction {holds : Flight → Prop} (order : List Nat) (hstart : holds flight)
    (hstep : ∀ flight i, holds flight → holds (flight.step backing key i)) :
    holds (flight.run backing key order) := by
  induction order generalizing flight with
  | nil => exact hstart
  | cons j order ih => exact ih (hstep flight j hstart)

/-! ## The resolutions of each caller -/

/-- How often a caller resolves the schema in a run. -/
def resolutionsBy (backing : Backing) (key : String) (i : Nat) : List Nat → Flight → Nat
  | [], _ => 0
  | j :: order, flight =>
      let next := flight.step backing key j
      (if j = i then next.resolutions - flight.resolutions else 0) +
        resolutionsBy backing key i order next

def triesOf (flight : Flight) (i : Nat) : Nat := (flight.callers[i]?.map Phase.tries).getD 0

theorem triesOf_step (backing : Backing) (key : String) (i j : Nat) (flight : Flight) :
    (flight.step backing key j).triesOf i = flight.triesOf i +
      if j = i then (flight.step backing key j).resolutions - flight.resolutions else 0 := by
  obtain hsame | ⟨before, after, hadvances⟩ := step_cases backing key j flight
  · simp [hsame]
  · by_cases hji : j = i
    · subst hji
      have hlt : j < flight.callers.length := (List.getElem?_eq_some_iff.mp hadvances.stood).1
      have hbefore : flight.triesOf j = before.tries := by simp [triesOf, hadvances.stood]
      have hafter : (flight.step backing key j).triesOf j = after.tries := by
        simp [triesOf, hadvances.callers, hlt]
      have hmore := hadvances.tries_le
      rw [hbefore, hafter, hadvances.resolutions, if_pos rfl]
      omega
    · simp [triesOf, hadvances.callers, hji]

/-- The phase that a caller ends in says how often it has resolved the schema. -/
theorem triesOf_run (backing : Backing) (key : String) (i : Nat) (order : List Nat)
    (flight : Flight) : (flight.run backing key order).triesOf i =
      flight.triesOf i + resolutionsBy backing key i order flight := by
  induction order generalizing flight with
  | nil => rfl
  | cons j order ih =>
    rw [run_cons, ih, triesOf_step, resolutionsBy, Nat.add_assoc]

/-! ## Nobody waits for ever -/

/-- Every caller has its result. -/
def Landed (flight : Flight) : Prop := ∀ i < flight.callers.length, (flight.result? i).isSome

instance (flight : Flight) : Decidable flight.Landed :=
  inferInstanceAs (Decidable (∀ i < flight.callers.length, (flight.result? i).isSome))

theorem Landed.exists_finished (h : flight.Landed) (hi : i < flight.callers.length) :
    ∃ result, flight.callers[i]? = some (.finished result) := by
  have hresult := h i hi
  unfold result? at hresult
  split at hresult
  · next result hfinished => exact ⟨result, hfinished⟩
  · cases hresult

/-- Every caller is given a turn again and again. -/
def Fair (callers : Nat) (schedule : Nat → Nat) : Prop :=
  ∀ i < callers, ∀ t, ∃ later ≥ t, schedule later = i

/-- A bound on the steps that all callers still have before them. -/
def stepsLeft (flight : Flight) : Nat :=
  flight.callers.foldr (fun phase rest => phase.stepsLeft + rest) 0

theorem foldr_set_lt (measure : Phase → Nat) {callers : List Phase} {before after : Phase}
    (hbefore : callers[i]? = some before) (hless : measure after < measure before) :
    (callers.set i after).foldr (fun phase rest => measure phase + rest) 0 <
      callers.foldr (fun phase rest => measure phase + rest) 0 := by
  induction callers generalizing i with
  | nil => simp at hbefore
  | cons first rest ih =>
    cases i with
    | zero =>
      have hfirst : first = before := by simpa using hbefore
      subst hfirst
      exact Nat.add_lt_add_right hless _
    | succ i => exact Nat.add_lt_add_left (ih hbefore) _

/-- Who makes a step brings the flight nearer to its end. -/
theorem stepsLeft_lt_of_step? (h : flight.step? backing key i = some next) :
    next.stepsLeft < flight.stepsLeft := by
  obtain ⟨before, after, hadvances⟩ := step?_advances h
  rw [stepsLeft, hadvances.callers]
  exact foldr_set_lt Phase.stepsLeft hadvances.stood hadvances.nearer

theorem run_eq_self_or_lt (backing : Backing) (key : String) (order : List Nat)
    (flight : Flight) : flight.run backing key order = flight ∨
      (flight.run backing key order).stepsLeft < flight.stepsLeft := by
  induction order generalizing flight with
  | nil => exact .inl rfl
  | cons j order ih =>
    rw [run_cons]
    cases hstep : flight.step? backing key j with
    | none =>
      rw [step_of_none hstep]
      exact ih flight
    | some next =>
      rw [step_of_some hstep]
      have hless := stepsLeft_lt_of_step? hstep
      obtain hsame | hlater := ih next
      · exact .inr (by rw [hsame]; exact hless)
      · exact .inr (by omega)

/-- A caller that cannot move has its result, or waits for one that is resolving. -/
theorem held_up_of_step?_eq_none (hphase : flight.callers[i]? = some phase)
    (h : flight.step? backing key i = none) :
    (∃ result, phase = .finished result) ∨
      ∃ n j : Nat, flight.callers[j]? = some (.resolving n) ∧ phase = .waiting n := by
  simp only [step?, hphase, Option.bind_eq_bind, Option.bind_some, Option.pure_def] at h
  cases phase with
  | arriving =>
    simp only at h
    split at h
    · cases h
    · split at h <;> cases h
  | waiting n =>
    simp only at h
    split at h
    · split at h <;> cases h
    · split at h
      · next hbusy =>
        obtain ⟨j, hj⟩ := busy_iff.mp hbusy
        exact .inr ⟨n, j, hj, rfl⟩
      · cases h
  | resolving n =>
    simp only at h
    split at h <;> cases h
  | leaving n failure => cases h
  | finished result => exact .inl ⟨result, rfl⟩

/-- As long as a caller has no result somebody can move: the caller, or the one it waits for. -/
theorem exists_step? (backing : Backing) (key : String) (h : ¬ flight.Landed) :
    ∃ i < flight.callers.length, ∃ next, flight.step? backing key i = some next := by
  obtain ⟨i, hi, hresult⟩ : ∃ i < flight.callers.length, flight.result? i = none := by
    simpa [Landed] using h
  have hphase : flight.callers[i]? = some flight.callers[i] := List.getElem?_eq_getElem hi
  cases hstep : flight.step? backing key i with
  | some next => exact ⟨i, hi, next, hstep⟩
  | none =>
    obtain ⟨result, hfinished⟩ | ⟨n, j, hj, -⟩ := held_up_of_step?_eq_none hphase hstep
    · simp [result?, hphase, hfinished] at hresult
    · have hlt : j < flight.callers.length := (List.getElem?_eq_some_iff.mp hj).1
      cases hother : flight.step? backing key j with
      | some next => exact ⟨j, hlt, next, hother⟩
      | none =>
        obtain ⟨result, hfinished⟩ | ⟨m, k, -, hwaiting⟩ := held_up_of_step?_eq_none hj hother
        · cases hfinished
        · cases hwaiting

/-- The first turns of a schedule. -/
def turns (schedule : Nat → Nat) (t : Nat) : List Nat := (List.range t).map schedule

theorem run_turns_add (backing : Backing) (key : String) (schedule : Nat → Nat) (t more : Nat)
    (flight : Flight) : flight.run backing key (turns schedule (t + more)) =
      (flight.run backing key (turns schedule t)).run backing key
        ((List.range more).map fun m => schedule (t + m)) := by
  rw [turns, List.range_add, List.map_append, List.map_map, run, List.foldl_append]
  rfl

theorem run_turns_succ (backing : Backing) (key : String) (schedule : Nat → Nat) (t : Nat)
    (flight : Flight) : flight.run backing key (turns schedule (t + 1)) =
      (flight.run backing key (turns schedule t)).step backing key (schedule t) :=
  run_turns_add backing key schedule t 1 flight

/-- Under a fair schedule there is a move for as long as a caller has no result. -/
theorem exists_stepsLeft_lt (backing : Backing) (key : String) {schedule : Nat → Nat}
    (hfair : Fair flight.callers.length schedule) (t : Nat)
    (h : ¬ (flight.run backing key (turns schedule t)).Landed) :
    ∃ later, (flight.run backing key (turns schedule later)).stepsLeft <
      (flight.run backing key (turns schedule t)).stepsLeft := by
  obtain ⟨i, hi, next, hstep⟩ := exists_step? backing key h
  obtain ⟨later, hlater, hturn⟩ := hfair i (by simpa using hi) t
  obtain ⟨more, hmore⟩ := Nat.le.dest hlater
  have hrun := run_turns_add backing key schedule t more flight
  rw [hmore] at hrun
  obtain hsame | hless := run_eq_self_or_lt backing key
    ((List.range more).map fun m => schedule (t + m)) (flight.run backing key (turns schedule t))
  · refine ⟨later + 1, ?_⟩
    rw [run_turns_succ, hrun, hsame, hturn, step_of_some hstep]
    exact stepsLeft_lt_of_step? hstep
  · exact ⟨later, by rw [hrun]; exact hless⟩

/-- Who has a result keeps it. -/
theorem Landed.run (h : flight.Landed) (backing : Backing) (key : String) (order : List Nat) :
    flight.run backing key order = flight := by
  induction order with
  | nil => rfl
  | cons j order ih =>
    have hnone : flight.step? backing key j = none := by
      cases hstep : flight.step? backing key j with
      | none => rfl
      | some next =>
        obtain ⟨before, after, hadvances⟩ := step?_advances hstep
        have hlt : j < flight.callers.length := (List.getElem?_eq_some_iff.mp hadvances.stood).1
        obtain ⟨result, hfinished⟩ := h.exists_finished hlt
        cases hfinished.symm.trans hadvances.stood
        exact absurd hadvances.nearer (Nat.not_lt_zero _)
    rw [run_cons, step_of_none hnone, ih]

theorem exists_landed (backing : Backing) (key : String) {schedule : Nat → Nat}
    (hfair : Fair flight.callers.length schedule) (t : Nat) :
    ∃ later, (flight.run backing key (turns schedule later)).Landed := by
  induction hleft : (flight.run backing key (turns schedule t)).stepsLeft using Nat.strongRecOn
    generalizing t with
  | ind left ih =>
    by_cases hlanded : (flight.run backing key (turns schedule t)).Landed
    · exact ⟨t, hlanded⟩
    · obtain ⟨later, hless⟩ := exists_stepsLeft_lt backing key hfair t hlanded
      exact ih _ (hleft ▸ hless) later rfl

/-- Under a fair schedule every caller comes to its result, and the flight is over for good. -/
theorem landed_of_fair (backing : Backing) (key : String) {schedule : Nat → Nat}
    (hfair : Fair flight.callers.length schedule) :
    ∃ t, ∀ later ≥ t, (flight.run backing key (turns schedule later)).Landed := by
  obtain ⟨t, hlanded⟩ := exists_landed backing key hfair 0
  refine ⟨t, ?_⟩
  intro later hlater
  obtain ⟨more, hmore⟩ := Nat.le.dest hlater
  rw [← hmore, run_turns_add, hlanded.run]
  exact hlanded

end Flight
end MockApi
