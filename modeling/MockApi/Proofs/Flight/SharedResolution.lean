import MockApi.Proofs.Cache.Session
import MockApi.Proofs.Flight.Progress

/-! Callers that look one key up at the same time share one resolution as long as it succeeds, and
each makes its own where it fails. Any order of their steps is allowed. -/
namespace MockApi

namespace Cache

/-- A new slot holds nothing, as its number did before. -/
theorem cell?_allot (cache : Cache) (key : String) (n : Nat) :
    (cache.allot key).2.cell? n = cache.cell? n := by
  rcases Nat.lt_trichotomy n cache.cells.length with hlt | heq | hgt
  · simp [allot, cell?, List.getElem?_append_left hlt]
  · simp [allot, cell?, heq]
  · have hnew : (cache.cells ++ [none])[n]? = none := List.getElem?_eq_none (by simp; omega)
    have hold : cache.cells[n]? = none := List.getElem?_eq_none (by omega)
    simp only [allot, cell?, hnew, hold]

theorem find?_slots_allot (cache : Cache) (key : String) :
    Keyed.find? key (cache.allot key).2.slots = some cache.cells.length :=
  Keyed.find?_insert_self _ _ _

theorem cell?_fill_self {cache : Cache} {n : Nat} (h : n < cache.cells.length) (tree : Tree) :
    (cache.fill n tree).cell? n = some tree := by
  simp [fill, cell?, h]

end Cache

/-- A caller that has come to a result has come to this failure. -/
def Phase.FailsWith (failure : Failure) : Phase → Prop
  | .leaving _ found => found = failure
  | .finished result => result = .error failure
  | _ => True

namespace Flight

variable {backing : Backing} {key : String} {tree : Tree} {failure : Failure} {flight : Flight}
  {i n : Nat}

/-! ## The steps of a caller at a cache that is switched on -/

theorem step_absent (h : flight.callers[i]? = none) : flight.step backing key i = flight := by
  simp [step, step?, h]

theorem step_finished {result : Lookup} (h : flight.callers[i]? = some (.finished result)) :
    flight.step backing key i = flight := by
  simp [step, step?, h]

theorem step_allot (h : flight.callers[i]? = some .arriving) (on : flight.cache.enabled = true)
    (free : Keyed.find? key flight.cache.slots = none) :
    flight.step backing key i = { flight with cache := (flight.cache.allot key).2 }.become i
      (.waiting flight.cache.cells.length) := by
  simp [step, step?, h, on, Cache.enter, free, Cache.allot]

theorem step_join (h : flight.callers[i]? = some .arriving) (on : flight.cache.enabled = true)
    (slot : Keyed.find? key flight.cache.slots = some n) (empty : flight.cache.cell? n = none) :
    flight.step backing key i = flight.become i (.waiting n) := by
  simp [step, step?, h, on, Cache.enter, slot, empty]

theorem step_find (h : flight.callers[i]? = some .arriving) (on : flight.cache.enabled = true)
    (slot : Keyed.find? key flight.cache.slots = some n) (full : flight.cache.cell? n = some tree)
    (current : tree.current backing.version? = true) :
    flight.step backing key i = flight.become i (.finished (.ok (tree, .hit))) := by
  simp [step, step?, h, on, Cache.enter, slot, full, current]

theorem step_share (h : flight.callers[i]? = some (.waiting n))
    (full : flight.cache.cell? n = some tree) (current : tree.current backing.version? = true) :
    flight.step backing key i = flight.become i (.finished (.ok (tree, .hit))) := by
  simp [step, step?, h, full, current]

theorem step_held (h : flight.callers[i]? = some (.waiting n))
    (empty : flight.cache.cell? n = none) (busy : flight.busy n = true) :
    flight.step backing key i = flight := by
  simp [step, step?, h, empty, busy]

theorem step_begin (h : flight.callers[i]? = some (.waiting n))
    (empty : flight.cache.cell? n = none) (free : flight.busy n = false) :
    flight.step backing key i = flight.become i (.resolving n) := by
  simp [step, step?, h, empty, free]

theorem step_fill (h : flight.callers[i]? = some (.resolving n))
    (resolved : backing.resolve key = .ok tree) :
    flight.step backing key i =
      { flight with
        cache := flight.cache.fill n tree
        resolutions := flight.resolutions + 1 }.become i (.finished (.ok (tree, .miss))) := by
  simp [step, step?, h, resolved]

theorem step_fail (h : flight.callers[i]? = some (.resolving n))
    (failed : backing.resolve key = .error failure) :
    flight.step backing key i =
      { flight with resolutions := flight.resolutions + 1 }.become i (.leaving n failure) := by
  simp [step, step?, h, failed]

theorem step_leave (h : flight.callers[i]? = some (.leaving n failure)) :
    flight.step backing key i = { flight with cache := flight.cache.abandon key n }.become i
      (.finished (.error failure)) := by
  simp [step, step?, h]

/-! ## What is true of all callers -/

/-- Every caller stands so. -/
def All (holds : Nat → Phase → Prop) (flight : Flight) : Prop :=
  ∀ (i : Nat) phase, flight.callers[i]? = some phase → holds i phase

variable {holds : Nat → Phase → Prop} {phase : Phase}

theorem All.mono {still : Nat → Phase → Prop} (h : flight.All holds)
    (himp : ∀ i phase, holds i phase → still i phase) : flight.All still :=
  fun j other hj => himp j other (h j other hj)

theorem All.become (h : flight.All holds) (phase : Phase) (hi : holds i phase) (cache : Cache)
    (resolutions : Nat) :
    (Flight.become ⟨cache, flight.callers, resolutions⟩ i phase).All holds := by
  intro j other hj
  rw [callers_become, List.getElem?_set] at hj
  split at hj
  · next hij =>
    split at hj
    · cases hj
      exact hij ▸ hi
    · cases hj
  · exact h j other hj

theorem getElem?_become_self {before : Phase} (h : flight.callers[i]? = some before)
    (cache : Cache) (resolutions : Nat) (phase : Phase) :
    (Flight.become ⟨cache, flight.callers, resolutions⟩ i phase).callers[i]? = some phase := by
  have hlt : i < flight.callers.length := (List.getElem?_eq_some_iff.mp h).1
  simp [hlt]

theorem getElem?_become_of_ne {j : Nat} (h : i ≠ j) (cache : Cache) (resolutions : Nat)
    (phase : Phase) : (Flight.become ⟨cache, flight.callers, resolutions⟩ i phase).callers[j]? =
      flight.callers[j]? := by
  simp [List.getElem?_set_ne h]

/-! ## A key that resolves

All callers go to one slot, the first to resolve for it fills it, and the others take the tree from
it. -/

/-- Not yet at a slot, or waiting at this one. -/
def Before (n : Nat) (phase : Phase) : Prop := phase = .arriving ∨ phase = .waiting n

structure Untouched (key : String) (flight : Flight) : Prop where
  on : flight.cache.enabled = true
  free : Keyed.find? key flight.cache.slots = none
  callers : flight.All fun _ phase => phase = .arriving
  count : flight.resolutions = 0

/-- The key leads to a slot that holds nothing yet. -/
structure Open (key : String) (n : Nat) (flight : Flight) : Prop where
  on : flight.cache.enabled = true
  slot : Keyed.find? key flight.cache.slots = some n
  lt : n < flight.cache.cells.length
  empty : flight.cache.cell? n = none
  count : flight.resolutions = 0

structure Resolving (key : String) (n first : Nat) (flight : Flight) : Prop
    extends Open key n flight where
  one : flight.callers[first]? = some (.resolving n)
  others : flight.All fun i phase => i ≠ first → Before n phase

structure Filled (key : String) (tree : Tree) (n first : Nat) (flight : Flight) : Prop where
  on : flight.cache.enabled = true
  slot : Keyed.find? key flight.cache.slots = some n
  full : flight.cache.cell? n = some tree
  count : flight.resolutions = 1
  one : flight.callers[first]? = some (.finished (.ok (tree, .miss)))
  others : flight.All fun i phase =>
    i ≠ first → Before n phase ∨ phase = .finished (.ok (tree, .hit))

/-- How far the callers of a key that resolves have come. -/
inductive Stage (key : String) (tree : Tree) (flight : Flight) : Prop where
  | untouched (stage : flight.Untouched key)
  | opened (n : Nat) (stage : flight.Open key n) (callers : flight.All fun _ => Before n)
  | resolving (n first : Nat) (stage : flight.Resolving key n first)
  | filled (n first : Nat) (stage : flight.Filled key tree n first)

theorem Untouched.step (backing : Backing) (h : flight.Untouched key)
    (hphase : flight.callers[i]? = some phase) :
    (flight.step backing key i).Open key flight.cache.cells.length ∧
      (flight.step backing key i).All fun _ => Before flight.cache.cells.length := by
  have harriving : phase = .arriving := h.callers i phase hphase
  subst harriving
  rw [step_allot hphase h.on h.free]
  constructor
  · refine ⟨h.on, Cache.find?_slots_allot flight.cache key, ?_, ?_, h.count⟩
    · simp [Cache.allot]
    · rw [cache_become, Cache.cell?_allot]
      simp [Cache.cell?]
  · exact (h.callers.mono fun _ _ => .inl).become _ (.inr rfl) _ _

theorem Open.step (backing : Backing) (h : flight.Open key n)
    (hcallers : flight.All fun _ => Before n) (hphase : flight.callers[i]? = some phase) :
    ((flight.step backing key i).Open key n ∧ (flight.step backing key i).All fun _ => Before n) ∨
      (flight.step backing key i).Resolving key n i := by
  obtain harriving | hwaiting := hcallers i phase hphase
  · subst harriving
    rw [step_join hphase h.on h.slot h.empty]
    exact .inl ⟨⟨h.on, h.slot, h.lt, h.empty, h.count⟩, hcallers.become _ (.inr rfl) _ _⟩
  · subst hwaiting
    have hfree : flight.busy n = false := by
      rw [Bool.eq_false_iff, ne_eq, busy_iff]
      intro hbusy
      obtain ⟨j, hj⟩ := hbusy
      obtain hbefore | hbefore := hcallers j _ hj <;> cases hbefore
    rw [step_begin hphase h.empty hfree]
    have hothers : flight.All fun j phase => j ≠ i → Before n phase :=
      hcallers.mono fun _ _ hbefore _ => hbefore
    exact .inr ⟨⟨h.on, h.slot, h.lt, h.empty, h.count⟩, getElem?_become_self hphase _ _ _,
      hothers.become _ (fun hne => absurd rfl hne) _ _⟩

theorem Resolving.step {first : Nat} (hresolve : backing.resolve key = .ok tree)
    (h : flight.Resolving key n first) (hphase : flight.callers[i]? = some phase) :
    (flight.step backing key i).Resolving key n first ∨
      (flight.step backing key i).Filled key tree n first := by
  by_cases hi : i = first
  · subst hi
    rw [step_fill h.one hresolve]
    have hothers : flight.All fun j phase =>
        j ≠ i → Before n phase ∨ phase = .finished (.ok (tree, .hit)) :=
      h.others.mono fun _ _ hbefore hne => .inl (hbefore hne)
    exact .inr ⟨h.on, h.slot, Cache.cell?_fill_self h.lt tree, congrArg (· + 1) h.count,
      getElem?_become_self hphase _ _ _, hothers.become _ (fun hne => absurd rfl hne) _ _⟩
  · obtain harriving | hwaiting := h.others i phase hphase hi
    · subst harriving
      rw [step_join hphase h.on h.slot h.empty]
      exact .inl ⟨⟨h.on, h.slot, h.lt, h.empty, h.count⟩,
        (getElem?_become_of_ne hi _ _ _).trans h.one, h.others.become _ (fun _ => .inr rfl) _ _⟩
    · subst hwaiting
      rw [step_held hphase h.empty (busy_iff.mpr ⟨first, h.one⟩)]
      exact .inl h

theorem Filled.step {first : Nat} (hcurrent : tree.current backing.version? = true)
    (h : flight.Filled key tree n first) (hphase : flight.callers[i]? = some phase) :
    (flight.step backing key i).Filled key tree n first := by
  by_cases hi : i = first
  · subst hi
    rwa [step_finished h.one]
  · have htaken : (flight.become i (.finished (.ok (tree, .hit)))).Filled key tree n first :=
      ⟨h.on, h.slot, h.full, h.count, (getElem?_become_of_ne hi _ _ _).trans h.one,
        h.others.become _ (fun _ => .inr rfl) _ _⟩
    obtain (harriving | hwaiting) | hfinished := h.others i phase hphase hi
    · subst harriving
      rwa [step_find hphase h.on h.slot h.full hcurrent]
    · subst hwaiting
      rwa [step_share hphase h.full hcurrent]
    · subst hfinished
      rwa [step_finished hphase]

theorem Stage.step (hresolve : backing.resolve key = .ok tree)
    (hcurrent : tree.current backing.version? = true) (h : Stage key tree flight) (i : Nat) :
    Stage key tree (flight.step backing key i) := by
  cases hphase : flight.callers[i]? with
  | none => rwa [step_absent hphase]
  | some phase =>
    cases h with
    | untouched stage =>
      obtain ⟨hopen, hcallers⟩ := stage.step backing hphase
      exact .opened _ hopen hcallers
    | opened n stage callers =>
      obtain ⟨hopen, hcallers⟩ | hresolving := stage.step backing callers hphase
      · exact .opened n hopen hcallers
      · exact .resolving n i hresolving
    | resolving n first stage =>
      obtain hresolving | hfilled := stage.step hresolve hphase
      · exact .resolving n first hresolving
      · exact .filled n first hfilled
    | filled n first stage => exact .filled n first (stage.step hcurrent hphase)

/-! ## A key that fails

The slots of the key stay empty, and a slot that the key leads to is held by a caller that will drop
it after its own failure. -/

/-- Some caller holds the slot. -/
def Manned (flight : Flight) (n : Nat) : Prop :=
  ∃ (j : Nat) (phase : Phase), flight.callers[j]? = some phase ∧ phase.slot? = some n

/-- A slot stays manned unless the caller that moves was the one to hold it and lets it go. -/
theorem Manned.become {before : Phase} (h : flight.Manned n)
    (hbefore : flight.callers[i]? = some before)
    (hkeeps : before.slot? = some n → phase.slot? = some n) (cache : Cache) (resolutions : Nat) :
    (Flight.become ⟨cache, flight.callers, resolutions⟩ i phase).Manned n := by
  obtain ⟨j, other, hj, hslot⟩ := h
  by_cases hij : i = j
  · subst hij
    cases hbefore.symm.trans hj
    exact ⟨i, phase, getElem?_become_self hbefore _ _ _, hkeeps hslot⟩
  · exact ⟨j, other, (getElem?_become_of_ne hij _ _ _).trans hj, hslot⟩

structure Vain (key : String) (failure : Failure) (flight : Flight) : Prop where
  on : flight.cache.enabled = true
  empty : ∀ n, Keyed.find? key flight.cache.slots = some n → flight.cache.cell? n = none
  waiters : flight.All fun _ phase => ∀ n, phase = .waiting n → flight.cache.cell? n = none
  manned : ∀ n, Keyed.find? key flight.cache.slots = some n → flight.Manned n
  failed : flight.All fun _ phase => phase.FailsWith failure

/-- A caller moves on at its slot, and the cache stays as it is. -/
theorem Vain.become {before : Phase} (h : flight.Vain key failure)
    (hbefore : flight.callers[i]? = some before) (phase : Phase)
    (hkeeps : ∀ n, before.slot? = some n → phase.slot? = some n)
    (hwaits : ∀ n, phase = .waiting n → flight.cache.cell? n = none)
    (hfails : phase.FailsWith failure) (resolutions : Nat) :
    (Flight.become ⟨flight.cache, flight.callers, resolutions⟩ i phase).Vain key failure :=
  ⟨h.on, h.empty, h.waiters.become phase hwaits _ _,
    fun n hslot => (h.manned n hslot).become hbefore (hkeeps n) _ _,
    h.failed.become phase hfails _ _⟩

theorem Vain.arrive (h : flight.Vain key failure) (hphase : flight.callers[i]? = some .arriving) :
    (flight.step backing key i).Vain key failure := by
  cases hslot : Keyed.find? key flight.cache.slots with
  | none =>
    rw [step_allot hphase h.on hslot]
    have hnew : Keyed.find? key (flight.cache.allot key).2.slots = some flight.cache.cells.length :=
      Cache.find?_slots_allot flight.cache key
    have hcell : flight.cache.cell? flight.cache.cells.length = none := by simp [Cache.cell?]
    refine ⟨h.on, ?_, ?_, ?_, h.failed.become (.waiting _) trivial _ _⟩
    · intro n hn
      cases hnew.symm.trans hn
      exact (Cache.cell?_allot _ _ _).trans hcell
    · simp only [cache_become, Cache.cell?_allot]
      refine h.waiters.become _ ?_ _ _
      intro n hn
      cases hn
      exact hcell
    · intro n hn
      cases hnew.symm.trans hn
      exact ⟨i, _, getElem?_become_self hphase _ _ _, rfl⟩
  | some n =>
    have hempty := h.empty n hslot
    rw [step_join hphase h.on hslot hempty]
    refine h.become hphase (.waiting n) ?_ ?_ trivial _
    · intro m hm
      cases hm
    · intro m hm
      cases hm
      exact hempty

theorem Vain.wait (h : flight.Vain key failure) (hphase : flight.callers[i]? = some (.waiting n)) :
    (flight.step backing key i).Vain key failure := by
  have hempty : flight.cache.cell? n = none := h.waiters i _ hphase n rfl
  cases hbusy : flight.busy n with
  | true => rwa [step_held hphase hempty hbusy]
  | false =>
    rw [step_begin hphase hempty hbusy]
    exact h.become hphase (.resolving n) (fun _ => id) nofun trivial _

/-- Who leaves a slot takes it off the key, unless the key leads to another one, which is manned by
somebody else. -/
theorem Vain.leave {found : Failure} (h : flight.Vain key failure)
    (hphase : flight.callers[i]? = some (.leaving n found)) :
    (flight.step backing key i).Vain key failure := by
  have hfound : found = failure := h.failed i _ hphase
  rw [step_leave hphase]
  have hcells (m : Nat) : (flight.cache.abandon key n).cell? m = flight.cache.cell? m := by
    unfold Cache.abandon
    split <;> rfl
  have hslots (m : Nat) (hm : Keyed.find? key (flight.cache.abandon key n).slots = some m) :
      Keyed.find? key flight.cache.slots = some m ∧ m ≠ n := by
    unfold Cache.abandon at hm
    split at hm
    · rw [Keyed.find?_erase_self] at hm
      cases hm
    · next hkept =>
      refine ⟨hm, ?_⟩
      intro heq
      subst heq
      exact hkept ⟨hm, by simp [h.empty m hm]⟩
  refine ⟨?_, ?_, ?_, ?_, h.failed.become (.finished _) (congrArg Except.error hfound) _ _⟩
  · rw [cache_become, Cache.abandon]
    split <;> exact h.on
  · intro m hm
    exact (hcells m).trans (h.empty m (hslots m hm).1)
  · simp only [cache_become, hcells]
    refine h.waiters.become (.finished _) ?_ _ _
    intro m hm
    cases hm
  · intro m hm
    obtain ⟨hslot, hne⟩ := hslots m hm
    refine (h.manned m hslot).become hphase ?_ _ _
    intro hholds
    exact absurd (Option.some.inj hholds).symm hne

theorem Vain.step (hresolve : backing.resolve key = .error failure)
    (h : flight.Vain key failure) (i : Nat) : (flight.step backing key i).Vain key failure := by
  cases hphase : flight.callers[i]? with
  | none => rwa [step_absent hphase]
  | some phase =>
    cases phase with
    | arriving => exact h.arrive hphase
    | waiting n => exact h.wait hphase
    | resolving n =>
      rw [step_fail hphase hresolve]
      exact h.become hphase (.leaving n failure) (fun _ => id) nofun rfl _
    | leaving n found => exact h.leave hphase
    | finished result => rwa [step_finished hphase]

/-! ## Whole flights -/

theorem all_start {holds : Nat → Phase → Prop} {cache : Cache} {callers : Nat}
    (h : ∀ i, holds i .arriving) : (start cache callers).All holds := by
  intro i phase hphase
  have hmem : phase ∈ List.replicate callers Phase.arriving := List.mem_of_getElem? hphase
  rw [List.eq_of_mem_replicate hmem]
  exact h i

theorem triesOf_start (cache : Cache) (callers i : Nat) : (start cache callers).triesOf i = 0 := by
  rw [triesOf, start]
  cases hphase : (List.replicate callers Phase.arriving)[i]? with
  | none => rfl
  | some phase =>
    have harriving : phase = .arriving := List.eq_of_mem_replicate (List.mem_of_getElem? hphase)
    rw [harriving]
    rfl

/-- The phase that a caller has come to shows its result and how often it has resolved. -/
theorem outcome_of_finished {cache : Cache} {callers : Nat} {order : List Nat} {result : Lookup}
    (h : ((start cache callers).run backing key order).callers[i]? = some (.finished result)) :
    ((start cache callers).run backing key order).result? i = some result ∧
      resolutionsBy backing key i order (start cache callers) =
        (Phase.finished result).tries := by
  have hcount := triesOf_run backing key i order (start cache callers)
  rw [triesOf_start, Nat.zero_add, triesOf, h] at hcount
  exact ⟨by rw [result?, h], hcount.symm⟩

/-- In a flight that is over one caller has filled the slot, and all others have its tree. -/
theorem Stage.landed (h : Stage key tree flight) (hlanded : flight.Landed)
    (hcallers : 0 < flight.callers.length) :
    flight.resolutions = 1 ∧ ∃ first < flight.callers.length, ∀ i < flight.callers.length,
      flight.callers[i]? =
        some (.finished (.ok (tree, if i = first then .miss else .hit))) := by
  obtain ⟨result, hresult⟩ := hlanded.exists_finished hcallers
  cases h with
  | untouched stage => cases stage.callers 0 _ hresult
  | opened n stage callers => obtain hbefore | hbefore := callers 0 _ hresult <;> cases hbefore
  | resolving n first stage =>
    have hlt : first < flight.callers.length := (List.getElem?_eq_some_iff.mp stage.one).1
    obtain ⟨other, hother⟩ := hlanded.exists_finished hlt
    cases hother.symm.trans stage.one
  | filled n first stage =>
    refine ⟨stage.count, first, (List.getElem?_eq_some_iff.mp stage.one).1, ?_⟩
    intro i hi
    by_cases hfirst : i = first
    · rw [hfirst, if_pos rfl]
      exact stage.one
    · obtain ⟨other, hother⟩ := hlanded.exists_finished hi
      rw [hother, if_neg hfirst]
      obtain (hbefore | hbefore) | htaken := stage.others i _ hother hfirst
      · cases hbefore
      · cases hbefore
      · rw [htaken]

/-- In a flight that is over every caller has the failure, and the key leads nowhere. -/
theorem Vain.landed (h : flight.Vain key failure) (hlanded : flight.Landed) :
    (∀ i < flight.callers.length, flight.callers[i]? = some (.finished (.error failure))) ∧
      Keyed.find? key flight.cache.slots = none := by
  constructor
  · intro i hi
    obtain ⟨result, hresult⟩ := hlanded.exists_finished hi
    have hfails : result = .error failure := h.failed i _ hresult
    rw [hresult, hfails]
  · cases hslot : Keyed.find? key flight.cache.slots with
    | none => rfl
    | some n =>
      obtain ⟨j, phase, hphase, hholds⟩ := h.manned n hslot
      obtain ⟨result, hresult⟩ :=
        hlanded.exists_finished (List.getElem?_eq_some_iff.mp hphase).1
      cases hresult.symm.trans hphase
      cases hholds

/-- Callers that look one key up at the same time, in any order of their steps: none of them waits
for ever unless it is never given a turn. If the key resolves, it is resolved once by one of them,
and all others hit its tree. If it fails, each of them resolves it once and has the failure, and
the key leads nowhere in the end. -/
theorem concurrent_lookups_resolve_once {store : Store} (hstore : store.Reachable)
    (limits : Limits) (key : String) {cache : Cache} (hon : cache.enabled = true)
    (hempty : cache.slots = []) (callers : Nat) :
    let backing : Backing := ⟨store.version?, resolve limits store.schema?⟩
    let flight := start cache callers
    (∀ schedule, Fair callers schedule →
      ∃ t, ∀ later ≥ t, (flight.run backing key (turns schedule later)).Landed) ∧
    ∀ order, (flight.run backing key order).Landed →
      (∀ tree, resolve limits store.schema? key = .ok tree → 0 < callers →
        (flight.run backing key order).resolutions = 1 ∧
        ∃ first < callers, ∀ i < callers,
          (flight.run backing key order).result? i =
            some (.ok (tree, if i = first then .miss else .hit)) ∧
          resolutionsBy backing key i order flight = if i = first then 1 else 0) ∧
      ∀ failure, resolve limits store.schema? key = .error failure →
        (∀ i < callers, (flight.run backing key order).result? i = some (.error failure) ∧
          resolutionsBy backing key i order flight = 1) ∧
        Keyed.find? key (flight.run backing key order).cache.slots = none := by
  intro backing flight
  have hlength : flight.callers.length = callers := List.length_replicate
  have hfree : Keyed.find? key flight.cache.slots = none := by
    rw [show flight.cache.slots = [] from hempty, Keyed.find?_nil]
  constructor
  · intro schedule hfair
    exact landed_of_fair backing key (hlength ▸ hfair)
  · intro order hlanded
    have hrun : (flight.run backing key order).callers.length = callers :=
      (length_callers_run backing key order flight).trans hlength
    constructor
    · intro tree hresolve hcallers
      have hcurrent : tree.current backing.version? = true :=
        (tree.current_iff _).mpr (Tree.version?_of_resolve hstore.tidy hresolve)
      have hstage : Stage key tree (flight.run backing key order) :=
        run_induction order (.untouched ⟨hon, hfree, all_start fun _ => rfl, rfl⟩)
          fun _ i h => h.step hresolve hcurrent i
      obtain ⟨hcount, first, hfirst, hresults⟩ := hstage.landed hlanded (hrun ▸ hcallers)
      rw [hrun] at hfirst hresults
      refine ⟨hcount, first, hfirst, ?_⟩
      intro i hi
      obtain ⟨hresult, htries⟩ := outcome_of_finished (hresults i hi)
      refine ⟨hresult, htries.trans ?_⟩
      split <;> rfl
    · intro failure hresolve
      have hvain : (flight.run backing key order).Vain key failure := by
        refine run_induction order ⟨hon, ?_, all_start nofun, ?_, all_start fun _ => trivial⟩
          fun _ i h => h.step hresolve i
        · intro n hn
          cases hfree.symm.trans hn
        · intro n hn
          cases hfree.symm.trans hn
      obtain ⟨hresults, hgone⟩ := hvain.landed hlanded
      rw [hrun] at hresults
      exact ⟨fun i hi => outcome_of_finished (hresults i hi), hgone⟩

/-- Three callers, each given a turn in every round. One key resolves, and the other is not there:
a caller that comes after the first failure goes to a new slot, which the second failure leaves
alone. -/
theorem three_callers_of_known_and_missing_key :
    let store := Store.ofDefinitions ⟨[Schema.ofFields "user" []], [], []⟩
    let backing : Backing := ⟨store.version?, resolve .standard store.schema?⟩
    let flight := start (Cache.empty true) 3
    let shared := [0, 1, 0, 2, 0, 1, 2]
    let failing := [0, 0, 0, 1, 0, 2, 1, 1, 1, 2, 2, 2]
    let missing := Failure.danglingReference "ghost" "the endpoint" none
    store.Reachable ∧
    (Fair 3 (· % 3) ∧
      ∃ t, (flight.run backing "user" (turns (· % 3) t)).Landed) ∧
    ((flight.run backing "user" shared).Landed ∧
      (flight.run backing "user" shared).resolutions = 1) ∧
    (flight.run backing "ghost" failing).Landed ∧
      (∀ i < 3, (flight.run backing "ghost" failing).result? i = some (.error missing) ∧
        resolutionsBy backing "ghost" i failing flight = 1) ∧
      Keyed.find? "ghost" (flight.run backing "ghost" failing).cache.slots = none := by
  intro store backing flight shared failing missing
  have hstore : store.Reachable := ⟨_, [], rfl⟩
  have hon : (Cache.empty true).enabled = true := rfl
  have hnone : (Cache.empty true).slots = [] := rfl
  have hfair : Fair 3 (· % 3) := by
    intro i hi t
    exact ⟨3 * t + i, by omega, by simp only; omega⟩
  have hshared : (flight.run backing "user" shared).Landed := by decide
  have hfailing : (flight.run backing "ghost" failing).Landed := by decide
  have huser : resolve .standard store.schema? "user" =
      .ok ⟨"user", .object "user" [], [("user", 0)]⟩ := rfl
  have hghost : resolve .standard store.schema? "ghost" = .error missing := rfl
  obtain ⟨hprogress, hends⟩ :=
    concurrent_lookups_resolve_once hstore .standard "user" hon hnone 3
  obtain ⟨-, hfails⟩ := concurrent_lookups_resolve_once hstore .standard "ghost" hon hnone 3
  obtain ⟨t, hlanded⟩ := hprogress _ hfair
  obtain ⟨hcount, -⟩ := (hends shared hshared).1 _ huser (by decide)
  refine ⟨hstore, ⟨hfair, t, hlanded t (Nat.le_refl t)⟩, ⟨hshared, ?_⟩, hfailing, ?_⟩
  · dsimp only [flight, backing]
    exact hcount
  · dsimp only [flight, backing]
    exact (hfails failing hfailing).2 missing hghost

end Flight
end MockApi
