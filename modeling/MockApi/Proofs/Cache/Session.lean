import MockApi.Proofs.Cache.Sequential
import MockApi.Proofs.Resolution.Locality
import MockApi.Proofs.Store.Touch

/-! Sessions on one cache over one store: lookups, changes of the definitions and invalidations in
any order. Which lookups are hits can be read off the history alone. -/
namespace MockApi

/-! ## Trees and what they depend on -/

namespace Tree

theorem dependsOn_iff (tree : Tree) (id : String) :
    tree.dependsOn id = true ↔ ∃ version, (id, version) ∈ tree.dependencies := by
  rw [dependsOn, Keyed.contains, ← Keyed.mem_keys_iff_find?, Keyed.keys, List.mem_map]
  constructor
  · rintro ⟨entry, he, rfl⟩
    exact ⟨entry.2, he⟩
  · rintro ⟨version, he⟩
    exact ⟨_, he, rfl⟩

theorem current_iff (tree : Tree) (version? : String → Option UInt64) :
    tree.current version? = true ↔
      ∀ entry ∈ tree.dependencies, version? entry.1 = some entry.2 := by
  simp [current]

variable {limits : Limits} {key : String} {tree : Tree}

theorem version?_of_resolve {store : Store} (htidy : store.Tidy)
    (h : resolve limits store.schema? key = .ok tree) :
    ∀ entry ∈ tree.dependencies, store.version? entry.1 = some entry.2 := by
  intro entry he
  obtain ⟨schema, hs, hversion⟩ := dependencies_of_resolve htidy.ownId h entry he
  exact Store.version?_eq_some_iff.mpr ⟨schema, hs, hversion⟩

theorem dependsOn_of_resolve {schema? : String → Option Schema} (hown : OwnIds schema?)
    (h : resolve limits schema? key = .ok tree) : tree.dependsOn key = true := by
  obtain ⟨root, reads, hroot, rfl⟩ := resolve_eq_ok.mp h
  obtain ⟨-, _, schema, _, more, -, hs, -, heq⟩ := Resolve.schemaNode_eq_ok.mp hroot
  have hreads : reads = (schema.id, schema.version) :: more := congrArg Prod.snd heq
  have hkey : key ∈ Keyed.keys reads := by simp [hreads, Keyed.keys, hown key schema hs]
  have hdependency := (Keyed.mem_keys_ofEntries key reads).mpr hkey
  rwa [Keyed.mem_keys_iff_find?] at hdependency

end Tree

/-! ## Sessions -/

structure Session where
  store : Store
  cache : Cache

inductive SessionStep where
  | lookup (key : String)
  | alter (change : Change)
  | invalidate (schema : String)
  | clear

/-- A step after which a tree is not given out any more. -/
def SessionStep.Spoils (store : Store) (tree : Tree) : SessionStep → Prop
  | .lookup _ => False
  | .alter change => ∃ id, tree.dependsOn id = true ∧ change.Touches store id
  | .invalidate schema => tree.dependsOn schema = true
  | .clear => True

namespace Session

/-- A cache that is switched on and empty. -/
def start (store : Store) : Session := ⟨store, Cache.empty true⟩

def backing (limits : Limits) (session : Session) : Backing :=
  ⟨session.store.version?, resolve limits session.store.schema?⟩

def answer (limits : Limits) (key : String) (session : Session) : Lookup :=
  (session.cache.lookup (session.backing limits) key).1

def step (limits : Limits) (session : Session) : SessionStep → Session
  | .lookup key =>
      { session with cache := (session.cache.lookup (session.backing limits) key).2 }
  | .alter change => { session with store := session.store.apply change }
  | .invalidate schema => { session with cache := session.cache.invalidate schema }
  | .clear => { session with cache := session.cache.clear }

def after (limits : Limits) (session : Session) (steps : List SessionStep) : Session :=
  steps.foldl (step limits) session

theorem after_take_succ (limits : Limits) (session : Session) {steps : List SessionStep} {n : Nat}
    {step : SessionStep} (h : steps[n]? = some step) :
    session.after limits (steps.take (n + 1)) =
      (session.after limits (steps.take n)).step limits step :=
  foldl_take_succ (Session.step limits) session h

variable {limits : Limits} {session : Session} {key : String} {tree : Tree} {step : SessionStep}

/-! ## What is true of every state -/

/-- A tree in the cache was made from its own key, under versions that were there. -/
structure Sound (session : Session) : Prop where
  tidy : session.store.Tidy
  enabled : session.cache.enabled = true
  settled : session.cache.Settled
  ownKey : ∀ key tree, session.cache.tree? key = some tree → tree.dependsOn key = true
  reached : ∀ key tree, session.cache.tree? key = some tree →
    ∀ entry ∈ tree.dependencies, session.store.Reached entry.1 entry.2

/-- A key leads to a tree that is current. -/
def Holds (session : Session) (key : String) (tree : Tree) : Prop :=
  session.cache.tree? key = some tree ∧ tree.current session.store.version? = true

/-- New definitions repeat no id, and no version runs over. -/
def StepFits (session : Session) (step : SessionStep) : Prop :=
  ∀ change, step = .alter change → change.UniqueIds ∧ session.store.ChangeFits change

theorem sound_start {store : Store} (htidy : store.Tidy) : (start store).Sound where
  tidy := htidy
  enabled := rfl
  settled := Cache.settled_of_no_slots rfl
  ownKey _ _ h := by simp [start, Cache.empty, Cache.tree?] at h
  reached _ _ h := by simp [start, Cache.empty, Cache.tree?] at h

theorem Holds.unique {other : Tree} (h : session.Holds key tree) (ho : session.Holds key other) :
    tree = other :=
  Option.some_inj.mp (h.1.symm.trans ho.1)

/-! ## One lookup -/

/-- A lookup finds a tree that is current, or it resolves the key and the cache keeps what comes
out. -/
theorem lookup_cases (limits : Limits) (h : session.Sound) (key : String) :
    (∃ found, session.Holds key found ∧ session.answer limits key = .ok (found, .hit) ∧
      session.step limits (.lookup key) = session) ∨
    (∀ found, ¬ session.Holds key found) ∧
      session.answer limits key =
        (resolve limits session.store.schema? key).map (fun tree => (tree, Outcome.miss)) ∧
      ∃ cache, session.step limits (.lookup key) = ⟨session.store, cache⟩ ∧
        cache.enabled = true ∧ cache.Settled ∧ ∀ other, cache.tree? other =
          if other = key then (resolve limits session.store.schema? key).toOption
          else session.cache.tree? other := by
  by_cases hholds : ∃ found, session.Holds key found
  · obtain ⟨found, hfound⟩ := hholds
    have hlookup : session.cache.lookup (session.backing limits) key =
        (.ok (found, .hit), session.cache) :=
      Cache.lookup_of_current h.enabled hfound.1 hfound.2
    exact .inl ⟨found, hfound, by rw [answer, hlookup], by rw [step, hlookup]⟩
  · have hnone : ∀ found, ¬ session.Holds key found := not_exists.mp hholds
    have hstale (found) (hfound : session.cache.tree? key = some found) :
        found.current (session.backing limits).version? = false :=
      Bool.eq_false_iff.mpr fun hcurrent => hnone found ⟨hfound, hcurrent⟩
    obtain ⟨cache, hlookup, henabled, hsettled, htrees⟩ :=
      Cache.lookup_of_not_current h.settled h.enabled hstale
    refine .inr ⟨hnone, ?_, cache, ?_, henabled, hsettled, htrees⟩
    · rw [answer, hlookup]
      rfl
    · rw [step, hlookup]

theorem answer_eq_ok_iff (h : session.Sound) {outcome : Outcome} :
    session.answer limits key = .ok (tree, outcome) ↔
      (session.Holds key tree ∧ outcome = .hit) ∨
        (∀ found, ¬ session.Holds key found) ∧
          resolve limits session.store.schema? key = .ok tree ∧ outcome = .miss := by
  rcases lookup_cases limits h key with ⟨found, hfound, hanswer, -⟩ | ⟨hnone, hanswer, -⟩
  · have hsome : ¬ ∀ found, ¬ session.Holds key found := fun hnone => hnone found hfound
    have htree : found = tree ↔ session.Holds key tree :=
      ⟨fun heq => heq ▸ hfound, fun htree => hfound.unique htree⟩
    simp [hanswer, hsome, ← htree, eq_comm]
  · rw [hanswer]
    cases resolve limits session.store.schema? key <;> simp [Except.map, hnone, eq_comm]

theorem answer_eq_hit_iff (h : session.Sound) :
    session.answer limits key = .ok (tree, .hit) ↔ session.Holds key tree := by
  simp [answer_eq_ok_iff h]

theorem answer_eq_miss_iff (h : session.Sound) :
    session.answer limits key = .ok (tree, .miss) ↔
      (∀ found, ¬ session.Holds key found) ∧
        resolve limits session.store.schema? key = .ok tree := by
  simp [answer_eq_ok_iff h]

/-! ## What a step does to the current trees -/

theorem holds_lookup_iff (h : session.Sound) (other : String) :
    (session.step limits (.lookup other)).Holds key tree ↔
      session.Holds key tree ∨
        (other = key ∧ session.answer limits key = .ok (tree, .miss)) := by
  rcases lookup_cases limits h other with
    ⟨found, hfound, -, hsame⟩ | ⟨hnone, -, cache, hstep, -, -, htrees⟩
  · have hhit : ¬ (other = key ∧ session.answer limits key = .ok (tree, .miss)) := by
      rintro ⟨rfl, hmiss⟩
      exact ((answer_eq_miss_iff h).mp hmiss).1 found hfound
    rw [hsame, or_iff_left hhit]
  · rw [hstep, Holds, htrees]
    by_cases hkey : key = other
    · subst hkey
      rw [if_pos rfl, or_iff_right (hnone tree), and_iff_right rfl, answer_eq_miss_iff h,
        and_iff_right hnone]
      cases hresolve : resolve limits session.store.schema? key with
      | error failure => simp [Except.toOption]
      | ok made =>
        have hcurrent : made.current session.store.version? = true :=
          (made.current_iff _).mpr (Tree.version?_of_resolve h.tidy hresolve)
        simp only [Except.toOption, Option.some_inj, Except.ok.injEq]
        exact and_iff_left_of_imp fun heq => heq ▸ hcurrent
    · rw [if_neg hkey]
      have hne : ¬ (other = key ∧ session.answer limits key = .ok (tree, .miss)) :=
        fun heq => hkey heq.1.symm
      rw [or_iff_left hne, Holds]

theorem holds_alter_iff (h : session.Sound) {change : Change} (hunique : change.UniqueIds)
    (hfits : session.store.ChangeFits change) :
    (session.step limits (.alter change)).Holds key tree ↔
      session.Holds key tree ∧
        ∀ id, tree.dependsOn id = true → ¬ change.Touches session.store id := by
  rw [Holds, Holds, and_assoc]
  refine and_congr_right fun htree => ?_
  have hversion (entry) (he : entry ∈ tree.dependencies) :=
    Store.version?_apply_iff h.tidy hunique hfits (h.reached key tree htree entry he)
  rw [Tree.current_iff, Tree.current_iff]
  constructor
  · intro hcurrent
    refine ⟨fun entry he => ((hversion entry he).mp (hcurrent entry he)).1, fun id hid => ?_⟩
    obtain ⟨version, he⟩ := (tree.dependsOn_iff id).mp hid
    exact ((hversion _ he).mp (hcurrent _ he)).2
  · rintro ⟨hcurrent, huntouched⟩ entry he
    have hid : tree.dependsOn entry.1 = true := (tree.dependsOn_iff entry.1).mpr ⟨entry.2, he⟩
    exact (hversion entry he).mpr ⟨hcurrent entry he, huntouched entry.1 hid⟩

theorem holds_invalidate_iff (h : session.Sound) (schema : String) :
    (session.step limits (.invalidate schema)).Holds key tree ↔
      session.Holds key tree ∧ tree.dependsOn schema ≠ true := by
  have hkey : session.cache.tree? key = some tree → tree.dependsOn schema ≠ true →
      key ≠ schema := by
    rintro htree hfree rfl
    exact hfree (h.ownKey key tree htree)
  rw [step, Holds, Cache.tree?_invalidate h.settled, Option.filter_eq_some_iff, Holds]
  simp only [Bool.and_eq_true, decide_eq_true_eq, Bool.not_eq_true']
  grind

/-- A tree is current after a step exactly when it was before and the step does not spoil it, or
when the step has just resolved it. -/
theorem holds_step_iff (h : session.Sound) (hfits : session.StepFits step) :
    (session.step limits step).Holds key tree ↔
      (session.Holds key tree ∧ ¬ step.Spoils session.store tree) ∨
        (step = .lookup key ∧ session.answer limits key = .ok (tree, .miss)) := by
  cases step with
  | lookup other =>
    simpa [SessionStep.Spoils] using holds_lookup_iff h other
  | alter change =>
    obtain ⟨hunique, hchange⟩ := hfits change rfl
    simpa [SessionStep.Spoils] using holds_alter_iff h hunique hchange
  | invalidate schema =>
    simpa [SessionStep.Spoils] using holds_invalidate_iff h schema
  | clear =>
    simp [SessionStep.Spoils, Session.step, Holds]

/-- A tree that is in the cache after a step was there before, or the step has resolved it. -/
theorem Sound.cache_step (limits : Limits) (h : session.Sound) (step : SessionStep) :
    (session.step limits step).cache.enabled = true ∧ (session.step limits step).cache.Settled ∧
      ∀ key tree, (session.step limits step).cache.tree? key = some tree →
        session.cache.tree? key = some tree ∨
          resolve limits session.store.schema? key = .ok tree := by
  cases step with
  | lookup other =>
    rcases lookup_cases limits h other with
      ⟨found, -, -, hsame⟩ | ⟨-, -, cache, hstep, henabled, hsettled, htrees⟩
    · rw [hsame]
      exact ⟨h.enabled, h.settled, fun _ _ => .inl⟩
    · rw [hstep]
      refine ⟨henabled, hsettled, fun key tree htree => ?_⟩
      rw [htrees] at htree
      split at htree
      · next heq =>
        subst heq
        cases hresolve : resolve limits session.store.schema? key with
        | error failure => simp [hresolve, Except.toOption] at htree
        | ok made => exact .inr (by simpa [hresolve, Except.toOption] using htree)
      · exact .inl htree
  | alter change => exact ⟨h.enabled, h.settled, fun _ _ => .inl⟩
  | invalidate schema =>
    refine ⟨h.enabled, h.settled.invalidate schema, fun key tree htree => .inl ?_⟩
    rw [step, Cache.tree?_invalidate h.settled] at htree
    exact Option.eq_some_of_filter_eq_some htree
  | clear => exact ⟨h.enabled, Cache.settled_of_no_slots rfl, nofun⟩

theorem Sound.after_step (h : session.Sound) (hfits : session.StepFits step) :
    (session.step limits step).Sound := by
  obtain ⟨henabled, hsettled, hmade⟩ := h.cache_step limits step
  have htidy : (session.step limits step).store.Tidy := by
    cases step with
    | alter change => exact h.tidy.apply change
    | _ => exact h.tidy
  have hkept {id : String} {version : UInt64} (hreached : session.store.Reached id version) :
      (session.step limits step).store.Reached id version := by
    cases step with
    | alter change =>
      obtain ⟨hunique, hchange⟩ := hfits change rfl
      exact hreached.apply h.tidy hunique hchange
    | _ => exact hreached
  refine ⟨htidy, henabled, hsettled, fun key tree htree => ?_, fun key tree htree entry he => ?_⟩
  · rcases hmade key tree htree with hold | hresolve
    · exact h.ownKey key tree hold
    · exact Tree.dependsOn_of_resolve h.tidy.ownId hresolve
  · rcases hmade key tree htree with hold | hresolve
    · exact hkept (h.reached key tree hold entry he)
    · exact hkept (Store.reached_of_version? (Tree.version?_of_resolve h.tidy hresolve entry he))

/-! ## Whole sessions -/

def Fits (limits : Limits) (session : Session) (steps : List SessionStep) : Prop :=
  ∀ n step, steps[n]? = some step → (session.after limits (steps.take n)).StepFits step

/-- One of the first steps was a lookup of the key that made the tree, and none of those after it
spoiled the tree. -/
def Kept (limits : Limits) (session : Session) (steps : List SessionStep) (n : Nat) (key : String)
    (tree : Tree) : Prop :=
  ∃ i < n, steps[i]? = some (.lookup key) ∧
    (session.after limits (steps.take i)).answer limits key = .ok (tree, .miss) ∧
    ∀ j step, i < j → j < n → steps[j]? = some step →
      ¬ step.Spoils (session.after limits (steps.take j)).store tree

theorem kept_succ_iff {steps : List SessionStep} {n : Nat} (hstep : steps[n]? = some step) :
    session.Kept limits steps (n + 1) key tree ↔
      (session.Kept limits steps n key tree ∧
        ¬ step.Spoils (session.after limits (steps.take n)).store tree) ∨
      (step = .lookup key ∧
        (session.after limits (steps.take n)).answer limits key = .ok (tree, .miss)) := by
  constructor
  · rintro ⟨i, hi, hlookup, hmiss, hunspoiled⟩
    rcases Nat.lt_succ_iff_lt_or_eq.mp hi with hlt | rfl
    · refine .inl ⟨⟨i, hlt, hlookup, hmiss, fun j other hij hj => ?_⟩, ?_⟩
      · exact hunspoiled j other hij (Nat.lt_succ_of_lt hj)
      · exact hunspoiled n step hlt (Nat.lt_succ_self n) hstep
    · cases hstep.symm.trans hlookup
      exact .inr ⟨rfl, hmiss⟩
  · rintro (⟨⟨i, hi, hlookup, hmiss, hunspoiled⟩, hlast⟩ | ⟨rfl, hmiss⟩)
    · refine ⟨i, Nat.lt_succ_of_lt hi, hlookup, hmiss, fun j other hij hj hother => ?_⟩
      rcases Nat.lt_succ_iff_lt_or_eq.mp hj with hlt | rfl
      · exact hunspoiled j other hij hlt hother
      · cases hstep.symm.trans hother
        exact hlast
    · exact ⟨n, Nat.lt_succ_self n, hstep, hmiss, fun j _ hnj hj => by omega⟩

theorem sound_and_holds_iff_kept {steps : List SessionStep} (hsound : session.Sound)
    (hempty : session.cache.slots = []) (hfits : session.Fits limits steps) {n : Nat}
    (hn : n ≤ steps.length) :
    (session.after limits (steps.take n)).Sound ∧ ∀ key tree,
      (session.after limits (steps.take n)).Holds key tree ↔
        session.Kept limits steps n key tree := by
  induction n with
  | zero =>
    refine ⟨hsound, fun key tree => iff_of_false ?_ ?_⟩
    · simp [after, Holds, Cache.tree?, hempty]
    · rintro ⟨i, hi, -⟩
      exact absurd hi (Nat.not_lt_zero i)
  | succ n ih =>
    obtain ⟨hbefore, hholds⟩ := ih (Nat.le_of_succ_le hn)
    have hget : steps[n]? = some steps[n] := List.getElem?_eq_getElem hn
    have hstep := hfits n _ hget
    rw [after_take_succ limits session hget]
    refine ⟨hbefore.after_step hstep, fun key tree => ?_⟩
    rw [holds_step_iff hbefore hstep, kept_succ_iff hget, hholds]

/-- In a session that starts with an empty cache, a lookup is a hit on a tree exactly when an
earlier lookup of the key made the tree and nothing has spoiled it since; every other lookup that
succeeds is a miss. -/
theorem hit_iff_kept {store : Store} (hstore : store.Reachable) (limits : Limits)
    (steps : List SessionStep) (hfits : (start store).Fits limits steps) {n : Nat} {key : String}
    (hlookup : steps[n]? = some (.lookup key)) :
    let answer := ((start store).after limits (steps.take n)).answer limits key
    (∀ tree, answer = .ok (tree, .hit) ↔ (start store).Kept limits steps n key tree) ∧
      ∀ tree outcome, answer = .ok (tree, outcome) → outcome = .hit ∨ outcome = .miss := by
  intro answer
  have hn : n ≤ steps.length := Nat.le_of_lt (List.getElem?_eq_some_iff.mp hlookup).1
  obtain ⟨hsound, hkept⟩ :=
    sound_and_holds_iff_kept (sound_start hstore.tidy) rfl hfits hn
  constructor
  · exact fun tree => (answer_eq_hit_iff hsound).trans (hkept key tree)
  · intro tree outcome hanswer
    rcases (answer_eq_ok_iff hsound).mp hanswer with ⟨-, hhit⟩ | ⟨-, -, hmiss⟩
    · exact .inl hhit
    · exact .inr hmiss

/-- Another schema may be stored, and the same fields given again, without a new resolution. -/
theorem hit_after_unrelated_changes :
    let user := Schema.ofFields "user" []
    let store := Store.ofDefinitions ⟨[user], [], []⟩
    let steps := [SessionStep.lookup "user", .alter (.upsert (.ofFields "other" [])),
      .alter (.replaceAll ⟨[user], [], []⟩), .invalidate "other", .lookup "user"]
    let tree : Tree := ⟨"user", .object "user" [], [("user", 0)]⟩
    store.Reachable ∧ (start store).Fits .standard steps ∧
      (start store).Kept .standard steps 4 "user" tree ∧
      ((start store).after .standard (steps.take 4)).answer .standard "user" =
        .ok (tree, .hit) := by
  intro user store steps tree
  have hstore : store.Reachable := ⟨_, [], rfl⟩
  have hfits : (start store).Fits .standard steps := by
    rintro (_ | _ | _ | _ | _ | n) step hstep change rfl <;> cases hstep
    · exact ⟨trivial, rfl⟩
    · exact ⟨List.nodup_singleton _, rfl⟩
  have hkept : (start store).Kept .standard steps 4 "user" tree := by
    refine ⟨0, by decide, rfl, rfl, ?_⟩
    rintro (_ | _ | _ | _ | j) step hfirst hlast hstep
    · omega
    · cases hstep
      rintro ⟨id, hid, htouch⟩
      cases htouch
      simp [tree, Tree.dependsOn, Keyed.contains, Keyed.find?, Schema.ofFields] at hid
    · cases hstep
      rintro ⟨id, hid, htouch⟩
      obtain rfl : "user" = id := by
        simpa [tree, Tree.dependsOn, Keyed.contains, Keyed.find?] using hid
      rcases htouch with hdropped | ⟨old, new, hold, hnew, -, hdiff⟩
      · exact hdropped user (List.mem_singleton_self user) rfl
      · cases hold
        cases List.mem_singleton.mp hnew
        exact absurd hdiff (by decide)
    · cases hstep
      simp [SessionStep.Spoils, tree, Tree.dependsOn, Keyed.contains, Keyed.find?]
    · omega
  have hhit := ((hit_iff_kept hstore .standard steps hfits rfl).1 tree).mpr hkept
  exact ⟨hstore, hfits, hkept, hhit⟩

end Session
end MockApi
