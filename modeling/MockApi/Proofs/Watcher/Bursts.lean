import MockApi.Watcher

/-! Reloads against the notices that lead to them. A reload stands at the end of each burst that
becomes quiet and nowhere else, so that no change goes without one unless the watch is cut off. -/
namespace MockApi.Watcher

variable {notices : List Notice} {i j k n : Nat}

/-! ## What the notices say -/

/-- A reload comes at this place. -/
def ReloadsAt (notices : List Notice) (j : Nat) : Prop := (idle.answers notices)[j]? = some true

def Connected (notices : List Notice) (n : Nat) : Prop :=
  ∀ k < n, notices[k]? ≠ some .disconnected

/-- A burst that is still open at `j`: a change that comes when every earlier one has been followed
by quiet, and from then on nothing but changes and failures. -/
structure Burst (notices : List Notice) (i j : Nat) : Prop where
  lt : i < j
  opened : notices[i]? = some .change
  fresh : ∀ k < i, notices[k]? = some .change → ∃ l, k < l ∧ l < i ∧ notices[l]? = some .quiet
  kept : ∀ k, i < k → k < j → notices[k]? = some .change ∨ notices[k]? = some .failure
  connected : Connected notices i

/-- Every change before `n` has been followed by a reload. -/
def Answered (notices : List Notice) (n : Nat) : Prop :=
  ∀ k < n, notices[k]? = some .change → ∃ j, k < j ∧ j < n ∧ ReloadsAt notices j

theorem Burst.succ (h : Burst notices i n)
    (hn : notices[n]? = some .change ∨ notices[n]? = some .failure) : Burst notices i (n + 1) := by
  have hlt := h.lt
  refine ⟨by omega, h.opened, h.fresh, ?_, h.connected⟩
  intro k hik hk
  by_cases hkn : k = n
  · exact hkn ▸ hn
  · exact h.kept k hik (by omega)

theorem Burst.connected_end (h : Burst notices i j) : Connected notices j := by
  intro k hk hdisconnected
  rcases Nat.lt_trichotomy k i with hki | hki | hki
  · exact h.connected k hki hdisconnected
  · simp [hki, h.opened] at hdisconnected
  · have hkept := h.kept k hki hk
    simp [hdisconnected] at hkept

/-- No burst becomes quiet before it is over. -/
theorem Burst.not_quiet (h : Burst notices i j) (hik : i ≤ k) (hkj : k < j) :
    notices[k]? ≠ some .quiet := by
  intro hquiet
  by_cases hki : k = i
  · simp [hki, h.opened] at hquiet
  · have hkept := h.kept k (by omega) hkj
    simp [hquiet] at hkept

/-- A burst becomes quiet once. -/
theorem Burst.end_unique {j' : Nat} (h : Burst notices i j) (hj : notices[j]? = some .quiet)
    (h' : Burst notices i j') (hj' : notices[j']? = some .quiet) : j = j' := by
  have hi := h.lt
  have hi' := h'.lt
  rcases Nat.lt_trichotomy j j' with hlt | hsame | hlt
  · exact absurd hj (h'.not_quiet (by omega) hlt)
  · exact hsame
  · exact absurd hj' (h.not_quiet (by omega) hlt)

/-- Two bursts that are open at one place are the same. -/
theorem Burst.start_unique {i' : Nat} (h : Burst notices i j) (h' : Burst notices i' j) : i = i' := by
  have hj := h.lt
  have hj' := h'.lt
  rcases Nat.lt_trichotomy i i' with hlt | hsame | hlt
  · obtain ⟨l, hil, hli, hquiet⟩ := h'.fresh i hlt h.opened
    exact absurd hquiet (h.not_quiet (by omega) (by omega))
  · exact hsame
  · obtain ⟨l, hil, hli, hquiet⟩ := h.fresh i' hlt h'.opened
    exact absurd hquiet (h'.not_quiet (by omega) (by omega))

/-! ## What the watcher does at a place -/

theorem after_take_succ (state : Watcher) {notice : Notice} (h : notices[n]? = some notice) :
    state.after (notices.take (n + 1)) = (state.after (notices.take n)).next notice := by
  rw [List.take_add_one, h, Option.toList_some, after_append]
  rfl

theorem getElem?_answers (state : Watcher) (notices : List Notice) (j : Nat) :
    (state.answers notices)[j]? = notices[j]?.map (state.after (notices.take j)).reloads := by
  induction notices generalizing state j with
  | nil => rfl
  | cons notice rest ih =>
    cases j with
    | zero => rfl
    | succ j => simpa [answers] using ih (state.next notice) j

theorem reloadsAt_iff :
    ReloadsAt notices j ↔ idle.after (notices.take j) = burst ∧ notices[j]? = some .quiet := by
  rw [ReloadsAt, getElem?_answers, Option.map_eq_some_iff]
  constructor
  · intro h
    obtain ⟨notice, hnotice, hreloads⟩ := h
    have hboth : idle.after (notices.take j) = burst ∧ notice = .quiet := by
      simpa [reloads] using hreloads
    exact ⟨hboth.1, hboth.2 ▸ hnotice⟩
  · intro h
    exact ⟨.quiet, h.2, by simp [reloads, h.1]⟩

/-- What the notices so far say about the state. -/
inductive Standing (notices : List Notice) (n : Nat) : Watcher → Prop where
  | settled (connected : Connected notices n) (answered : Answered notices n) : Standing notices n .idle
  | within (i : Nat) (isOpen : Burst notices i n) (answered : Answered notices i) :
      Standing notices n .burst
  | cutOff (d : Nat) (lt : d < n) (cut : notices[d]? = some .disconnected) :
      Standing notices n .stopped

theorem Connected.succ (h : Connected notices n) (hn : notices[n]? ≠ some .disconnected) :
    Connected notices (n + 1) := by
  intro k hk
  by_cases hkn : k = n
  · exact hkn ▸ hn
  · exact h k (by omega)

theorem Answered.succ (h : Answered notices n) (hn : notices[n]? ≠ some .change) :
    Answered notices (n + 1) := by
  intro k hk hchange
  by_cases hkn : k = n
  · exact absurd (hkn ▸ hchange) hn
  · obtain ⟨j, hkj, hj, hreloads⟩ := h k (by omega) hchange
    exact ⟨j, hkj, by omega, hreloads⟩

/-- A reload answers every change before it. -/
theorem answered_of_reloadsAt (h : ReloadsAt notices n) : Answered notices (n + 1) := by
  intro k hk hchange
  have hquiet := (reloadsAt_iff.mp h).2
  have hne : k ≠ n := by
    intro heq
    simp [← heq, hchange] at hquiet
  exact ⟨n, by omega, by omega, h⟩

/-- A change that comes when all others are answered opens a burst. -/
theorem burst_of_answered (hconnected : Connected notices n) (hanswered : Answered notices n)
    (hn : notices[n]? = some .change) : Burst notices n (n + 1) := by
  refine ⟨by omega, hn, ?_, fun k hlow hhigh => by omega, hconnected⟩
  intro k hk hchange
  obtain ⟨j, hkj, hj, hreloads⟩ := hanswered k hk hchange
  exact ⟨j, hkj, hj, (reloadsAt_iff.mp hreloads).2⟩

theorem Standing.succ {state : Watcher} {notice : Notice} (h : Standing notices n state)
    (hstate : idle.after (notices.take n) = state) (hn : notices[n]? = some notice) :
    Standing notices (n + 1) (state.next notice) := by
  cases h with
  | settled connected answered =>
    cases notice with
    | change => exact .within n (burst_of_answered connected answered hn) answered
    | failure => exact .settled (connected.succ (by simp [hn])) (answered.succ (by simp [hn]))
    | quiet => exact .settled (connected.succ (by simp [hn])) (answered.succ (by simp [hn]))
    | disconnected => exact .cutOff n (by omega) hn
  | within i isOpen answered =>
    cases notice with
    | change => exact .within i (isOpen.succ (.inl hn)) answered
    | failure => exact .within i (isOpen.succ (.inr hn)) answered
    | quiet =>
      have hreloads : ReloadsAt notices n := reloadsAt_iff.mpr ⟨hstate, hn⟩
      exact .settled (isOpen.connected_end.succ (by simp [hn])) (answered_of_reloadsAt hreloads)
    | disconnected => exact .cutOff n (by omega) hn
  | cutOff d lt cut => exact .cutOff d (by omega) cut

theorem standing_after_take (hn : n ≤ notices.length) :
    Standing notices n (idle.after (notices.take n)) := by
  induction n with
  | zero => exact .settled (fun k hk => by omega) (fun k hk => by omega)
  | succ n ih =>
    have hnotice : notices[n]? = some notices[n] := List.getElem?_eq_getElem hn
    rw [after_take_succ idle hnotice]
    exact (ih (by omega)).succ rfl hnotice

/-- A burst is open exactly where the watcher waits for quiet. -/
theorem after_take_eq_burst_iff (hj : j ≤ notices.length) :
    idle.after (notices.take j) = burst ↔ ∃ i, Burst notices i j := by
  have hstanding := standing_after_take hj
  constructor
  · intro hstate
    rw [hstate] at hstanding
    cases hstanding with
    | within i isOpen answered => exact ⟨i, isOpen⟩
  · intro h
    obtain ⟨i, hburst⟩ := h
    generalize idle.after (notices.take j) = state at hstanding
    cases hstanding with
    | settled connected answered =>
      obtain ⟨l, hil, hlj, hreloads⟩ := answered i hburst.lt hburst.opened
      exact absurd (reloadsAt_iff.mp hreloads).2 (hburst.not_quiet (by omega) hlj)
    | within i isOpen answered => rfl
    | cutOff d lt cut => exact absurd cut (hburst.connected_end d lt)

theorem reloadsAt_iff_burst :
    ReloadsAt notices j ↔ ∃ i, Burst notices i j ∧ notices[j]? = some .quiet := by
  rw [reloadsAt_iff, exists_and_right]
  refine and_congr_left fun hquiet => after_take_eq_burst_iff ?_
  have hlt := (List.getElem?_eq_some_iff.mp hquiet).1
  omega

/-! ## Disconnection -/

/-- Once the watch is cut off nothing comes any more. -/
theorem lt_of_reloadsAt {d : Nat} (hcut : notices[d]? = some .disconnected)
    (h : ReloadsAt notices j) : j < d := by
  obtain ⟨i, hburst, hquiet⟩ := reloadsAt_iff_burst.mp h
  have hne : d ≠ j := by
    intro heq
    simp [heq, hquiet] at hcut
  have hle : ¬ d < j := fun hlt => hburst.connected_end d hlt hcut
  omega

theorem after_take_eq_stopped {d : Nat} (hcut : notices[d]? = some .disconnected) (hd : d < n)
    (hn : n ≤ notices.length) : idle.after (notices.take n) = stopped := by
  have hstanding := standing_after_take hn
  generalize idle.after (notices.take n) = state at hstanding
  cases hstanding with
  | settled connected answered => exact absurd hcut (connected d hd)
  | within i isOpen answered => exact absurd hcut (isOpen.connected_end d hd)
  | cutOff d lt cut => rfl

/-- Where the watch is cut off, a change has been answered or its burst is still open. -/
theorem answered_or_open {d : Nat} (hcut : notices[d]? = some .disconnected)
    (hfirst : Connected notices d) (hk : k < d) (hchange : notices[k]? = some .change) :
    (∃ j, k < j ∧ j < d ∧ ReloadsAt notices j) ∨ ∃ i ≤ k, Burst notices i d := by
  have hd := (List.getElem?_eq_some_iff.mp hcut).1
  have hstanding := standing_after_take (Nat.le_of_lt hd)
  generalize idle.after (notices.take d) = state at hstanding
  cases hstanding with
  | settled connected answered => exact .inl (answered k hk hchange)
  | within i isOpen answered =>
    by_cases hki : k < i
    · obtain ⟨j, hkj, hj, hreloads⟩ := answered k hki hchange
      have hlt := isOpen.lt
      exact .inl ⟨j, hkj, by omega, hreloads⟩
    · exact .inr ⟨i, by omega, isOpen⟩
  | cutOff earlier lt cut => exact absurd cut (hfirst earlier lt)

/-! ## All notices -/

/-- A reload comes exactly at the end of each burst that becomes quiet, and once for each; there is
a change between two reloads and before the first. While the watcher is idle every change has been
followed by a reload. When it is cut off, only the changes of a burst that is open then have not,
and from then on it has stopped. -/
theorem reloads_follow_bursts (notices : List Notice) :
    (∀ j, ReloadsAt notices j ↔ ∃ i, Burst notices i j ∧ notices[j]? = some .quiet) ∧
    (∀ i i' j j', Burst notices i j → notices[j]? = some .quiet → Burst notices i' j' →
      notices[j']? = some .quiet → (i = i' ↔ j = j')) ∧
    (∀ j, ReloadsAt notices j → ∃ k < j, notices[k]? = some .change ∧
      ∀ earlier < j, ReloadsAt notices earlier → earlier < k) ∧
    (∀ n ≤ notices.length, idle.after (notices.take n) = .idle → Answered notices n) ∧
    ∀ d, notices[d]? = some .disconnected → Connected notices d →
      (∀ k < d, notices[k]? = some .change →
        (∃ j, k < j ∧ j < d ∧ ReloadsAt notices j) ∨ ∃ i ≤ k, Burst notices i d) ∧
      (∀ n ≤ notices.length, d < n → idle.after (notices.take n) = .stopped) ∧
      ∀ j, ReloadsAt notices j → j < d := by
  refine ⟨fun j => reloadsAt_iff_burst, ?_, ?_, ?_, ?_⟩
  · intro i i' j j' h hj h' hj'
    constructor
    · intro heq
      subst heq
      exact h.end_unique hj h' hj'
    · intro heq
      subst heq
      exact h.start_unique h'
  · intro j hreloads
    obtain ⟨i, hburst, hquiet⟩ := reloadsAt_iff_burst.mp hreloads
    refine ⟨i, hburst.lt, hburst.opened, ?_⟩
    intro earlier hearlier hother
    have hbefore : ¬ i ≤ earlier := by
      intro hle
      exact hburst.not_quiet hle hearlier (reloadsAt_iff.mp hother).2
    omega
  · intro n hn hidle
    have hstanding := standing_after_take hn
    rw [hidle] at hstanding
    cases hstanding with
    | settled connected answered => exact answered
  · intro d hcut hfirst
    exact ⟨fun k => answered_or_open hcut hfirst, fun n hn hd => after_take_eq_stopped hcut hd hn,
      fun j => lt_of_reloadsAt hcut⟩

/-- Two bursts, the first with an error inside, and one that is cut off. -/
example : idle.answers [.failure, .change, .failure, .change, .quiet, .change, .quiet, .change,
    .disconnected, .quiet] =
      [false, false, false, false, true, false, true, false, false, false] := by
  decide

end MockApi.Watcher
