import MockApi.Cache.Basic
import MockApi.Proofs.Keyed

/-! The cache of callers that come one after the other. Between two lookups every slot holds a tree,
so that the cache is known by the trees that its keys lead to. -/
namespace MockApi.Cache

/-- Every key has one slot, and it leads to a tree. -/
structure Settled (cache : Cache) : Prop where
  unique : Keyed.Unique cache.slots
  filled : ∀ key, (Keyed.find? key cache.slots).isSome → (cache.tree? key).isSome

/-- A lookup that finds nothing that is current: the key leads to a new slot, whatever it led to
before. -/
def opened (cache : Cache) (key : String) : Cache :=
  { cache with
    slots := Keyed.insert key cache.cells.length (Keyed.erase key cache.slots)
    cells := cache.cells ++ [none] }

variable {cache after : Cache} {key other : String} {backing : Backing}

theorem settled_of_no_slots (h : cache.slots = []) : cache.Settled := by
  constructor
  · simp [h, Keyed.Unique, Keyed.keys]
  · simp [h]

theorem Settled.lt_length (h : cache.Settled) {n : Nat}
    (hn : Keyed.find? key cache.slots = some n) : n < cache.cells.length := by
  have hsome := h.filled key (by simp [hn])
  rw [tree?, hn, Option.bind_some, cell?] at hsome
  refine Nat.lt_of_not_le fun hge => ?_
  rw [List.getElem?_eq_none hge] at hsome
  simp at hsome

/-- A key that keeps its slot keeps its tree as long as the slot does. -/
theorem Settled.tree?_eq (h : cache.Settled)
    (hslot : Keyed.find? key after.slots = Keyed.find? key cache.slots)
    (hcell : ∀ n < cache.cells.length, after.cell? n = cache.cell? n) :
    after.tree? key = cache.tree? key := by
  rw [tree?, tree?, hslot]
  cases hn : Keyed.find? key cache.slots with
  | none => rfl
  | some n => exact hcell n (h.lt_length hn)

/-! ## Opening, filling and abandoning a slot -/

theorem find?_slots_opened_of_ne (cache : Cache) (h : other ≠ key) :
    Keyed.find? other (cache.opened key).slots = Keyed.find? other cache.slots := by
  rw [opened, Keyed.find?_insert_of_ne h, Keyed.find?_erase_of_ne h]

theorem cell?_opened_self (cache : Cache) (key : String) :
    (cache.opened key).cell? cache.cells.length = none := by
  simp [opened, cell?]

theorem cell?_opened_of_lt (key : String) {n : Nat} (h : n < cache.cells.length) :
    (cache.opened key).cell? n = cache.cell? n := by
  simp [opened, cell?, List.getElem?_append_left h]

theorem enter_of_not_current {version? : String → Option UInt64} (h : cache.Settled)
    (hstale : ∀ tree, cache.tree? key = some tree → tree.current version? = false) :
    cache.enter version? key = (.slot cache.cells.length, cache.opened key) := by
  unfold enter
  cases hn : Keyed.find? key cache.slots with
  | none =>
    have herase : Keyed.erase key cache.slots = cache.slots := by
      refine List.filter_eq_self.mpr fun entry he => ?_
      have hkey : key ∉ Keyed.keys cache.slots := by simp [Keyed.mem_keys_iff_find?, hn]
      have hne : entry.1 ≠ key := fun heq => hkey (heq ▸ List.mem_map_of_mem he)
      simpa using hne
    simp [allot, opened, herase]
  | some n =>
    have htree : cache.tree? key = cache.cell? n := by rw [tree?, hn, Option.bind_some]
    obtain ⟨tree, hcell⟩ := Option.isSome_iff_exists.mp (h.filled key (by simp [hn]))
    have hcurrent := hstale tree hcell
    rw [htree] at hcell
    simp [hcell, hcurrent, allot, opened]

theorem tree?_fill_opened (h : cache.Settled) (key other : String) (tree : Tree) :
    ((cache.opened key).fill cache.cells.length tree).tree? other =
      if other = key then some tree else cache.tree? other := by
  split
  · next heq =>
    subst heq
    simp [tree?, fill, opened, cell?]
  · next hne =>
    refine h.tree?_eq (find?_slots_opened_of_ne cache hne) fun n hn => ?_
    rw [← cell?_opened_of_lt key hn, cell?, fill, List.getElem?_set_ne (by omega), cell?]

theorem settled_fill_opened (h : cache.Settled) (key : String) (tree : Tree) :
    ((cache.opened key).fill cache.cells.length tree).Settled := by
  refine ⟨Keyed.unique_insert (Keyed.unique_erase h.unique key) _ _, fun other hother => ?_⟩
  rw [tree?_fill_opened h]
  split
  · rfl
  · next hne =>
    rw [fill, find?_slots_opened_of_ne cache hne] at hother
    exact h.filled other hother

theorem abandon_opened (cache : Cache) (key : String) :
    (cache.opened key).abandon key cache.cells.length =
      { cache.opened key with slots := Keyed.erase key (cache.opened key).slots } := by
  have hslot : Keyed.find? key (cache.opened key).slots = some cache.cells.length :=
    Keyed.find?_insert_self _ _ _
  simp [abandon, hslot, cell?_opened_self]

theorem tree?_abandon_opened (h : cache.Settled) (key other : String) :
    ((cache.opened key).abandon key cache.cells.length).tree? other =
      if other = key then none else cache.tree? other := by
  rw [abandon_opened]
  split
  · next heq =>
    subst heq
    simp [tree?, Keyed.find?_erase_self]
  · next hne =>
    refine h.tree?_eq ?_ fun n hn => cell?_opened_of_lt key hn
    exact (Keyed.find?_erase_of_ne hne _).trans (find?_slots_opened_of_ne cache hne)

theorem settled_abandon_opened (h : cache.Settled) (key : String) :
    ((cache.opened key).abandon key cache.cells.length).Settled := by
  constructor
  · rw [abandon_opened]
    exact Keyed.unique_erase (Keyed.unique_insert (Keyed.unique_erase h.unique key) _ _) key
  · intro other hother
    rw [tree?_abandon_opened h]
    rw [abandon_opened] at hother
    split
    · next heq =>
      subst heq
      simp [Keyed.find?_erase_self] at hother
    · next hne =>
      rw [Keyed.find?_erase_of_ne hne, find?_slots_opened_of_ne cache hne] at hother
      exact h.filled other hother

/-! ## What an operation does to the trees -/

/-- How a tree was found is left out again. -/
theorem map_fst_map (result : Except Failure Tree) (outcome : Outcome) :
    (result.map fun tree => (tree, outcome)).map Prod.fst = result := by
  cases result <;> rfl

theorem lookup_of_current {tree : Tree} (henabled : cache.enabled = true)
    (htree : cache.tree? key = some tree) (hcurrent : tree.current backing.version? = true) :
    cache.lookup backing key = (.ok (tree, .hit), cache) := by
  obtain ⟨n, hn, hcell⟩ := Option.bind_eq_some_iff.mp htree
  simp [lookup, henabled, enter, hn, hcell, hcurrent]

/-- Without a current tree the key is resolved, and it leads to what comes out. -/
theorem lookup_of_not_current (h : cache.Settled) (henabled : cache.enabled = true)
    (hstale : ∀ tree, cache.tree? key = some tree → tree.current backing.version? = false) :
    ∃ after, cache.lookup backing key =
        ((backing.resolve key).map fun tree => (tree, Outcome.miss), after) ∧
      after.enabled = true ∧ after.Settled ∧ ∀ other, after.tree? other =
        if other = key then (backing.resolve key).toOption else cache.tree? other := by
  simp only [lookup, henabled, enter_of_not_current h hstale, cell?_opened_self]
  cases hresolve : backing.resolve key with
  | ok tree =>
    exact ⟨_, rfl, henabled, settled_fill_opened h key tree,
      fun other => tree?_fill_opened h key other tree⟩
  | error failure =>
    refine ⟨_, rfl, ?_, settled_abandon_opened h key, fun other => tree?_abandon_opened h key other⟩
    rw [abandon_opened]
    exact henabled

theorem snd_of_map_eq_ok {result : Except Failure Tree} {outcome : Outcome}
    {found : Tree × Outcome} (h : (result.map fun tree => (tree, outcome)) = .ok found) :
    found.2 = outcome := by
  cases result with
  | error failure => cases h
  | ok tree =>
    cases h
    rfl

/-- A lookup passes by the cache exactly where it is switched off. -/
theorem Settled.lookup (h : cache.Settled) (backing : Backing) (key : String) :
    (cache.lookup backing key).2.Settled ∧ (cache.lookup backing key).2.enabled = cache.enabled ∧
      ∀ found, (cache.lookup backing key).1 = .ok found →
        (found.2 = .bypass ↔ cache.enabled = false) := by
  cases henabled : cache.enabled with
  | false =>
    rw [lookup_of_not_enabled henabled]
    exact ⟨h, henabled, fun found hfound => by simp [snd_of_map_eq_ok hfound]⟩
  | true =>
    by_cases hcurrent : ∃ tree, cache.tree? key = some tree ∧ tree.current backing.version? = true
    · obtain ⟨tree, htree, hcurrent⟩ := hcurrent
      rw [lookup_of_current henabled htree hcurrent]
      refine ⟨h, henabled, ?_⟩
      intro found hfound
      cases hfound
      simp
    · have hstale : ∀ tree, cache.tree? key = some tree →
          tree.current backing.version? = false := fun tree htree =>
        Bool.eq_false_iff.mpr fun htrue => hcurrent ⟨tree, htree, htrue⟩
      obtain ⟨after, hlookup, hafter, hsettled, -⟩ := lookup_of_not_current h henabled hstale
      rw [hlookup]
      exact ⟨hsettled, hafter, fun found hfound => by simp [snd_of_map_eq_ok hfound]⟩

theorem tree?_invalidate (h : cache.Settled) (schema key : String) :
    (cache.invalidate schema).tree? key =
      (cache.tree? key).filter fun tree => key ≠ schema && !tree.dependsOn schema := by
  simp only [tree?, invalidate, Keyed.find?_filter h.unique]
  cases hn : Keyed.find? key cache.slots with
  | none => rfl
  | some n =>
    obtain ⟨tree, htree⟩ := Option.isSome_iff_exists.mp (h.filled key (by simp [hn]))
    rw [tree?, hn, Option.bind_some] at htree
    simp only [Option.bind_some, htree, Option.filter_some, Option.map_some, Option.getD_some]
    split
    · exact htree
    · rfl

theorem Settled.invalidate (h : cache.Settled) (schema : String) :
    (cache.invalidate schema).Settled := by
  refine ⟨Keyed.unique_filter h.unique _, fun key hkey => ?_⟩
  obtain ⟨n, hn⟩ := Option.isSome_iff_exists.mp hkey
  have hold : Keyed.find? key cache.slots = some n := by
    rw [Cache.invalidate, Keyed.find?_filter h.unique] at hn
    exact Option.eq_some_of_filter_eq_some hn
  have hfilled := h.filled key (by simp [hold])
  rw [tree?, hold, Option.bind_some] at hfilled
  rw [tree?, hn, Option.bind_some]
  exact hfilled

end MockApi.Cache
