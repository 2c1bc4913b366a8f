import MockApi.Keyed

/-! Lookups in lists of named entries that repeat no name. -/
namespace MockApi.Keyed

variable {α : Type}

theorem find?_of_mem {entries : Keyed α} (h : Unique entries) {entry : String × α}
    (he : entry ∈ entries) : find? entry.1 entries = some entry.2 := by
  induction entries with
  | nil => simp at he
  | cons first rest ih =>
    have hn : first.1 ∉ keys rest ∧ Unique rest := by simpa [Unique, keys] using h
    rcases List.mem_cons.mp he with rfl | he
    · simp [find?]
    · have hk : first.1 ≠ entry.1 := by
        intro hk
        exact hn.1 (hk ▸ List.mem_map_of_mem he)
      simpa [find?, hk] using ih hn.2 he

theorem mem_of_find? {entries : Keyed α} {name : String} {value : α}
    (h : find? name entries = some value) : (name, value) ∈ entries := by
  induction entries with
  | nil => simp at h
  | cons entry rest ih =>
    obtain ⟨key, first⟩ := entry
    by_cases hk : key = name
    · have hv : first = value := by simpa [find?, hk] using h
      simp [hk, hv]
    · exact List.mem_cons_of_mem _ (ih (by simpa [find?, hk] using h))

/-- A name has one value. -/
theorem eq_of_mem {entries : Keyed α} (h : Unique entries) {name : String} {value other : α}
    (hvalue : (name, value) ∈ entries) (hother : (name, other) ∈ entries) : value = other :=
  Option.some.inj ((find?_of_mem h hvalue).symm.trans (find?_of_mem h hother))

theorem unique_filter {entries : Keyed α} (h : Unique entries) (keep : String × α → Bool) :
    Unique (entries.filter keep) :=
  h.sublist (List.filter_sublist.map _)

theorem unique_erase {entries : Keyed α} (h : Unique entries) (name : String) :
    Unique (erase name entries) :=
  unique_filter h _

theorem mem_of_mem_erase {entries : Keyed α} {name : String} {entry : String × α}
    (h : entry ∈ erase name entries) : entry ∈ entries :=
  (List.mem_filter.mp h).1

theorem mem_keys_erase {other name : String} {entries : Keyed α} :
    other ∈ keys (erase name entries) ↔ other ≠ name ∧ other ∈ keys entries := by
  simp only [keys, erase, List.mem_map, List.mem_filter, decide_eq_true_eq]
  constructor
  · rintro ⟨entry, ⟨he, hne⟩, rfl⟩
    exact ⟨hne, entry, he, rfl⟩
  · rintro ⟨hne, entry, he, rfl⟩
    exact ⟨entry, ⟨he, hne⟩, rfl⟩

/-- Without repeated names nothing comes to light behind an entry that is dropped. -/
theorem find?_filter {entries : Keyed α} (h : Unique entries) (keep : String × α → Bool)
    (name : String) : find? name (entries.filter keep) =
      (find? name entries).filter fun value => keep (name, value) := by
  induction entries with
  | nil => rfl
  | cons entry rest ih =>
    obtain ⟨key, value⟩ := entry
    have hn : key ∉ keys rest ∧ Unique rest := by simpa [Unique, keys] using h
    by_cases hk : key = name
    · subst hk
      have hrest : find? key rest = none := by
        simpa [mem_keys_iff_find?] using hn.1
      cases hkeep : keep (key, value) with
      | true => simp [find?, hkeep, Option.filter_some]
      | false => simpa [find?, hkeep, hrest, Option.filter_some] using ih hn.2
    · cases hkeep : keep (key, value) with
      | true => simpa [find?, hkeep, hk] using ih hn.2
      | false => simpa [find?, hkeep, hk] using ih hn.2

/-! ## Entries that are inserted one after the other -/

theorem mem_of_mem_insert {name : String} {value : α} {entries : Keyed α} {entry : String × α}
    (h : entry ∈ insert name value entries) : entry = (name, value) ∨ entry ∈ entries := by
  induction entries with
  | nil => simpa [insert] using h
  | cons first rest ih =>
    obtain ⟨key, old⟩ := first
    by_cases hk : key = name
    · simp only [insert, hk, ↓reduceIte, List.mem_cons] at h
      exact h.imp_right (List.mem_cons_of_mem _)
    · simp only [insert, hk, ↓reduceIte, List.mem_cons] at h
      rcases h with rfl | h
      · exact Or.inr List.mem_cons_self
      · exact (ih h).imp_right (List.mem_cons_of_mem _)

theorem mem_of_mem_ofEntries {entries : List (String × α)} {entry : String × α}
    (h : entry ∈ ofEntries entries) : entry ∈ entries := by
  have go : ∀ (rest : List (String × α)) (acc : Keyed α),
      entry ∈ rest.foldl (fun acc entry => insert entry.1 entry.2 acc) acc →
        entry ∈ acc ∨ entry ∈ rest := by
    intro rest
    induction rest with
    | nil => exact fun acc h => Or.inl h
    | cons first rest ih =>
      intro acc h
      rcases ih _ h with h | h
      · rcases mem_of_mem_insert h with rfl | h
        · exact Or.inr List.mem_cons_self
        · exact Or.inl h
      · exact Or.inr (List.mem_cons_of_mem _ h)
  simpa using go entries [] h

theorem mem_keys_ofEntries (name : String) (entries : List (String × α)) :
    name ∈ keys (ofEntries entries) ↔ name ∈ keys entries := by
  have go : ∀ (rest : List (String × α)) (acc : Keyed α),
      name ∈ keys (rest.foldl (fun acc entry => insert entry.1 entry.2 acc) acc) ↔
        name ∈ keys acc ∨ name ∈ keys rest := by
    intro rest
    induction rest with
    | nil => simp [keys]
    | cons first rest ih =>
      intro acc
      rw [List.foldl_cons, ih, mem_keys_insert, or_comm (a := (name = first.1)), or_assoc]
      simp only [keys, List.map_cons, List.mem_cons]
  exact (go entries []).trans (by simp [keys])

end MockApi.Keyed
