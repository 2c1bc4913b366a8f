/-!
Lists of named entries, read by name and kept in the order in which the names first appeared.
Lookups after an insertion or an erasure are stated through `find?`.
-/
namespace MockApi

/-- Entries under string names, the oldest name first. -/
abbrev Keyed (α : Type) := List (String × α)

namespace Keyed

variable {α β : Type}

def find? (name : String) : Keyed α → Option α
  | [] => none
  | (key, value) :: rest => if key = name then some value else find? name rest

/-- A known name keeps its place and takes the new value; a new name goes to the end. -/
def insert (name : String) (value : α) : Keyed α → Keyed α
  | [] => [(name, value)]
  | (key, old) :: rest =>
      if key = name then (name, value) :: rest else (key, old) :: insert name value rest

def erase (name : String) (entries : Keyed α) : Keyed α :=
  entries.filter (fun entry => entry.1 ≠ name)

def keys (entries : Keyed α) : List String := entries.map (·.1)

def contains (name : String) (entries : Keyed α) : Bool := (find? name entries).isSome

/-- Inserts every entry in turn, so that the last value of a name stands at its first place. -/
def ofEntries (entries : List (String × α)) : Keyed α :=
  entries.foldl (fun acc entry => insert entry.1 entry.2 acc) []

def byId (id : α → String) (values : List α) : Keyed α :=
  ofEntries (values.map fun value => (id value, value))

def Unique (entries : Keyed α) : Prop := (keys entries).Nodup

def sorted (entries : Keyed α) : Keyed α :=
  entries.mergeSort (fun a b => decide (a.1 ≤ b.1))

@[simp] theorem find?_nil (name : String) : find? name ([] : Keyed α) = none := rfl

theorem find?_cons (name key : String) (value : α) (rest : Keyed α) :
    find? name ((key, value) :: rest) = if key = name then some value else find? name rest := rfl

@[simp] theorem find?_insert_self (name : String) (value : α) (entries : Keyed α) :
    find? name (insert name value entries) = some value := by
  induction entries with
  | nil => simp [insert, find?]
  | cons entry rest ih =>
    obtain ⟨key, old⟩ := entry
    by_cases h : key = name <;> simp [insert, find?, h, ih]

theorem find?_insert_of_ne {name other : String} (h : other ≠ name) (value : α)
    (entries : Keyed α) : find? other (insert name value entries) = find? other entries := by
  induction entries with
  | nil => simp [insert, find?, Ne.symm h]
  | cons entry rest ih =>
    obtain ⟨key, old⟩ := entry
    by_cases hk : key = name
    · subst hk
      simp [insert, find?, Ne.symm h]
    · simp [insert, find?, hk, ih]

theorem find?_erase_self (name : String) (entries : Keyed α) :
    find? name (erase name entries) = none := by
  induction entries with
  | nil => rfl
  | cons entry rest ih =>
    obtain ⟨key, old⟩ := entry
    by_cases h : key = name
    · simpa [erase, h] using ih
    · simpa [erase, h, find?] using ih

theorem find?_erase_of_ne {name other : String} (h : other ≠ name) (entries : Keyed α) :
    find? other (erase name entries) = find? other entries := by
  induction entries with
  | nil => rfl
  | cons entry rest ih =>
    obtain ⟨key, old⟩ := entry
    by_cases hk : key = name
    · subst hk
      simpa [erase, find?, Ne.symm h] using ih
    · by_cases ho : key = other
      · simp [erase, find?, ho, h]
      · simpa [erase, find?, hk, ho] using ih

theorem mem_keys_iff_find? (name : String) (entries : Keyed α) :
    name ∈ keys entries ↔ (find? name entries).isSome := by
  induction entries with
  | nil => simp [keys]
  | cons entry rest ih =>
    obtain ⟨key, value⟩ := entry
    by_cases h : key = name
    · simp [keys, find?, h]
    · simpa [keys, find?, h, Ne.symm h] using ih

theorem mem_keys_insert (other name : String) (value : α) (entries : Keyed α) :
    other ∈ keys (insert name value entries) ↔ other = name ∨ other ∈ keys entries := by
  induction entries with
  | nil => simp [insert, keys]
  | cons entry rest ih =>
    obtain ⟨key, old⟩ := entry
    by_cases h : key = name
    · subst h
      simp [insert, keys]
    · simp only [keys] at ih
      simp only [insert, h, ↓reduceIte, keys, List.map_cons, List.mem_cons, ih]
      exact or_left_comm

theorem unique_insert {entries : Keyed α} (h : Unique entries) (name : String) (value : α) :
    Unique (insert name value entries) := by
  induction entries with
  | nil => simp [insert, Unique, keys]
  | cons entry rest ih =>
    obtain ⟨key, old⟩ := entry
    have hn : key ∉ keys rest ∧ Unique rest := by simpa [Unique, keys] using h
    by_cases hk : key = name
    · subst hk
      simpa [insert, Unique, keys] using h
    · have hm : key ∉ keys (insert name value rest) := by
        rw [mem_keys_insert]
        exact fun hc => hc.elim hk hn.1
      have := ih hn.2
      simp only [insert, hk, ↓reduceIte, Unique, keys, List.map_cons, List.nodup_cons]
      exact ⟨hm, this⟩

theorem unique_ofEntries (entries : List (String × α)) : Unique (ofEntries entries) := by
  have go : ∀ (rest : List (String × α)) (acc : Keyed α), Unique acc →
      Unique (rest.foldl (fun acc entry => insert entry.1 entry.2 acc) acc) := by
    intro rest
    induction rest with
    | nil => exact fun _ h => h
    | cons entry rest ih => exact fun acc h => ih _ (unique_insert h _ _)
  exact go entries [] (by simp [Unique, keys])

theorem insert_of_not_mem {name : String} {entries : Keyed α} (h : name ∉ keys entries)
    (value : α) : insert name value entries = entries ++ [(name, value)] := by
  induction entries with
  | nil => rfl
  | cons entry rest ih =>
    obtain ⟨key, old⟩ := entry
    simp only [keys, List.map_cons, List.mem_cons, not_or] at h
    simp [insert, Ne.symm h.1, ih h.2]

/-- Names that do not repeat are kept as they are. -/
theorem ofEntries_eq_self {entries : Keyed α} (h : Unique entries) : ofEntries entries = entries := by
  have go : ∀ (rest acc : Keyed α), Unique (acc ++ rest) →
      rest.foldl (fun acc entry => insert entry.1 entry.2 acc) acc = acc ++ rest := by
    intro rest
    induction rest with
    | nil => simp
    | cons entry rest ih =>
      intro acc h
      have hk : entry.1 ∉ keys acc := by
        intro hm
        have hd := (List.nodup_append.mp (by simpa [Unique, keys] using h)).2.2
        exact hd entry.1 (by simpa [keys] using hm) entry.1 (by simp) rfl
      have := ih (acc ++ [entry]) (by simpa using h)
      simpa [insert_of_not_mem hk] using this
  simpa [ofEntries] using go entries [] (by simpa using h)

end Keyed
end MockApi
