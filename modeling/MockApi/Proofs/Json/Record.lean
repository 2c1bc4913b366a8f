import MockApi.Definition.Codec

/-! Records in JSON: what was written under some names is read under them; and what holds of all
values that a decoder accepts. -/
namespace MockApi

open Json (required optional orElse listOf?)

namespace Json

variable {α : Type} {name other : String} {value : Json} {members : List (String × Json)}
  {entries : List (String × Option Json)}

theorem member?_cons_of_ne (h : other ≠ name) :
    member? name ((other, value) :: members) = member? name members := by
  rw [member?, member?, List.filter_cons_of_neg (by simpa using h)]

theorem member?_of_not_mem (h : name ∉ Keyed.keys members) : member? name members = some none := by
  induction members with
  | nil => rfl
  | cons entry rest ih =>
    obtain ⟨key, value⟩ := entry
    simp only [Keyed.keys, List.map_cons, List.mem_cons, not_or] at h
    rw [member?_cons_of_ne (Ne.symm h.1)]
    exact ih h.2

theorem member?_cons_self (h : name ∉ Keyed.keys members) :
    member? name ((name, value) :: members) = some (some value) := by
  have hrest : members.filter (fun entry => entry.1 = name) = [] := by
    refine List.filter_eq_nil_iff.mpr fun entry hentry heq => h ?_
    rw [← of_decide_eq_true heq]
    exact List.mem_map_of_mem hentry
  rw [member?, List.filter_cons_of_pos (by simp), hrest]

/-- The members that are there. -/
def present (entries : List (String × Option Json)) : List (String × Json) :=
  entries.filterMap fun entry => entry.2.map fun value => (entry.1, value)

theorem mem_keys_of_mem_keys_present (h : name ∈ Keyed.keys (present entries)) :
    name ∈ Keyed.keys entries := by
  simp only [Keyed.keys, present, List.mem_map, List.mem_filterMap, Option.map_eq_some_iff] at h
  obtain ⟨_, ⟨entry, hentry, value, -, rfl⟩, rfl⟩ := h
  exact List.mem_map_of_mem hentry

theorem member?_present (hunique : Keyed.Unique entries) {entry : String × Option Json}
    (hentry : entry ∈ entries) : member? entry.1 (present entries) = some entry.2 := by
  induction entries with
  | nil => cases hentry
  | cons first rest ih =>
    obtain ⟨key, first⟩ := first
    have hsplit : key ∉ Keyed.keys rest ∧ Keyed.Unique rest := by
      simpa [Keyed.Unique, Keyed.keys] using hunique
    have hkey : key ∉ Keyed.keys (present rest) := fun h =>
      hsplit.1 (mem_keys_of_mem_keys_present h)
    rcases List.mem_cons.mp hentry with rfl | hmem
    · cases first with
      | none => exact member?_of_not_mem hkey
      | some value => exact member?_cons_self hkey
    · have hne : key ≠ entry.1 := fun h => hsplit.1 (h ▸ List.mem_map_of_mem hmem)
      cases first with
      | none => exact ih hsplit.2 hmem
      | some value => exact (member?_cons_of_ne hne).trans (ih hsplit.2 hmem)

theorem mapM_eq_some {β : Type} {f : α → Option β} {g : α → β} {items : List α}
    (h : ∀ item ∈ items, f item = some (g item)) : items.mapM f = some (items.map g) := by
  induction items with
  | nil => rfl
  | cons item rest ih =>
    rw [List.mapM_cons, h item List.mem_cons_self,
      ih fun item hitem => h item (List.mem_cons_of_mem _ hitem)]
    rfl

/-- An object that was written from some names is read under these names. -/
theorem record?_present {names : List String} {values : List (Option Json)} (hnodup : names.Nodup)
    (hlength : names.length = values.length)
    (hvalue : value = obj (present (names.zip values))) : record? names value = some values := by
  have hkeys : (names.zip values).map (·.1) = names := List.map_fst_zip (Nat.le_of_eq hlength)
  have hvalues : (names.zip values).map (·.2) = values :=
    List.map_snd_zip (Nat.le_of_eq hlength.symm)
  have hunique : Keyed.Unique (names.zip values) := by rwa [Keyed.Unique, Keyed.keys, hkeys]
  have hread : (names.zip values).mapM
      ((fun name => member? name (present (names.zip values))) ∘ fun entry => entry.1) =
        some ((names.zip values).map fun entry => entry.2) :=
    mapM_eq_some fun entry hentry => member?_present hunique hentry
  rw [← List.mapM_map, hkeys, hvalues] at hread
  rw [hvalue]
  exact hread

theorem listOf?_map {encode : α → Json} {decode? : Json → Option α} {items : List α}
    (h : ∀ item ∈ items, decode? (encode item) = some item) :
    listOf? decode? (.arr (items.map encode)) = some items := by
  change (items.map encode).mapM decode? = some items
  have hitems : items.mapM (decode? ∘ encode) = some (items.map id) := mapM_eq_some h
  rw [List.mapM_map, hitems, List.map_id]

/-- A value that is present is written as something other than null. -/
theorem optional_of_decode? {decode? : Json → Option α} {a : α} (hnull : value ≠ .null)
    (h : decode? value = some a) : optional decode? (some value) = some (some a) := by
  cases value with
  | null => exact (hnull rfl).elim
  | _ => exact congrArg (Option.map some) h

theorem optional_map {encode : α → Json} {decode? : Json → Option α} {a : Option α}
    (h : ∀ item, a = some item → encode item ≠ .null ∧ decode? (encode item) = some item) :
    optional decode? (a.map encode) = some a := by
  cases a with
  | none => rfl
  | some item => exact optional_of_decode? (h item rfl).1 (h item rfl).2

theorem asBelow?_ofNat {limit n : Nat} (h : n < limit) : asBelow? limit (ofNat n) = some n := by
  rw [ofNat, asBelow?, if_pos (by omega), Int.toNat_natCast]

theorem asSize?_ofNat {n : Nat} (h : n < 2 ^ 64) : asSize? (ofNat n) = some n := asBelow?_ofNat h

end Json

/-! ## What a decoder accepts -/

/-- Whatever a decoder accepts has a property. -/
def Decodes {α : Type} (P : α → Prop) (decode? : Json → Option α) : Prop :=
  ∀ json a, decode? json = some a → P a

namespace Decodes

variable {α : Type} {P : α → Prop} {decode? : Json → Option α}

theorem required (h : Decodes P decode?) {value : Option Json} {a : α}
    (ha : required decode? value = some a) : P a := by
  cases value with
  | none => cases ha
  | some json => exact h json a ha

theorem orElse (h : Decodes P decode?) {default : α} (hdefault : P default) {value : Option Json}
    {a : α} (ha : orElse default decode? value = some a) : P a := by
  cases value with
  | none =>
    cases ha
    exact hdefault
  | some json => exact h json a ha

theorem optional (h : Decodes P decode?) {value : Option Json} {found : Option α}
    (hfound : optional decode? value = some found) : ∀ a, found = some a → P a := by
  rintro a rfl
  unfold Json.optional at hfound
  split at hfound
  · cases hfound
  · cases hfound
  · next json _ =>
    obtain ⟨b, hb, heq⟩ := Option.map_eq_some_iff.mp hfound
    cases heq
    exact h json a hb

theorem mapM (h : Decodes P decode?) {items : List Json} {found : List α}
    (hfound : items.mapM decode? = some found) : ∀ a ∈ found, P a := by
  induction items generalizing found with
  | nil =>
    cases hfound
    exact fun _ hmem => nomatch hmem
  | cons json rest ih =>
    simp only [List.mapM_cons, Option.bind_eq_bind, Option.bind_eq_some_iff] at hfound
    obtain ⟨b, hb, others, hothers, heq⟩ := hfound
    cases heq
    intro a hmem
    rcases List.mem_cons.mp hmem with rfl | hmem
    · exact h json a hb
    · exact ih hothers a hmem

theorem listOf? (h : Decodes P decode?) :
    Decodes (fun found => ∀ a ∈ found, P a) (listOf? decode?) := by
  intro json found hfound
  obtain ⟨items, -, hitems⟩ := Option.bind_eq_some_iff.mp hfound
  exact h.mapM hitems

theorem asBelow? {limit : Nat} : Decodes (· < limit) (Json.asBelow? limit) := by
  intro json n h
  cases json with
  | int i =>
    rw [Json.asBelow?] at h
    split at h
    · next hi =>
      cases h
      show i.toNat < limit
      omega
    · cases h
  | _ => cases h

end Decodes

/-! ## Round trips -/

/-- Decoding undoes encoding, and the form that an accepted value is written in is its own form. -/
structure RoundTrips {α : Type} (Fits : α → Prop) (encode : α → Json) (decode? : Json → Option α) :
    Prop where
  decode_encode : ∀ a, Fits a → decode? (encode a) = some a
  stable : ∀ json shown, (decode? json).map encode = some shown →
    (decode? shown).map encode = some shown

theorem RoundTrips.of_decodes {α : Type} {Fits : α → Prop} {encode : α → Json}
    {decode? : Json → Option α} (h : ∀ a, Fits a → decode? (encode a) = some a)
    (hfits : Decodes Fits decode?) : RoundTrips Fits encode decode? where
  decode_encode := h
  stable json shown hshown := by
    obtain ⟨a, ha, rfl⟩ := Option.map_eq_some_iff.mp hshown
    rw [h a (hfits json a ha), Option.map_some]

end MockApi
