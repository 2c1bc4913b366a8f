import Mathlib.Data.Set.Card
import MockApi.Composition

/-! Places in a JSON value. The strings equal to a text are counted by their places, and putting a
value in their stead changes nothing outside of these places. -/
namespace MockApi.Json

/-- The numbers of the items or members to go into, outermost first. -/
abbrev Place := List Nat

def children : Json → List Json
  | arr items => items
  | obj members => members.map (·.2)
  | _ => []

def at? (document : Json) : Place → Option Json
  | [] => some document
  | n :: below => document.children[n]?.bind fun child => child.at? below

/-- A value apart from what is inside: the number of its items, or its names in their order. -/
def shell : Json → Json
  | arr items => arr (items.map fun _ => null)
  | obj members => obj (members.map fun member => (member.1, null))
  | other => other

/-- The places that hold a text; the names of members are not among them. -/
def placesOf (text : String) (document : Json) : Set Place :=
  {place | document.at? place = some (str text)}

variable {text : String} {document payload value : Json} {place below : Place}

theorem at?_cons (document : Json) (n : Nat) (below : Place) :
    document.at? (n :: below) = document.children[n]?.bind fun child => child.at? below := rfl

theorem at?_append (document : Json) (place below : Place) :
    document.at? (place ++ below) = (document.at? place).bind fun value => value.at? below := by
  induction place generalizing document with
  | nil => rfl
  | cons n place ih =>
    rw [List.cons_append, at?_cons, at?_cons]
    cases document.children[n]? with
    | none => rfl
    | some child => exact ih child

/-! ## Counting -/

/-- The places of a text inside values that stand side by side, numbered from some start. -/
def placesFrom (text : String) (start : Nat) (values : List Json) : Set Place :=
  {place | ∃ n below value, place = (start + n) :: below ∧ values[n]? = some value ∧
    value.at? below = some (str text)}

theorem placesFrom_nil (text : String) (start : Nat) : placesFrom text start [] = ∅ := by
  ext place
  simp [placesFrom]

theorem placesFrom_cons (text : String) (start : Nat) (first : Json) (rest : List Json) :
    placesFrom text start (first :: rest) =
      List.cons start '' placesOf text first ∪ placesFrom text (start + 1) rest := by
  ext place
  constructor
  · rintro ⟨n, below, value, rfl, hvalue, hat⟩
    cases n with
    | zero =>
      cases hvalue
      exact .inl ⟨below, hat, rfl⟩
    | succ n => exact .inr ⟨n, below, value, by rw [Nat.succ_add_eq_add_succ], hvalue, hat⟩
  · rintro (⟨below, hat, rfl⟩ | ⟨n, below, value, rfl, hvalue, hat⟩)
    · exact ⟨0, below, first, rfl, rfl, hat⟩
    · exact ⟨n + 1, below, value, by rw [Nat.succ_add_eq_add_succ], hvalue, hat⟩

theorem encard_placesFrom_cons (text : String) (start : Nat) (first : Json) (rest : List Json) :
    (placesFrom text start (first :: rest)).encard =
      (placesOf text first).encard + (placesFrom text (start + 1) rest).encard := by
  rw [placesFrom_cons, Set.encard_union_eq, (List.cons_injective (a := start)).encard_image]
  refine Set.disjoint_left.mpr ?_
  rintro _ ⟨below, -, rfl⟩ ⟨n, other, _, hplace, -⟩
  injection hplace
  omega

theorem placesOf_str_self (text : String) : placesOf text (str text) = {[]} := by
  ext place
  cases place with
  | nil => simp [placesOf, at?]
  | cons n below => simp [placesOf, at?, children]

theorem placesOf_eq_placesFrom (h : document ≠ str text) :
    placesOf text document = placesFrom text 0 document.children := by
  ext place
  cases place with
  | nil =>
    constructor
    · exact fun hat => absurd (Option.some.inj hat) h
    · rintro ⟨_, _, _, hplace, -⟩
      cases hplace
  | cons n below =>
    simp only [placesOf, at?_cons, Set.mem_ofPred_eq, Option.bind_eq_some_iff, placesFrom,
      Nat.zero_add, List.cons.injEq]
    constructor
    · rintro ⟨value, hvalue, hat⟩
      exact ⟨n, below, value, ⟨rfl, rfl⟩, hvalue, hat⟩
    · rintro ⟨_, _, value, ⟨rfl, rfl⟩, hvalue, hat⟩
      exact ⟨value, hvalue, hat⟩

mutual

/-- A text is counted once for each place that holds it. -/
theorem encard_placesOf (text : String) : ∀ document : Json,
    (placesOf text document).encard = countText text document
  | str value => by
    by_cases h : value = text
    · subst h
      simp [placesOf_str_self, countText]
    · have hne : str value ≠ str text := fun heq => h (Json.str.inj heq)
      simp [placesOf_eq_placesFrom hne, children, placesFrom_nil, countText, h]
  | arr items => by
    rw [placesOf_eq_placesFrom (by simp), countText]
    exact encard_placesFrom_items text items 0
  | obj members => by
    rw [placesOf_eq_placesFrom (by simp), countText]
    exact encard_placesFrom_members text members 0
  | null => by simp [placesOf_eq_placesFrom, children, placesFrom_nil, countText]
  | bool _ => by simp [placesOf_eq_placesFrom, children, placesFrom_nil, countText]
  | int _ => by simp [placesOf_eq_placesFrom, children, placesFrom_nil, countText]
  | float _ => by simp [placesOf_eq_placesFrom, children, placesFrom_nil, countText]

theorem encard_placesFrom_items (text : String) : ∀ (items : List Json) (start : Nat),
    (placesFrom text start items).encard = countTextItems text items
  | [], start => by simp [placesFrom_nil, countTextItems]
  | item :: rest, start => by
    rw [encard_placesFrom_cons, encard_placesOf text item,
      encard_placesFrom_items text rest (start + 1), countTextItems, Nat.cast_add]

theorem encard_placesFrom_members (text : String) :
    ∀ (members : List (String × Json)) (start : Nat),
      (placesFrom text start (members.map (·.2))).encard = countTextMembers text members
  | [], start => by simp [placesFrom_nil, countTextMembers]
  | (_, value) :: rest, start => by
    rw [List.map_cons, encard_placesFrom_cons, encard_placesOf text value,
      encard_placesFrom_members text rest (start + 1), countTextMembers, Nat.cast_add]

end

/-! ## Replacing -/

theorem replaceTextItems_eq_map (text : String) (payload : Json) (items : List Json) :
    replaceTextItems text payload items = items.map (replaceText text payload) := by
  induction items with
  | nil => rfl
  | cons item rest ih => rw [replaceTextItems, ih, List.map_cons]

theorem replaceTextMembers_eq_map (text : String) (payload : Json)
    (members : List (String × Json)) : replaceTextMembers text payload members =
      members.map fun member => (member.1, replaceText text payload member.2) := by
  induction members with
  | nil => rfl
  | cons member rest ih => rw [replaceTextMembers, ih, List.map_cons]

theorem replaceText_str_self (text : String) (payload : Json) :
    replaceText text payload (str text) = payload := by
  simp [replaceText]

/-- Only a value that is the text itself changes as a whole. -/
theorem shell_replaceText (h : value ≠ str text) :
    (replaceText text payload value).shell = value.shell := by
  cases value with
  | str other =>
    have hne : other ≠ text := fun heq => h (congrArg str heq)
    simp [replaceText, hne]
  | arr items => simp [replaceText, replaceTextItems_eq_map, shell, Function.comp_def]
  | obj members => simp [replaceText, replaceTextMembers_eq_map, shell]
  | _ => simp [replaceText]

theorem children_replaceText (h : value ≠ str text) :
    (replaceText text payload value).children =
      value.children.map (replaceText text payload) := by
  cases value with
  | str other =>
    have hne : other ≠ text := fun heq => h (congrArg str heq)
    simp [replaceText, hne, children]
  | arr items => simp [replaceText, replaceTextItems_eq_map, children]
  | obj members => simp [replaceText, replaceTextMembers_eq_map, children]
  | _ => simp [replaceText, children]

/-- What was at a place is still there, with the text replaced inside it. -/
theorem at?_replaceText_of_some (h : document.at? place = some value) :
    (replaceText text payload document).at? place = some (replaceText text payload value) := by
  induction place generalizing document with
  | nil =>
    cases h
    rfl
  | cons n below ih =>
    rw [at?_cons] at h
    obtain ⟨child, hchild, hat⟩ := Option.bind_eq_some_iff.mp h
    have hne : document ≠ str text := by
      rintro rfl
      simp [children] at hchild
    rw [at?_cons, children_replaceText hne, List.getElem?_map, hchild]
    exact ih hat

/-- A place that is not there comes up only inside of what the text was replaced by. -/
theorem at?_replaceText_of_none (h : document.at? place = none)
    (hnot : ∀ above, above <+: place → above ∉ placesOf text document) :
    (replaceText text payload document).at? place = none := by
  induction place generalizing document with
  | nil => cases h
  | cons n below ih =>
    have hne : document ≠ str text := fun heq =>
      hnot [] (List.nil_prefix) (congrArg some heq)
    rw [at?_cons, children_replaceText hne, List.getElem?_map]
    rw [at?_cons] at h
    cases hchild : document.children[n]? with
    | none => rfl
    | some child =>
      rw [hchild, Option.bind_some] at h
      refine ih h fun above habove hat => ?_
      refine hnot (n :: above) ((List.prefix_cons_inj n).mpr habove) ?_
      rw [placesOf, Set.mem_ofPred_eq, at?_cons, hchild]
      exact hat

/-- A document is another one with a payload in one of its places: what is there and below it is the
payload, and everywhere else there is what was there. -/
structure FilledAt (document : Json) (place : Place) (payload filled : Json) : Prop where
  inside : ∀ below, filled.at? (place ++ below) = payload.at? below
  elsewhere : ∀ other, ¬ place <+: other →
    (filled.at? other).map shell = (document.at? other).map shell

theorem filledAt_replaceText (h : placesOf text document = {place}) :
    document.FilledAt place payload (replaceText text payload document) := by
  have honly (other : Place) : other ∈ placesOf text document ↔ other = place := by
    rw [h, Set.mem_singleton_iff]
  have hplace : document.at? place = some (str text) := (honly place).mpr rfl
  constructor
  · intro below
    rw [at?_append, at?_replaceText_of_some hplace, replaceText_str_self, Option.bind_some]
  · intro other hother
    cases hat : document.at? other with
    | none =>
      rw [at?_replaceText_of_none hat]
      exact fun above habove hmem => hother ((honly above).mp hmem ▸ habove)
    | some value =>
      have hne : value ≠ str text := by
        rintro rfl
        exact hother ((honly other).mp hat ▸ List.prefix_rfl)
      rw [at?_replaceText_of_some hat, Option.map_some, shell_replaceText hne, Option.map_some]

end MockApi.Json
