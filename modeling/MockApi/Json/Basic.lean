import MockApi.Keyed
import MockApi.Decimal.Binary64

/-!
JSON values. Integers and doubles stay apart, and the members of an object keep their order.
`Tidy` says that no object repeats a name; `tidied` makes a value so by letting the last value of a
name stand at the name's first place.
-/
namespace MockApi

inductive Json where
  | null
  | bool (value : Bool)
  | int (value : Int)
  | float (value : Binary64)
  | str (value : String)
  | arr (items : List Json)
  | obj (members : List (String × Json))
  deriving Inhabited

namespace Json

mutual

/-- No object in the value repeats a name. -/
def Tidy : Json → Prop
  | arr items => TidyItems items
  | obj members => Keyed.Unique members ∧ TidyMembers members
  | _ => True

def TidyItems : List Json → Prop
  | [] => True
  | item :: rest => Tidy item ∧ TidyItems rest

def TidyMembers : List (String × Json) → Prop
  | [] => True
  | (_, value) :: rest => Tidy value ∧ TidyMembers rest

end

mutual

def tidied : Json → Json
  | arr items => arr (tidiedItems items)
  | obj members => obj (Keyed.ofEntries (tidiedMembers members))
  | other => other

def tidiedItems : List Json → List Json
  | [] => []
  | item :: rest => tidied item :: tidiedItems rest

def tidiedMembers : List (String × Json) → List (String × Json)
  | [] => []
  | (name, value) :: rest => (name, tidied value) :: tidiedMembers rest

end

mutual

/-- Equality of contents: the order of members does not count, an integer is never a double, and
the two zeros are one. -/
def same : Json → Json → Bool
  | null, null => true
  | bool a, bool b => a == b
  | int a, int b => a == b
  | float a, float b => a.same b
  | str a, str b => a == b
  | arr xs, arr ys => sameItems xs ys
  | obj xs, obj ys => xs.length == ys.length && sameMembers xs ys
  | _, _ => false

def sameItems : List Json → List Json → Bool
  | [], [] => true
  | x :: xs, y :: ys => same x y && sameItems xs ys
  | _, _ => false

/-- Every member of the first list has an equal one of its name in the second. -/
def sameMembers : List (String × Json) → List (String × Json) → Bool
  | [], _ => true
  | (name, value) :: rest, others =>
      (match Keyed.find? name others with
        | some other => same value other
        | none => false) && sameMembers rest others

end

theorem TidyMembers.insert {members : Keyed Json} (h : TidyMembers members) (name : String)
    {value : Json} (hv : Tidy value) : TidyMembers (Keyed.insert name value members) := by
  induction members with
  | nil => exact ⟨hv, trivial⟩
  | cons entry rest ih =>
    obtain ⟨key, old⟩ := entry
    rw [TidyMembers] at h
    by_cases hk : key = name
    · simp only [Keyed.insert, hk, ↓reduceIte, TidyMembers]
      exact ⟨hv, h.2⟩
    · simp only [Keyed.insert, hk, ↓reduceIte, TidyMembers]
      exact ⟨h.1, ih h.2⟩

theorem TidyMembers.ofEntries {members : List (String × Json)} (h : TidyMembers members) :
    TidyMembers (Keyed.ofEntries members) := by
  have go : ∀ (rest : List (String × Json)) (acc : Keyed Json), TidyMembers rest →
      TidyMembers acc →
      TidyMembers (rest.foldl (fun acc entry => Keyed.insert entry.1 entry.2 acc) acc) := by
    intro rest
    induction rest with
    | nil => exact fun _ _ h => h
    | cons entry rest ih =>
      intro acc hr ha
      obtain ⟨key, value⟩ := entry
      rw [TidyMembers] at hr
      exact ih _ hr.2 (ha.insert key hr.1)
  exact go members [] h trivial

mutual

theorem tidy_tidied : ∀ value : Json, Tidy (tidied value)
  | null => by simp [tidied, Tidy]
  | bool _ => by simp [tidied, Tidy]
  | int _ => by simp [tidied, Tidy]
  | float _ => by simp [tidied, Tidy]
  | str _ => by simp [tidied, Tidy]
  | arr items => by
    rw [tidied, Tidy]
    exact tidyItems_tidiedItems items
  | obj members => by
    rw [tidied, Tidy]
    exact ⟨Keyed.unique_ofEntries _, (tidyMembers_tidiedMembers members).ofEntries⟩

theorem tidyItems_tidiedItems : ∀ items : List Json, TidyItems (tidiedItems items)
  | [] => trivial
  | item :: rest => ⟨tidy_tidied item, tidyItems_tidiedItems rest⟩

theorem tidyMembers_tidiedMembers :
    ∀ members : List (String × Json), TidyMembers (tidiedMembers members)
  | [] => trivial
  | (_, value) :: rest => ⟨tidy_tidied value, tidyMembers_tidiedMembers rest⟩

end

mutual

theorem tidied_eq_self : ∀ value : Json, Tidy value → tidied value = value
  | null, _ => by rw [tidied]; all_goals simp
  | bool _, _ => by rw [tidied]; all_goals simp
  | int _, _ => by rw [tidied]; all_goals simp
  | float _, _ => by rw [tidied]; all_goals simp
  | str _, _ => by rw [tidied]; all_goals simp
  | arr items, h => by
    rw [Tidy] at h
    rw [tidied, tidiedItems_eq_self items h]
  | obj members, h => by
    rw [Tidy] at h
    rw [tidied, tidiedMembers_eq_self members h.2, Keyed.ofEntries_eq_self h.1]

theorem tidiedItems_eq_self : ∀ items : List Json, TidyItems items → tidiedItems items = items
  | [], _ => rfl
  | item :: rest, h => by
    rw [TidyItems] at h
    rw [tidiedItems, tidied_eq_self item h.1, tidiedItems_eq_self rest h.2]

theorem tidiedMembers_eq_self :
    ∀ members : List (String × Json), TidyMembers members → tidiedMembers members = members
  | [], _ => rfl
  | (name, value) :: rest, h => by
    rw [TidyMembers] at h
    rw [tidiedMembers, tidied_eq_self value h.1, tidiedMembers_eq_self rest h.2]

end

def field? (name : String) : Json → Option Json
  | obj members => Keyed.find? name members
  | _ => none

def asString? : Json → Option String
  | str value => some value
  | _ => none

def asArray? : Json → Option (List Json)
  | arr items => some items
  | _ => none

def asBool? : Json → Option Bool
  | bool value => some value
  | _ => none

def asInt64? : Json → Option Int
  | int value => if -2 ^ 63 ≤ value ∧ value < 2 ^ 63 then some value else none
  | _ => none

def asBelow? (limit : Nat) : Json → Option Nat
  | int value => if 0 ≤ value ∧ value < limit then some value.toNat else none
  | _ => none

/-- Sizes and counts are kept in 64 bits. -/
def asSize? (json : Json) : Option Nat := json.asBelow? (2 ^ 64)

def isNumber : Json → Bool
  | int _ | float _ => true
  | _ => false

/-- A string, or null where there is none. -/
def ofString? : Option String → Json
  | some value => str value
  | none => null

def ofNat (n : Nat) : Json := int n

end Json
end MockApi
