import MockApi.Proofs.Keyed
import MockApi.Proofs.Sameness
import MockApi.Store

/-! Runs of a store: changes of its definitions, one after the other, and when they stay within the
versions that there are. A change that does not is stopped, and the run goes on with what it
leaves. -/
namespace MockApi

theorem foldl_take_succ {α β : Type} (f : β → α → β) (start : β) {steps : List α} {n : Nat}
    {step : α} (h : steps[n]? = some step) :
    (steps.take (n + 1)).foldl f start = f ((steps.take n).foldl f start) step := by
  rw [List.take_add_one, h, Option.toList_some, List.foldl_append]
  rfl

/-- What changes the definitions of a store. -/
inductive Change where
  | replaceAll (definitions : Definitions)
  | upsert (schema : Schema)
  | remove (id : String)

/-- No schema id occurs twice among new definitions. -/
def Change.UniqueIds : Change → Prop
  | .replaceAll definitions => (definitions.schemas.map (·.id)).Nodup
  | _ => True

/-- A change of one schema. -/
def Change.Single : Change → Prop
  | .replaceAll _ => False
  | _ => True

/-- An upsert of an id that is gone takes its last version out of the retired ones, and is stopped
behind that. -/
def Change.Forgets (store : Store) (id : String) : Change → Prop
  | .upsert schema => schema.id = id ∧ store.schema? id = none ∧ store.upsertVersion schema = none
  | _ => False

theorem Change.exists_upsert_of_forgets {change : Change} {store : Store} {id : String}
    (h : change.Forgets store id) : ∃ schema, change = .upsert schema ∧ schema.id = id ∧
      store.schema? id = none ∧ store.upsertVersion schema = none := by
  cases change with
  | upsert schema => exact ⟨schema, rfl, h⟩
  | replaceAll definitions => exact h.elim
  | remove removed => exact h.elim

namespace Store

/-- New definitions that are stopped have changed nothing. -/
def apply (store : Store) : Change → Store
  | .replaceAll definitions => (store.replaceAll definitions).getD store
  | .upsert schema => (store.upsert schema).2
  | .remove id => (store.remove id).2

def after (store : Store) (changes : List Change) : Store := changes.foldl apply store

/-- The states of a store that was given some definitions and then changed. -/
def Reachable (store : Store) : Prop :=
  ∃ definitions changes, (ofDefinitions definitions).after changes = store

theorem after_append (store : Store) (first second : List Change) :
    store.after (first ++ second) = (store.after first).after second :=
  List.foldl_append

theorem after_take_succ (store : Store) {changes : List Change} {i : Nat} {change : Change}
    (h : changes[i]? = some change) :
    store.after (changes.take (i + 1)) = (store.after (changes.take i)).apply change :=
  foldl_take_succ apply store h

/-! ## Versions within 64 bits -/

theorem toNat_max (a b : UInt64) : (max a b).toNat = max a.toNat b.toNat := by
  change (if a ≤ b then b else a).toNat = _
  split
  · next h => exact (Nat.max_eq_right (UInt64.le_iff_toNat_le.mp h)).symm
  · next h =>
    rw [UInt64.le_iff_toNat_le] at h
    omega

theorem nextVersion_eq_some_iff {last offered version : UInt64} :
    nextVersion last offered = some version ↔
      version.toNat = max last.toNat offered.toNat + 1 := by
  rw [nextVersion, ← toNat_max]
  split
  · next h =>
    have hsum : (max last offered + 1).toNat = (max last offered).toNat + 1 := by
      rw [UInt64.toNat_add, UInt64.toNat_one, Nat.mod_eq_of_lt h]
    rw [Option.some_inj, ← UInt64.toNat_inj, hsum]
    exact eq_comm
  · next h =>
    have hlt := version.toNat_lt
    unfold HasNext at h
    exact iff_of_false (fun heq => by cases heq) (by omega)

theorem isSome_nextVersion {last offered : UInt64} :
    (nextVersion last offered).isSome = true ↔ HasNext last offered := by
  unfold nextVersion
  split <;> simp [*]

theorem lt_of_nextVersion {last offered version : UInt64}
    (h : nextVersion last offered = some version) : last < version := by
  have hnat := nextVersion_eq_some_iff.mp h
  rw [UInt64.lt_iff_toNat_lt]
  omega

/-- A change does not run out of versions, and so is not stopped. -/
def ChangeFits (store : Store) : Change → Prop
  | .replaceAll definitions => (store.replaceAll definitions).isSome
  | .upsert schema => (store.upsert schema).1.isSome
  | .remove _ => True

theorem apply_replaceAll {store next : Store} {definitions : Definitions}
    (h : store.replaceAll definitions = some next) :
    store.apply (.replaceAll definitions) = next := by
  rw [apply, h, Option.getD_some]

/-- No change of a run runs out of versions. -/
def Fits : Store → List Change → Prop
  | _, [] => True
  | store, change :: rest => store.ChangeFits change ∧ (store.apply change).Fits rest

theorem Fits.append {store : Store} {first second : List Change}
    (h : store.Fits (first ++ second)) :
    store.Fits first ∧ (store.after first).Fits second := by
  induction first generalizing store with
  | nil => exact ⟨trivial, h⟩
  | cons change rest ih =>
    obtain ⟨hfirst, hrest⟩ := ih h.2
    exact ⟨⟨h.1, hfirst⟩, hrest⟩

/-- Every change of a run fits where it is made. -/
theorem Fits.changeFits {store : Store} {changes : List Change} (h : store.Fits changes)
    {i : Nat} {change : Change} (hi : changes[i]? = some change) :
    (store.after (changes.take i)).ChangeFits change := by
  obtain ⟨hlt, rfl⟩ := List.getElem?_eq_some_iff.mp hi
  rw [← List.take_append_drop i changes, List.drop_eq_getElem_cons hlt] at h
  exact h.append.2.1

/-! ## The schemas of a store are under their own ids -/

/-- Every schema is stored once and under its own id. -/
structure Tidy (store : Store) : Prop where
  unique : Keyed.Unique store.schemas
  ownId : ∀ id schema, store.schema? id = some schema → schema.id = id

theorem tidy_insert {schemas : Keyed Schema} (hunique : Keyed.Unique schemas)
    (hown : ∀ id schema, Keyed.find? id schemas = some schema → schema.id = id)
    (schema : Schema) :
    Keyed.Unique (Keyed.insert schema.id schema schemas) ∧
      ∀ id found, Keyed.find? id (Keyed.insert schema.id schema schemas) = some found →
        found.id = id := by
  refine ⟨Keyed.unique_insert hunique _ _, fun id found h => ?_⟩
  by_cases hid : id = schema.id
  · subst hid
    rw [Keyed.find?_insert_self] at h
    rw [← Option.some.inj h]
  · rw [Keyed.find?_insert_of_ne hid] at h
    exact hown id found h

end Store
end MockApi
