import Mathlib.Data.List.Nodup
import MockApi.Proofs.Store.Versions

/-! When a version that was read of a schema still holds after a change: exactly when it held before
and the change leaves the fields of that schema alone. -/
namespace MockApi

/-- A change replaces the fields of a schema or takes them away. New definitions with the same
fields do not. -/
def Change.Touches (store : Store) (id : String) : Change → Prop
  | .replaceAll definitions =>
      (∀ schema ∈ definitions.schemas, schema.id ≠ id) ∨
        ∃ old new, store.schema? id = some old ∧ new ∈ definitions.schemas ∧ new.id = id ∧
          sameFields old.fields new.fields = false
  | .upsert schema => schema.id = id
  | .remove removed => removed = id

namespace Store

variable {store after : Store} {id : String} {version : UInt64}

theorem version?_eq_some_iff :
    store.version? id = some version ↔ ∃ schema, store.schema? id = some schema ∧
      schema.version = version :=
  Option.map_eq_some_iff

/-- An id was once given a version, and its versions have not fallen since. -/
def Reached (store : Store) (id : String) (version : UInt64) : Prop :=
  ∃ last, store.last? id = some last ∧ version ≤ last

theorem reached_of_version? (h : store.version? id = some version) : store.Reached id version := by
  obtain ⟨schema, hs, rfl⟩ := version?_eq_some_iff.mp h
  exact ⟨_, last?_of_schema? hs, UInt64.le_refl _⟩

theorem Reached.remembers (h : store.Reached id version) :
    store.Remembers id version fun _ => True :=
  ⟨h, fun _ _ _ => trivial⟩

theorem Reached.apply (h : store.Reached id version) (htidy : store.Tidy) {change : Change}
    (hunique : change.UniqueIds) (hfits : store.ChangeFits change) :
    (store.apply change).Reached id version :=
  (h.remembers.apply (fun _ _ _ _ => trivial) htidy hunique hfits).last

/-- A schema above every earlier version of its id does not have one of them. -/
theorem Reached.version?_ne (h : store.Reached id version) {new : Schema}
    (hnew : after.schema? id = some new)
    (hlt : ∀ last, store.last? id = some last → last < new.version) :
    after.version? id ≠ some version := by
  obtain ⟨last, hlast, hle⟩ := h
  rw [version?, hnew, Option.map_some, ne_eq, Option.some_inj]
  exact (UInt64.ne_of_lt (UInt64.lt_of_le_of_lt hle (hlt last hlast))).symm

/-! ## New definitions -/

theorem eq_of_find?_id {schemas : List Schema} (hunique : (schemas.map (·.id)).Nodup)
    {found schema : Schema} (hfound : (schemas.find? fun schema => schema.id = id) = some found)
    (hs : schema ∈ schemas) (hid : schema.id = id) : schema = found := by
  have hfoundId : found.id = id := by simpa using List.find?_some hfound
  exact List.inj_on_of_nodup_map hunique hs (List.mem_of_find?_eq_some hfound)
    (hid.trans hfoundId.symm)

/-- New fields, or an id that was gone, get a version that was not there before. -/
theorem version?_replaceAll_ne (htidy : store.Tidy) {definitions : Definitions}
    (hunique : (definitions.schemas.map (·.id)).Nodup)
    (hnext : store.replaceAll definitions = some after) (hreached : store.Reached id version)
    {new : Schema} (hnew : after.schema? id = some new)
    (hdiff : ∀ old, store.schema? id = some old → sameFields old.fields new.fields = false) :
    after.version? id ≠ some version := by
  cases passage_replaceAll htidy hunique hnext id with
  | stays old other hold hs _ hsame =>
    cases hnew.symm.trans hs
    simp [hdiff old hold] at hsame
  | gone hnone _ => simp [hnew] at hnone
  | renewed _ hs hlt => exact hreached.version?_ne hs hlt

theorem version?_replaceAll_iff (htidy : store.Tidy) {definitions : Definitions}
    (hunique : (definitions.schemas.map (·.id)).Nodup)
    (hnext : store.replaceAll definitions = some after) (hreached : store.Reached id version) :
    after.version? id = some version ↔
      store.version? id = some version ∧ ¬ (Change.replaceAll definitions).Touches store id := by
  cases hfind : definitions.schemas.find? fun schema => schema.id = id with
  | none =>
    have hschema := schema?_replaceAll hnext hunique id
    rw [hfind] at hschema
    have hdropped : ∀ schema ∈ definitions.schemas, schema.id ≠ id := by simpa using hfind
    refine iff_of_false ?_ fun h => h.2 (.inl hdropped)
    simp [version?, hschema]
  | some new =>
    obtain ⟨given, hgiven, hschema⟩ := taken_of_find? hnext hunique hfind
    have hid : new.id = id := by simpa using List.find?_some hfind
    have hnew := List.mem_of_find?_eq_some hfind
    cases hold : store.schema? id with
    | none =>
      refine iff_of_false ?_ fun h => by simp [version?, hold] at h
      exact version?_replaceAll_ne htidy hunique hnext hreached hschema (by simp [hold])
    | some old =>
      by_cases hsame : sameFields old.fields new.fields = true
      · have hversion : old.version = given := by
          simpa [takenVersion, intakeVersion, hid, hold, hsame] using hgiven
        have hkept : after.version? id = store.version? id := by
          rw [version?, version?, hschema, hold, Option.map_some, Option.map_some, hversion]
        have huntouched : ¬ (Change.replaceAll definitions).Touches store id := by
          rintro (hdropped | ⟨old', other, ho, hother, hotherId, hdiff⟩)
          · exact hdropped new hnew hid
          · cases hold.symm.trans ho
            cases eq_of_find?_id hunique hfind hother hotherId
            simp [hsame] at hdiff
        rw [hkept]
        exact (and_iff_left huntouched).symm
      · have hdiff := Bool.eq_false_iff.mpr hsame
        refine iff_of_false ?_ fun h => h.2 (.inr ⟨old, new, hold, hnew, hid, hdiff⟩)
        refine version?_replaceAll_ne htidy hunique hnext hreached hschema fun old' hold' => ?_
        cases hold.symm.trans hold'
        exact hdiff

/-- A version that an id has reached is its present one after a change exactly when it was before,
and the change does not touch the id. -/
theorem version?_apply_iff (htidy : store.Tidy) {change : Change} (hunique : change.UniqueIds)
    (hfits : store.ChangeFits change) (hreached : store.Reached id version) :
    (store.apply change).version? id = some version ↔
      store.version? id = some version ∧ ¬ change.Touches store id := by
  cases change with
  | replaceAll definitions =>
    obtain ⟨next, hnext⟩ := Option.isSome_iff_exists.mp hfits
    rw [apply_replaceAll hnext]
    exact version?_replaceAll_iff htidy hunique hnext hreached
  | upsert schema =>
    by_cases hid : schema.id = id
    · subst hid
      refine iff_of_false ?_ fun h => h.2 rfl
      obtain ⟨given, hgiven, hnew⟩ := exists_upserted hfits
      exact hreached.version?_ne hnew fun last hlast => lt_upsertVersion hlast hgiven
    · rw [apply, version?, schema?_upsert_of_ne store (Ne.symm hid)]
      exact (and_iff_left hid).symm
  | remove removed =>
    by_cases hid : removed = id
    · subst hid
      refine iff_of_false ?_ fun h => h.2 rfl
      simp [apply, version?]
    · rw [apply, version?, schema?_remove_of_ne store (Ne.symm hid)]
      exact (and_iff_left hid).symm

end MockApi.Store
