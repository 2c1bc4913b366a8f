import MockApi.Proofs.Store.Intake

/-! Versions of schemas over whole runs. An id never gets a version again that it had under other
fields, nor one that it had before it was gone. -/
namespace MockApi.Store

variable {store before after : Store} {id : String}

theorem last?_of_schema? {schema : Schema} (h : store.schema? id = some schema) :
    store.last? id = some schema.version := by
  simp [last?, version?, h]

theorem last?_of_gone (h : store.schema? id = none) :
    store.last? id = Keyed.find? id store.retired := by
  simp [last?, version?, h]

/-! ## What a change does to an id -/

/-- An id keeps its version, has no schema and keeps its last version, or gets a version above
its last one. `R` is what an unchanged version says about the schemas before and after. -/
inductive Passage (R : Schema → Schema → Prop) (before after : Store) (id : String) : Prop where
  | stays (old new : Schema) (hold : before.schema? id = some old)
      (hnew : after.schema? id = some new) (hversion : new.version = old.version) (hR : R old new)
  | gone (hnone : after.schema? id = none) (hlast : after.last? id = before.last? id)
  | renewed (new : Schema) (hnew : after.schema? id = some new)
      (hlt : ∀ last, before.last? id = some last → last < new.version)

/-- Where the schema and the retired version of an id are left alone, nothing happens to it. -/
theorem Passage.of_eq (hschema : after.schema? id = before.schema? id)
    (hretired : Keyed.find? id after.retired = Keyed.find? id before.retired) :
    Passage Eq before after id := by
  cases hs : before.schema? id with
  | none =>
    have hgone := hschema.trans hs
    exact .gone hgone (by rw [last?_of_gone hgone, last?_of_gone hs, hretired])
  | some schema => exact .stays schema schema hs (hschema.trans hs) rfl rfl

theorem Passage.last?_eq {R : Schema → Schema → Prop} (h : Passage R before after id)
    (hnone : after.schema? id = none) : after.last? id = before.last? id := by
  cases h with
  | stays old new hold hnew hversion hR => simp [hnew] at hnone
  | gone hnone hlast => exact hlast
  | renewed new hnew hlt => simp [hnew] at hnone

/-- An id that has a last version is given one above it, or none. -/
theorem lt_upsertVersion {schema : Schema} {last version : UInt64}
    (hlast : store.last? schema.id = some last) (h : store.upsertVersion schema = some version) :
    last < version := by
  rw [upsertVersion, hlast] at h
  exact lt_of_nextVersion h

/-- An upsert that is not stopped stores its schema. -/
theorem exists_upserted {schema : Schema} (hfits : store.ChangeFits (.upsert schema)) :
    ∃ version, store.upsertVersion schema = some version ∧
      (store.upsert schema).2.schema? schema.id = some { schema with version } := by
  rw [ChangeFits, upsert_fst] at hfits
  obtain ⟨version, hversion⟩ := Option.isSome_iff_exists.mp hfits
  refine ⟨version, hversion, ?_⟩
  rw [schema?_upsert_self, hversion]

theorem passage_upsert_of_ne (store : Store) {schema : Schema} (hid : id ≠ schema.id) :
    Passage Eq store (store.upsert schema).2 id := by
  apply Passage.of_eq (schema?_upsert_of_ne store hid)
  rw [retired_upsert]
  split
  · rfl
  · exact Keyed.find?_erase_of_ne hid _

theorem passage_upsert {schema : Schema} (hfits : store.ChangeFits (.upsert schema))
    (id : String) : Passage Eq store (store.upsert schema).2 id := by
  by_cases hid : id = schema.id
  · subst hid
    obtain ⟨version, hversion, hnew⟩ := exists_upserted hfits
    exact .renewed _ hnew fun last hlast => lt_upsertVersion hlast hversion
  · exact passage_upsert_of_ne store hid

theorem passage_remove (store : Store) (removed id : String) :
    Passage Eq store (store.remove removed).2 id := by
  by_cases hid : id = removed
  · subst hid
    have hnone := schema?_remove_self store id
    refine .gone hnone ?_
    rw [last?_of_gone hnone]
    unfold Store.remove
    cases hs : store.schema? id with
    | none => exact (last?_of_gone hs).symm
    | some schema => simp [last?_of_schema? hs]
  · apply Passage.of_eq (schema?_remove_of_ne store hid)
    unfold Store.remove
    cases store.schema? removed with
    | none => rfl
    | some schema => exact Keyed.find?_insert_of_ne hid _ _

theorem passage_single {change : Change} (hsingle : change.Single)
    (hfits : store.ChangeFits change) (id : String) : Passage Eq store (store.apply change) id := by
  cases change with
  | replaceAll definitions => cases hsingle
  | upsert schema => exact passage_upsert hfits id
  | remove removed => exact passage_remove store removed id

/-- A schema that is taken over keeps the version of one with the same fields, and otherwise gets
a version above the last one. -/
theorem passage_replaceAll (htidy : store.Tidy) {definitions : Definitions}
    (hunique : (definitions.schemas.map (·.id)).Nodup)
    (hnext : store.replaceAll definitions = some after) (id : String) :
    Passage (fun old new => sameFields old.fields new.fields = true) store after id := by
  cases hfind : definitions.schemas.find? fun schema => schema.id = id with
  | none =>
    have hgone : after.schema? id = none := by
      rw [schema?_replaceAll hnext hunique id, hfind, Option.bind_none]
    exact .gone hgone (last?_replaceAll_of_gone htidy.unique hnext hgone)
  | some schema =>
    obtain ⟨version, hversion, hschema⟩ := taken_of_find? hnext hunique hfind
    have hid : schema.id = id := by simpa using List.find?_some hfind
    rw [takenVersion, hid] at hversion
    cases hold : store.schema? id with
    | some old =>
      rw [hold] at hversion
      by_cases hsame : sameFields old.fields schema.fields = true
      · have hkept : old.version = version := by simpa [intakeVersion, hsame] using hversion
        exact .stays old _ hold hschema hkept.symm hsame
      · refine .renewed _ hschema fun last hlast => ?_
        rw [last?_of_schema? hold, Option.some_inj] at hlast
        subst hlast
        exact lt_of_nextVersion (by simpa [intakeVersion, hsame] using hversion)
    | none =>
      refine .renewed _ hschema fun last hlast => ?_
      rw [last?_of_gone hold] at hlast
      rw [hold, hlast] at hversion
      exact lt_of_nextVersion hversion

/-- What is forgotten is as if it had never been there. -/
theorem last?_apply_of_forgets {change : Change} (h : change.Forgets store id) :
    (store.apply change).last? id = none := by
  obtain ⟨schema, rfl, rfl, hgone, hversion⟩ := Change.exists_upsert_of_forgets h
  have hnone : (store.upsert schema).2.schema? schema.id = none := by
    rw [schema?_upsert_self, hversion]
    exact hgone
  rw [apply, last?_of_gone hnone, retired_upsert, version?, hgone]
  exact Keyed.find?_erase_self _ _

/-! ## What is remembered of an earlier version -/

/-- An id once had a version: it never has a lower one again, and as long as it has this one, its
schema is as `P` says. -/
structure Remembers (store : Store) (id : String) (version : UInt64) (P : Schema → Prop) :
    Prop where
  last : ∃ last, store.last? id = some last ∧ version ≤ last
  holds : ∀ schema, store.schema? id = some schema → schema.version = version → P schema

theorem remembers_of_schema? {P : Schema → Prop} {schema : Schema}
    (h : store.schema? id = some schema) (hP : P schema) :
    store.Remembers id schema.version P := by
  refine ⟨⟨_, last?_of_schema? h, UInt64.le_refl _⟩, fun other ho _ => ?_⟩
  rw [h, Option.some_inj] at ho
  exact ho ▸ hP

theorem Remembers.of_gone {P Q : Schema → Prop} {version : UInt64}
    (h : store.Remembers id version P) (hnone : store.schema? id = none) :
    store.Remembers id version Q :=
  ⟨h.last, fun schema hs => by simp [hnone] at hs⟩

theorem Remembers.passage {R : Schema → Schema → Prop} {P : Schema → Prop} {version : UInt64}
    (h : before.Remembers id version P) (hstep : Passage R before after id)
    (hP : ∀ old new, R old new → P old → P new) : after.Remembers id version P := by
  obtain ⟨last, hlast, hle⟩ := h.last
  cases hstep with
  | stays old new hold hnew hversion hR =>
    rw [last?_of_schema? hold, Option.some_inj] at hlast
    refine ⟨⟨_, last?_of_schema? hnew, ?_⟩, fun schema hs hv => ?_⟩
    · rwa [hversion, hlast]
    · rw [hnew, Option.some_inj] at hs
      subst hs
      exact hP old new hR (h.holds old hold (hversion.symm.trans hv))
  | gone hnone hkept =>
    exact ⟨⟨last, hkept.trans hlast, hle⟩, fun schema hs => by simp [hnone] at hs⟩
  | renewed new hnew hlt =>
    have hlt := UInt64.lt_of_le_of_lt hle (hlt last hlast)
    refine ⟨⟨_, last?_of_schema? hnew, UInt64.le_of_lt hlt⟩, fun schema hs hv => ?_⟩
    rw [hnew, Option.some_inj] at hs
    subst hs
    exact absurd hv.symm (UInt64.ne_of_lt hlt)

theorem Remembers.le_version {P : Schema → Prop} {version : UInt64}
    (h : store.Remembers id version P) {schema : Schema} (hs : store.schema? id = some schema) :
    version ≤ schema.version := by
  obtain ⟨last, hlast, hle⟩ := h.last
  rw [last?_of_schema? hs, Option.some_inj] at hlast
  rwa [hlast]

/-- Properties that only depend on the fields, up to their equality. -/
def OfFields (P : Schema → Prop) : Prop :=
  ∀ old new, sameFields old.fields new.fields = true → P old → P new

theorem Remembers.apply {P : Schema → Prop} {version : UInt64} (h : store.Remembers id version P)
    (hP : OfFields P) (htidy : store.Tidy) {change : Change} (hunique : change.UniqueIds)
    (hfits : store.ChangeFits change) : (store.apply change).Remembers id version P := by
  cases change with
  | replaceAll definitions =>
    obtain ⟨next, hnext⟩ := Option.isSome_iff_exists.mp hfits
    rw [apply_replaceAll hnext]
    exact h.passage (passage_replaceAll htidy hunique hnext id) hP
  | upsert schema => exact h.passage (passage_upsert hfits id) fun _ _ he hp => he ▸ hp
  | remove removed => exact h.passage (passage_remove store removed id) fun _ _ he hp => he ▸ hp

/-- Where schemas change one by one, everything is remembered, not only the fields. -/
theorem Remembers.after_singles {P : Schema → Prop} {version : UInt64} {changes : List Change}
    (h : store.Remembers id version P) (hsingle : ∀ change ∈ changes, change.Single)
    (hfits : store.Fits changes) : (store.after changes).Remembers id version P := by
  induction changes generalizing store with
  | nil => exact h
  | cons change rest ih =>
    have hpassage := passage_single (hsingle change List.mem_cons_self) hfits.1 id
    have hnext : (store.apply change).Remembers id version P :=
      h.passage hpassage fun _ _ heq hP => heq ▸ hP
    exact ih hnext (fun other ho => hsingle other (List.mem_cons_of_mem _ ho)) hfits.2

/-- What is remembered at one state of a run is remembered at all later ones. -/
theorem Remembers.of_le {changes : List Change} (hunique : ∀ change ∈ changes, change.UniqueIds)
    (htidy : store.Tidy) (hfits : store.Fits changes) {P : Schema → Prop} (hP : OfFields P)
    {version : UInt64} {i j : Nat} (hij : i ≤ j)
    (h : (store.after (changes.take i)).Remembers id version P) :
    (store.after (changes.take j)).Remembers id version P := by
  obtain ⟨n, rfl⟩ := Nat.exists_eq_add_of_le hij
  clear hij
  induction n with
  | zero => exact h
  | succ n ih =>
    cases hget : changes[i + n]? with
    | none =>
      have hlen := List.getElem?_eq_none_iff.mp hget
      rwa [← Nat.add_assoc, List.take_of_length_le (by omega), ← List.take_of_length_le hlen]
    | some change =>
      rw [← Nat.add_assoc, after_take_succ store hget]
      exact ih.apply hP (htidy.after _) (hunique change (List.mem_of_getElem? hget))
        (hfits.changeFits hget)

/-- Along a run, versions of an id do not decrease; an equal version means equal fields and an id
that was never gone; and an upsert gives a version above all earlier ones. -/
theorem versions_never_reused (definitions : Definitions) (changes : List Change)
    (hunique : ∀ change ∈ changes, change.UniqueIds)
    (hfits : (ofDefinitions definitions).Fits changes) (id : String) :
    let state := fun i => (ofDefinitions definitions).after (changes.take i)
    (∀ i j a b, i < j → (state i).schema? id = some a → (state j).schema? id = some b →
      a.version ≤ b.version ∧
      (a.version = b.version → sameFields a.fields b.fields = true ∧
        ∀ k, i ≤ k → k ≤ j → ((state k).schema? id).isSome) ∧
      ∀ k, i < k → k < j → (state k).schema? id = none → a.version < b.version) ∧
    ∀ i j a schema, i ≤ j → (state i).schema? id = some a →
      changes[j]? = some (.upsert schema) → schema.id = id →
      ∃ version, ((state j).upsert schema).1 = some version ∧ a.version < version := by
  intro state
  have htidy : (ofDefinitions definitions).Tidy := tidy_ofDefinitions definitions
  have hkeep {P : Schema → Prop} (hP : OfFields P) {version : UInt64} {i j : Nat} (hij : i ≤ j)
      (h : (state i).Remembers id version P) : (state j).Remembers id version P :=
    h.of_le hunique htidy hfits hP hij
  have hsame (a : Schema) : OfFields fun schema => sameFields a.fields schema.fields = true :=
    fun _ _ hR hP => sameFields_trans hP hR
  have hlater {i j : Nat} {a : Schema} (hij : i ≤ j) (ha : (state i).schema? id = some a) :
      (state j).Remembers id a.version fun schema => sameFields a.fields schema.fields = true :=
    hkeep (hsame a) hij (remembers_of_schema? ha (sameFields_refl a.fields))
  have habove {i j k : Nat} {a b : Schema} (hik : i ≤ k) (hkj : k ≤ j)
      (ha : (state i).schema? id = some a) (hb : (state j).schema? id = some b)
      (hk : (state k).schema? id = none) : a.version < b.version := by
    have hgone := (hlater hik ha).of_gone (Q := fun _ => False) hk
    have hj := hkeep (fun _ _ _ hP => hP) hkj hgone
    exact UInt64.lt_of_le_of_ne (hj.le_version hb) fun he => hj.holds b hb he.symm
  constructor
  · intro i j a b hij ha hb
    have hj := hlater (Nat.le_of_lt hij) ha
    refine ⟨hj.le_version hb, fun he => ⟨hj.holds b hb he.symm, fun k hik hkj => ?_⟩,
      fun k hik hkj hk => habove (Nat.le_of_lt hik) (Nat.le_of_lt hkj) ha hb hk⟩
    cases hk : (state k).schema? id with
    | none => exact absurd he (UInt64.ne_of_lt (habove hik hkj ha hb hk))
    | some schema => rfl
  · intro i j a schema hij ha hupsert hid
    obtain ⟨last, hlast, hle⟩ := (hlater hij ha).last
    obtain ⟨version, hversion⟩ := Option.isSome_iff_exists.mp (hfits.changeFits hupsert)
    refine ⟨version, hversion, UInt64.lt_of_le_of_lt hle ?_⟩
    rw [upsert_fst] at hversion
    exact lt_upsertVersion (hid ▸ hlast) hversion

/-- A schema that goes and comes back twice has a higher version than at first. -/
theorem version_of_returning_schema :
    let user := Schema.ofFields "user" []
    let changes := [Change.remove "user", .upsert user, .replaceAll ⟨[], [], []⟩,
      .replaceAll ⟨[user], [], []⟩]
    let store := ofDefinitions ⟨[user], [], []⟩
    (∀ change ∈ changes, change.UniqueIds) ∧ store.Fits changes ∧
      ∃ last, store.schema? "user" = some user ∧
        (store.after changes).schema? "user" = some last ∧ user.version < last.version := by
  intro user changes store
  have hunique : ∀ change ∈ changes, change.UniqueIds := by
    simp [changes, Change.UniqueIds]
  have hfits : store.Fits changes := ⟨trivial, rfl, rfl, rfl, trivial⟩
  refine ⟨hunique, hfits, { user with version := 2 }, rfl, rfl, ?_⟩
  exact ((versions_never_reused ⟨[user], [], []⟩ changes hunique hfits "user").1 0 4 user
    { user with version := 2 } (by decide) rfl rfl).2.2 1 (by decide) (by decide) rfl

end MockApi.Store
