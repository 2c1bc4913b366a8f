import MockApi.Proofs.Store.Versions

/-! How far versions rise: which one follows a last version, where there is none, and for how many
changes there is room. Nothing is assumed of the definitions; an id may come several times among
them. -/
namespace MockApi

/-- The schemas that a change brings in. -/
def Change.schemas : Change → List Schema
  | .replaceAll definitions => definitions.schemas
  | .upsert schema => [schema]
  | .remove _ => []

namespace Store

variable {store : Store} {intake : Intake} {schema : Schema} {id : String} {bound : Nat}

/-! ## The version behind a last one -/

/-- Given to a schema that offers a version, behind the last version of its id. -/
structure Follows (last offered : UInt64) (given? : Option UInt64) : Prop where
  exists_iff : given?.isSome = true ↔ HasNext last offered
  above : ∀ given, given? = some given → last < given
  next : ∀ given, given? = some given → given.toNat = max last.toNat offered.toNat + 1

theorem follows_nextVersion (last offered : UInt64) :
    Follows last offered (nextVersion last offered) :=
  ⟨isSome_nextVersion, fun _ => lt_of_nextVersion, fun _ => nextVersion_eq_some_iff.mp⟩

/-! ## New definitions -/

/-- The version of a schema that comes in, by the schema it meets under its id, if there is one, and
else by the retired version that it meets. -/
def Receives (old? : Option Schema) (retired? : Option UInt64) (schema : Schema)
    (given? : Option UInt64) : Prop :=
  match old?, retired? with
  | some old, _ =>
      if sameFields old.fields schema.fields then given? = some old.version
      else Follows old.version schema.version given?
  | none, some last => Follows last schema.version given?
  | none, none => given? = some schema.version

theorem receives_intakeVersion (old? : Option Schema) (retired? : Option UInt64)
    (schema : Schema) :
    Receives old? retired? schema (intakeVersion old? retired? schema) := by
  cases old? with
  | some old =>
    unfold Receives intakeVersion
    dsimp only
    split
    · rfl
    · exact follows_nextVersion old.version schema.version
  | none =>
    cases retired? with
    | some last => exact follows_nextVersion last schema.version
    | none => rfl

namespace Intake

variable {next : Intake} {schemas : List Schema}

theorem find?_schemas_takeAll_of_ne (hall : takeAll store intake schemas = some next)
    (h : ∀ schema ∈ schemas, schema.id ≠ id) :
    Keyed.find? id next.schemas = Keyed.find? id intake.schemas :=
  takeAll_induct (P := fun other => Keyed.find? id other.schemas = Keyed.find? id intake.schemas)
    hall rfl fun _ schema _ hs htake hsame => by
      obtain ⟨version, heq⟩ := schemas_take htake
      rw [heq, Keyed.find?_insert_of_ne (h schema hs).symm, hsame]

theorem find?_retired_take_self (hgone : store.schema? schema.id = none)
    (htake : intake.take store schema = some next) :
    Keyed.find? schema.id next.retired = none := by
  rw [retired_take htake, hgone]
  exact Keyed.find?_erase_self _ _

/-- A retired version is met by the first schema of its id only. -/
theorem find?_retired_takeAll_of_gone (hgone : store.schema? id = none)
    (hall : takeAll store intake schemas = some next) : Keyed.find? id next.retired =
      if id ∈ schemas.map (·.id) then none else Keyed.find? id intake.retired := by
  induction schemas generalizing intake with
  | nil =>
    cases hall
    rfl
  | cons schema rest ih =>
    obtain ⟨middle, htake, hrest⟩ := takeAll_cons_eq_some_iff.mp hall
    rw [ih hrest]
    by_cases hid : schema.id = id
    · subst hid
      simp [find?_retired_take_self hgone htake]
    · simp [find?_retired_take_of_ne htake (Ne.symm hid), Ne.symm hid]

theorem takeAll_eq_none_iff : takeAll store intake schemas = none ↔
    ∃ front schema rest middle, schemas = front ++ schema :: rest ∧
      takeAll store intake front = some middle ∧ middle.take store schema = none := by
  constructor
  · intro hnone
    induction schemas generalizing intake with
    | nil => cases hnone
    | cons schema rest ih =>
      cases htake : intake.take store schema with
      | none => exact ⟨[], schema, rest, intake, rfl, rfl, htake⟩
      | some next =>
        have hrest : takeAll store next rest = none := by
          simpa [takeAll, List.foldlM_cons, htake] using hnone
        obtain ⟨front, other, behind, middle, rfl, hfront, hother⟩ := ih hrest
        exact ⟨schema :: front, other, behind, middle, rfl,
          takeAll_cons_eq_some_iff.mpr ⟨next, htake, hfront⟩, hother⟩
  · rintro ⟨front, schema, rest, middle, rfl, hfront, hschema⟩
    rw [takeAll_append, hfront, Option.bind_some]
    simp [takeAll, List.foldlM_cons, hschema]

end Intake

/-- New definitions are stopped at the first schema that is given no version. -/
theorem replaceAll_eq_none_iff {definitions : Definitions} :
    store.replaceAll definitions = none ↔ ∃ front schema rest intake,
      definitions.schemas = front ++ schema :: rest ∧
        Intake.takeAll store ⟨[], store.retired⟩ front = some intake ∧
        intake.take store schema = none := by
  rw [← Intake.takeAll_eq_none_iff, replaceAll]
  cases Intake.takeAll store ⟨[], store.retired⟩ definitions.schemas <;> simp

/-- Every new schema comes in under the version that what is there of its id calls for, if there is
this version, and the last schema of an id stays. -/
theorem receives_replaceAll {definitions : Definitions} {front rest : List Schema}
    (hsplit : definitions.schemas = front ++ schema :: rest)
    (hfront : Intake.takeAll store ⟨[], store.retired⟩ front = some intake) :
    ∃ given?, Receives (store.schema? schema.id)
        (if schema.id ∈ front.map (·.id) then none else Keyed.find? schema.id store.retired)
        schema given? ∧
      (intake.take store schema).isSome = given?.isSome ∧
      (∀ next, intake.take store schema = some next → Keyed.find? schema.id next.schemas =
        given?.map fun given => { schema with version := given }) ∧
      ∀ after, store.replaceAll definitions = some after →
        (∀ other ∈ rest, other.id ≠ schema.id) → after.schema? schema.id =
          given?.map fun given => { schema with version := given } := by
  let given? := intakeVersion (store.schema? schema.id) (Keyed.find? schema.id intake.retired)
    schema
  have htake (next : Intake) (hnext : intake.take store schema = some next) :
      Keyed.find? schema.id next.schemas =
        given?.map fun given => { schema with version := given } := by
    obtain ⟨given, hgiven, rfl⟩ := Intake.take_eq_some_iff.mp hnext
    simp [given?, hgiven]
  refine ⟨given?, ?_, ?_, htake, fun after hafter hlast => ?_⟩
  · cases hold : store.schema? schema.id with
    | some old =>
      simp only [given?, hold]
      exact receives_intakeVersion (some old) _ schema
    | none =>
      rw [← Intake.find?_retired_takeAll_of_gone hold hfront]
      simp only [given?, hold]
      exact receives_intakeVersion none _ schema
  · change (given?.bind _).isSome = _
    cases given? <;> rfl
  · obtain ⟨final, hall, rfl⟩ := replaceAll_eq_some_iff.mp hafter
    rw [hsplit, Intake.takeAll_append, hfront, Option.bind_some,
      Intake.takeAll_cons_eq_some_iff] at hall
    obtain ⟨next, hnext, hrest⟩ := hall
    rw [schema?, schemas_ofIntake_retireMissing, Intake.find?_schemas_takeAll_of_ne hrest hlast,
      htake next hnext]

/-! ## The version that an id last had -/

theorem last?_apply_of_gone (htidy : store.Tidy) {change : Change}
    (hkept : ¬change.Forgets store id) (hnone : (store.apply change).schema? id = none) :
    (store.apply change).last? id = store.last? id := by
  cases change with
  | replaceAll definitions =>
    rw [apply] at hnone ⊢
    cases hnext : store.replaceAll definitions with
    | some next =>
      rw [hnext] at hnone
      exact last?_replaceAll_of_gone htidy.unique hnext hnone
    | none => rfl
  | upsert schema =>
    by_cases hid : id = schema.id
    · subst hid
      rw [apply, schema?_upsert_self] at hnone
      cases hversion : store.upsertVersion schema with
      | some version => simp [hversion] at hnone
      | none =>
        rw [hversion] at hnone
        exact (hkept ⟨rfl, hnone, hversion⟩).elim
    · exact (passage_upsert_of_ne store hid).last?_eq hnone
  | remove removed => exact (passage_remove store removed id).last?_eq hnone

/-- What is kept as the last version of an id is the version of the last schema that it had, unless
that was forgotten. -/
theorem last?_iff {state : Nat → Store} {forgotten : Nat → Prop}
    (hstart : (state 0).schema? id = none → (state 0).last? id = none)
    (hgone : ∀ i, ¬forgotten i → (state (i + 1)).schema? id = none →
      (state (i + 1)).last? id = (state i).last? id)
    (hforgotten : ∀ i, forgotten i → (state (i + 1)).last? id = none) (i : Nat)
    (version : UInt64) :
    (state i).last? id = some version ↔ ∃ k ≤ i, ∃ schema, (state k).schema? id = some schema ∧
      schema.version = version ∧ (∀ m, k < m → m ≤ i → (state m).schema? id = none) ∧
        ∀ m, k ≤ m → m < i → ¬forgotten m := by
  have hlive {i : Nat} {schema : Schema} (hs : (state i).schema? id = some schema) :
      (state i).last? id = some version ↔ ∃ k ≤ i, ∃ schema, (state k).schema? id = some schema ∧
        schema.version = version ∧ (∀ m, k < m → m ≤ i → (state m).schema? id = none) ∧
          ∀ m, k ≤ m → m < i → ¬forgotten m := by
    rw [last?_of_schema? hs, Option.some_inj]
    constructor
    · rintro rfl
      exact ⟨i, Nat.le_refl i, schema, hs, rfl, fun m hlt hle => by omega,
        fun m hle hlt => by omega⟩
    · rintro ⟨k, hk, other, hother, rfl, hnone, -⟩
      rcases Nat.lt_or_eq_of_le hk with hlt | rfl
      · simp [hnone i hlt (Nat.le_refl i)] at hs
      · rw [hs, Option.some_inj] at hother
        rw [hother]
  induction i with
  | zero =>
    cases hs : (state 0).schema? id with
    | some schema => exact hlive hs
    | none =>
      rw [hstart hs]
      refine iff_of_false (fun h => by cases h) ?_
      rintro ⟨k, hk, schema, hschema, -, -⟩
      obtain rfl := Nat.le_zero.mp hk
      simp [hs] at hschema
  | succ i ih =>
    cases hs : (state (i + 1)).schema? id with
    | some schema => exact hlive hs
    | none =>
      have hbefore {k : Nat} {schema : Schema} (hk : k ≤ i + 1)
          (hschema : (state k).schema? id = some schema) : k ≤ i := by
        rcases Nat.le_succ_iff.mp hk with hk | rfl
        · exact hk
        · simp [hs] at hschema
      by_cases hforgot : forgotten i
      · rw [hforgotten i hforgot]
        refine iff_of_false (fun h => by cases h) ?_
        rintro ⟨k, hk, schema, hschema, -, -, hkept⟩
        exact hkept i (hbefore hk hschema) (Nat.lt_succ_self i) hforgot
      · rw [hgone i hforgot hs]
        refine ih.trans ⟨?_, ?_⟩
        · rintro ⟨k, hk, schema, hschema, hversion, hnone, hkept⟩
          refine ⟨k, Nat.le_succ_of_le hk, schema, hschema, hversion, fun m hlt hle => ?_,
            fun m hle hlt => ?_⟩
          · rcases Nat.le_succ_iff.mp hle with hle | rfl
            · exact hnone m hlt hle
            · exact hs
          · rcases Nat.lt_succ_iff_lt_or_eq.mp hlt with hlt | rfl
            · exact hkept m hle hlt
            · exact hforgot
        · rintro ⟨k, hk, schema, hschema, hversion, hnone, hkept⟩
          exact ⟨k, hbefore hk hschema, schema, hschema, hversion,
            fun m hlt hle => hnone m hlt (Nat.le_succ_of_le hle),
            fun m hle hlt => hkept m hle (Nat.lt_succ_of_lt hlt)⟩

/-! ## Room for changes -/

/-- No version of a store, live or retired, is above a bound. -/
structure Within (bound : Nat) (store : Store) : Prop where
  schemas : ∀ entry ∈ store.schemas, entry.2.version.toNat ≤ bound
  retired : ∀ entry ∈ store.retired, entry.2.toNat ≤ bound

theorem Within.mono {larger : Nat} (h : store.Within bound) (hle : bound ≤ larger) :
    store.Within larger :=
  ⟨fun entry he => Nat.le_trans (h.schemas entry he) hle,
    fun entry he => Nat.le_trans (h.retired entry he) hle⟩

theorem Within.schema? (h : store.Within bound) (hs : store.schema? id = some schema) :
    schema.version.toNat ≤ bound :=
  h.schemas (id, schema) (Keyed.mem_of_find? hs)

theorem Within.last? (h : store.Within bound) {last : UInt64} (hlast : store.last? id = some last) :
    last.toNat ≤ bound := by
  cases hs : store.schema? id with
  | some schema =>
    rw [last?_of_schema? hs, Option.some_inj] at hlast
    exact hlast ▸ h.schema? hs
  | none =>
    rw [last?_of_gone hs] at hlast
    exact h.retired (id, last) (Keyed.mem_of_find? hlast)

theorem hasNext_of_le {last offered : UInt64} (hlast : last.toNat ≤ bound)
    (hoffered : offered.toNat ≤ bound) (hroom : bound + 1 < 2 ^ 64) : HasNext last offered := by
  rw [HasNext, toNat_max]
  omega

theorem exists_nextVersion {last offered : UInt64} (hlast : last.toNat ≤ bound)
    (hoffered : offered.toNat ≤ bound) (hroom : bound + 1 < 2 ^ 64) :
    ∃ given, nextVersion last offered = some given ∧ given.toNat ≤ bound + 1 := by
  obtain ⟨given, hgiven⟩ := Option.isSome_iff_exists.mp
    (isSome_nextVersion.mpr (hasNext_of_le hlast hoffered hroom))
  have hnat := nextVersion_eq_some_iff.mp hgiven
  exact ⟨given, hgiven, by omega⟩

theorem exists_intakeVersion {old? : Option Schema} {retired? : Option UInt64}
    (hold : ∀ old, old? = some old → old.version.toNat ≤ bound)
    (hretired : ∀ last, retired? = some last → last.toNat ≤ bound)
    (hschema : schema.version.toNat ≤ bound) (hroom : bound + 1 < 2 ^ 64) :
    ∃ given, intakeVersion old? retired? schema = some given ∧ given.toNat ≤ bound + 1 := by
  cases old? with
  | some old =>
    have hle := hold old rfl
    unfold intakeVersion
    dsimp only
    split
    · exact ⟨old.version, rfl, Nat.le_succ_of_le hle⟩
    · exact exists_nextVersion hle hschema hroom
  | none =>
    cases retired? with
    | some last => exact exists_nextVersion (hretired last rfl) hschema hroom
    | none => exact ⟨schema.version, rfl, Nat.le_succ_of_le hschema⟩

/-- While new definitions come in: what is there has risen by one step, and what is retired has
stayed. -/
structure Intake.Within (bound : Nat) (intake : Intake) : Prop where
  schemas : ∀ entry ∈ intake.schemas, entry.2.version.toNat ≤ bound + 1
  retired : ∀ entry ∈ intake.retired, entry.2.toNat ≤ bound

namespace Intake

theorem Within.take (h : intake.Within bound) (hstore : store.Within bound)
    (hschema : schema.version.toNat ≤ bound) (hroom : bound + 1 < 2 ^ 64) :
    ∃ next, intake.take store schema = some next ∧ next.Within bound := by
  obtain ⟨given, hgiven, hle⟩ := exists_intakeVersion (fun _ hs => hstore.schema? hs)
    (fun last hlast => h.retired (schema.id, last) (Keyed.mem_of_find? hlast)) hschema hroom
  refine ⟨_, take_eq_some_iff.mpr ⟨given, hgiven, rfl⟩, fun entry he => ?_, fun entry he => ?_⟩
  · rcases Keyed.mem_of_mem_insert he with rfl | he
    · exact hle
    · exact h.schemas entry he
  · dsimp only at he
    split at he
    · exact h.retired entry he
    · exact h.retired entry (Keyed.mem_of_mem_erase he)

theorem Within.takeAll (h : intake.Within bound) (hstore : store.Within bound)
    {schemas : List Schema} (hschemas : ∀ schema ∈ schemas, schema.version.toNat ≤ bound)
    (hroom : bound + 1 < 2 ^ 64) :
    ∃ next, takeAll store intake schemas = some next ∧ next.Within bound := by
  induction schemas generalizing intake with
  | nil => exact ⟨intake, rfl, h⟩
  | cons schema rest ih =>
    obtain ⟨hfirst, hrest⟩ := List.forall_mem_cons.mp hschemas
    obtain ⟨middle, htake, hmiddle⟩ := h.take hstore hfirst hroom
    obtain ⟨next, hnext, hwithin⟩ := ih hmiddle hrest
    exact ⟨next, takeAll_cons_eq_some_iff.mpr ⟨middle, htake, hnext⟩, hwithin⟩

theorem Within.retireMissing (h : intake.Within bound) {previous : Keyed Schema}
    (hprevious : ∀ entry ∈ previous, entry.2.version.toNat ≤ bound) :
    (intake.retireMissing previous).Within bound := by
  unfold Intake.retireMissing
  induction previous generalizing intake with
  | nil => exact h
  | cons entry rest ih =>
    obtain ⟨hfirst, hrest⟩ := List.forall_mem_cons.mp hprevious
    refine ih ?_ hrest
    dsimp only
    split
    · exact h
    · refine ⟨h.schemas, fun other ho => ?_⟩
      rcases Keyed.mem_of_mem_insert ho with rfl | ho
      · exact hfirst
      · exact h.retired other ho

end Intake

/-- With room for one more step a change fits, and it takes one step. -/
theorem Within.apply (h : store.Within bound) {change : Change}
    (hschemas : ∀ schema ∈ change.schemas, schema.version.toNat ≤ bound)
    (hroom : bound + 1 < 2 ^ 64) :
    store.ChangeFits change ∧ (store.apply change).Within (bound + 1) := by
  cases change with
  | replaceAll definitions =>
    have hstart : Intake.Within bound ⟨[], store.retired⟩ := ⟨List.forall_mem_nil _, h.retired⟩
    obtain ⟨intake, hall, hintake⟩ := hstart.takeAll h hschemas hroom
    have hdone := hintake.retireMissing h.schemas
    have hnext : store.replaceAll definitions =
        some (ofIntake (intake.retireMissing store.schemas) definitions) :=
      replaceAll_eq_some_iff.mpr ⟨intake, hall, rfl⟩
    rw [ChangeFits, apply_replaceAll hnext, hnext]
    exact ⟨rfl, hdone.schemas, fun entry he => Nat.le_succ_of_le (hdone.retired entry he)⟩
  | upsert schema =>
    have hschema : schema.version.toNat ≤ bound := hschemas schema List.mem_cons_self
    obtain ⟨given, hgiven, hle⟩ :
        ∃ given, store.upsertVersion schema = some given ∧ given.toNat ≤ bound + 1 := by
      unfold upsertVersion
      cases hlast : store.last? schema.id with
      | some last => exact exists_nextVersion (h.last? hlast) hschema hroom
      | none => exact ⟨schema.version, rfl, Nat.le_succ_of_le hschema⟩
    refine ⟨by rw [ChangeFits, upsert_fst, hgiven]; rfl, fun entry he => ?_, fun entry he => ?_⟩
    · simp only [Store.apply, Store.upsert, hgiven] at he
      rcases Keyed.mem_of_mem_insert he with rfl | he
      · exact hle
      · exact Nat.le_succ_of_le (h.schemas entry he)
    · refine Nat.le_succ_of_le (h.retired entry ?_)
      rw [Store.apply, retired_upsert] at he
      split at he
      · exact he
      · exact Keyed.mem_of_mem_erase he
  | remove removed =>
    refine ⟨trivial, ?_⟩
    simp only [Store.apply, Store.remove]
    cases hs : store.schema? removed with
    | none => exact h.mono (Nat.le_succ bound)
    | some schema =>
      refine ⟨fun entry he => ?_, fun entry he => ?_⟩
      · exact Nat.le_succ_of_le (h.schemas entry (Keyed.mem_of_mem_erase he))
      · rcases Keyed.mem_of_mem_insert he with rfl | he
        · exact Nat.le_succ_of_le (h.schema? hs)
        · exact Nat.le_succ_of_le (h.retired entry he)

/-- Every change takes at most one step. -/
theorem Within.fits (h : store.Within bound) {changes : List Change}
    (hschemas : ∀ change ∈ changes, ∀ schema ∈ change.schemas, schema.version.toNat ≤ bound)
    (hroom : bound + changes.length < 2 ^ 64) : store.Fits changes := by
  induction changes generalizing store bound with
  | nil => trivial
  | cons change rest ih =>
    rw [List.length_cons] at hroom
    obtain ⟨hfirst, hrest⟩ := List.forall_mem_cons.mp hschemas
    obtain ⟨hfits, hnext⟩ := h.apply hfirst (by omega)
    refine ⟨hfits, ih hnext (fun other ho schema hs => ?_) (by omega)⟩
    exact Nat.le_succ_of_le (hrest other ho schema hs)

/-- What a store starts with has the versions that it is given with. -/
theorem within_ofDefinitions {definitions : Definitions}
    (hschemas : ∀ schema ∈ definitions.schemas, schema.version.toNat ≤ bound) :
    (ofDefinitions definitions).Within bound := by
  refine ⟨fun entry he => ?_, fun entry he => absurd he List.not_mem_nil⟩
  obtain ⟨schema, hmem, rfl⟩ := List.mem_map.mp (Keyed.mem_of_mem_ofEntries he)
  exact hschemas schema hmem

/-- Along a run, the last version of an id is that of the last schema it had, unless an upsert was
stopped that had taken it out. An upsert of a known id and new definitions with changed or returning
fields are given a version above the last one exactly if there is one above the last and the offered
one, and are stopped otherwise; of a returning id that comes twice, only the first schema is given
one. There is always one, as long as the offered versions leave room for the changes of the run. -/
theorem versions_rise_where_there_is_room (definitions : Definitions) (changes : List Change) :
    let state := fun i => (ofDefinitions definitions).after (changes.take i)
    (∀ i id version, (state i).last? id = some version ↔
      ∃ k ≤ i, ∃ schema, (state k).schema? id = some schema ∧ schema.version = version ∧
        (∀ m, k < m → m ≤ i → (state m).schema? id = none) ∧
        ∀ m, k ≤ m → m < i →
          ¬∃ change, changes[m]? = some change ∧ change.Forgets (state m) id) ∧
    (∀ i schema last, (state i).last? schema.id = some last →
      Follows last schema.version ((state i).upsert schema).1) ∧
    (∀ i new front schema rest intake, new.schemas = front ++ schema :: rest →
      Intake.takeAll (state i) ⟨[], (state i).retired⟩ front = some intake →
      ∃ given?, Receives ((state i).schema? schema.id)
          (if schema.id ∈ front.map (·.id) then none
            else Keyed.find? schema.id (state i).retired) schema given? ∧
        (intake.take (state i) schema).isSome = given?.isSome ∧
        (∀ next, intake.take (state i) schema = some next →
          Keyed.find? schema.id next.schemas =
            given?.map fun given => { schema with version := given }) ∧
        ∀ after, (state i).replaceAll new = some after →
          (∀ other ∈ rest, other.id ≠ schema.id) → after.schema? schema.id =
            given?.map fun given => { schema with version := given }) ∧
    (∀ i new, (state i).replaceAll new = none ↔ ∃ front schema rest intake,
      new.schemas = front ++ schema :: rest ∧
        Intake.takeAll (state i) ⟨[], (state i).retired⟩ front = some intake ∧
        intake.take (state i) schema = none) ∧
    ∀ bound, (∀ schema ∈ definitions.schemas ++ changes.flatMap Change.schemas,
        schema.version.toNat ≤ bound) →
      bound + changes.length < 2 ^ 64 → (ofDefinitions definitions).Fits changes := by
  intro state
  refine ⟨fun i id version => last?_iff (fun hnone => ?_) (fun i hkept hnone => ?_)
      (fun i hforgotten => ?_) i version,
    fun i schema last hlast => ?_,
    fun i new front schema rest intake hsplit hfront => receives_replaceAll hsplit hfront,
    fun i new => replaceAll_eq_none_iff, fun bound hschemas hroom => ?_⟩
  · exact last?_of_gone hnone
  · cases hget : changes[i]? with
    | some change =>
      have hstep : state (i + 1) = (state i).apply change := after_take_succ _ hget
      rw [hstep] at hnone ⊢
      exact last?_apply_of_gone ((tidy_ofDefinitions definitions).after _)
        (fun hforgets => hkept ⟨change, hget, hforgets⟩) hnone
    | none =>
      have hlen := List.getElem?_eq_none_iff.mp hget
      simp only [state, List.take_of_length_le hlen,
        List.take_of_length_le (Nat.le_succ_of_le hlen)]
  · obtain ⟨change, hget, hforgets⟩ := hforgotten
    have hstep : state (i + 1) = (state i).apply change := after_take_succ _ hget
    rw [hstep]
    exact last?_apply_of_forgets hforgets
  · rw [upsert_fst, upsertVersion, hlast]
    exact follows_nextVersion last schema.version
  · rw [List.forall_mem_append] at hschemas
    refine (within_ofDefinitions hschemas.1).fits (fun change hchange schema hs => ?_) hroom
    exact hschemas.2 schema (List.mem_flatMap.mpr ⟨change, hchange, hs⟩)

/-- A schema that is gone comes back with a version of its own, and changes once more. -/
theorem versions_rise_behind_offered_one :
    let user := Schema.ofFields "user" []
    let changes := [Change.remove "user", .replaceAll ⟨[{ user with version := 7 }], [], []⟩]
    let store := ofDefinitions ⟨[user], [], []⟩
    store.Fits changes ∧ (store.after changes).last? "user" = some 8 ∧
      Follows 8 user.version ((store.after changes).upsert user).1 := by
  intro user changes store
  have hrise := versions_rise_where_there_is_room ⟨[user], [], []⟩ changes
  have hlast : (store.after changes).last? "user" = some 8 := rfl
  refine ⟨hrise.2.2.2.2 7 ?_ (by decide), hlast, hrise.2.1 2 user 8 hlast⟩
  simp [changes, Change.schemas, user, Schema.ofFields]

/-- The format admits the largest version, and behind it there is none: new fields that offer it are
stopped, whether they come by themselves or with all other definitions. And of an id that comes back
twice, the second schema is stored under the version it is given with. -/
theorem version_overflows_behind_largest :
    let fields := fun n : Int =>
      [Field.mk "id" (.leaf ⟨"constant", Params.ofMembers [("value", .int n)]⟩)]
    let user := Schema.ofFields "user" (fields 1)
    let renewed := { Schema.ofFields "user" (fields 2) with version := 18446744073709551615 }
    let store := ofDefinitions ⟨[user], [], []⟩
    let twice := (ofDefinitions ⟨[{ user with version := 5 }], [], []⟩).after
      [.remove "user", .replaceAll ⟨[user, user], [], []⟩]
    (store.last? "user" = some 0 ∧ sameFields user.fields renewed.fields = false ∧
      store.replaceAll ⟨[renewed], [], []⟩ = none ∧ (store.upsert renewed).1 = none) ∧
    twice.last? "user" = some 0 := by
  intro fields user renewed store twice
  have hnext : nextVersion user.version renewed.version = none := by decide
  have hgiven : intakeVersion (store.schema? "user") none renewed = none := hnext
  have htake : Intake.take store ⟨[], []⟩ renewed = none := by
    refine Option.eq_none_iff_forall_ne_some.mpr fun next hsome => ?_
    obtain ⟨given, hsome, -⟩ := Intake.take_eq_some_iff.mp hsome
    cases hgiven.symm.trans hsome
  have hreload : store.replaceAll ⟨[renewed], [], []⟩ = none :=
    replaceAll_eq_none_iff.mpr ⟨[], renewed, [], ⟨[], []⟩, rfl, rfl, htake⟩
  exact ⟨⟨rfl, rfl, hreload, hnext⟩, rfl⟩

end Store
end MockApi
