import MockApi.Proofs.Store.Change

/-! What is there once new definitions have taken the place of all old ones: every new schema under
the version it is taken over with, and the last versions of the ids that are gone. -/
namespace MockApi.Store

/-- The version under which a new schema is taken over. -/
def takenVersion (store : Store) (schema : Schema) : Option UInt64 :=
  intakeVersion (store.schema? schema.id) (Keyed.find? schema.id store.retired) schema

def taken? (store : Store) (schema : Schema) : Option Schema :=
  (store.takenVersion schema).map fun version => { schema with version }

namespace Intake

variable {store : Store} {intake next : Intake} {schema : Schema} {schemas : List Schema}
  {id : String}

/-! ## One schema -/

theorem take_eq_some_iff : intake.take store schema = some next ↔
    ∃ version, intakeVersion (store.schema? schema.id) (Keyed.find? schema.id intake.retired)
        schema = some version ∧
      next = ⟨Keyed.insert schema.id { schema with version } intake.schemas,
        if (store.schema? schema.id).isSome then intake.retired
        else Keyed.erase schema.id intake.retired⟩ := by
  simp only [take, Option.bind_eq_bind, Option.bind_eq_some_iff, Option.pure_def, Option.some_inj,
    eq_comm (a := next)]

theorem retired_take (h : intake.take store schema = some next) :
    next.retired = if (store.schema? schema.id).isSome then intake.retired
      else Keyed.erase schema.id intake.retired := by
  obtain ⟨version, -, rfl⟩ := take_eq_some_iff.mp h
  rfl

/-- A schema comes in under its own id. -/
theorem schemas_take (h : intake.take store schema = some next) :
    ∃ version, next.schemas = Keyed.insert schema.id { schema with version } intake.schemas := by
  obtain ⟨version, -, rfl⟩ := take_eq_some_iff.mp h
  exact ⟨version, rfl⟩

theorem find?_retired_take_of_ne (h : intake.take store schema = some next)
    (hid : id ≠ schema.id) : Keyed.find? id next.retired = Keyed.find? id intake.retired := by
  rw [retired_take h]
  split
  · rfl
  · exact Keyed.find?_erase_of_ne hid _

/-! ## All schemas -/

theorem takeAll_cons_eq_some_iff {rest : List Schema} :
    takeAll store intake (schema :: rest) = some next ↔
      ∃ middle, intake.take store schema = some middle ∧
        takeAll store middle rest = some next := by
  simp only [takeAll, List.foldlM_cons, Option.bind_eq_bind, Option.bind_eq_some_iff]

theorem takeAll_append {rest : List Schema} : takeAll store intake (schemas ++ rest) =
    (takeAll store intake schemas).bind fun middle => takeAll store middle rest :=
  List.foldlM_append

/-- What every schema that comes in preserves holds behind all of them. -/
theorem takeAll_induct {P : Intake → Prop} (hall : takeAll store intake schemas = some next)
    (hstart : P intake)
    (hstep : ∀ intake schema next, schema ∈ schemas → intake.take store schema = some next →
      P intake → P next) : P next := by
  induction schemas generalizing intake with
  | nil =>
    cases hall
    exact hstart
  | cons schema rest ih =>
    obtain ⟨middle, htake, hrest⟩ := takeAll_cons_eq_some_iff.mp hall
    exact ih hrest (hstep intake schema middle List.mem_cons_self htake hstart)
      fun intake other next ho => hstep intake other next (List.mem_cons_of_mem _ ho)

theorem find?_retired_takeAll (hall : takeAll store intake schemas = some next)
    (h : ∀ schema ∈ schemas, schema.id ≠ id) :
    Keyed.find? id next.retired = Keyed.find? id intake.retired :=
  takeAll_induct (P := fun other => Keyed.find? id other.retired = Keyed.find? id intake.retired)
    hall rfl fun _ schema _ hs htake hsame =>
      (find?_retired_take_of_ne htake (h schema hs).symm).trans hsame

theorem mem_keys_takeAll (hall : takeAll store intake schemas = some next) :
    id ∈ Keyed.keys next.schemas ↔
      id ∈ schemas.map (·.id) ∨ id ∈ Keyed.keys intake.schemas := by
  induction schemas generalizing intake with
  | nil =>
    cases hall
    simp
  | cons schema rest ih =>
    obtain ⟨middle, htake, hrest⟩ := takeAll_cons_eq_some_iff.mp hall
    obtain ⟨version, heq⟩ := schemas_take htake
    rw [ih hrest, heq, Keyed.mem_keys_insert, List.map_cons, List.mem_cons]
    exact or_left_comm.trans or_assoc.symm

/-- As long as no id comes twice, each schema meets the retired versions of the old state. -/
theorem find?_schemas_takeAll (id : String) (hall : takeAll store intake schemas = some next)
    (hunique : (schemas.map (·.id)).Nodup)
    (hagree : ∀ schema ∈ schemas,
      Keyed.find? schema.id intake.retired = Keyed.find? schema.id store.retired) :
    Keyed.find? id next.schemas = match schemas.find? fun schema => schema.id = id with
      | some schema => store.taken? schema
      | none => Keyed.find? id intake.schemas := by
  induction schemas generalizing intake with
  | nil =>
    cases hall
    rfl
  | cons schema rest ih =>
    obtain ⟨middle, htake, hrest⟩ := takeAll_cons_eq_some_iff.mp hall
    rw [List.map_cons, List.nodup_cons] at hunique
    have hne : ∀ other ∈ rest, other.id ≠ schema.id := fun other ho he =>
      hunique.1 (he ▸ List.mem_map_of_mem ho)
    have hothers : ∀ other ∈ rest, Keyed.find? other.id middle.retired =
        Keyed.find? other.id store.retired := fun other ho => by
      rw [find?_retired_take_of_ne htake (hne other ho)]
      exact hagree other (List.mem_cons_of_mem _ ho)
    rw [ih hrest hunique.2 hothers]
    obtain ⟨version, hversion, rfl⟩ := take_eq_some_iff.mp htake
    by_cases hid : schema.id = id
    · subst hid
      have hnone : (rest.find? fun other => other.id = schema.id) = none := by
        simpa using hne
      rw [hagree schema List.mem_cons_self] at hversion
      simp [hnone, taken?, takenVersion, hversion]
    · simp [hid, Keyed.find?_insert_of_ne (Ne.symm hid)]

/-- Into a store that is empty schemas come as they are offered. -/
theorem takeAll_empty (schemas : List Schema) :
    takeAll empty ⟨[], []⟩ schemas = some ⟨Keyed.byId Schema.id schemas, []⟩ := by
  rw [Keyed.byId, Keyed.ofEntries, List.foldl_map]
  generalize ([] : Keyed Schema) = found
  induction schemas generalizing found with
  | nil => rfl
  | cons schema rest ih => exact ih (Keyed.insert schema.id schema found)

/-! ## The ids that are missing -/

theorem schemas_retireMissing (previous : Keyed Schema) (intake : Intake) :
    (intake.retireMissing previous).schemas = intake.schemas := by
  unfold retireMissing
  induction previous generalizing intake with
  | nil => rfl
  | cons entry rest ih =>
    rw [List.foldl_cons, ih]
    split <;> rfl

theorem find?_retired_retireMissing {previous : Keyed Schema} (hunique : Keyed.Unique previous)
    (hid : Keyed.find? id intake.schemas = none) :
    Keyed.find? id (intake.retireMissing previous).retired =
      ((Keyed.find? id previous).map (·.version) <|> Keyed.find? id intake.retired) := by
  unfold retireMissing
  induction previous generalizing intake with
  | nil => rfl
  | cons entry rest ih =>
    obtain ⟨key, schema⟩ := entry
    have hn : key ∉ Keyed.keys rest ∧ Keyed.Unique rest := by
      simpa [Keyed.Unique, Keyed.keys] using hunique
    rw [List.foldl_cons, ih hn.2 (by split <;> exact hid)]
    by_cases hk : key = id
    · subst hk
      have hrest : Keyed.find? key rest = none := by
        simpa [Keyed.mem_keys_iff_find?] using hn.1
      simp [Keyed.find?_cons, Keyed.contains, hid, hrest]
    · have hret : Keyed.find? id (if Keyed.contains key intake.schemas then intake
          else { intake with retired := Keyed.insert key schema.version intake.retired }).retired =
          Keyed.find? id intake.retired := by
        split
        · rfl
        · exact Keyed.find?_insert_of_ne (Ne.symm hk) _ _
      rw [hret, Keyed.find?_cons, if_neg hk]

end Intake

variable {store next : Store} {definitions : Definitions} {schema : Schema} {id : String}

/-! ## What new definitions show -/

theorem replaceAll_eq_some_iff : store.replaceAll definitions = some next ↔
    ∃ intake, Intake.takeAll store ⟨[], store.retired⟩ definitions.schemas = some intake ∧
      next = ofIntake (intake.retireMissing store.schemas) definitions := by
  simp only [replaceAll, Option.bind_eq_bind, Option.bind_eq_some_iff, Option.pure_def,
    Option.some_inj, eq_comm (a := next)]

/-- The first definitions are those that come into an empty store. -/
theorem replaceAll_empty (definitions : Definitions) :
    empty.replaceAll definitions = some (ofDefinitions definitions) :=
  replaceAll_eq_some_iff.mpr ⟨_, Intake.takeAll_empty definitions.schemas, rfl⟩

theorem schemas_ofIntake_retireMissing (intake : Intake) (previous : Keyed Schema) :
    (ofIntake (intake.retireMissing previous) definitions).schemas = intake.schemas :=
  Intake.schemas_retireMissing previous intake

theorem schema?_replaceAll (h : store.replaceAll definitions = some next)
    (hunique : (definitions.schemas.map (·.id)).Nodup) (id : String) :
    next.schema? id =
      (definitions.schemas.find? fun schema => schema.id = id).bind store.taken? := by
  obtain ⟨intake, hall, rfl⟩ := replaceAll_eq_some_iff.mp h
  rw [schema?, schemas_ofIntake_retireMissing,
    Intake.find?_schemas_takeAll id hall hunique fun _ _ => rfl]
  cases definitions.schemas.find? fun schema => schema.id = id <;> rfl

theorem isSome_schema?_replaceAll (h : store.replaceAll definitions = some next) :
    (next.schema? id).isSome = true ↔ id ∈ definitions.schemas.map (·.id) := by
  obtain ⟨intake, hall, rfl⟩ := replaceAll_eq_some_iff.mp h
  rw [schema?, schemas_ofIntake_retireMissing, ← Keyed.mem_keys_iff_find?,
    Intake.mem_keys_takeAll hall]
  exact or_iff_left List.not_mem_nil

/-- Each new schema is there under the version that it was given. -/
theorem taken_of_find? (h : store.replaceAll definitions = some next)
    (hunique : (definitions.schemas.map (·.id)).Nodup)
    (hfind : (definitions.schemas.find? fun schema => schema.id = id) = some schema) :
    ∃ version, store.takenVersion schema = some version ∧
      next.schema? id = some { schema with version } := by
  have hschema := schema?_replaceAll h hunique id
  rw [hfind, Option.bind_some] at hschema
  have hid : schema.id = id := by simpa using List.find?_some hfind
  have hmem : id ∈ definitions.schemas.map (·.id) :=
    List.mem_map.mpr ⟨schema, List.mem_of_find?_eq_some hfind, hid⟩
  obtain ⟨new, hnew⟩ := Option.isSome_iff_exists.mp ((isSome_schema?_replaceAll h).mpr hmem)
  rw [hnew] at hschema
  obtain ⟨version, hversion, heq⟩ := Option.map_eq_some_iff.mp hschema.symm
  exact ⟨version, hversion, hnew.trans (congrArg some heq.symm)⟩

/-- An id that is not among the new definitions keeps its last version. -/
theorem last?_replaceAll_of_gone (hunique : Keyed.Unique store.schemas)
    (h : store.replaceAll definitions = some next) (hnone : next.schema? id = none) :
    next.last? id = store.last? id := by
  have habsent : ∀ schema ∈ definitions.schemas, schema.id ≠ id := by
    rintro schema hmem rfl
    have hlive := (isSome_schema?_replaceAll h).mpr (List.mem_map_of_mem hmem)
    simp [hnone] at hlive
  obtain ⟨intake, hall, rfl⟩ := replaceAll_eq_some_iff.mp h
  have hschemas : Keyed.find? id intake.schemas = none := by
    simpa only [schema?, schemas_ofIntake_retireMissing] using hnone
  have hretired := Intake.find?_retired_retireMissing hunique hschemas
  rw [Intake.find?_retired_takeAll hall habsent] at hretired
  rw [last?, version?, hnone]
  exact hretired

/-! ## Every schema under its own id -/

theorem tidy_replaceAll (h : store.replaceAll definitions = some next) : next.Tidy := by
  obtain ⟨intake, hall, rfl⟩ := replaceAll_eq_some_iff.mp h
  have hintake : Keyed.Unique intake.schemas ∧
      ∀ id schema, Keyed.find? id intake.schemas = some schema → schema.id = id := by
    refine Intake.takeAll_induct (P := fun intake => Keyed.Unique intake.schemas ∧
      ∀ id schema, Keyed.find? id intake.schemas = some schema → schema.id = id) hall
      ⟨List.nodup_nil, fun _ _ hs => nomatch hs⟩ ?_
    intro intake schema next _ htake ⟨hunique, hown⟩
    obtain ⟨version, heq⟩ := Intake.schemas_take htake
    rw [heq]
    exact tidy_insert hunique hown { schema with version }
  constructor
  · rw [schemas_ofIntake_retireMissing]
    exact hintake.1
  · simpa only [schema?, schemas_ofIntake_retireMissing] using hintake.2

theorem tidy_ofDefinitions (definitions : Definitions) : (ofDefinitions definitions).Tidy :=
  tidy_replaceAll (replaceAll_empty definitions)

theorem Tidy.upsert (h : store.Tidy) (schema : Schema) : (store.upsert schema).2.Tidy := by
  unfold Store.upsert
  cases store.upsertVersion schema with
  | some version =>
    have hstep := tidy_insert h.unique h.ownId { schema with version }
    exact ⟨hstep.1, hstep.2⟩
  | none => exact ⟨h.unique, h.ownId⟩

theorem Tidy.remove (h : store.Tidy) (id : String) : (store.remove id).2.Tidy := by
  constructor
  · unfold Store.remove
    cases store.schema? id with
    | none => exact h.unique
    | some schema => exact Keyed.unique_erase h.unique id
  · intro other schema hs
    by_cases ho : other = id
    · subst ho
      simp at hs
    · rw [schema?_remove_of_ne _ ho] at hs
      exact h.ownId other schema hs

theorem Tidy.apply (h : store.Tidy) (change : Change) : (store.apply change).Tidy := by
  cases change with
  | replaceAll definitions =>
    rw [Store.apply]
    cases hnext : store.replaceAll definitions with
    | some next => exact tidy_replaceAll hnext
    | none => exact h
  | upsert schema => exact h.upsert schema
  | remove id => exact h.remove id

theorem Tidy.after (h : store.Tidy) (changes : List Change) : (store.after changes).Tidy := by
  induction changes generalizing store with
  | nil => exact h
  | cons change rest ih => exact ih (h.apply change)

theorem Reachable.tidy (h : store.Reachable) : store.Tidy := by
  obtain ⟨definitions, changes, rfl⟩ := h
  exact (tidy_ofDefinitions definitions).after changes

end MockApi.Store
