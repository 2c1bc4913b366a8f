import MockApi.Proofs.Route.Declared
import MockApi.Proofs.Store.Versions

/-! The parts of a store fit together after every run, also where definitions repeat ids and changes
are stopped: what is stored under which key, which ids are live and which are retired, and the
groups of endpoints. -/
namespace MockApi

/-- Every value is stored once, and under its own id. -/
structure Keyed.Filed {α : Type} (id : α → String) (entries : Keyed α) : Prop where
  unique : Unique entries
  own : ∀ entry ∈ entries, id entry.2 = entry.1

namespace Keyed.Filed

variable {α : Type} {id : α → String} {entries : Keyed α}

theorem nil : Filed id [] := ⟨List.nodup_nil, List.forall_mem_nil _⟩

theorem insert (h : Filed id entries) (value : α) :
    Filed id (Keyed.insert (id value) value entries) := by
  refine ⟨unique_insert h.unique _ _, fun entry he => ?_⟩
  rcases mem_of_mem_insert he with rfl | he
  · rfl
  · exact h.own entry he

theorem erase (h : Filed id entries) (name : String) : Filed id (Keyed.erase name entries) :=
  ⟨unique_erase h.unique name, fun entry he => h.own entry (List.mem_filter.mp he).1⟩

theorem byId (values : List α) : Filed id (Keyed.byId id values) := by
  have go (values : List α) : ∀ entries, Filed id entries → Filed id ((values.map fun value =>
      (id value, value)).foldl (fun acc entry => Keyed.insert entry.1 entry.2 acc) entries) := by
    induction values with
    | nil => exact fun _ h => h
    | cons value rest ih => exact fun entries h => ih _ (h.insert value)
  exact go values [] nil

end Keyed.Filed

/-- The definitions that were loaded last, once a change is made. -/
def Change.loaded (store : Store) (before : Definitions) : Change → Definitions
  | .replaceAll definitions =>
      if (store.replaceAll definitions).isSome then definitions else before
  | _ => before

def Store.loaded (store : Store) (before : Definitions) : List Change → Definitions
  | [] => before
  | change :: rest => (store.apply change).loaded (change.loaded store before) rest

/-! ## Groups of endpoints -/

namespace RouteTable

variable {key other : RouteKey} {endpoint : Endpoint} {table : RouteTable}

theorem mem_keys_add : other ∈ (table.add key endpoint).map Prod.fst ↔
    other = key ∨ other ∈ table.map Prod.fst := by
  induction table with
  | nil => simp [add]
  | cons group rest ih =>
    obtain ⟨known, endpoints⟩ := group
    by_cases h : known = key
    · simp [add, h]
    · simp only [add, h, ↓reduceIte, List.map_cons, List.mem_cons, ih]
      exact or_left_comm

theorem nodup_keys_add (h : (table.map Prod.fst).Nodup) :
    ((table.add key endpoint).map Prod.fst).Nodup := by
  induction table with
  | nil => simp [add]
  | cons group rest ih =>
    obtain ⟨known, endpoints⟩ := group
    rw [List.map_cons, List.nodup_cons] at h
    by_cases hk : known = key
    · subst hk
      simpa only [add, ↓reduceIte, List.map_cons, List.nodup_cons] using h
    · have hnew : known ∉ (RouteTable.add key endpoint rest).map Prod.fst := by
        rw [mem_keys_add]
        exact fun hmem => hmem.elim hk h.1
      simp only [add, hk, ↓reduceIte, List.map_cons, List.nodup_cons]
      exact ⟨hnew, ih h.2⟩

theorem count_add : (table.add key endpoint).count = table.count + 1 := by
  induction table with
  | nil => rfl
  | cons group rest ih =>
    obtain ⟨known, endpoints⟩ := group
    simp only [count] at ih
    by_cases h : known = key
    · simp only [add, h, ↓reduceIte, count, List.foldr_cons, List.length_append,
        List.length_singleton]
      omega
    · simp only [add, h, ↓reduceIte, count, List.foldr_cons, ih]
      omega

theorem nodup_keys_foldl_declare (h : (table.map Prod.fst).Nodup) (endpoints : List Endpoint) :
    ((endpoints.foldl declare table).map Prod.fst).Nodup := by
  induction endpoints generalizing table with
  | nil => exact h
  | cons endpoint rest ih => exact ih (nodup_keys_add h)

theorem count_foldl_declare (endpoints : List Endpoint) :
    (endpoints.foldl declare table).count = table.count + endpoints.length := by
  induction endpoints generalizing table with
  | nil => rfl
  | cons endpoint rest ih =>
    have hadd : (table.declare endpoint).count = table.count + 1 := count_add
    rw [List.foldl_cons, ih, hadd, List.length_cons]
    omega

end RouteTable

namespace Store

open RouteTable (groupAt)

variable {definitions new : Definitions} {store next : Store} {id : String}

/-- An id has a schema, or the last version of one is remembered. -/
def Known (store : Store) (id : String) : Prop :=
  id ∈ Keyed.keys store.schemas ∨ id ∈ Keyed.keys store.retired

/-- The parts of a store agree with each other, and the endpoints with the definitions that were
loaded last. -/
structure Consistent (definitions : Definitions) (store : Store) : Prop where
  schemas : store.schemas.Filed Schema.id
  envelopes : store.envelopes.Filed Envelope.id
  apart : List.Disjoint (Keyed.keys store.schemas) (Keyed.keys store.retired)
  groups : (store.routes.map Prod.fst).Nodup
  members : ∀ key, ∀ endpoint ∈ groupAt key store.routes, endpoint.project = key.project ∧
    endpoint.method = key.method ∧ ∃ path, endpoint.path = Route.normalize path
  order : ∀ key, groupAt key store.routes =
    (definitions.endpoints.filter fun endpoint => endpoint.routeKey = key).map Endpoint.declared
  total : store.endpointCount = store.routes.count
  loaded : store.endpointCount = definitions.endpoints.length

/-! ## New definitions -/

namespace Intake

variable {intake next : Intake} {schema : Schema}

/-- While schemas are taken over, ids only leave the retired ones, and do so when they come in. -/
structure Orderly (store : Store) (intake : Intake) : Prop where
  filed : intake.schemas.Filed Schema.id
  apart : List.Disjoint (Keyed.keys intake.schemas) (Keyed.keys intake.retired)
  retired : Keyed.keys intake.retired ⊆ Keyed.keys store.retired
  known : ∀ id ∈ Keyed.keys store.retired,
    id ∈ Keyed.keys intake.schemas ∨ id ∈ Keyed.keys intake.retired

/-- The id of a schema that is taken over is not among the retired ones any more, and nothing else
happens to these. -/
theorem mem_keys_retired_take
    (hapart : List.Disjoint (Keyed.keys store.schemas) (Keyed.keys store.retired))
    (hretired : Keyed.keys intake.retired ⊆ Keyed.keys store.retired)
    (htake : intake.take store schema = some next) :
    id ∈ Keyed.keys next.retired ↔ id ≠ schema.id ∧ id ∈ Keyed.keys intake.retired := by
  rw [retired_take htake]
  split
  · next hlive =>
    have hmem : schema.id ∈ Keyed.keys store.schemas := (Keyed.mem_keys_iff_find? _ _).mpr hlive
    exact ⟨fun hgone => ⟨fun heq => hapart hmem (hretired (heq ▸ hgone)), hgone⟩, And.right⟩
  · exact Keyed.mem_keys_erase

theorem Orderly.take (h : intake.Orderly store)
    (hapart : List.Disjoint (Keyed.keys store.schemas) (Keyed.keys store.retired))
    (htake : intake.take store schema = some next) : next.Orderly store := by
  have hmem {id : String} : id ∈ Keyed.keys next.retired ↔
      id ≠ schema.id ∧ id ∈ Keyed.keys intake.retired :=
    mem_keys_retired_take hapart h.retired htake
  obtain ⟨version, hschemas⟩ := schemas_take htake
  have hkeys {id : String} : id ∈ Keyed.keys next.schemas ↔
      id = schema.id ∨ id ∈ Keyed.keys intake.schemas := by
    rw [hschemas, Keyed.mem_keys_insert]
  refine ⟨?_, fun id hlive hgone => ?_, fun id hgone => ?_, fun id hgone => ?_⟩
  · rw [hschemas]
    exact h.filed.insert { schema with version }
  · obtain ⟨hne, hold⟩ := hmem.mp hgone
    exact h.apart ((hkeys.mp hlive).resolve_left hne) hold
  · exact h.retired (hmem.mp hgone).2
  · rw [hkeys, hmem]
    rcases h.known id hgone with hlive | hretired
    · exact .inl (.inr hlive)
    · by_cases hid : id = schema.id
      · exact .inl (.inl hid)
      · exact .inr ⟨hid, hretired⟩

/-- What is missing among the new schemas is retired. -/
theorem mem_keys_retired_retireMissing {previous : Keyed Schema} :
    id ∈ Keyed.keys (intake.retireMissing previous).retired ↔ id ∈ Keyed.keys intake.retired ∨
      id ∈ Keyed.keys previous ∧ id ∉ Keyed.keys intake.schemas := by
  unfold retireMissing
  induction previous generalizing intake with
  | nil => simp [Keyed.keys]
  | cons entry rest ih =>
    have hcons : id ∈ Keyed.keys (entry :: rest) ↔ id = entry.1 ∨ id ∈ Keyed.keys rest :=
      List.mem_cons
    rw [List.foldl_cons, ih, hcons]
    by_cases hin : Keyed.contains entry.1 intake.schemas = true
    · have hlive : entry.1 ∈ Keyed.keys intake.schemas := (Keyed.mem_keys_iff_find? _ _).mpr hin
      rw [if_pos hin]
      refine or_congr_right (and_congr_left fun hgone => ?_)
      exact (or_iff_right fun heq : id = entry.1 => hgone (heq ▸ hlive)).symm
    · have hgone : entry.1 ∉ Keyed.keys intake.schemas := fun hmem =>
        hin ((Keyed.mem_keys_iff_find? _ _).mp hmem)
      have hself : id = entry.1 ↔ id = entry.1 ∧ id ∉ Keyed.keys intake.schemas :=
        (and_iff_left_of_imp fun heq : id = entry.1 => heq ▸ hgone).symm
      rw [if_neg hin, Keyed.mem_keys_insert, or_and_right, ← hself, or_assoc, or_left_comm]

end Intake

theorem orderly_intake
    (hapart : List.Disjoint (Keyed.keys store.schemas) (Keyed.keys store.retired))
    {schemas : List Schema} {intake : Intake}
    (hall : Intake.takeAll store ⟨[], store.retired⟩ schemas = some intake) :
    intake.Orderly store :=
  have hstart : Intake.Orderly store ⟨[], store.retired⟩ :=
    ⟨.nil, List.disjoint_nil_left _, List.Subset.refl _, fun _ hmem => .inr hmem⟩
  Intake.takeAll_induct (P := fun intake => intake.Orderly store) hall hstart
    fun _ _ _ _ htake h => h.take hapart htake

theorem consistent_replaceAll
    (hapart : List.Disjoint (Keyed.keys store.schemas) (Keyed.keys store.retired))
    (h : store.replaceAll definitions = some next) : next.Consistent definitions := by
  obtain ⟨intake, hall, rfl⟩ := replaceAll_eq_some_iff.mp h
  have hintake := orderly_intake hapart hall
  have hcount : (definitions.endpoints.foldl RouteTable.declare []).count =
      definitions.endpoints.length :=
    (RouteTable.count_foldl_declare definitions.endpoints).trans (Nat.zero_add _)
  have horder (key : RouteKey) :
      groupAt key (definitions.endpoints.foldl RouteTable.declare []) =
        (definitions.endpoints.filter fun endpoint => endpoint.routeKey = key).map
          Endpoint.declared := RouteTable.groupAt_foldl_declare
  refine ⟨?_, Keyed.Filed.byId definitions.envelopes, fun id hlive hgone => ?_,
    @RouteTable.nodup_keys_foldl_declare [] List.nodup_nil _, fun key endpoint hmem => ?_, horder,
    hcount.symm, rfl⟩
  · rw [schemas_ofIntake_retireMissing]
    exact hintake.filed
  · rw [schemas_ofIntake_retireMissing] at hlive
    rcases Intake.mem_keys_retired_retireMissing.mp hgone with hretired | ⟨-, hmissing⟩
    · exact hintake.apart hlive hretired
    · exact hmissing hlive
  · rw [ofIntake, horder] at hmem
    obtain ⟨declaration, hdeclaration, rfl⟩ := List.mem_map.mp hmem
    have hkey : declaration.routeKey = key := by simpa using (List.mem_filter.mp hdeclaration).2
    exact ⟨congrArg RouteKey.project hkey, congrArg RouteKey.method hkey, _, rfl⟩

theorem Known.replaceAll (h : store.Known id)
    (hapart : List.Disjoint (Keyed.keys store.schemas) (Keyed.keys store.retired))
    (hnext : store.replaceAll definitions = some next) : next.Known id := by
  obtain ⟨intake, hall, rfl⟩ := replaceAll_eq_some_iff.mp hnext
  have hintake := orderly_intake hapart hall
  rw [Known, schemas_ofIntake_retireMissing, ofIntake, Intake.mem_keys_retired_retireMissing]
  rcases h with hlive | hretired
  · by_cases hin : id ∈ Keyed.keys intake.schemas
    · exact .inl hin
    · exact .inr (.inr ⟨hlive, hin⟩)
  · exact (hintake.known id hretired).imp_right .inl

/-! ## Changes of one schema -/

/-- A schema that comes in is not retired any more. -/
theorem mem_keys_retired_upsert (h : store.Consistent definitions) (schema : Schema) :
    id ∈ Keyed.keys (store.upsert schema).2.retired ↔
      id ≠ schema.id ∧ id ∈ Keyed.keys store.retired := by
  rw [retired_upsert]
  split
  · next hlive =>
    rw [version?, Option.isSome_map] at hlive
    have hmem : schema.id ∈ Keyed.keys store.schemas := (Keyed.mem_keys_iff_find? _ _).mpr hlive
    exact ⟨fun hgone => ⟨fun heq => h.apart hmem (heq ▸ hgone), hgone⟩, And.right⟩
  · exact Keyed.mem_keys_erase

theorem mem_keys_schemas_upsert (schema : Schema) :
    id ∈ Keyed.keys (store.upsert schema).2.schemas ↔
      (id = schema.id ∧ (store.upsertVersion schema).isSome = true) ∨
        id ∈ Keyed.keys store.schemas := by
  unfold upsert
  cases store.upsertVersion schema with
  | some version => simp [Keyed.mem_keys_insert]
  | none => simp

theorem Consistent.upsert (h : store.Consistent definitions) (schema : Schema) :
    (store.upsert schema).2.Consistent definitions := by
  have hapart : List.Disjoint (Keyed.keys (store.upsert schema).2.schemas)
      (Keyed.keys (store.upsert schema).2.retired) := fun id hlive hgone => by
    obtain ⟨hne, hold⟩ := (mem_keys_retired_upsert h schema).mp hgone
    rcases (mem_keys_schemas_upsert schema).mp hlive with ⟨heq, -⟩ | hlive
    · exact hne heq
    · exact h.apart hlive hold
  unfold Store.upsert at hapart ⊢
  cases hversion : store.upsertVersion schema with
  | some version =>
    rw [hversion] at hapart
    exact { h with schemas := h.schemas.insert { schema with version }, apart := hapart }
  | none =>
    rw [hversion] at hapart
    exact { h with apart := hapart }

theorem Consistent.remove (h : store.Consistent definitions) (removed : String) :
    (store.remove removed).2.Consistent definitions := by
  unfold Store.remove
  cases store.schema? removed with
  | none => exact h
  | some schema =>
    refine { h with schemas := h.schemas.erase removed, apart := fun id hlive hgone => ?_ }
    obtain ⟨hne, hold⟩ := Keyed.mem_keys_erase.mp hlive
    exact h.apart hold (((Keyed.mem_keys_insert ..).mp hgone).resolve_left hne)

theorem Known.upsert (h : store.Known id) (hstore : store.Consistent definitions)
    {schema : Schema} (hkept : ¬(Change.upsert schema).Forgets store id) :
    (store.upsert schema).2.Known id := by
  rw [Known, mem_keys_schemas_upsert, mem_keys_retired_upsert hstore]
  rcases h with hlive | hretired
  · exact .inl (.inr hlive)
  · by_cases hid : id = schema.id
    · subst hid
      have hgone : store.schema? schema.id = none := by
        rw [schema?, ← Option.not_isSome_iff_eq_none, ← Keyed.mem_keys_iff_find?]
        exact fun hlive => hstore.apart hlive hretired
      refine .inl (.inl ⟨rfl, Option.isSome_iff_ne_none.mpr fun hnone => ?_⟩)
      exact hkept ⟨rfl, hgone, hnone⟩
    · exact .inr ⟨hid, hretired⟩

theorem Known.remove (h : store.Known id) (removed : String) :
    (store.remove removed).2.Known id := by
  unfold Store.remove
  cases store.schema? removed with
  | none => exact h
  | some schema =>
    rw [Known, Keyed.mem_keys_erase, Keyed.mem_keys_insert]
    by_cases hid : id = removed
    · exact .inr (.inl hid)
    · exact h.imp (fun hlive => ⟨hid, hlive⟩) .inr

/-! ## Runs -/

theorem Consistent.apply (h : store.Consistent definitions) (change : Change) :
    (store.apply change).Consistent (change.loaded store definitions) := by
  cases change with
  | replaceAll new =>
    rw [Store.apply, Change.loaded]
    cases hnext : store.replaceAll new with
    | some next => exact consistent_replaceAll h.apart hnext
    | none => exact h
  | upsert schema => exact h.upsert schema
  | remove removed => exact h.remove removed

theorem Known.apply (h : store.Known id) (hstore : store.Consistent definitions)
    {change : Change} (hkept : ¬change.Forgets store id) : (store.apply change).Known id := by
  cases change with
  | replaceAll new =>
    rw [Store.apply]
    cases hnext : store.replaceAll new with
    | some next => exact h.replaceAll hstore.apart hnext
    | none => exact h
  | upsert schema => exact h.upsert hstore hkept
  | remove removed => exact h.remove removed

theorem Consistent.after (h : store.Consistent definitions) (changes : List Change) :
    (store.after changes).Consistent (store.loaded definitions changes) := by
  induction changes generalizing store definitions with
  | nil => exact h
  | cons change rest ih => exact ih (h.apply change)

/-- A known id stays known, or some change forgets it. -/
theorem Known.after (h : store.Known id) (hstore : store.Consistent definitions)
    (changes : List Change) : (store.after changes).Known id ∨
      ∃ m, ∃ change : Change, changes[m]? = some change ∧
        change.Forgets (store.after (changes.take m)) id := by
  induction changes generalizing store definitions with
  | nil => exact .inl h
  | cons change rest ih =>
    by_cases hforgets : change.Forgets store id
    · exact .inr ⟨0, change, rfl, hforgets⟩
    · rcases ih (h.apply hstore hforgets) (hstore.apply change) with
        hknown | ⟨m, other, hother, hlater⟩
      · exact .inl hknown
      · exact .inr ⟨m + 1, other, hother, hlater⟩

theorem not_changeFits_of_forgets {change : Change} (h : change.Forgets store id) :
    ¬store.ChangeFits change := by
  obtain ⟨schema, rfl, -, -, hversion⟩ := Change.exists_upsert_of_forgets h
  rw [ChangeFits, upsert_fst, hversion]
  exact Bool.false_ne_true

theorem consistent_ofDefinitions (definitions : Definitions) :
    (ofDefinitions definitions).Consistent definitions :=
  @consistent_replaceAll _ empty _ (List.disjoint_nil_left _) (replaceAll_empty definitions)

/-- Whatever is done to a store, its parts fit together. Every id that was live in between is live
or retired, unless an upsert of it was stopped that had taken out its retired version; where no
version is used up, there is no such upsert. -/
theorem parts_fit_together (definitions : Definitions) (changes : List Change) :
    let state := fun n => (ofDefinitions definitions).after (changes.take n)
    let store := (ofDefinitions definitions).after changes
    store.Consistent ((ofDefinitions definitions).loaded definitions changes) ∧
      (∀ n id, ((state n).schema? id).isSome →
        (store.schema? id).isSome ∨ (Keyed.find? id store.retired).isSome ∨
          ∃ m change, n ≤ m ∧ changes[m]? = some change ∧ change.Forgets (state m) id) ∧
      ((ofDefinitions definitions).Fits changes → ∀ n id, ((state n).schema? id).isSome →
        (store.schema? id).isSome ∨ (Keyed.find? id store.retired).isSome) := by
  intro state store
  have hstart := consistent_ofDefinitions definitions
  have hknown (n : Nat) (id : String) (hlive : ((state n).schema? id).isSome) :
      store.Known id ∨
        ∃ m change, n ≤ m ∧ changes[m]? = some change ∧ change.Forgets (state m) id := by
    have hthen : (state n).Known id := .inl ((Keyed.mem_keys_iff_find? _ _).mpr hlive)
    rcases hthen.after (hstart.after _) (changes.drop n) with hlast | ⟨m, change, hget, hforgets⟩
    · rw [← after_append, List.take_append_drop] at hlast
      exact .inl hlast
    · rw [List.getElem?_drop] at hget
      rw [← after_append, ← List.take_add] at hforgets
      exact .inr ⟨n + m, change, Nat.le_add_right n m, hget, hforgets⟩
  have hfound {id : String} (h : store.Known id) :
      (store.schema? id).isSome ∨ (Keyed.find? id store.retired).isSome :=
    h.imp (Keyed.mem_keys_iff_find? _ _).mp (Keyed.mem_keys_iff_find? _ _).mp
  refine ⟨hstart.after changes, fun n id hlive => ?_, fun hfits n id hlive => ?_⟩
  · rcases hknown n id hlive with h | hforgotten
    · exact or_assoc.mp (.inl (hfound h))
    · exact .inr (.inr hforgotten)
  · rcases hknown n id hlive with h | ⟨m, change, -, hget, hforgets⟩
    · exact hfound h
    · exact (not_changeFits_of_forgets hforgets (hfits.changeFits hget)).elim

/-- New definitions drop one schema and bring back another one twice, with two routes. -/
theorem parts_fit_behind_repeated_id :
    let user := Schema.ofFields "user" []
    let order := Schema.ofFields "order" []
    let first : Endpoint := ⟨"list", "shop", .get, "users/", "user", none, none⟩
    let second : Endpoint := ⟨"item", "shop", .get, "/users/:id", "user", none, none⟩
    let start : Definitions := ⟨[user, order], [], []⟩
    let reloaded : Definitions := ⟨[user, user], [first, second], []⟩
    let changes := [Change.remove "user", .replaceAll reloaded]
    let store := (ofDefinitions start).after changes
    (ofDefinitions start).Fits changes ∧ ((ofDefinitions start).schema? "order").isSome ∧
      store.Consistent reloaded ∧
      ((store.schema? "order").isSome ∨ (Keyed.find? "order" store.retired).isSome) := by
  intro user order first second start reloaded changes store
  have hfits : (ofDefinitions start).Fits changes := ⟨trivial, rfl, trivial⟩
  have hparts := parts_fit_together start changes
  exact ⟨hfits, rfl, hparts.1, hparts.2.2 hfits 0 "order" rfl⟩

/-- A schema that is gone offers itself again behind the largest version. The sum has no room, but
by then the retired version has been taken out: the id is neither live nor retired. -/
theorem stopped_upsert_forgets_id :
    let largest := { Schema.ofFields "user" [] with version := 18446744073709551615 }
    let start := ofDefinitions ⟨[largest], [], []⟩
    let store := start.after [.remove "user", .upsert (Schema.ofFields "user" [])]
    (start.schema? "user").isSome ∧ store.schema? "user" = none ∧
      Keyed.find? "user" store.retired = none := by
  intro largest start store
  let removed := start.after [.remove "user"]
  have hnext : nextVersion 18446744073709551615 0 = none := by decide
  have hforgets : (Change.upsert (Schema.ofFields "user" [])).Forgets removed "user" :=
    ⟨rfl, rfl, hnext⟩
  have hlast := last?_apply_of_forgets hforgets
  have hgone : store.schema? "user" = none := rfl
  exact ⟨rfl, hgone, (last?_of_gone hgone).symm.trans hlast⟩

end Store
end MockApi
