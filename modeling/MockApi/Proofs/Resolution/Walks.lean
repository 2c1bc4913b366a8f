import Mathlib.Data.List.Chain
import MockApi.Proofs.Resolution.Steps
import MockApi.Proofs.Store.Intake

/-! Exactly which schemas resolve, stated through the walks along their references. -/
namespace MockApi

variable {limits : Limits} {schema? : String → Option Schema}

/-- Some field of a stored schema refers to the next one. -/
def Refers (schema? : String → Option Schema) (id next : String) : Prop :=
  ∃ schema, schema? id = some schema ∧ ∃ field ∈ schema.fields, field.reference? = some next

/-- A walk along references. -/
structure Walk (schema? : String → Option Schema) (root : String) (walk : List String) : Prop where
  start : walk.head? = some root
  steps : walk.IsChain (Refers schema?)

/-- All walks from a root end at stored schemas, repeat none, keep to the depth, and pass only
schemas with admissible fields. -/
structure Resolvable (limits : Limits) (schema? : String → Option Schema) (root : String) :
    Prop where
  stored : ∀ walk, Walk schema? root walk → ∀ id, walk.getLast? = some id → (schema? id).isSome
  acyclic : ∀ walk, Walk schema? root walk → walk.Nodup
  shallow : ∀ walk, Walk schema? root walk → walk.length ≤ limits.maxDepth
  admissible : ∀ walk, Walk schema? root walk → ∀ id ∈ walk, ∀ schema, schema? id = some schema →
    ∀ field ∈ schema.fields, field.shape.Admissible limits

theorem walk_singleton (schema? : String → Option Schema) (id : String) : Walk schema? id [id] :=
  ⟨rfl, .singleton id⟩

theorem Walk.cons {id next : String} {rest : List String} (h : Walk schema? next rest)
    (hrefers : Refers schema? id next) : Walk schema? id (id :: rest) := by
  refine ⟨rfl, List.isChain_cons.mpr ⟨fun other ho => ?_, h.steps⟩⟩
  rw [h.start, Option.mem_some_iff] at ho
  exact ho ▸ hrefers

/-- A walk stays where it is or goes on with a walk from a schema that is referred to. -/
theorem Walk.cases_start {id : String} {walk : List String} (h : Walk schema? id walk) :
    walk = [id] ∨ ∃ next rest, Refers schema? id next ∧ Walk schema? next (next :: rest) ∧
      walk = id :: next :: rest := by
  obtain ⟨hstart, hsteps⟩ := h
  cases walk with
  | nil => simp at hstart
  | cons first rest =>
    cases hstart
    cases rest with
    | nil => exact Or.inl rfl
    | cons next rest =>
      rw [List.isChain_cons_cons] at hsteps
      exact Or.inr ⟨next, rest, hsteps.1, ⟨rfl, hsteps.2⟩, rfl⟩

namespace Resolve

/-- What resolution needs of a walk that starts below some ancestors. -/
structure Passable (limits : Limits) (schema? : String → Option Schema) (remaining : Nat)
    (ancestors walk : List String) : Prop where
  stored : ∀ id, walk.getLast? = some id → (schema? id).isSome
  nodup : walk.Nodup
  fresh : ∀ id ∈ walk, id ∉ ancestors
  short : walk.length ≤ remaining
  admissible : ∀ id ∈ walk, ∀ schema, schema? id = some schema →
    ∀ field ∈ schema.fields, field.shape.Admissible limits

/-- Behind its first schema a walk has that schema as one more ancestor. -/
theorem passable_cons_iff {remaining : Nat} {ancestors rest : List String} {id next : String} :
    Passable limits schema? (remaining + 1) ancestors (id :: next :: rest) ↔
      id ∉ ancestors ∧ (∀ schema, schema? id = some schema →
        ∀ field ∈ schema.fields, field.shape.Admissible limits) ∧
      Passable limits schema? remaining (ancestors ++ [id]) (next :: rest) := by
  constructor
  · rintro ⟨hstored, hnodup, hfresh, hshort, hadmissible⟩
    rw [List.nodup_cons] at hnodup
    refine ⟨hfresh id List.mem_cons_self, hadmissible id List.mem_cons_self, ?_, hnodup.2,
      fun other ho => ?_, by simpa using hshort, fun other ho =>
        hadmissible other (List.mem_cons_of_mem _ ho)⟩
    · simpa using hstored
    · have hne : other ≠ id := fun he => hnodup.1 (he ▸ ho)
      simp [hfresh other (List.mem_cons_of_mem _ ho), hne]
  · rintro ⟨hid, hfields, hstored, hnodup, hfresh, hshort, hadmissible⟩
    refine ⟨by simpa using hstored, ?_, ?_, by simpa using hshort, ?_⟩
    · refine List.nodup_cons.mpr ⟨fun hmem => ?_, hnodup⟩
      exact hfresh id hmem (by simp)
    · intro other ho
      rcases List.mem_cons.mp ho with rfl | ho
      · exact hid
      · exact fun hmem => hfresh other ho (List.mem_append_left _ hmem)
    · intro other ho
      rcases List.mem_cons.mp ho with rfl | ho
      · exact hfields
      · exact hadmissible other ho

/-- All walks from a stored schema are passable when the ones from its references are. -/
theorem forall_passable_iff {remaining : Nat} {ancestors : List String} {id : String}
    {schema : Schema} (hs : schema? id = some schema) :
    (∀ walk, Walk schema? id walk → Passable limits schema? (remaining + 1) ancestors walk) ↔
      id ∉ ancestors ∧ ∀ field ∈ schema.fields, field.shape.Admissible limits ∧
        ∀ next, field.reference? = some next → ∀ walk, Walk schema? next walk →
          Passable limits schema? remaining (ancestors ++ [id]) walk := by
  constructor
  · intro h
    have hself := h [id] (walk_singleton schema? id)
    refine ⟨hself.fresh id (by simp), fun field hf =>
      ⟨hself.admissible id (by simp) schema hs field hf, fun next hnext walk hwalk => ?_⟩⟩
    have hstart := hwalk.start
    cases walk with
    | nil => simp at hstart
    | cons first rest =>
      cases hstart
      exact (passable_cons_iff.mp (h _ (hwalk.cons ⟨schema, hs, field, hf, hnext⟩))).2.2
  · rintro ⟨hid, hfields⟩ walk hwalk
    have hown : ∀ other, schema? id = some other →
        ∀ field ∈ other.fields, field.shape.Admissible limits := by
      intro other ho
      rw [hs, Option.some_inj] at ho
      exact fun field hf => (hfields field (ho ▸ hf)).1
    rcases hwalk.cases_start with rfl | ⟨next, rest, ⟨other, ho, field, hf, hnext⟩, hrest, rfl⟩
    · exact ⟨by simp [hs], by simp, by simpa using hid, by simp, by simpa using hown⟩
    · rw [hs, Option.some_inj] at ho
      exact passable_cons_iff.mpr ⟨hid, hown,
        (hfields field (ho ▸ hf)).2 next hnext (next :: rest) hrest⟩

/-! ## Success, step by step -/

section Success

variable {nested : Nested Id} {Q : String → Prop}

theorem shapeNode_isOk_iff (hQ : ∀ path id, (∃ result, nested path id = Except.ok result) ↔ Q id)
    (path : FieldPath) (field : Field) :
    (∃ result, shapeNode limits nested path field.shape = Except.ok result) ↔
      field.shape.Admissible limits ∧ ∀ next, field.reference? = some next → Q next := by
  obtain ⟨name, shape⟩ := field
  simp only [shapeNode_eq_ok, exists_and_left, and_congr_right_iff, Field.reference?]
  intro _
  cases shape with
  | leaf binding => simp
  | nested schema => simpa using hQ path schema
  | list element count =>
    cases element with
    | leaf binding => simp
    | nested schema =>
      simp only [Option.some.injEq, forall_eq', ← hQ (path.push .anyIndex) schema]
      exact ⟨fun ⟨_, node, reads, h, _⟩ => ⟨(node, reads), h⟩,
        fun ⟨⟨node, reads⟩, h⟩ => ⟨_, node, reads, h, rfl⟩⟩

theorem fieldNodes_isOk_iff (hQ : ∀ path id, (∃ result, nested path id = Except.ok result) ↔ Q id)
    (path : FieldPath) (fields : List Field) :
    (∃ result, fieldNodes limits nested path fields = Except.ok result) ↔
      ∀ field ∈ fields, field.shape.Admissible limits ∧
        ∀ next, field.reference? = some next → Q next := by
  induction fields with
  | nil => simp [fieldNodes_nil_eq_ok]
  | cons field rest ih =>
    rw [List.forall_mem_cons, ← ih, ← shapeNode_isOk_iff hQ (path.push (.field field.name)) field]
    simp only [fieldNodes_cons_eq_ok]
    constructor
    · rintro ⟨_, node, reads, nodes, more, hshape, hrest, _⟩
      exact ⟨⟨_, hshape⟩, ⟨_, hrest⟩⟩
    · rintro ⟨⟨⟨node, reads⟩, hshape⟩, ⟨nodes, more⟩, hrest⟩
      exact ⟨_, node, reads, nodes, more, hshape, hrest, rfl⟩

end Success

/-- A schema resolves below its ancestors exactly when all walks from it are passable there. -/
theorem schemaNode_isOk_iff (hown : OwnIds schema?) (remaining : Nat) (ancestors : List String)
    (path : FieldPath) (id : String) :
    (∃ result, schemaNode (m := Id) limits schema? remaining ancestors path id =
      Except.ok result) ↔
      ∀ walk, Walk schema? id walk → Passable limits schema? remaining ancestors walk := by
  induction remaining generalizing ancestors path id with
  | zero =>
    simp only [schemaNode_eq_ok]
    constructor
    · rintro ⟨_, _, _, _, _, _, hn, _⟩
      omega
    · intro h
      have hshort := (h [id] (walk_singleton schema? id)).short
      simp at hshort
  | succ remaining ih =>
    cases hs : schema? id with
    | none =>
      simp only [schemaNode_eq_ok, hs]
      constructor
      · rintro ⟨_, _, _, _, _, _, _, hnone, _⟩
        cases hnone
      · intro h
        have hstored := (h [id] (walk_singleton schema? id)).stored id rfl
        simp [hs] at hstored
    | some schema =>
      have hfields : (∃ result, fieldNodes limits (schemaNode (m := Id) limits schema? remaining
          (ancestors ++ [id])) path schema.fields = Except.ok result) ↔ _ :=
        fieldNodes_isOk_iff (ih (ancestors ++ [id])) path schema.fields
      rw [forall_passable_iff hs, ← hfields]
      simp only [schemaNode_eq_ok, hs]
      constructor
      · rintro ⟨_, hid, _, _, fields, reads, hn, hschema, hok, _⟩
        cases hn
        cases hschema
        rw [hown id schema hs] at hok
        exact ⟨hid, _, hok⟩
      · rintro ⟨hid, ⟨fields, reads⟩, hok⟩
        rw [← hown id schema hs] at hok
        exact ⟨_, hown id schema hs ▸ hid, remaining, schema, fields, reads, rfl, rfl,
          hown id schema hs ▸ hok, rfl⟩

end Resolve

/-- Resolution succeeds on exactly the roots from which all walks are in order. -/
theorem resolve_succeeds_iff {store : Store} (hstore : store.Reachable) (limits : Limits)
    (root : String) :
    (∃ tree, resolve limits store.schema? root = .ok tree) ↔
      Resolvable limits store.schema? root := by
  simp only [resolve_eq_ok]
  have hnode : (∃ result, Resolve.schemaNode (m := Id) limits store.schema? limits.maxDepth []
      FieldPath.root root = Except.ok result) ↔ _ :=
    Resolve.schemaNode_isOk_iff hstore.tidy.ownId limits.maxDepth [] FieldPath.root root
  constructor
  · rintro ⟨_, node, reads, hok, _⟩
    have h := hnode.mp ⟨_, hok⟩
    exact ⟨fun walk hw => (h walk hw).stored, fun walk hw => (h walk hw).nodup,
      fun walk hw => (h walk hw).short, fun walk hw => (h walk hw).admissible⟩
  · intro h
    obtain ⟨⟨node, reads⟩, hok⟩ := hnode.mpr fun walk hw => ⟨h.stored walk hw, h.acyclic walk hw,
      by simp, h.shallow walk hw, h.admissible walk hw⟩
    exact ⟨_, node, reads, hok, rfl⟩

/-- Two schemas that refer to each other do not resolve. -/
theorem mutual_reference_not_resolved :
    let left := Schema.ofFields "left" [⟨"right", .nested "right"⟩]
    let right := Schema.ofFields "right" [⟨"lefts", .list (.nested "left") .standard⟩]
    let store := Store.ofDefinitions ⟨[left, right], [], []⟩
    store.Reachable ∧ ¬ ∃ tree, resolve Limits.standard store.schema? "left" = .ok tree := by
  intro left right store
  have hstore : store.Reachable := ⟨_, [], rfl⟩
  refine ⟨hstore, fun htree => ?_⟩
  have hright : Refers store.schema? "left" "right" :=
    ⟨left, rfl, _, List.mem_singleton_self _, rfl⟩
  have hleft : Refers store.schema? "right" "left" :=
    ⟨right, rfl, _, List.mem_singleton_self _, rfl⟩
  have hwalk := ((walk_singleton store.schema? "left").cons hleft).cons hright
  have hnodup := ((resolve_succeeds_iff hstore Limits.standard "left").mp htree).acyclic _ hwalk
  simp at hnodup

end MockApi
