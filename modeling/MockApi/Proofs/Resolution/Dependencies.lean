import Mathlib.Logic.Relation
import MockApi.Proofs.Cache.Session
import MockApi.Proofs.Resolution.Walks

/-! The dependencies of a tree are exactly the schemas that it was made from: the ones that
references lead to from its root, which are the ones that its objects are labelled with. Nothing
else in the definitions shows in the tree. -/
namespace MockApi

variable {limits : Limits} {schema? : String → Option Schema}

/-- References lead from one schema to another, in any number of steps. -/
def LeadsTo (schema? : String → Option Schema) : String → String → Prop :=
  Relation.ReflTransGen (Refers schema?)

/-- Some field refers to a schema that leads to the other one. -/
def FieldsLeadTo (schema? : String → Option Schema) (fields : List Field) (id : String) : Prop :=
  ∃ field ∈ fields, ∃ next, field.reference? = some next ∧ LeadsTo schema? next id

theorem leadsTo_iff {id other : String} {schema : Schema} (hs : schema? id = some schema) :
    LeadsTo schema? id other ↔ other = id ∨ FieldsLeadTo schema? schema.fields other := by
  rw [LeadsTo, Relation.ReflTransGen.cases_head_iff, eq_comm]
  refine or_congr_right ⟨?_, ?_⟩
  · rintro ⟨next, ⟨found, hfound, field, hf, hnext⟩, hleads⟩
    cases hs.symm.trans hfound
    exact ⟨field, hf, next, hnext, hleads⟩
  · rintro ⟨field, hf, next, hnext, hleads⟩
    exact ⟨next, ⟨schema, hs, field, hf, hnext⟩, hleads⟩

namespace Resolve

/-- The objects of a node are labelled with the schemas that were read for it, and these are the
ones that its own schema leads to. -/
structure Gathers (schema? : String → Option Schema) (id : String) (result : Node × Reads) :
    Prop where
  reads : Keyed.keys result.2 = result.1.schemas
  schemas : ∀ other, other ∈ result.1.schemas ↔ LeadsTo schema? id other

variable {nested : Nested Id} {path : FieldPath}
  (hnested : ∀ path id result, nested path id = Except.ok result → Gathers schema? id result)

include hnested

theorem shapeNode_gathers {field : Field} {node : Node} {reads : Reads}
    (h : shapeNode limits nested path field.shape = Except.ok (node, reads)) :
    Keyed.keys reads = node.schemas ∧
      ∀ other, other ∈ node.schemas ↔ FieldsLeadTo schema? [field] other := by
  have hfield (other : String) : FieldsLeadTo schema? [field] other ↔
      ∃ next, field.reference? = some next ∧ LeadsTo schema? next other := by
    simp [FieldsLeadTo]
  obtain ⟨-, h⟩ := shapeNode_eq_ok.mp h
  simp only [hfield, Field.reference?]
  cases hshape : field.shape with
  | leaf binding =>
    rw [hshape] at h
    cases h
    simp [Keyed.keys, Node.schemas]
  | nested id =>
    rw [hshape] at h
    obtain ⟨hreads, hschemas⟩ := hnested _ _ _ h
    exact ⟨hreads, by simpa using hschemas⟩
  | list element count =>
    rw [hshape] at h
    cases element with
    | leaf binding =>
      cases h
      simp [Keyed.keys, Node.schemas]
    | nested id =>
      obtain ⟨item, more, hitem, heq⟩ := h
      cases heq
      obtain ⟨hreads, hschemas⟩ := hnested _ _ _ hitem
      exact ⟨hreads, by simpa [Node.schemas] using hschemas⟩

theorem fieldNodes_gathers {fields : List Field} {nodes : List (String × Node)} {reads : Reads}
    (h : fieldNodes limits nested path fields = Except.ok (nodes, reads)) :
    Keyed.keys reads = Node.schemasOfFields nodes ∧
      ∀ other, other ∈ Node.schemasOfFields nodes ↔ FieldsLeadTo schema? fields other := by
  induction fields generalizing nodes reads with
  | nil =>
    cases fieldNodes_nil_eq_ok.mp h
    simp [Keyed.keys, Node.schemasOfFields, FieldsLeadTo]
  | cons field rest ih =>
    obtain ⟨node, first, others, more, hshape, hrest, heq⟩ := fieldNodes_cons_eq_ok.mp h
    cases heq
    obtain ⟨hfirst, hnode⟩ := shapeNode_gathers hnested hshape
    obtain ⟨hmore, hothers⟩ := ih hrest
    refine ⟨?_, fun other => ?_⟩
    · rw [Node.schemasOfFields, ← hfirst, ← hmore, Keyed.keys, List.map_append]
      rfl
    · rw [Node.schemasOfFields, List.mem_append, hnode, hothers]
      simp [FieldsLeadTo]

omit hnested

theorem schemaNode_gathers (hown : OwnIds schema?) {n : Nat} {ancestors : List String}
    {id : String} {result : Node × Reads}
    (h : schemaNode (m := Id) limits schema? n ancestors path id = Except.ok result) :
    Gathers schema? id result := by
  induction n generalizing ancestors path id result with
  | zero =>
    obtain ⟨-, _, _, _, _, hn, -⟩ := schemaNode_eq_ok.mp h
    omega
  | succ n ih =>
    obtain ⟨-, _, schema, nodes, reads, hn, hs, hfields, rfl⟩ := schemaNode_eq_ok.mp h
    cases hn
    obtain ⟨hreads, hschemas⟩ := fieldNodes_gathers (fun _ _ _ hr => ih hr) hfields
    constructor
    · rw [Node.schemas, ← hreads]
      rfl
    · intro other
      rw [Node.schemas, List.mem_cons, hschemas, leadsTo_iff hs, hown id schema hs]

end Resolve

/-- The dependencies of a tree, the labels of its objects and the schemas that its root leads to are
the same. Each is there with the version that the store has for it, so that the tree is current; and
it is the tree of every store that has these schemas alike, whatever else is in there. -/
theorem dependencies_are_schemas_led_to {store : Store} (hstore : store.Reachable)
    {limits : Limits} {root : String} {tree : Tree}
    (h : resolve limits store.schema? root = .ok tree) :
    (∀ id, id ∈ Keyed.keys tree.dependencies ↔ LeadsTo store.schema? root id) ∧
    (∀ id, id ∈ tree.root.schemas ↔ LeadsTo store.schema? root id) ∧
    (∀ id, LeadsTo store.schema? root id → ∃ version, store.version? id = some version ∧
      Keyed.find? id tree.dependencies = some version) ∧
    tree.current store.version? = true ∧
    ∀ other : Store, other.Reachable →
      (∀ id, LeadsTo store.schema? root id → ∀ schema, store.schema? id = some schema →
        ∃ same, other.schema? id = some same ∧ same.fields = schema.fields ∧
          same.version = schema.version) →
      resolve limits other.schema? root = .ok tree := by
  have hown := hstore.tidy.ownId
  have hversions := Tree.version?_of_resolve hstore.tidy h
  obtain ⟨node, reads, hnode, rfl⟩ := resolve_eq_ok.mp h
  obtain ⟨hreads, hschemas⟩ := Resolve.schemaNode_gathers hown hnode
  have hkeys (id : String) :
      id ∈ Keyed.keys (Keyed.ofEntries reads) ↔ LeadsTo store.schema? root id := by
    rw [Keyed.mem_keys_ofEntries, hreads, hschemas]
  refine ⟨hkeys, hschemas, fun id hid => ?_, (Tree.current_iff _ _).mpr hversions,
    fun other hother hsame => ?_⟩
  · obtain ⟨entry, hentry, rfl⟩ := List.mem_map.mp ((hkeys id).mpr hid)
    exact ⟨entry.2, hversions entry hentry,
      Keyed.find?_of_mem (Keyed.unique_ofEntries reads) hentry⟩
  · refine resolve_of_alike hown h fun entry hentry schema hs => ?_
    have hid := (hkeys entry.1).mp (List.mem_map_of_mem hentry)
    obtain ⟨same, hfound, hfields, hversion⟩ := hsame entry.1 hid schema hs
    have hsameId : same.id = schema.id :=
      (hother.tidy.ownId _ _ hfound).trans (hown _ _ hs).symm
    exact ⟨same, hfound, hsameId, hversion, hfields⟩

/-- A schema that nothing refers to is no dependency, and when it changes the tree stays the same. -/
theorem unrelated_schema_is_no_dependency :
    let address := Schema.ofFields "address" [⟨"city", .leaf ⟨"city", Params.empty⟩⟩]
    let order := Schema.ofFields "order"
      [⟨"billing", .nested "address"⟩, ⟨"stops", .list (.nested "address") .standard⟩]
    let user := Schema.ofFields "user" [⟨"home", .nested "address"⟩]
    let store := Store.ofDefinitions ⟨[order, user, address], [], []⟩
    let changed := (store.upsert (Schema.ofFields "user" [])).2
    store.Reachable ∧ changed.Reachable ∧
      ∃ tree, resolve Limits.standard store.schema? "order" = .ok tree ∧
        "address" ∈ Keyed.keys tree.dependencies ∧ "user" ∉ Keyed.keys tree.dependencies ∧
        resolve Limits.standard changed.schema? "order" = .ok tree := by
  intro address order user store changed
  have hstore : store.Reachable := ⟨_, [], rfl⟩
  have hchanged : changed.Reachable :=
    ⟨⟨[order, user, address], [], []⟩, [.upsert (Schema.ofFields "user" [])], rfl⟩
  refine ⟨hstore, hchanged, _, rfl, ?_⟩
  obtain ⟨hkeys, hschemas, -, -, hframe⟩ :=
    @dependencies_are_schemas_led_to store hstore Limits.standard "order" _ rfl
  have huser : ¬ LeadsTo store.schema? "order" "user" := fun hleads =>
    absurd ((hschemas "user").mpr hleads) (by decide)
  refine ⟨(hkeys "address").mpr ((hschemas "address").mp (by decide)),
    fun hmem => huser ((hkeys "user").mp hmem), hframe changed hchanged fun id hid schema hs => ?_⟩
  have hne : id ≠ "user" := fun heq => huser (heq ▸ hid)
  exact ⟨schema, (Store.schema?_upsert_of_ne store hne).trans hs, rfl, rfl⟩

end MockApi
