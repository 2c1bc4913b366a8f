import MockApi.Proofs.Generator.Output
import MockApi.Proofs.Keyed
import MockApi.Proofs.Resolution.Steps
import MockApi.Store
import MockApi.Synthesis

/-! A payload has the form of the tree that it is made from: names and their order, numbers of
items, and kinds of leaves. -/
namespace MockApi

/-- The numbers of items that a count stands for. -/
def ItemCount.Admits : ItemCount → Nat → Prop
  | .fixed n, length => length = n
  | .range min max, length => min ≤ length ∧ length ≤ max

namespace Node

mutual

/-- A value has the form of a node. An object has exactly the names of the fields, in order. -/
def Conforms (maxItems : Nat) : Node → Json → Prop
  | leaf binding, value => ∃ generator,
      Generator.find? binding.generator = some generator ∧ generator.output.Admits value
  | object _ fields, value => ∃ members, value = .obj members ∧
      Keyed.keys members = Keyed.keys fields ∧ FieldsConform maxItems fields members
  | list count element, value => ∃ items, value = .arr items ∧ count.Admits items.length ∧
      items.length ≤ maxItems ∧ ∀ item ∈ items, Conforms maxItems element item

/-- Every field has a member at its place whose value conforms. -/
def FieldsConform (maxItems : Nat) : List (String × Node) → List (String × Json) → Prop
  | [], members => members = []
  | (_, node) :: rest, members => ∃ name value others, members = (name, value) :: others ∧
      Conforms maxItems node value ∧ FieldsConform maxItems rest others

end

mutual

/-- Resolved from sound definitions: no object repeats a name, and every count is allowed. -/
def Sound (maxItems : Nat) : Node → Prop
  | leaf _ => True
  | object _ fields => Keyed.Unique fields ∧ FieldsSound maxItems fields
  | list count element => count.Allowed maxItems ∧ Sound maxItems element

def FieldsSound (maxItems : Nat) : List (String × Node) → Prop
  | [] => True
  | (_, node) :: rest => Sound maxItems node ∧ FieldsSound maxItems rest

end

end Node

theorem Node.fieldsSound_iff {maxItems : Nat} {fields : List (String × Node)} :
    FieldsSound maxItems fields ↔ ∀ entry ∈ fields, entry.2.Sound maxItems := by
  induction fields with
  | nil => exact ⟨fun _ => List.forall_mem_nil _, fun _ => trivial⟩
  | cons entry rest ih => rw [FieldsSound, ih, List.forall_mem_cons]

/-- Resolution gives sound trees. -/
theorem Resolve.schemaNode_sound {limits : Limits} {schema? : String → Option Schema}
    (hdistinct : ∀ id schema, schema? id = some schema → (schema.fields.map (·.name)).Nodup)
    {remaining : Nat} {ancestors : List String} {path : FieldPath} {id : String} {node : Node}
    {reads : Reads}
    (h : schemaNode (m := Id) limits schema? remaining ancestors path id =
      Except.ok (node, reads)) : node.Sound limits.maxItems := by
  refine schemaNode_induct (P := Node.Sound limits.maxItems) (fun _ _ => trivial)
    (fun count node hcount hnode => ⟨hcount, hnode⟩) (fun id schema fields hs hnames hnodes => ?_) h
  refine ⟨?_, Node.fieldsSound_iff.mpr hnodes⟩
  rw [Keyed.Unique, hnames]
  exact hdistinct id schema hs

/-! ## Synthesis from sound trees -/

theorem ItemCount.draw_admits {maxItems : Nat} {count : ItemCount} (h : count.Allowed maxItems) :
    count.draw.Always fun n => count.Admits n ∧ n ≤ maxItems := by
  cases count with
  | fixed n => exact Draw.Always.pure ⟨rfl, h⟩
  | range min max =>
    obtain ⟨hle, hmax⟩ := h
    rw [draw]
    split
    · exact Draw.Always.pure ⟨⟨Nat.le_refl min, hle⟩, Nat.le_trans hle hmax⟩
    · exact (Draw.natBetween_mem hle).mono fun n hn => ⟨hn, Nat.le_trans hn.2 hmax⟩

namespace Node

mutual

theorem synthesizeAt_conforms {maxItems : Nat} (path : FieldPath) : ∀ node : Node,
    node.Sound maxItems → Yields (node.Conforms maxItems) (node.synthesizeAt path)
  | leaf binding, _ => by
    rw [synthesizeAt]
    exact ((Generator.generate_yields binding.generator binding.params).adapt _).mono
      fun value hv => by rwa [Conforms]
  | object schema fields, h => by
    rw [Sound] at h
    rw [synthesizeAt]
    have hunique : (Keyed.keys ([] : Keyed Json) ++ Keyed.keys fields).Nodup := by
      simpa [Keyed.keys, Keyed.Unique] using h.1
    refine (synthesizeFields_conforms path [] fields hunique h.2).mono ?_
    rintro value ⟨members, rfl, hkeys, hconforms⟩
    rw [Conforms]
    exact ⟨members, rfl, hkeys, hconforms⟩
  | list count element, h => by
    rw [Sound] at h
    rw [synthesizeAt]
    refine (Yields.lift (ItemCount.draw_admits h.1)).bind fun n hn => ?_
    refine (Yields.mapM fun i _ =>
      synthesizeAt_conforms (path.push (.index i)) element h.2).bind fun items hitems => ?_
    rw [List.length_range] at hitems
    refine Yields.pure ?_
    rw [Conforms]
    exact ⟨items, rfl, hitems.1 ▸ hn.1, hitems.1 ▸ hn.2, hitems.2⟩

/-- The fields that are left come behind the members that are there. -/
theorem synthesizeFields_conforms {maxItems : Nat} (path : FieldPath) (members : Keyed Json) :
    ∀ fields : List (String × Node),
    (Keyed.keys members ++ Keyed.keys fields).Nodup → FieldsSound maxItems fields →
    Yields (fun value => ∃ new, value = .obj (members ++ new) ∧
      Keyed.keys new = Keyed.keys fields ∧ FieldsConform maxItems fields new)
      (synthesizeFields path members fields)
  | [], _, _ => by
    rw [synthesizeFields]
    exact Yields.pure ⟨[], by simp, rfl, by rw [FieldsConform]⟩
  | (name, node) :: rest, hunique, h => by
    rw [FieldsSound] at h
    rw [synthesizeFields]
    refine (synthesizeAt_conforms (path.push (.field name)) node h.1).bind fun value hv => ?_
    have hnew : name ∉ Keyed.keys members := fun hmem =>
      (List.nodup_append.mp hunique).2.2 name hmem name (by simp [Keyed.keys]) rfl
    rw [Keyed.insert_of_not_mem hnew]
    have hrest : (Keyed.keys (members ++ [(name, value)]) ++ Keyed.keys rest).Nodup := by
      simpa [Keyed.keys] using hunique
    refine (synthesizeFields_conforms path _ rest hrest h.2).mono ?_
    rintro _ ⟨new, rfl, hkeys, hconforms⟩
    refine ⟨(name, value) :: new, by simp, ?_, ?_⟩
    · rw [Keyed.keys, List.map_cons, ← Keyed.keys, hkeys]
      rfl
    · rw [FieldsConform]
      exact ⟨name, value, new, rfl, hv, hconforms⟩

end

end Node

/-- Whatever the source is, a payload conforms to the tree that it is made from. -/
theorem payload_conforms_to_tree {store : Store}
    (hdistinct : ∀ id schema, store.schema? id = some schema →
      (schema.fields.map (·.name)).Nodup)
    {limits : Limits} {root : String} {tree : Tree}
    (htree : resolve limits store.schema? root = .ok tree)
    {source : Source} {value : Json} (hvalue : (tree.root.synthesizeFrom source).1 = .ok value) :
    tree.root.Conforms limits.maxItems value := by
  obtain ⟨node, reads, hnode, rfl⟩ := resolve_eq_ok.mp htree
  exact Node.synthesizeAt_conforms FieldPath.root node (Resolve.schemaNode_sound hdistinct hnode)
    source value hvalue

/-- A list of up to three objects in front of one more object. -/
theorem order_payload_conforms :
    let item := Schema.ofFields "item" [⟨"count", .leaf ⟨"integer", Params.empty⟩⟩]
    let order := Schema.ofFields "order"
      [⟨"items", .list (.nested "item") (.range 2 3)⟩, ⟨"last", .nested "item"⟩]
    let store := Store.ofDefinitions ⟨[item, order], [], []⟩
    let source : Source := ⟨[], 0, [0, 0x80000000, 0, 0x40000000, 0, 0x20000000, 0, 0, 7, 7]⟩
    (∀ id schema, store.schema? id = some schema → (schema.fields.map (·.name)).Nodup) ∧
      ∃ tree value, resolve ⟨2, 3⟩ store.schema? "order" = .ok tree ∧
        (tree.root.synthesizeFrom source).1 = .ok value ∧ tree.root.Conforms 3 value := by
  intro item order store source
  have hdistinct : ∀ id schema, store.schema? id = some schema →
      (schema.fields.map (·.name)).Nodup := by
    intro id schema hs
    have hmem : (id, schema) ∈ [("item", item), ("order", order)] := Keyed.mem_of_find? hs
    simp only [List.mem_cons, List.not_mem_nil, or_false] at hmem
    rcases hmem with heq | heq <;> cases heq <;> decide
  exact ⟨hdistinct, _, _, rfl, rfl,
    @payload_conforms_to_tree store hdistinct ⟨2, 3⟩ "order" _ rfl source _ rfl⟩

end MockApi
