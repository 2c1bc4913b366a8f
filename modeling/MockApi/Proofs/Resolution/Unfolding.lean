import Mathlib.Data.List.Forall2
import Mathlib.Data.List.Nodup
import MockApi.Proofs.Resolution.Locality
import MockApi.Proofs.Store.Intake

/-! A resolved tree is what its definitions unfold to, wherever they are referred to: every object
in it is the root of its schema resolved on its own, and none lies inside another one of the same
schema. -/
namespace MockApi

variable {limits : Limits} {schema? : String → Option Schema}

/-- A schema resolves, on its own, and its root is the node. -/
def ResolvesTo (limits : Limits) (schema? : String → Option Schema) (id : String)
    (node : Node) : Prop :=
  ∃ tree, resolve limits schema? id = .ok tree ∧ tree.root = node

def Element.Unfolds (limits : Limits) (schema? : String → Option Schema) :
    Element → Node → Prop
  | .leaf binding, node => node = .leaf binding
  | .nested id, node => ResolvesTo limits schema? id node

/-- What a field stands for: its binding, a schema of its own, or a list with the declared count. -/
def Shape.Unfolds (limits : Limits) (schema? : String → Option Schema) : Shape → Node → Prop
  | .leaf binding, node => node = .leaf binding
  | .nested id, node => ResolvesTo limits schema? id node
  | .list element count, node => ∃ item, node = .list count item ∧
      element.Unfolds limits schema? item

/-- Field by field, under the names and in the order of the definition. -/
def FieldsUnfold (limits : Limits) (schema? : String → Option Schema) :
    List Field → List (String × Node) → Prop :=
  List.Forall₂ fun field entry => entry.1 = field.name ∧
    field.shape.Unfolds limits schema? entry.2

namespace Node

def ownSchema : Node → List String
  | object schema _ => [schema]
  | _ => []

/-- A way down to a node inside another one, with the schemas of the objects on it, both ends
included. -/
inductive Down : Node → List String → Node → Prop
  | here (node : Node) : Down node node.ownSchema node
  | field {schema : String} {fields : List (String × Node)} {entry : String × Node}
      {ids : List String} {target : Node} (hentry : entry ∈ fields)
      (hdown : Down entry.2 ids target) : Down (object schema fields) (schema :: ids) target
  | item {count : ItemCount} {element target : Node} {ids : List String}
      (hdown : Down element ids target) : Down (list count element) ids target

end Node

namespace Resolve

variable {nested : Nested Id} {path : FieldPath}

/-! ## Out of context -/

theorem resolvesTo_of_schemaNode (hown : OwnIds schema?) {n : Nat} (hn : n ≤ limits.maxDepth)
    {ancestors : List String} {id : String} {node : Node} {reads : Reads}
    (h : schemaNode (m := Id) limits schema? n ancestors path id = Except.ok (node, reads)) :
    ResolvesTo limits schema? id node := by
  have halone : schemaNode (m := Id) limits schema? limits.maxDepth [] FieldPath.root id =
      Except.ok (node, reads) :=
    schemaNode_of_alike hown h hn (List.nil_subset _) fun _ _ schema hs =>
      ⟨schema, hs, .refl schema⟩
  exact ⟨⟨id, node, Keyed.ofEntries reads⟩, resolve_eq_ok.mpr ⟨node, reads, halone, rfl⟩, rfl⟩

theorem shapeNode_unfolds
    (hnested : ∀ path id node reads, nested path id = Except.ok (node, reads) →
      ResolvesTo limits schema? id node)
    {shape : Shape} {node : Node} {reads : Reads}
    (h : shapeNode limits nested path shape = Except.ok (node, reads)) :
    shape.Unfolds limits schema? node := by
  obtain ⟨-, h⟩ := shapeNode_eq_ok.mp h
  cases shape with
  | leaf binding =>
    cases h
    rfl
  | nested id => exact hnested _ _ _ _ h
  | list element count =>
    cases element with
    | leaf binding =>
      cases h
      exact ⟨_, rfl, rfl⟩
    | nested id =>
      obtain ⟨item, more, hitem, heq⟩ := h
      cases heq
      exact ⟨item, rfl, hnested _ _ _ _ hitem⟩

theorem fieldNodes_unfold
    (hnested : ∀ path id node reads, nested path id = Except.ok (node, reads) →
      ResolvesTo limits schema? id node)
    {fields : List Field} {nodes : List (String × Node)} {reads : Reads}
    (h : fieldNodes limits nested path fields = Except.ok (nodes, reads)) :
    FieldsUnfold limits schema? fields nodes := by
  induction fields generalizing nodes reads with
  | nil =>
    cases fieldNodes_nil_eq_ok.mp h
    exact List.Forall₂.nil
  | cons field rest ih =>
    obtain ⟨node, first, others, more, hshape, hrest, heq⟩ := fieldNodes_cons_eq_ok.mp h
    cases heq
    exact List.Forall₂.cons ⟨rfl, shapeNode_unfolds hnested hshape⟩ (ih hrest)

/-! ## Ways down -/

theorem shapeNode_down {shape : Shape} {node target : Node} {reads : Reads} {ids : List String}
    (h : shapeNode limits nested path shape = Except.ok (node, reads))
    (hdown : node.Down ids target) :
    (ids = [] ∧ target.ownSchema = []) ∨ ∃ place id below more,
      nested place id = Except.ok (below, more) ∧ below.Down ids target := by
  obtain ⟨-, h⟩ := shapeNode_eq_ok.mp h
  cases shape with
  | leaf binding =>
    cases h
    cases hdown
    exact .inl ⟨rfl, rfl⟩
  | nested id => exact .inr ⟨_, _, _, _, h, hdown⟩
  | list element count =>
    cases element with
    | leaf binding =>
      cases h
      cases hdown with
      | here => exact .inl ⟨rfl, rfl⟩
      | item hdown =>
        cases hdown
        exact .inl ⟨rfl, rfl⟩
    | nested id =>
      obtain ⟨item, more, hitem, heq⟩ := h
      cases heq
      cases hdown with
      | here => exact .inl ⟨rfl, rfl⟩
      | item hdown => exact .inr ⟨_, _, _, _, hitem, hdown⟩

theorem shapeNode_of_mem_fieldNodes {fields : List Field} {nodes : List (String × Node)}
    {reads : Reads} (h : fieldNodes limits nested path fields = Except.ok (nodes, reads))
    {entry : String × Node} (hentry : entry ∈ nodes) :
    ∃ place shape more, shapeNode limits nested place shape = Except.ok (entry.2, more) := by
  induction fields generalizing nodes reads with
  | nil =>
    cases fieldNodes_nil_eq_ok.mp h
    simp at hentry
  | cons field rest ih =>
    obtain ⟨node, first, others, more, hshape, hrest, heq⟩ := fieldNodes_cons_eq_ok.mp h
    cases heq
    rcases List.mem_cons.mp hentry with rfl | hentry
    · exact ⟨_, _, _, hshape⟩
    · exact ih hrest hentry

/-- A way down from a schema ends there, at a node without a schema, or goes on below one more
ancestor. -/
theorem schemaNode_down (hown : OwnIds schema?) {n : Nat} {ancestors ids : List String}
    {id : String} {node target : Node} {reads : Reads}
    (h : schemaNode (m := Id) limits schema? (n + 1) ancestors path id = Except.ok (node, reads))
    (hdown : node.Down ids target) :
    (ids = [id] ∧ (target = node ∨ target.ownSchema = [])) ∨ ∃ rest place next below more,
      ids = id :: rest ∧ below.Down rest target ∧
      schemaNode (m := Id) limits schema? n (ancestors ++ [id]) place next =
        Except.ok (below, more) := by
  obtain ⟨-, _, schema, fields, more, hn, hs, hfields, heq⟩ := schemaNode_eq_ok.mp h
  cases hn
  cases heq
  rw [hown id schema hs] at hfields hdown ⊢
  cases hdown with
  | here => exact .inl ⟨rfl, .inl rfl⟩
  | field hentry hdown =>
    obtain ⟨place, shape, others, hshape⟩ := shapeNode_of_mem_fieldNodes hfields hentry
    rcases shapeNode_down hshape hdown with ⟨rfl, hnone⟩ | ⟨place, next, below, more, hnode, hbelow⟩
    · exact .inl ⟨rfl, .inr hnone⟩
    · exact .inr ⟨_, _, _, _, _, rfl, hbelow, hnode⟩

theorem nodup_of_down (hown : OwnIds schema?) {n : Nat} {ancestors ids : List String}
    {id : String} {node target : Node} {reads : Reads}
    (h : schemaNode (m := Id) limits schema? n ancestors path id = Except.ok (node, reads))
    (hdown : node.Down ids target) : ids.Nodup ∧ ∀ other ∈ ids, other ∉ ancestors := by
  induction n generalizing ancestors path id node reads ids with
  | zero =>
    obtain ⟨-, _, _, _, _, hn, -⟩ := schemaNode_eq_ok.mp h
    omega
  | succ n ih =>
    have hid := (schemaNode_eq_ok.mp h).1
    rcases schemaNode_down hown h hdown with
      ⟨rfl, -⟩ | ⟨rest, place, next, below, more, rfl, hbelow, hnode⟩
    · exact ⟨List.nodup_singleton id, fun other ho => List.mem_singleton.mp ho ▸ hid⟩
    · obtain ⟨hnodup, hfresh⟩ := ih hnode hbelow
      refine ⟨List.nodup_cons.mpr ⟨fun hmem => hfresh id hmem (by simp), hnodup⟩, ?_⟩
      intro other ho
      rcases List.mem_cons.mp ho with rfl | ho
      · exact hid
      · exact fun hmem => hfresh other ho (List.mem_append_left _ hmem)

theorem resolvesTo_of_down (hown : OwnIds schema?) {n : Nat} (hn : n ≤ limits.maxDepth)
    {ancestors ids : List String} {id inner : String} {node : Node} {reads : Reads}
    {members : List (String × Node)}
    (h : schemaNode (m := Id) limits schema? n ancestors path id = Except.ok (node, reads))
    (hdown : node.Down ids (.object inner members)) :
    ResolvesTo limits schema? inner (.object inner members) := by
  induction n generalizing ancestors path id node reads ids with
  | zero =>
    obtain ⟨-, _, _, _, _, hn, -⟩ := schemaNode_eq_ok.mp h
    omega
  | succ n ih =>
    rcases schemaNode_down hown h hdown with
      ⟨-, rfl | hnone⟩ | ⟨rest, place, next, below, more, -, hbelow, hnode⟩
    · obtain ⟨-, _, schema, _, _, -, hs, -, heq⟩ := schemaNode_eq_ok.mp h
      have hinner : inner = id := by
        cases heq
        exact hown id schema hs
      subst hinner
      exact resolvesTo_of_schemaNode hown hn h
    · simp [Node.ownSchema] at hnone
    · exact ih (Nat.le_of_succ_le hn) hnode hbelow

end Resolve

/-- A resolved tree is the unfolding of its root. Field by field it has what each field stands for
on its own, a schema unfolds to the same object at each place, and on no way down does one come
twice. -/
theorem tree_unfolds_definitions {store : Store} (hstore : store.Reachable) {limits : Limits}
    {root : String} {tree : Tree} (h : resolve limits store.schema? root = .ok tree) :
    (∃ schema members, store.schema? root = some schema ∧ tree.root = .object root members ∧
      FieldsUnfold limits store.schema? schema.fields members) ∧
    (∀ ids id members, tree.root.Down ids (.object id members) →
      ResolvesTo limits store.schema? id (.object id members)) ∧
    (∀ ids ids' id members members', tree.root.Down ids (.object id members) →
      tree.root.Down ids' (.object id members') → members = members') ∧
    ∀ ids target, tree.root.Down ids target → ids.Nodup := by
  have hown := hstore.tidy.ownId
  obtain ⟨node, reads, hnode, rfl⟩ := resolve_eq_ok.mp h
  have halone {ids id members} (hdown : node.Down ids (.object id members)) :=
    Resolve.resolvesTo_of_down hown (Nat.le_refl _) hnode hdown
  refine ⟨?_, fun ids id members => halone, fun ids ids' id members members' hone htwo => ?_,
    fun ids target hdown => (Resolve.nodup_of_down hown hnode hdown).1⟩
  · obtain ⟨-, n, schema, members, more, hn, hs, hfields, heq⟩ := Resolve.schemaNode_eq_ok.mp hnode
    cases heq
    refine ⟨schema, members, hs, by rw [hown root schema hs], ?_⟩
    exact Resolve.fieldNodes_unfold (fun _ _ _ _ hr =>
      Resolve.resolvesTo_of_schemaNode hown (by omega) hr) hfields
  · obtain ⟨one, hone, hroot⟩ := halone hone
    obtain ⟨two, htwo, hroot'⟩ := halone htwo
    cases hone.symm.trans htwo
    injection hroot.symm.trans hroot'

/-- Two fields, one of them a list, refer to one schema. -/
theorem shared_address_unfolds_alike :
    let address := Schema.ofFields "address" [⟨"city", .leaf ⟨"city", Params.empty⟩⟩]
    let order := Schema.ofFields "order"
      [⟨"billing", .nested "address"⟩, ⟨"stops", .list (.nested "address") .standard⟩]
    let store := Store.ofDefinitions ⟨[order, address], [], []⟩
    let inside : List (String × Node) := [("city", .leaf ⟨"city", Params.empty⟩)]
    store.Reachable ∧ ∃ tree, resolve Limits.standard store.schema? "order" = .ok tree ∧
      tree.root.Down ["order", "address"] (.object "address" inside) ∧
      ResolvesTo Limits.standard store.schema? "address" (.object "address" inside) ∧
      ["order", "address"].Nodup := by
  intro address order store inside
  have hstore : store.Reachable := ⟨_, [], rfl⟩
  refine ⟨hstore, _, rfl, ?_⟩
  have hdown : (Node.object "order" [("billing", .object "address" inside),
      ("stops", .list .standard (.object "address" inside))]).Down ["order", "address"]
      (.object "address" inside) :=
    .field (List.mem_cons_of_mem _ (List.mem_singleton_self _)) (.item (.here _))
  obtain ⟨-, halone, -, hnodup⟩ :=
    @tree_unfolds_definitions store hstore Limits.standard "order" _ rfl
  exact ⟨hdown, halone _ _ _ hdown, hnodup _ _ hdown⟩

end MockApi
