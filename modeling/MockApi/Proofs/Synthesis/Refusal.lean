import MockApi.Proofs.Generator.Refusal
import MockApi.Proofs.Resolution.Steps
import MockApi.Store
import MockApi.Synthesis

/-! Whether a payload can be made from a tree, and where it fails, is a matter of the definitions:
no source gets past a leaf that refuses its parameters, and none fails anywhere else. -/
namespace MockApi

/-- At least one item, whatever the draw. -/
def ItemCount.Positive : ItemCount → Prop
  | .fixed n => 1 ≤ n
  | .range min _ => 1 ≤ min

namespace Node

mutual

/-- All leaves have a property, and the counts of all lists another one. -/
def Every (P : Binding → Prop) (Q : ItemCount → Prop) : Node → Prop
  | leaf binding => P binding
  | object _ fields => FieldsEvery P Q fields
  | list count element => Q count ∧ Every P Q element

def FieldsEvery (P : Binding → Prop) (Q : ItemCount → Prop) : List (String × Node) → Prop
  | [] => True
  | (_, node) :: rest => Every P Q node ∧ FieldsEvery P Q rest

end

/-- A leaf at a place of the payload; of a list it is the first item. -/
inductive LeafAt : Node → FieldPath → Binding → Prop
  | here (binding : Binding) : LeafAt (leaf binding) [] binding
  | field {schema name : String} {fields : List (String × Node)} {node : Node} {place : FieldPath}
      {binding : Binding} (hmem : (name, node) ∈ fields) (h : LeafAt node place binding) :
      LeafAt (object schema fields) (.field name :: place) binding
  | item {count : ItemCount} {element : Node} {place : FieldPath} {binding : Binding}
      (h : LeafAt element place binding) : LeafAt (list count element) (.index 0 :: place) binding

/-- The leaves of a tree that was resolved have generators that exist. -/
abbrev Known : Node → Prop :=
  Every (fun binding => Generator.known binding.generator = true) fun _ => True

/-- Every list has items, and every leaf draws only what it checked before. -/
def Steady : Node → Prop := Every (fun binding => binding.generator ≠ "float") ItemCount.Positive

end Node

theorem Node.fieldsEvery_iff {P : Binding → Prop} {Q : ItemCount → Prop}
    {fields : List (String × Node)} :
    FieldsEvery P Q fields ↔ ∀ entry ∈ fields, entry.2.Every P Q := by
  induction fields with
  | nil => exact ⟨fun _ => List.forall_mem_nil _, fun _ => trivial⟩
  | cons entry rest ih => rw [FieldsEvery, ih, List.forall_mem_cons]

theorem Resolve.schemaNode_known {limits : Limits} {schema? : String → Option Schema}
    {remaining : Nat} {ancestors : List String} {path : FieldPath} {id : String} {node : Node}
    {reads : Reads}
    (h : schemaNode (m := Id) limits schema? remaining ancestors path id =
      Except.ok (node, reads)) : node.Known :=
  schemaNode_induct (P := Node.Known) (fun _ hknown => hknown)
    (fun _ _ _ hnode => ⟨trivial, hnode⟩)
    (fun _ _ _ _ _ hnodes => Node.fieldsEvery_iff.mpr hnodes) h

/-! ## The verdict on a tree -/

theorem ItemCount.draw_pos {count : ItemCount} (h : count.Positive) :
    count.draw.Always fun n => 1 ≤ n := by
  cases count with
  | fixed n => exact Draw.Always.pure h
  | range min max =>
    rw [draw]
    split
    · exact Draw.Always.pure h
    · next hlt => exact (Draw.natBetween_mem (by omega)).mono fun n hn => Nat.le_trans h hn.1

/-- The failure of a leaf that refuses its parameters. -/
def Binding.refusal (binding : Binding) (reason : String) (place : FieldPath) : Abort Failure :=
  .fault (.badParameters binding.generator reason place.render)

namespace Node

mutual

/-- A node gives a value from every source, or it fails from every source at the same leaf. -/
theorem synthesizeAt_verdict : ∀ node : Node, node.Known → node.Steady →
    (∀ path, Succeeds (fun _ => True) (node.synthesizeAt path)) ∨
      ∃ place binding reason, node.LeafAt place binding ∧ Generator.Rejects binding reason ∧
        ∀ path, Fails (binding.refusal reason (path ++ place)) (node.synthesizeAt path)
  | leaf binding, hknown, hsteady => by
    simp only [synthesizeAt]
    rcases Generator.generate_settled hknown hsteady with hsucceeds | ⟨reason, hrejects⟩
    · exact .inl fun path => hsucceeds.adapt _
    · refine .inr ⟨[], binding, reason, .here binding, hrejects, fun path => ?_⟩
      rw [List.append_nil]
      exact hrejects.adapt _
  | object schema fields, hknown, hsteady => by
    simp only [synthesizeAt]
    rcases synthesizeFields_verdict fields hknown hsteady with
      hsucceeds | ⟨name, node, place, binding, reason, hmem, hleaf, hrejects, hfails⟩
    · exact .inl fun path => hsucceeds path []
    · exact .inr ⟨.field name :: place, binding, reason, .field hmem hleaf, hrejects,
        fun path => hfails path []⟩
  | list count element, hknown, hsteady => by
    simp only [synthesizeAt]
    have hdraw := @Succeeds.lift _ (Abort Failure) _ _ (ItemCount.draw_pos hsteady.1)
    rcases synthesizeAt_verdict element hknown.2 hsteady.2 with
      hsucceeds | ⟨place, binding, reason, hleaf, hrejects, hfails⟩
    · refine .inl fun path => hdraw.bind fun n _ => ?_
      exact (Succeeds.mapM fun i _ => hsucceeds (path.push (.index i))).bind fun _ _ =>
        .pure trivial
    · refine .inr ⟨.index 0 :: place, binding, reason, .item hleaf, hrejects, fun path => ?_⟩
      refine Fails.of_succeeds hdraw fun n hn => ?_
      obtain ⟨n, rfl⟩ := Nat.exists_eq_add_of_le' hn
      rw [List.range_succ_eq_map]
      refine (Fails.mapM ?_).bind
      simpa [FieldPath.push] using hfails (path.push (.index 0))

theorem synthesizeFields_verdict : ∀ fields : List (String × Node),
    FieldsEvery (fun binding => Generator.known binding.generator = true) (fun _ => True) fields →
    FieldsEvery (fun binding => binding.generator ≠ "float") ItemCount.Positive fields →
    (∀ path members, Succeeds (fun _ => True) (synthesizeFields path members fields)) ∨
      ∃ name node place binding reason, (name, node) ∈ fields ∧ node.LeafAt place binding ∧
        Generator.Rejects binding reason ∧ ∀ path members,
          Fails (binding.refusal reason (path ++ .field name :: place))
            (synthesizeFields path members fields)
  | [], _, _ => by
    simp only [synthesizeFields]
    exact .inl fun _ _ => .pure trivial
  | (name, node) :: rest, hknown, hsteady => by
    simp only [synthesizeFields]
    rcases synthesizeAt_verdict node hknown.1 hsteady.1 with
      hsucceeds | ⟨place, binding, reason, hleaf, hrejects, hfails⟩
    · rcases synthesizeFields_verdict rest hknown.2 hsteady.2 with
        hrest | ⟨other, found, place, binding, reason, hmem, hleaf, hrejects, hfails⟩
      · exact .inl fun path members => (hsucceeds _).bind fun value _ => hrest path _
      · exact .inr ⟨other, found, place, binding, reason, List.mem_cons_of_mem _ hmem, hleaf,
          hrejects, fun path members => Fails.of_succeeds (hsucceeds _) fun value _ =>
            hfails path _⟩
    · refine .inr ⟨name, node, place, binding, reason, List.mem_cons_self, hleaf, hrejects,
        fun path members => Fails.bind ?_⟩
      simpa [FieldPath.push] using hfails (path.push (.field name))

end

end Node

/-- Two sources fail alike, and then at a leaf whose generator refuses its parameters from every
source; of lists, in the first item. None of them crashes. -/
theorem synthesis_failure_independent_of_source {limits : Limits}
    {schema? : String → Option Schema} {root : String} {tree : Tree}
    (htree : resolve limits schema? root = .ok tree) (hsteady : tree.root.Steady)
    (source other : Source) (abort : Abort Failure) :
    ((tree.root.synthesizeFrom source).1 = .error abort ↔
      (tree.root.synthesizeFrom other).1 = .error abort) ∧
    ((tree.root.synthesizeFrom source).1 = .error abort → ∃ place binding reason,
      tree.root.LeafAt place binding ∧ Generator.Rejects binding reason ∧
        abort = .fault (.badParameters binding.generator reason place.render)) := by
  obtain ⟨node, reads, hnode, rfl⟩ := resolve_eq_ok.mp htree
  rcases Node.synthesizeAt_verdict node (Resolve.schemaNode_known hnode) hsteady with
    hsucceeds | ⟨place, binding, reason, hleaf, hrejects, hfails⟩
  · have hnone (source : Source) : (node.synthesizeFrom source).1 ≠ .error abort := by
      obtain ⟨value, hvalue, -⟩ := hsucceeds FieldPath.root source
      intro herror
      cases hvalue.symm.trans herror
    exact ⟨iff_of_false (hnone source) (hnone other), fun h => (hnone source h).elim⟩
  · have hsame (source : Source) :
        (node.synthesizeFrom source).1 = .error (binding.refusal reason place) :=
      hfails FieldPath.root source
    refine ⟨by rw [hsame, hsame], fun h => ⟨place, binding, reason, hleaf, hrejects, ?_⟩⟩
    exact (Except.error.inj ((hsame source).symm.trans h)).symm

/-- The seed decides how many orders there are, and the first one lacks the values to choose from. -/
theorem empty_choice_fails_for_all_sources :
    let values := Params.ofMembers [("values", .arr [])]
    let order := Schema.ofFields "order"
      [⟨"id", .leaf ⟨"integer", Params.empty⟩⟩, ⟨"status", .leaf ⟨"enum", values⟩⟩]
    let user := Schema.ofFields "user" [⟨"orders", .list (.nested "order") (.range 1 3)⟩]
    let store := Store.ofDefinitions ⟨[user, order], [], []⟩
    let abort := Abort.fault
      (Failure.badParameters "enum" "'values' must not be empty" "orders[0].status")
    ∃ tree, resolve Limits.standard store.schema? "user" = .ok tree ∧ tree.root.Steady ∧
      ∀ source, (tree.root.synthesizeFrom source).1 = .error abort := by
  intro values order user store abort
  let root : Node := .object "user" [("orders", .list (.range 1 3) (.object "order"
    [("id", .leaf ⟨"integer", Params.empty⟩), ("status", .leaf ⟨"enum", values⟩)]))]
  have hinteger : "integer" ≠ "float" := by decide
  have henum : "enum" ≠ "float" := by decide
  have hsteady : root.Steady := ⟨⟨Nat.le_refl 1, hinteger, henum, trivial⟩, trivial⟩
  let drawn : Source := ⟨[], 0, [0, 0x80000000, 0, 0x40000000]⟩
  have hdrawn : (root.synthesizeFrom drawn).1 = .error abort := rfl
  let tree : Tree := ⟨"user", root, [("user", user.version), ("order", order.version)]⟩
  have htree : resolve Limits.standard store.schema? "user" = .ok tree := rfl
  exact ⟨tree, htree, hsteady, fun source =>
    (synthesis_failure_independent_of_source htree hsteady drawn source abort).1.mp hdrawn⟩

end MockApi
