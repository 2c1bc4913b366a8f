import MockApi.Proofs.Keyed
import MockApi.Proofs.Resolution.Steps

/-! A resolved tree depends on the schemas that were read for it, and on nothing else. -/
namespace MockApi

/-- All that resolution reads of a schema is the same in another. -/
structure Schema.Alike (schema other : Schema) : Prop where
  id : other.id = schema.id
  version : other.version = schema.version
  fields : other.fields = schema.fields

theorem Schema.Alike.refl (schema : Schema) : schema.Alike schema := ⟨rfl, rfl, rfl⟩

namespace Resolve

variable {limits : Limits} {nested other : Nested Id} {path : FieldPath}

/-! ## What is read -/

theorem shapeNode_reads {P : String × UInt64 → Prop} {shape : Shape} {result : Node × Reads}
    (h : shapeNode limits nested path shape = Except.ok result)
    (hnested : ∀ path id result, nested path id = Except.ok result → ∀ entry ∈ result.2, P entry) :
    ∀ entry ∈ result.2, P entry := by
  obtain ⟨-, h⟩ := shapeNode_eq_ok.mp h
  match shape, h with
  | .leaf _, h => simp [h]
  | .nested _, h => exact hnested _ _ _ h
  | .list (.leaf _) _, h => simp [h]
  | .list (.nested _) _, h =>
    obtain ⟨node, reads, hnode, rfl⟩ := h
    exact hnested _ _ (node, reads) hnode

theorem fieldNodes_reads {P : String × UInt64 → Prop} {fields : List Field}
    {result : List (String × Node) × Reads}
    (h : fieldNodes limits nested path fields = Except.ok result)
    (hnested : ∀ path id result, nested path id = Except.ok result → ∀ entry ∈ result.2, P entry) :
    ∀ entry ∈ result.2, P entry := by
  induction fields generalizing result with
  | nil =>
    rw [fieldNodes_nil_eq_ok] at h
    simp [h]
  | cons field rest ih =>
    obtain ⟨node, reads, nodes, more, hshape, hrest, rfl⟩ := fieldNodes_cons_eq_ok.mp h
    intro entry he
    rcases List.mem_append.mp he with he | he
    · exact shapeNode_reads hshape hnested entry he
    · exact ih hrest entry he

/-- Every version in the reads is the one that the schema had. -/
theorem schemaNode_reads {schema? : String → Option Schema} (hown : OwnIds schema?) {n : Nat}
    {ancestors : List String} {id : String} {result : Node × Reads}
    (h : schemaNode (m := Id) limits schema? n ancestors path id = Except.ok result) :
    ∀ entry ∈ result.2, ∃ schema, schema? entry.1 = some schema ∧ schema.version = entry.2 := by
  induction n generalizing ancestors path id result with
  | zero =>
    obtain ⟨-, _, _, _, _, hn, -⟩ := schemaNode_eq_ok.mp h
    exact absurd hn (by simp)
  | succ n ih =>
    obtain ⟨-, remaining, schema, fields, reads, hn, hs, hfields, rfl⟩ := schemaNode_eq_ok.mp h
    cases hn
    intro entry he
    rcases List.mem_cons.mp he with rfl | he
    · exact ⟨schema, (hown id schema hs).symm ▸ hs, rfl⟩
    · exact fieldNodes_reads hfields (fun _ _ _ hr => ih hr) entry he

/-! ## The same reads give the same node -/

variable {place : FieldPath}

theorem shapeNode_of_reads {shape : Shape} {result : Node × Reads}
    (h : shapeNode limits nested path shape = Except.ok result)
    (hnested : ∀ path place id found, nested path id = Except.ok found → found.2 ⊆ result.2 →
      other place id = Except.ok found) :
    shapeNode limits other place shape = Except.ok result := by
  obtain ⟨hadmissible, h⟩ := shapeNode_eq_ok.mp h
  refine shapeNode_eq_ok.mpr ⟨hadmissible, ?_⟩
  match shape, h with
  | .leaf _, h => exact h
  | .nested _, h => exact hnested _ _ _ _ h (List.Subset.refl _)
  | .list (.leaf _) _, h => exact h
  | .list (.nested _) _, h =>
    obtain ⟨node, reads, hnode, rfl⟩ := h
    exact ⟨node, reads, hnested _ _ _ _ hnode (List.Subset.refl _), rfl⟩

theorem fieldNodes_of_reads {fields : List Field} {result : List (String × Node) × Reads}
    (h : fieldNodes limits nested path fields = Except.ok result)
    (hnested : ∀ path place id found, nested path id = Except.ok found → found.2 ⊆ result.2 →
      other place id = Except.ok found) :
    fieldNodes limits other place fields = Except.ok result := by
  induction fields generalizing result with
  | nil => exact h
  | cons field rest ih =>
    obtain ⟨node, reads, nodes, more, hshape, hrest, rfl⟩ := fieldNodes_cons_eq_ok.mp h
    refine fieldNodes_cons_eq_ok.mpr ⟨node, reads, nodes, more, ?_, ?_, rfl⟩
    · exact shapeNode_of_reads hshape fun path place id found hf hsub =>
        hnested path place id found hf (List.subset_append_of_subset_left _ hsub)
    · exact ih hrest fun path place id found hf hsub =>
        hnested path place id found hf (List.subset_append_of_subset_right _ hsub)

/-- Where every schema that was read is found alike, the same node comes out, at any place and
below no more ancestors. -/
theorem schemaNode_of_alike {one two : String → Option Schema} (hown : OwnIds one) {n m : Nat}
    {ancestors fewer : List String} {id : String} {result : Node × Reads}
    (h : schemaNode (m := Id) limits one n ancestors path id = Except.ok result)
    (hdepth : n ≤ m) (hfewer : fewer ⊆ ancestors)
    (halike : ∀ entry ∈ result.2, ∀ schema, one entry.1 = some schema →
      ∃ same, two entry.1 = some same ∧ schema.Alike same) :
    schemaNode (m := Id) limits two m fewer place id = Except.ok result := by
  induction n generalizing m ancestors fewer path place id result with
  | zero =>
    obtain ⟨-, _, _, _, _, hn, -⟩ := schemaNode_eq_ok.mp h
    exact absurd hn (by simp)
  | succ n ih =>
    obtain ⟨hid, remaining, schema, fields, reads, hn, hs, hfields, rfl⟩ := schemaNode_eq_ok.mp h
    cases hn
    obtain ⟨k, rfl⟩ := Nat.exists_eq_add_of_le' hdepth
    have hself : one schema.id = some schema := (hown id schema hs).symm ▸ hs
    obtain ⟨same, htwo, hsame⟩ := halike (schema.id, schema.version) List.mem_cons_self schema hself
    rw [hown id schema hs] at htwo
    have hbelow : fewer ++ [schema.id] ⊆ ancestors ++ [schema.id] := by
      intro other ho
      exact List.mem_append.mpr ((List.mem_append.mp ho).imp_left fun hmem => hfewer hmem)
    refine schemaNode_eq_ok.mpr ⟨fun hmem => hid (hfewer hmem), k + n, same, fields, reads, rfl,
      htwo, ?_, ?_⟩
    · rw [hsame.id, hsame.fields]
      refine fieldNodes_of_reads hfields fun path place id found hf hsub =>
        ih hf (Nat.le_add_left n k) hbelow fun entry he => ?_
      exact halike entry (List.mem_cons_of_mem _ (hsub he))
    · rw [hsame.id, hsame.version]

end Resolve

/-! ## Trees -/

variable {limits : Limits} {one two : String → Option Schema} {id : String} {tree : Tree}

/-- The dependencies of a tree are the versions that the schemas had. -/
theorem dependencies_of_resolve (hown : OwnIds one) (h : resolve limits one id = .ok tree) :
    ∀ entry ∈ tree.dependencies, ∃ schema,
      one entry.1 = some schema ∧ schema.version = entry.2 := by
  obtain ⟨root, reads, hroot, rfl⟩ := resolve_eq_ok.mp h
  intro entry he
  exact Resolve.schemaNode_reads hown hroot entry (Keyed.mem_of_mem_ofEntries he)

/-- Resolution gives the same tree wherever the dependencies of the tree are found alike. -/
theorem resolve_of_alike (hown : OwnIds one) (h : resolve limits one id = .ok tree)
    (halike : ∀ entry ∈ tree.dependencies, ∀ schema, one entry.1 = some schema →
      ∃ same, two entry.1 = some same ∧ schema.Alike same) :
    resolve limits two id = .ok tree := by
  obtain ⟨root, reads, hroot, rfl⟩ := resolve_eq_ok.mp h
  refine resolve_eq_ok.mpr ⟨root, reads, ?_, rfl⟩
  refine Resolve.schemaNode_of_alike hown hroot (Nat.le_refl _) (List.Subset.refl _)
    fun entry he schema hs => ?_
  have hkey := (Keyed.mem_keys_ofEntries entry.1 reads).mpr (List.mem_map_of_mem he)
  obtain ⟨dependency, hmem, hname⟩ := List.mem_map.mp hkey
  exact hname ▸ halike dependency hmem schema (hname ▸ hs)

end MockApi
