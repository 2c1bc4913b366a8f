import Mathlib.Data.List.Forall2
import MockApi.Proofs.Generator.Definite
import MockApi.Proofs.Resolution.Steps
import MockApi.Synthesis

/-! Definitions that may be taken one for the other: what resolution makes of them cannot be told
apart by synthesis, whatever the source is. -/
namespace MockApi

/-! ## Nodes -/

namespace Node

/-- At every place the same draw is made from both. -/
def Indistinct (a b : Node) : Prop := ∀ path, a.synthesizeAt path = b.synthesizeAt path

/-- The same names in the same order, with nodes that are indistinct. -/
def FieldsIndistinct (as bs : List (String × Node)) : Prop :=
  List.Forall₂ (fun a b => a.1 = b.1 ∧ a.2.Indistinct b.2) as bs

theorem Indistinct.refl (node : Node) : node.Indistinct node := fun _ => rfl

theorem Indistinct.list {a b : Node} (h : a.Indistinct b) (count : ItemCount) :
    (list count a).Indistinct (list count b) := by
  intro path
  have hitem (place : FieldPath) : a.synthesizeAt place = b.synthesizeAt place := h place
  simp only [synthesizeAt, hitem]

theorem FieldsIndistinct.synthesizeFields_eq {as bs : List (String × Node)}
    (h : FieldsIndistinct as bs) (path : FieldPath) (members : Keyed Json) :
    synthesizeFields path members as = synthesizeFields path members bs := by
  induction h generalizing members with
  | nil => rfl
  | @cons a b as bs hentry hrest ih =>
    obtain ⟨name, node⟩ := a
    obtain ⟨other, second⟩ := b
    obtain ⟨rfl, hnode⟩ := hentry
    simp only [synthesizeFields, hnode _, ih]

theorem FieldsIndistinct.object {as bs : List (String × Node)} (h : FieldsIndistinct as bs)
    (schema : String) : (object schema as).Indistinct (object schema bs) := by
  intro path
  rw [synthesizeAt, synthesizeAt, h.synthesizeFields_eq]

end Node

/-! ## Definitions -/

/-- The same generator with parameters that it makes the same draw from. -/
structure Binding.Interchangeable (a b : Binding) : Prop where
  generator : a.generator = b.generator
  generate : Generator.generate a.generator a.params = Generator.generate b.generator b.params

theorem Binding.Interchangeable.refl (binding : Binding) : binding.Interchangeable binding :=
  ⟨rfl, rfl⟩

theorem Binding.interchangeable_of_same {a b : Binding} (h : a.same b = true)
    (hdefinite : a.Definite) : a.Interchangeable b := by
  refine ⟨?_, (Binding.generate_of_same h hdefinite).symm⟩
  simp only [Binding.same, Bool.and_eq_true, beq_iff_eq] at h
  exact h.1

/-- The leaf in a shape, if there is one, is definite. -/
def Shape.Definite : Shape → Prop
  | .leaf binding | .list (.leaf binding) _ => binding.Definite
  | .nested _ | .list (.nested _) _ => True

/-- Shapes that differ in the bindings of their leaves at most. -/
inductive Shape.Interchangeable : Shape → Shape → Prop
  | leaf {a b : Binding} (h : a.Interchangeable b) : Interchangeable (.leaf a) (.leaf b)
  | nested (schema : String) : Interchangeable (.nested schema) (.nested schema)
  | listOfLeaves {a b : Binding} (h : a.Interchangeable b) (count : ItemCount) :
      Interchangeable (.list (.leaf a) count) (.list (.leaf b) count)
  | listOfNested (schema : String) (count : ItemCount) :
      Interchangeable (.list (.nested schema) count) (.list (.nested schema) count)

theorem Shape.Interchangeable.refl : ∀ shape : Shape, shape.Interchangeable shape
  | .leaf binding => .leaf (.refl binding)
  | .nested schema => .nested schema
  | .list (.leaf binding) count => .listOfLeaves (.refl binding) count
  | .list (.nested schema) count => .listOfNested schema count

theorem Shape.interchangeable_of_same {a b : Shape} (h : a.same b = true)
    (hdefinite : a.Definite) : a.Interchangeable b := by
  match a, b, h, hdefinite with
  | .leaf _, .leaf _, h, hdefinite => exact .leaf (Binding.interchangeable_of_same h hdefinite)
  | .nested _, .nested _, h, _ =>
    cases eq_of_beq h
    exact .nested _
  | .list (.leaf _) _, .list (.leaf _) _, h, hdefinite =>
    simp only [Shape.same, Bool.and_eq_true, beq_iff_eq] at h
    cases h.2
    exact .listOfLeaves (Binding.interchangeable_of_same h.1 hdefinite) _
  | .list (.nested _) _, .list (.nested _) _, h, _ =>
    simp only [Shape.same, Element.same, Bool.and_eq_true, beq_iff_eq] at h
    cases h.1
    cases h.2
    exact .listOfNested _ _

structure Field.Interchangeable (a b : Field) : Prop where
  name : a.name = b.name
  shape : a.shape.Interchangeable b.shape

/-- Nothing about a field can change that its equality does not look at. -/
def Field.Definite (field : Field) : Prop := field.shape.Definite

/-- Each field is definite or left as it is. -/
def FieldsSettled (olds news : List Field) : Prop :=
  ∀ pair ∈ olds.zip news, pair.1.Definite ∨ pair.1 = pair.2

theorem interchangeable_of_sameFields {olds news : List Field} (h : sameFields olds news = true)
    (hsettled : FieldsSettled olds news) : List.Forall₂ Field.Interchangeable olds news := by
  induction olds generalizing news with
  | nil =>
    cases news with
    | nil => exact .nil
    | cons field rest => simp [sameFields] at h
  | cons old olds ih =>
    cases news with
    | nil => simp [sameFields] at h
    | cons new news =>
      simp only [sameFields, Field.same, Bool.and_eq_true, beq_iff_eq] at h
      obtain ⟨hfirst, hrest⟩ := List.forall_mem_cons.mp hsettled
      refine .cons ?_ (ih h.2 hrest)
      rcases hfirst with hdefinite | heq
      · exact ⟨h.1.1, Shape.interchangeable_of_same h.1.2 hdefinite⟩
      · obtain rfl : old = new := heq
        exact ⟨rfl, .refl _⟩

structure Schema.Interchangeable (a b : Schema) : Prop where
  id : a.id = b.id
  version : a.version = b.version
  fields : List.Forall₂ Field.Interchangeable a.fields b.fields

theorem Schema.Interchangeable.refl (schema : Schema) : schema.Interchangeable schema :=
  ⟨rfl, rfl, List.forall₂_same.mpr fun _ _ => ⟨rfl, .refl _⟩⟩

theorem rel_cases {α : Type} {R : α → α → Prop} {x y : Option α} (h : Option.Rel R x y) :
    (x = none ∧ y = none) ∨ ∃ a b, x = some a ∧ y = some b ∧ R a b := by
  cases h with
  | some h => exact .inr ⟨_, _, rfl, rfl, h⟩
  | none => exact .inl ⟨rfl, rfl⟩

/-! ## Resolution -/

namespace Resolve

variable {α β : Type} {R : α → α → Prop} {S : β → β → Prop} {limits : Limits}
  {nested other : Nested Id} {path : FieldPath}

/-- Both fail alike, or both have read the same and give values that are related. -/
def Agree (R : α → α → Prop) (x y : ExceptT Failure Id (α × Reads)) : Prop :=
  (∃ failure, x = Except.error failure ∧ y = Except.error failure) ∨
    ∃ a b reads, x = Except.ok (a, reads) ∧ y = Except.ok (b, reads) ∧ R a b

theorem Agree.refl (hR : ∀ a, R a a) : ∀ x : ExceptT Failure Id (α × Reads), Agree R x x
  | .ok (a, reads) => .inr ⟨a, a, reads, rfl, rfl, hR a⟩
  | .error failure => .inl ⟨failure, rfl, rfl⟩

theorem Agree.mono {T : α → α → Prop} {x y : ExceptT Failure Id (α × Reads)} (h : Agree R x y)
    (hRT : ∀ a b, R a b → T a b) : Agree T x y :=
  h.imp_right fun ⟨a, b, reads, hx, hy, hR⟩ => ⟨a, b, reads, hx, hy, hRT a b hR⟩

theorem Agree.pure {a b : α} (h : R a b) (reads : Reads) :
    Agree R (pure (a, reads)) (pure (b, reads)) :=
  .inr ⟨a, b, reads, rfl, rfl, h⟩

theorem Agree.bind {x y : ExceptT Failure Id (α × Reads)}
    {f g : α × Reads → ExceptT Failure Id (β × Reads)} (hxy : Agree R x y)
    (hfg : ∀ a b reads, R a b → Agree S (f (a, reads)) (g (b, reads))) :
    Agree S (x >>= f) (y >>= g) := by
  rcases hxy with ⟨failure, rfl, rfl⟩ | ⟨a, b, reads, rfl, rfl, hR⟩
  · exact .inl ⟨failure, rfl, rfl⟩
  · exact hfg a b reads hR

theorem leafNode_agree {a b : Binding} (h : a.Interchangeable b) :
    Agree Node.Indistinct (do return (← ofExcept (leafNode path a), []))
      (do return (← ofExcept (leafNode path b), [])) := by
  unfold leafNode
  rw [← h.generator]
  split
  · refine .inr ⟨.leaf a, .leaf b, [], rfl, rfl, fun path => ?_⟩
    rw [Node.synthesizeAt, Node.synthesizeAt, h.generate]
  · exact .inl ⟨_, rfl, rfl⟩

variable (hnested : ∀ path id, Agree Node.Indistinct (nested path id) (other path id))

include hnested

theorem shapeNode_agree {a b : Shape} (h : a.Interchangeable b) :
    Agree Node.Indistinct (shapeNode limits nested path a) (shapeNode limits other path b) := by
  have hlist {a b : Element} (count : ItemCount) (hitem : Agree Node.Indistinct
      (elementNode nested (path.push .anyIndex) a) (elementNode other (path.push .anyIndex) b)) :
      Agree Node.Indistinct (shapeNode limits nested path (.list a count))
        (shapeNode limits other path (.list b count)) := by
    simp only [shapeNode]
    cases checkCount limits path count with
    | error failure => exact .inl ⟨failure, rfl, rfl⟩
    | ok u => exact hitem.bind fun _ _ reads hnode => .pure (hnode.list count) reads
  cases h with
  | leaf h => exact leafNode_agree h
  | nested schema => exact hnested path schema
  | listOfLeaves h count => exact hlist count (leafNode_agree h)
  | listOfNested schema count => exact hlist count (hnested _ schema)

theorem fieldNodes_agree {olds news : List Field}
    (h : List.Forall₂ Field.Interchangeable olds news) :
    Agree Node.FieldsIndistinct (fieldNodes limits nested path olds)
      (fieldNodes limits other path news) := by
  induction h with
  | nil => exact .pure .nil []
  | @cons old new olds news hfield hrest ih =>
    simp only [fieldNodes, ← hfield.name]
    refine (shapeNode_agree hnested hfield.shape).bind fun a b reads hnode => ?_
    exact ih.bind fun as bs more hnodes => .pure (.cons ⟨rfl, hnode⟩ hnodes) (reads ++ more)

omit hnested

theorem schemaNode_agree (limits : Limits) {one two : String → Option Schema}
    (h : ∀ id, Option.Rel Schema.Interchangeable (one id) (two id)) (n : Nat)
    (ancestors : List String) (path : FieldPath) (id : String) :
    Agree Node.Indistinct (schemaNode (m := Id) limits one n ancestors path id)
      (schemaNode (m := Id) limits two n ancestors path id) := by
  induction n generalizing ancestors path id with
  | zero =>
    by_cases hid : id ∈ ancestors
    · exact .inl ⟨_, schemaNode_of_mem hid, schemaNode_of_mem hid⟩
    · exact .inl ⟨_, schemaNode_zero hid, schemaNode_zero hid⟩
  | succ n ih =>
    by_cases hid : id ∈ ancestors
    · exact .inl ⟨_, schemaNode_of_mem hid, schemaNode_of_mem hid⟩
    · rcases rel_cases (h id) with ⟨hone, htwo⟩ | ⟨old, new, hone, htwo, hschema⟩
      · exact .inl ⟨_, schemaNode_succ_of_none hid hone, schemaNode_succ_of_none hid htwo⟩
      · rw [schemaNode_succ_of_some hid hone, schemaNode_succ_of_some hid htwo, ← hschema.id,
          ← hschema.version]
        refine (fieldNodes_agree (ih _) hschema.fields).bind fun as bs reads hnodes => ?_
        exact .pure (hnodes.object old.id) ((old.id, old.version) :: reads)

end Resolve

/-- From interchangeable schemas come trees with the same dependencies and indistinct roots, or the
same failure. -/
theorem resolve_agree {one two : String → Option Schema}
    (h : ∀ id, Option.Rel Schema.Interchangeable (one id) (two id)) (limits : Limits)
    (root : String) :
    (∃ failure, resolve limits one root = .error failure ∧
      resolve limits two root = .error failure) ∨
    ∃ old new, resolve limits one root = .ok old ∧ resolve limits two root = .ok new ∧
      old.dependencies = new.dependencies ∧ old.root.Indistinct new.root := by
  rcases Resolve.schemaNode_agree limits h limits.maxDepth [] FieldPath.root root with
    ⟨failure, hone, htwo⟩ | ⟨a, b, reads, hone, htwo, hnodes⟩
  · refine .inl ⟨failure, ?_, ?_⟩
    · rw [resolve, Resolve.resolveReading, hone]
      rfl
    · rw [resolve, Resolve.resolveReading, htwo]
      rfl
  · exact .inr ⟨_, _, resolve_eq_ok.mpr ⟨a, reads, hone, rfl⟩,
      resolve_eq_ok.mpr ⟨b, reads, htwo, rfl⟩, rfl, hnodes⟩

end MockApi
