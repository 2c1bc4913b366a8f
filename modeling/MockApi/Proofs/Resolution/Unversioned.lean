import MockApi.Proofs.Resolution.Steps
import MockApi.Proofs.Store.Intake

/-! Versions do not show in what resolution makes: they only come out in the dependencies of a tree.
Definitions that take the place of others are therefore resolved like those of a new store. -/
namespace MockApi

def Schema.unversioned (schema : Schema) : Schema := { schema with version := 0 }

def SameContent (one two : String → Option Schema) : Prop :=
  ∀ id, (one id).map Schema.unversioned = (two id).map Schema.unversioned

theorem SameContent.cases {one two : String → Option Schema} (h : SameContent one two)
    (id : String) :
    (one id = none ∧ two id = none) ∨ ∃ schema same, one id = some schema ∧ two id = some same ∧
      same.id = schema.id ∧ same.fields = schema.fields := by
  have hid := h id
  cases hone : one id with
  | none =>
    rw [hone, Option.map_none, eq_comm, Option.map_eq_none_iff] at hid
    exact .inl ⟨rfl, hid⟩
  | some schema =>
    rw [hone, Option.map_some, eq_comm, Option.map_eq_some_iff] at hid
    obtain ⟨same, htwo, hsame⟩ := hid
    have hsameId : same.unversioned.id = schema.unversioned.id := congrArg Schema.id hsame
    have hfields : same.unversioned.fields = schema.unversioned.fields :=
      congrArg Schema.fields hsame
    exact .inr ⟨schema, same, rfl, htwo, hsameId, hfields⟩

theorem map_eq_map_cases {α β : Type} {f : α → β} {x y : Except Failure α}
    (h : x.map f = y.map f) : (∃ failure, x = .error failure ∧ y = .error failure) ∨
      ∃ a b, x = .ok a ∧ y = .ok b ∧ f a = f b := by
  cases x with
  | error failure =>
    cases y with
    | error other =>
      cases h
      exact .inl ⟨failure, rfl, rfl⟩
    | ok b => cases h
  | ok a =>
    cases y with
    | error other => cases h
    | ok b => exact .inr ⟨a, b, rfl, rfl, Except.ok.inj h⟩

namespace Resolve

variable {α β : Type} {limits : Limits} {nested other : Nested Id} {path : FieldPath}

/-- What a step gives, without the versions that it read. -/
def withoutReads (result : ExceptT Failure Id (α × Reads)) : Except Failure α :=
  Except.map Prod.fst result

theorem withoutReads_bind {x y : ExceptT Failure Id (α × Reads)}
    {f g : α × Reads → ExceptT Failure Id (β × Reads)} (hxy : withoutReads x = withoutReads y)
    (hfg : ∀ a reads more, withoutReads (f (a, reads)) = withoutReads (g (a, more))) :
    withoutReads (x >>= f) = withoutReads (y >>= g) := by
  rcases map_eq_map_cases hxy with ⟨failure, rfl, rfl⟩ | ⟨⟨a, reads⟩, ⟨b, more⟩, rfl, rfl, hsame⟩
  · rfl
  · cases (show a = b from hsame)
    exact hfg a reads more

theorem elementNode_withoutReads {element : Element}
    (h : ∀ path id, withoutReads (nested path id) = withoutReads (other path id)) :
    withoutReads (elementNode nested path element) =
      withoutReads (elementNode other path element) := by
  cases element with
  | leaf binding => rfl
  | nested schema => exact h path schema

theorem shapeNode_withoutReads {shape : Shape}
    (h : ∀ path id, withoutReads (nested path id) = withoutReads (other path id)) :
    withoutReads (shapeNode limits nested path shape) =
      withoutReads (shapeNode limits other path shape) := by
  cases shape with
  | leaf binding => rfl
  | nested schema => exact h path schema
  | list element count =>
    simp only [shapeNode]
    cases checkCount limits path count with
    | error failure => rfl
    | ok u =>
      exact withoutReads_bind (elementNode_withoutReads h) fun _ _ _ => rfl

theorem fieldNodes_withoutReads {fields : List Field}
    (h : ∀ path id, withoutReads (nested path id) = withoutReads (other path id)) :
    withoutReads (fieldNodes limits nested path fields) =
      withoutReads (fieldNodes limits other path fields) := by
  induction fields with
  | nil => rfl
  | cons field rest ih =>
    refine withoutReads_bind (shapeNode_withoutReads h) fun _ _ _ => ?_
    exact withoutReads_bind ih fun _ _ _ => rfl

theorem schemaNode_withoutReads (limits : Limits) {one two : String → Option Schema}
    (h : SameContent one two) (n : Nat) (ancestors : List String) (path : FieldPath) (id : String) :
    withoutReads (schemaNode (m := Id) limits one n ancestors path id) =
      withoutReads (schemaNode (m := Id) limits two n ancestors path id) := by
  induction n generalizing ancestors path id with
  | zero =>
    by_cases hid : id ∈ ancestors
    · rw [schemaNode_of_mem hid, schemaNode_of_mem hid]
    · rw [schemaNode_zero hid, schemaNode_zero hid]
  | succ n ih =>
    by_cases hid : id ∈ ancestors
    · rw [schemaNode_of_mem hid, schemaNode_of_mem hid]
    · rcases h.cases id with ⟨hone, htwo⟩ | ⟨schema, same, hone, htwo, hsameId, hfields⟩
      · rw [schemaNode_succ_of_none hid hone, schemaNode_succ_of_none hid htwo]
      · rw [schemaNode_succ_of_some hid hone, schemaNode_succ_of_some hid htwo, hsameId, hfields]
        exact withoutReads_bind (fieldNodes_withoutReads (ih _)) fun _ _ _ => rfl

end Resolve

/-- Trees made from the same content have the same root, and where there is no tree the failure is
the same. -/
theorem map_root_resolve {one two : String → Option Schema} (h : SameContent one two)
    (limits : Limits) (id : String) :
    (resolve limits one id).map Tree.root = (resolve limits two id).map Tree.root := by
  have hroot := Resolve.schemaNode_withoutReads limits h limits.maxDepth [] FieldPath.root id
  have hmap (schema? : String → Option Schema) : (resolve limits schema? id).map Tree.root =
      Resolve.withoutReads
        (Resolve.schemaNode (m := Id) limits schema? limits.maxDepth [] FieldPath.root id) := by
    rw [resolve, Resolve.resolveReading]
    cases Resolve.schemaNode (m := Id) limits schema? limits.maxDepth [] FieldPath.root id <;> rfl
  rw [hmap one, hmap two, hroot]

namespace Store

/-- Whatever versions two stores give to new definitions, the content is the same. -/
theorem sameContent_replaceAll {one two next other : Store} {definitions : Definitions}
    (hone : one.replaceAll definitions = some next)
    (htwo : two.replaceAll definitions = some other) : SameContent next.schema? other.schema? := by
  have go (id : String) : ∀ (schemas : List Schema) {first second last final : Intake},
      Intake.takeAll one first schemas = some last →
      Intake.takeAll two second schemas = some final →
      (Keyed.find? id first.schemas).map Schema.unversioned =
        (Keyed.find? id second.schemas).map Schema.unversioned →
      (Keyed.find? id last.schemas).map Schema.unversioned =
        (Keyed.find? id final.schemas).map Schema.unversioned := by
    intro schemas
    induction schemas with
    | nil =>
      rintro first second last final ⟨⟩ ⟨⟩ h
      exact h
    | cons schema rest ih =>
      intro first second last final hlast hfinal h
      obtain ⟨middle, hmiddle, hlast⟩ := Intake.takeAll_cons_eq_some_iff.mp hlast
      obtain ⟨between, hbetween, hfinal⟩ := Intake.takeAll_cons_eq_some_iff.mp hfinal
      obtain ⟨version, hfirst⟩ := Intake.schemas_take hmiddle
      obtain ⟨version', hsecond⟩ := Intake.schemas_take hbetween
      refine ih hlast hfinal ?_
      rw [hfirst, hsecond]
      by_cases hid : id = schema.id
      · subst hid
        simp [Schema.unversioned]
      · rw [Keyed.find?_insert_of_ne hid, Keyed.find?_insert_of_ne hid, h]
  intro id
  obtain ⟨intake, hall, rfl⟩ := replaceAll_eq_some_iff.mp hone
  obtain ⟨intake', hall', rfl⟩ := replaceAll_eq_some_iff.mp htwo
  simpa only [schema?, schemas_ofIntake_retireMissing] using
    go id definitions.schemas hall hall' rfl

end Store
end MockApi
