import MockApi.Proofs.Resolution.Steps
import MockApi.Store

/-! Limits do nothing but stop resolution: what it gives under some limits it gives under wider ones
as well, unless a limit was what stopped it. -/
namespace MockApi

/-- The failure is one of a limit and not of the definitions. -/
def Failure.OfLimit : Failure → Prop
  | .tooDeep _ _ => True
  | .tooManyItems _ _ _ => True
  | _ => False

namespace Resolve

variable {α β : Type} {limits wider : Limits} {nested other : Nested Id} {path : FieldPath}

/-- The second result is the first one, unless that is a failure of a limit. -/
def Persists (first second : ExceptT Failure Id α) : Prop :=
  second = first ∨ ∃ failure, first = Except.error failure ∧ failure.OfLimit

theorem Persists.refl (result : ExceptT Failure Id α) : Persists result result := .inl rfl

/-- The first failure decides: after one that is not of a limit neither side goes on. -/
theorem Persists.bind {x y : ExceptT Failure Id α} {f g : α → ExceptT Failure Id β}
    (hxy : Persists x y) (hfg : ∀ a, Persists (f a) (g a)) : Persists (x >>= f) (y >>= g) := by
  rcases hxy with rfl | ⟨failure, rfl, hlimit⟩
  · cases y with
    | ok a => exact hfg a
    | error failure => exact .refl _
  · exact .inr ⟨failure, rfl, hlimit⟩

theorem checkCount_persists (hitems : limits.maxItems ≤ wider.maxItems) (path : FieldPath)
    (count : ItemCount) : Persists (ofExcept (m := Id) (checkCount limits path count))
      (ofExcept (checkCount wider path count)) := by
  have hupper (upper : Nat) : Persists (α := Unit)
      (if limits.maxItems < upper then .error (.tooManyItems upper limits.maxItems path.render)
        else .ok ())
      (if wider.maxItems < upper then .error (.tooManyItems upper wider.maxItems path.render)
        else .ok ()) := by
    by_cases hlt : limits.maxItems < upper
    · rw [if_pos hlt]
      exact .inr ⟨_, rfl, trivial⟩
    · have hle : ¬ wider.maxItems < upper := by omega
      rw [if_neg hlt, if_neg hle]
      exact .refl _
  cases count with
  | fixed n => exact hupper n
  | range min max =>
    simp only [checkCount]
    split
    · exact .refl _
    · exact hupper max

/-! ## Step by step -/

theorem elementNode_persists (h : ∀ path id, Persists (nested path id) (other path id))
    (path : FieldPath) (element : Element) :
    Persists (elementNode nested path element) (elementNode other path element) := by
  cases element with
  | leaf binding => exact .refl _
  | nested schema => exact h path schema

theorem shapeNode_persists (hitems : limits.maxItems ≤ wider.maxItems)
    (h : ∀ path id, Persists (nested path id) (other path id)) (path : FieldPath) (shape : Shape) :
    Persists (shapeNode limits nested path shape) (shapeNode wider other path shape) := by
  cases shape with
  | leaf binding => exact .refl _
  | nested schema => exact h path schema
  | list element count =>
    exact (checkCount_persists hitems path count).bind fun _ =>
      (elementNode_persists h (path.push .anyIndex) element).bind fun _ => .refl _

theorem fieldNodes_persists (hitems : limits.maxItems ≤ wider.maxItems)
    (h : ∀ path id, Persists (nested path id) (other path id)) (path : FieldPath)
    (fields : List Field) :
    Persists (fieldNodes limits nested path fields) (fieldNodes wider other path fields) := by
  induction fields with
  | nil => exact .refl _
  | cons field rest ih =>
    exact (shapeNode_persists hitems h (path.push (.field field.name)) field.shape).bind fun _ =>
      ih.bind fun _ => .refl _

theorem schemaNode_persists (hitems : limits.maxItems ≤ wider.maxItems)
    (schema? : String → Option Schema) {n m : Nat} (hdepth : n ≤ m) (ancestors : List String)
    (path : FieldPath) (id : String) :
    Persists (schemaNode (m := Id) limits schema? n ancestors path id)
      (schemaNode (m := Id) wider schema? m ancestors path id) := by
  induction n generalizing m ancestors path id with
  | zero =>
    by_cases hid : id ∈ ancestors
    · rw [schemaNode_of_mem hid, schemaNode_of_mem hid]
      exact .refl _
    · rw [schemaNode_zero hid]
      exact .inr ⟨_, rfl, trivial⟩
  | succ n ih =>
    obtain ⟨k, rfl⟩ := Nat.exists_eq_add_of_le' hdepth
    by_cases hid : id ∈ ancestors
    · rw [schemaNode_of_mem hid, schemaNode_of_mem hid]
      exact .refl _
    cases hs : schema? id with
    | none =>
      rw [← Nat.add_assoc, schemaNode_succ_of_none hid hs, schemaNode_succ_of_none hid hs]
      exact .refl _
    | some schema =>
      rw [← Nat.add_assoc, schemaNode_succ_of_some hid hs, schemaNode_succ_of_some hid hs]
      have hnested := ih (Nat.le_add_left n k) (ancestors ++ [schema.id])
      exact (fieldNodes_persists hitems hnested path schema.fields).bind fun _ => .refl _

end Resolve

/-- Where no limit stops resolution, wider limits change nothing of what it gives: not the tree with
its dependencies, nor the failure with its place and cycle. -/
theorem resolve_of_wider_limits (store : Store) {limits wider : Limits}
    (hdepth : limits.maxDepth ≤ wider.maxDepth) (hitems : limits.maxItems ≤ wider.maxItems)
    (root : String) {result : Except Failure Tree}
    (hresult : resolve limits store.schema? root = result)
    (hlimit : ∀ failure, result = .error failure → ¬ failure.OfLimit) :
    resolve wider store.schema? root = result := by
  have hpersists : Resolve.Persists (resolve limits store.schema? root)
      (resolve wider store.schema? root) :=
    (Resolve.schemaNode_persists hitems store.schema? hdepth [] FieldPath.root root).bind
      fun _ => .refl _
  rw [hresult] at hpersists
  rcases hpersists with hsame | ⟨failure, hfailure, hoflimit⟩
  · exact hsame
  · exact absurd hoflimit (hlimit failure hfailure)

/-- A cycle that closes just where the depth ends is the same cycle under any wider limits. -/
theorem cycle_at_depth_limit_remains :
    let order := Schema.ofFields "order" [⟨"customer", .nested "customer"⟩]
    let customer := Schema.ofFields "customer" [⟨"orders", .list (.nested "order") (.fixed 1)⟩]
    let store := Store.ofDefinitions ⟨[order, customer], [], []⟩
    let narrow : Limits := ⟨2, 1⟩
    let result := Except.error (.cyclicSchema ["order", "customer", "order"] "customer.orders[]")
    narrow.maxDepth ≤ Limits.standard.maxDepth ∧ narrow.maxItems ≤ Limits.standard.maxItems ∧
      resolve narrow store.schema? "order" = result ∧
      (∀ failure, result = .error failure → ¬ failure.OfLimit) ∧
      resolve Limits.standard store.schema? "order" = result := by
  intro order customer store narrow result
  have hdepth : narrow.maxDepth ≤ Limits.standard.maxDepth := by decide
  have hitems : narrow.maxItems ≤ Limits.standard.maxItems := by decide
  have hresult : resolve narrow store.schema? "order" = result := rfl
  have hlimit : ∀ failure, result = .error failure → ¬ failure.OfLimit := by
    intro failure hfailure
    rw [← Except.error.inj hfailure]
    exact id
  exact ⟨hdepth, hitems, hresult, hlimit,
    resolve_of_wider_limits store hdepth hitems "order" hresult hlimit⟩

end MockApi
