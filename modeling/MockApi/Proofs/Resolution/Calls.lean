import Mathlib.Data.List.Perm.Subperm
import MockApi.Proofs.Resolution.Diagnosis
import MockApi.Proofs.Store.Intake

/-! The calls that resolution makes, one for each schema that it comes to. The schemas on the way to
a call are stored and all different, so that calls nest no deeper than there are stored schemas:
resolution ends on every graph of definitions, and the depth limit is not what ends it. -/
namespace MockApi

variable {store : Store} {limits : Limits} {ancestors : List String} {id : String}

namespace Store

/-- The stored schemas that are not on the way from the root. -/
def unvisited (store : Store) (ancestors : List String) : List String :=
  (Keyed.keys store.schemas).filter fun id => id ∉ ancestors

theorem mem_unvisited : id ∈ store.unvisited ancestors ↔
    (store.schema? id).isSome ∧ id ∉ ancestors := by
  rw [unvisited, List.mem_filter, Keyed.mem_keys_iff_find?, schema?, decide_eq_true_iff]

/-- One more stored schema on the way is one less that is left. -/
theorem length_unvisited_lt (hs : (store.schema? id).isSome) (hid : id ∉ ancestors) :
    (store.unvisited (ancestors ++ [id])).length < (store.unvisited ancestors).length := by
  have hfilter : store.unvisited (ancestors ++ [id]) =
      (store.unvisited ancestors).filter fun other => other ≠ id := by
    unfold unvisited
    rw [List.filter_filter]
    apply List.filter_congr
    intro other _
    simp [and_comm]
  rw [hfilter, List.length_filter_lt_length_iff_exists]
  exact ⟨id, mem_unvisited.mpr ⟨hs, hid⟩, by simp⟩

/-- There are not more stored schemas on a way than in the store. -/
theorem length_le_schemaCount (hnodup : ancestors.Nodup)
    (hstored : ∀ id ∈ ancestors, (store.schema? id).isSome) :
    ancestors.length ≤ store.schemaCount := by
  have hsubset : ancestors ⊆ Keyed.keys store.schemas := by
    intro id hid
    exact (Keyed.mem_keys_iff_find? id store.schemas).mpr (hstored id hid)
  have hlength := (hnodup.subperm hsubset).length_le
  rw [Keyed.keys, List.length_map] at hlength
  exact hlength

end Store

namespace Resolve

/-- A call for a schema: how many calls are open, itself included, and the schemas on the way. -/
structure Call where
  depth : Nat
  ancestors : List String
  id : String

/-- Steps that note the calls that they make. -/
abbrev Noting := StateM (List Call)

def note (call : Call) : ExceptT Failure Noting Unit := ExceptT.lift (modify (· ++ [call]))

/-- Resolution of a schema with a note of each call. The recursion is not given the depth that is
left: it ends because the schemas of the store run out. -/
def visit (store : Store) (hown : OwnIds store.schema?) (limits : Limits) (depth : Nat)
    (ancestors : List String) (path : FieldPath) (id : String) :
    ExceptT Failure Noting (Node × Reads) := do
  note ⟨depth, ancestors, id⟩
  if id ∈ ancestors then throw (.cyclicSchema (cycleAt ancestors id) path.render)
  else if limits.maxDepth ≤ ancestors.length then throw (.tooDeep limits.maxDepth path.render)
  else match _hs : store.schema? id with
    | none => throw (dangling path id)
    | some schema =>
        let nested : Nested Noting := fun path next =>
          visit store hown limits (depth + 1) (ancestors ++ [schema.id]) path next
        let (fields, reads) ← fieldNodes limits nested path schema.fields
        return (.object schema.id fields, (schema.id, schema.version) :: reads)
termination_by (store.unvisited ancestors).length
decreasing_by
  have hs : store.schema? id = some schema := ‹_›
  have hid : id ∉ ancestors := ‹_›
  rw [hown id schema hs]
  exact Store.length_unvisited_lt (by simp [hs]) hid

variable {hown : OwnIds store.schema?} {depth : Nat} {path : FieldPath}

/-! ## What is noted beside the result -/

/-- Whatever was noted before, the steps come to a result, and note only calls with a property. -/
def Notes {α : Type} (P : Call → Prop) (x : ExceptT Failure Noting α)
    (result : ExceptT Failure Id α) : Prop :=
  ∀ calls, ∃ more, x.run.run calls = (result.run, calls ++ more) ∧ ∀ call ∈ more, P call

namespace Notes

variable {α β : Type} {P : Call → Prop}

theorem pure (a : α) : Notes P (pure a) (pure a) := by
  intro calls
  exact ⟨[], by rw [List.append_nil]; rfl, List.forall_mem_nil P⟩

theorem throw (failure : Failure) : Notes P (throw failure : ExceptT Failure Noting α)
    (throw failure) := by
  intro calls
  exact ⟨[], by rw [List.append_nil]; rfl, List.forall_mem_nil P⟩

theorem ofExcept (result : Except Failure α) :
    Notes P (Resolve.ofExcept result) (Resolve.ofExcept result) := by
  cases result with
  | ok a => exact pure a
  | error failure => exact throw failure

theorem bind {x : ExceptT Failure Noting α} {f : α → ExceptT Failure Noting β}
    {result : ExceptT Failure Id α} {g : α → ExceptT Failure Id β} (hx : Notes P x result)
    (hf : ∀ a, Notes P (f a) (g a)) : Notes P (x >>= f) (result >>= g) := by
  intro calls
  obtain ⟨first, hfirst, hP⟩ := hx calls
  have hrun : (x >>= f).run.run calls =
      (ExceptT.bindCont f (x.run.run calls).1).run (x.run.run calls).2 := rfl
  rw [hrun, hfirst]
  cases result with
  | error failure => exact ⟨first, rfl, hP⟩
  | ok a =>
    obtain ⟨more, hmore, hQ⟩ := hf a (calls ++ first)
    refine ⟨first ++ more, ?_, List.forall_mem_append.mpr ⟨hP, hQ⟩⟩
    rw [← List.append_assoc]
    exact hmore

/-- A call with the property is noted before the steps that it stands for. -/
theorem after_note {call : Call} {x : ExceptT Failure Noting α} {result : ExceptT Failure Id α}
    (hcall : P call) (hx : Notes P x result) : Notes P (note call >>= fun _ => x) result := by
  intro calls
  obtain ⟨more, hmore, hP⟩ := hx (calls ++ [call])
  refine ⟨call :: more, ?_, List.forall_mem_cons.mpr ⟨hcall, hP⟩⟩
  rw [List.append_cons]
  exact hmore

end Notes

section Steps

variable {P : Call → Prop} {noting : Nested Noting} {nested : Nested Id}
  (h : ∀ path id, Notes P (noting path id) (nested path id))

include h

theorem elementNode_notes (path : FieldPath) (element : Element) :
    Notes P (elementNode noting path element) (elementNode nested path element) := by
  cases element with
  | leaf binding => exact (Notes.ofExcept (leafNode path binding)).bind fun _ => .pure _
  | nested schema => exact h path schema

theorem shapeNode_notes (path : FieldPath) (shape : Shape) :
    Notes P (shapeNode limits noting path shape) (shapeNode limits nested path shape) := by
  cases shape with
  | leaf binding => exact (Notes.ofExcept (leafNode path binding)).bind fun _ => .pure _
  | nested schema => exact h path schema
  | list element count =>
    exact (Notes.ofExcept (checkCount limits path count)).bind fun _ =>
      (elementNode_notes h (path.push .anyIndex) element).bind fun _ => .pure _

theorem fieldNodes_notes (path : FieldPath) (fields : List Field) :
    Notes P (fieldNodes limits noting path fields) (fieldNodes limits nested path fields) := by
  induction fields with
  | nil => exact .pure _
  | cons field rest ih =>
    exact (shapeNode_notes h (path.push (.field field.name)) field.shape).bind fun _ =>
      ih.bind fun _ => .pure _

end Steps

/-! ## The ancestors of a call -/

/-- The schemas on the way to a call are stored, all different and within the depth, and there is
one open call for each of them. -/
structure Call.Sound (store : Store) (limits : Limits) (call : Call) : Prop where
  nodup : call.ancestors.Nodup
  stored : ∀ id ∈ call.ancestors, (store.schema? id).isSome
  shallow : call.ancestors.length ≤ limits.maxDepth
  depth : call.depth = call.ancestors.length + 1

theorem Call.Sound.nested {call : Call} {schema : Schema} (h : call.Sound store limits)
    (hid : call.id ∉ call.ancestors) (hdepth : call.ancestors.length < limits.maxDepth)
    (hs : store.schema? call.id = some schema) (next : String) :
    Call.Sound store limits ⟨call.depth + 1, call.ancestors ++ [call.id], next⟩ := by
  constructor
  · exact List.concat_eq_append ▸ h.nodup.concat hid
  · rw [List.forall_mem_append]
    exact ⟨h.stored, by simp [hs]⟩
  · rw [List.length_append, List.length_singleton]
    exact hdepth
  · rw [List.length_append, List.length_singleton, h.depth]

/-- The calls come to the same result as the recursion along the depth that is left. -/
theorem visit_notes {remaining : Nat} (hremaining : ancestors.length + remaining = limits.maxDepth)
    (hsound : Call.Sound store limits ⟨depth, ancestors, id⟩) :
    Notes (Call.Sound store limits) (visit store hown limits depth ancestors path id)
      (schemaNode (m := Id) limits store.schema? remaining ancestors path id) := by
  induction remaining generalizing depth ancestors path id with
  | zero =>
    rw [visit]
    apply Notes.after_note hsound
    split
    · next hid =>
      rw [schemaNode_of_mem hid]
      exact .throw _
    · next hid =>
      rw [schemaNode_zero hid, if_pos (by omega)]
      exact .throw _
  | succ remaining ih =>
    rw [visit]
    apply Notes.after_note hsound
    split
    · next hid =>
      rw [schemaNode_of_mem hid]
      exact .throw _
    · next hid =>
      rw [if_neg (by omega)]
      split
      · next hs =>
        rw [schemaNode_succ_of_none hid hs]
        exact .throw _
      · next schema hs =>
        rw [schemaNode_succ_of_some hid hs, hown id schema hs]
        refine (fieldNodes_notes (fun path next => ih ?_ ?_) path schema.fields).bind
          fun _ => .pure _
        · rw [List.length_append, List.length_singleton]
          omega
        · exact hsound.nested hid (show ancestors.length < limits.maxDepth by omega) hs next

/-- A depth that is above the number of stored schemas is never too small. -/
theorem schemaNode_ne_tooDeep (hown : OwnIds store.schema?) {root : String}
    (hdepth : store.schemaCount < limits.maxDepth) (maxDepth : Nat) (place : String) :
    schemaNode (m := Id) limits store.schema? limits.maxDepth [] FieldPath.root root ≠
      Except.error (.tooDeep maxDepth place) := by
  intro h
  obtain ⟨chain, -, -, hlimit, hlength, hnodup, hstored, -⟩ :=
    schemaNode_witnessed hown .here List.nodup_nil (Nat.zero_add _) h
  have hle := Store.length_le_schemaCount hnodup hstored
  rw [schemasOn, List.length_map] at hle
  omega

end Resolve

/-- Resolves a schema with a note of each call. -/
def resolveNoting (store : Store) (hown : OwnIds store.schema?) (limits : Limits) (root : String) :
    Except Failure Tree × List Resolve.Call :=
  let (result, calls) := (Resolve.visit store hown limits 1 [] FieldPath.root root).run.run []
  (result.map fun (node, reads) => ⟨root, node, Keyed.ofEntries reads⟩, calls)

/-- The recursion that ends because the stored schemas run out comes to the result of resolution,
under every depth limit. On the way to each of its calls the schemas are stored, all different and
within the depth, so that calls do not nest deeper than the limit or the number of stored schemas
allows; a limit above that number never stops it. -/
theorem resolution_ends_with_stored_schemas {store : Store} (hstore : store.Reachable)
    (limits : Limits) (root : String) :
    (resolveNoting store hstore.tidy.ownId limits root).1 = resolve limits store.schema? root ∧
    (∀ call ∈ (resolveNoting store hstore.tidy.ownId limits root).2,
      call.ancestors.Nodup ∧ (∀ id ∈ call.ancestors, (store.schema? id).isSome) ∧
      call.ancestors.length ≤ limits.maxDepth ∧
      call.depth ≤ min limits.maxDepth store.schemaCount + 1) ∧
    (store.schemaCount < limits.maxDepth → ∀ maxDepth place,
      resolve limits store.schema? root ≠ .error (.tooDeep maxDepth place)) := by
  have hown := hstore.tidy.ownId
  have hroot : Resolve.Call.Sound store limits ⟨1, [], root⟩ :=
    ⟨List.nodup_nil, List.forall_mem_nil _, Nat.zero_le _, rfl⟩
  have hnotes : Resolve.Notes (Resolve.Call.Sound store limits)
      (Resolve.visit store hown limits 1 [] FieldPath.root root)
      (Resolve.schemaNode limits store.schema? limits.maxDepth [] FieldPath.root root) :=
    Resolve.visit_notes (Nat.zero_add limits.maxDepth) hroot
  obtain ⟨calls, hcalls, hsound⟩ := hnotes []
  rw [List.nil_append] at hcalls
  refine ⟨?_, ?_, fun hdepth maxDepth place hresolve => ?_⟩
  · unfold resolveNoting resolve Resolve.resolveReading
    rw [hcalls]
    cases hresult : Resolve.schemaNode (m := Id) limits store.schema? limits.maxDepth []
        FieldPath.root root <;> rfl
  · unfold resolveNoting
    rw [hcalls]
    intro call hcall
    have h := hsound call hcall
    have hstored := Store.length_le_schemaCount h.nodup h.stored
    have hshallow := h.shallow
    refine ⟨h.nodup, h.stored, hshallow, ?_⟩
    rw [h.depth]
    omega
  · rw [resolve, Resolve.resolveReading, Resolve.bind_eq_error] at hresolve
    rcases hresolve with hresolve | ⟨_, _, hresolve⟩
    · exact Resolve.schemaNode_ne_tooDeep hown hdepth maxDepth place hresolve
    · exact absurd hresolve Resolve.pure_ne_error

/-- A ring of two schemas, one of which also refers to a schema that is not stored: three calls are
open at most, and a depth of a billion is not come near to. -/
theorem ring_ends_far_from_depth :
    let left := Schema.ofFields "left" [⟨"right", .nested "right"⟩, ⟨"lost", .nested "lost"⟩]
    let right := Schema.ofFields "right" [⟨"lefts", .list (.nested "left") .standard⟩]
    let store := Store.ofDefinitions ⟨[left, right], [], []⟩
    let limits : Limits := ⟨1000000000, 1000⟩
    ∃ hstore : store.Reachable,
      (resolveNoting store hstore.tidy.ownId limits "left").1 =
        .error (.cyclicSchema ["left", "right", "left"] "right.lefts[]") ∧
      (∀ call ∈ (resolveNoting store hstore.tidy.ownId limits "left").2, call.depth ≤ 3) ∧
      ∀ maxDepth place, resolve limits store.schema? "left" ≠ .error (.tooDeep maxDepth place) := by
  intro left right store limits
  have hstore : store.Reachable := ⟨_, [], rfl⟩
  have hcount : store.schemaCount = 2 := rfl
  obtain ⟨hresult, hcalls, hdepth⟩ := resolution_ends_with_stored_schemas hstore limits "left"
  refine ⟨hstore, hresult.trans rfl, fun call hcall => ?_, hdepth (by rw [hcount]; decide)⟩
  obtain ⟨-, -, -, hopen⟩ := hcalls call hcall
  rw [hcount] at hopen
  omega

end MockApi
