import MockApi.Proofs.FieldPath.Rendering
import MockApi.Proofs.Synthesis.Conformance

/-! A failed payload names the leaf that has failed: no other leaf of the tree is written alike. -/
namespace MockApi

namespace Node

/-- A leaf at a place of a payload; a list has it in every item. -/
inductive LeafOn : Node → FieldPath → Binding → Prop
  | here (binding : Binding) : LeafOn (leaf binding) [] binding
  | field {schema name : String} {fields : List (String × Node)} {node : Node} {place : FieldPath}
      {binding : Binding} (hmem : (name, node) ∈ fields) (h : LeafOn node place binding) :
      LeafOn (object schema fields) (.field name :: place) binding
  | item (i : Nat) {count : ItemCount} {element : Node} {place : FieldPath} {binding : Binding}
      (h : LeafOn element place binding) : LeafOn (list count element) (.index i :: place) binding

end Node

/-! ## The failures of a payload -/

/-- Every way to fail has a property; values are left open. -/
def Blames {α ε : Type} (P : ε → Prop) (attempt : ExceptT ε Draw α) : Prop :=
  attempt.run.Always fun outcome => ∀ e, outcome = .error e → P e

namespace Blames

variable {α β ε ε' : Type} {P Q : ε → Prop}

theorem pure (a : α) : Blames P (pure a : ExceptT ε Draw α) := fun _ _ h => nomatch h

theorem lift (draw : Draw α) : Blames P (ExceptT.lift draw : ExceptT ε Draw α) :=
  fun _ _ h => nomatch h

theorem bind {x : ExceptT ε Draw α} {f : α → ExceptT ε Draw β} (hx : Blames P x)
    (hf : ∀ a, Blames P (f a)) : Blames P (x >>= f) :=
  Draw.Always.attempt_bind hx (fun _ h _ heq => Except.error.inj heq ▸ h _ rfl) fun a _ => hf a

theorem mono {x : ExceptT ε Draw α} (hx : Blames P x) (h : ∀ e, P e → Q e) : Blames Q x :=
  Draw.Always.mono hx fun _ hP e he => h e (hP e he)

/-- A failure that was turned into another one. -/
theorem adapt (x : ExceptT ε Draw α) (g : ε → ε') :
    Blames (fun e => ∃ cause, (∃ source, (x.run.run source).1 = .error cause) ∧ e = g cause)
      (ExceptT.adapt g x) := by
  intro source e he
  have hrun : (x.run.run source).1.mapError g = .error e := he
  cases hx : (x.run.run source).1 with
  | error cause =>
    rw [hx] at hrun
    exact ⟨cause, ⟨source, hx⟩, (Except.error.inj hrun).symm⟩
  | ok a =>
    rw [hx] at hrun
    cases hrun

theorem mapM {x : α → ExceptT ε Draw β} {items : List α} (hx : ∀ a ∈ items, Blames P (x a)) :
    Blames P (items.mapM x) := by
  induction items with
  | nil => exact pure []
  | cons a rest ih =>
    rw [List.mapM_cons]
    refine (hx a List.mem_cons_self).bind fun b => ?_
    exact (ih fun a ha => hx a (List.mem_cons_of_mem _ ha)).bind fun bs => pure (b :: bs)

end Blames

namespace Node

variable {node : Node} {fields : List (String × Node)} {path place other : FieldPath}
  {binding second : Binding} {abort : Abort Failure}

/-- The end that some leaf of the node, which itself is at a place, comes to. -/
def FailsAtLeaf (node : Node) (path : FieldPath) (abort : Abort Failure) : Prop :=
  ∃ place binding cause, node.LeafOn place binding ∧
    (∃ source, ((Generator.generate binding.generator binding.params).run.run source).1 =
      .error cause) ∧
    abort = cause.map (GeneratorFault.toFailure (path ++ place))

theorem FailsAtLeaf.field {schema name : String} (hmem : (name, node) ∈ fields)
    (h : node.FailsAtLeaf (path.push (.field name)) abort) :
    (object schema fields).FailsAtLeaf path abort := by
  obtain ⟨place, binding, cause, hleaf, hcause, rfl⟩ := h
  exact ⟨.field name :: place, binding, cause, .field hmem hleaf, hcause,
    by simp [FieldPath.push]⟩

theorem FailsAtLeaf.item {count : ItemCount} {i : Nat}
    (h : node.FailsAtLeaf (path.push (.index i)) abort) :
    (list count node).FailsAtLeaf path abort := by
  obtain ⟨place, binding, cause, hleaf, hcause, rfl⟩ := h
  exact ⟨.index i :: place, binding, cause, .item i hleaf, hcause, by simp [FieldPath.push]⟩

mutual

/-- A payload fails at a leaf only. -/
theorem synthesizeAt_blames : ∀ (node : Node) (path : FieldPath),
    Blames (node.FailsAtLeaf path) (node.synthesizeAt path)
  | leaf binding, path => by
    rw [synthesizeAt]
    refine (Blames.adapt _ _).mono fun abort ⟨cause, hcause, heq⟩ => ?_
    exact ⟨[], binding, cause, .here binding, hcause, by rw [List.append_nil]; exact heq⟩
  | object schema fields, path => by
    rw [synthesizeAt]
    exact synthesizeFields_blames schema path fields (fun _ hmem => hmem) []
  | list count element, path => by
    rw [synthesizeAt]
    refine (Blames.lift count.draw).bind fun n => ?_
    refine (Blames.mapM fun i _ => ?_).bind fun items => Blames.pure (Json.arr items)
    exact (synthesizeAt_blames element (path.push (.index i))).mono fun _ h => h.item

/-- The fields that are left are some of an object. -/
theorem synthesizeFields_blames (schema : String) {all : List (String × Node)}
    (path : FieldPath) : ∀ fields : List (String × Node), (∀ entry ∈ fields, entry ∈ all) →
    ∀ members, Blames ((object schema all).FailsAtLeaf path) (synthesizeFields path members fields)
  | [], _, members => by
    rw [synthesizeFields]
    exact Blames.pure (Json.obj members)
  | (name, node) :: rest, hall, members => by
    rw [synthesizeFields]
    obtain ⟨hmem, hrest⟩ := List.forall_mem_cons.mp hall
    refine Blames.bind ?_ fun value => synthesizeFields_blames schema path rest hrest _
    exact (synthesizeAt_blames node (path.push (.field name))).mono fun _ h => h.field hmem

end

/-! ## The places of leaves -/

theorem LeafOn.plain_of_resolve {limits : Limits} {schema? : String → Option Schema}
    (hnames : ∀ id schema, schema? id = some schema → ∀ field ∈ schema.fields, PlainName field.name)
    {remaining : Nat} {ancestors : List String} {id : String} {reads : Resolve.Reads}
    (h : Resolve.schemaNode (m := Id) limits schema? remaining ancestors path id =
      Except.ok (node, reads)) : ∀ place binding, node.LeafOn place binding → place.Plain := by
  refine Resolve.schemaNode_induct (P := fun node => ∀ place binding, node.LeafOn place binding →
    place.Plain) ?leaf ?list ?object h
  case leaf =>
    rintro _ _ _ _ ⟨⟩ name hname
    exact nomatch hname
  case list =>
    rintro count element _ ih _ _ (_ | _ | ⟨i, hleaf⟩)
    exact FieldPath.Plain.cons (fun name heq => nomatch heq) (ih _ _ hleaf)
  case object =>
    rintro id schema fields hs hkeys ih _ _ (_ | ⟨hmem, hleaf⟩ | _)
    refine FieldPath.Plain.cons (fun name heq => ?_) (ih _ hmem _ _ hleaf)
    obtain rfl := Step.field.inj heq
    have hname := List.mem_map_of_mem (f := Prod.fst) hmem
    rw [← Keyed.keys, hkeys] at hname
    obtain ⟨field, hfield, hfieldName⟩ := List.mem_map.mp hname
    have hplain := hnames id schema hs field hfield
    rwa [hfieldName] at hplain

/-- Where no object repeats a name, a place has one leaf. -/
theorem LeafOn.unique {maxItems : Nat} (hleaf : node.LeafOn place binding)
    (hsound : node.Sound maxItems) (hsecond : node.LeafOn place second) : binding = second := by
  induction hleaf with
  | here binding =>
    cases hsecond
    rfl
  | field hmem hleaf ih =>
    cases hsecond with
    | field hother hsecond =>
      rw [Sound] at hsound
      cases Keyed.eq_of_mem hsound.1 hmem hother
      exact ih (fieldsSound_iff.mp hsound.2 _ hmem) hsecond
  | item i hleaf ih =>
    cases hsecond with
    | item _ hsecond =>
      rw [Sound] at hsound
      exact ih hsound.2 hsecond

end Node

/-- Failures with the same place are failures at the same place. -/
theorem GeneratorFault.place?_toFailure_inj {fault second : GeneratorFault}
    {place other : FieldPath} (hplace : place.Plain) (hother : other.Plain)
    (h : (fault.toFailure place).place? = (second.toFailure other).place?) : place = other := by
  have hplace? (fault : GeneratorFault) (place : FieldPath) :
      (fault.toFailure place).place? = if place.render = "" then none else some place.render := by
    cases fault <;> rfl
  rw [hplace?, hplace?] at h
  refine FieldPath.render_inj hplace hother ?_
  split at h <;> split at h <;> simp_all

/-- Two places whose names are plain are never written alike. So a payload of a tree made from
schemas with plain names fails at a leaf, and the text of its place, which the failure reports, is
that of no other place; where no schema repeats a name, it is that of no other leaf. -/
theorem failure_place_unambiguous :
    (∀ place other : FieldPath, place.Plain → other.Plain → place.render = other.render →
      place = other) ∧
    ∀ (limits : Limits) (schema? : String → Option Schema) (root : String) (tree : Tree),
      resolve limits schema? root = .ok tree →
      (∀ id schema, schema? id = some schema → ∀ field ∈ schema.fields, PlainName field.name) →
        (∀ source failure, (tree.root.synthesizeFrom source).1 = .error (.fault failure) →
          ∃ place binding fault, tree.root.LeafOn place binding ∧
            failure = GeneratorFault.toFailure place fault) ∧
        (∀ place other binding second fault cause, tree.root.LeafOn place binding →
          tree.root.LeafOn other second →
          (GeneratorFault.toFailure place fault).place? =
            (GeneratorFault.toFailure other cause).place? →
          place = other ∧
            ((∀ id schema, schema? id = some schema → (schema.fields.map (·.name)).Nodup) →
              binding = second)) := by
  refine ⟨fun _ _ => FieldPath.render_inj, fun limits schema? root tree htree hnames => ?_⟩
  obtain ⟨node, reads, hnode, rfl⟩ := resolve_eq_ok.mp htree
  refine ⟨fun source failure hfailure => ?_,
    fun place other binding second fault cause hleaf hsecond hplaces => ?_⟩
  · obtain ⟨place, binding, cause, hleaf, -, heq⟩ :=
      node.synthesizeAt_blames FieldPath.root source _ hfailure
    cases cause with
    | fault fault => exact ⟨place, binding, fault, hleaf, Abort.fault.inj heq⟩
    | crash => cases heq
  · have hplain := Node.LeafOn.plain_of_resolve hnames hnode
    obtain rfl : place = other :=
      GeneratorFault.place?_toFailure_inj (hplain _ _ hleaf) (hplain _ _ hsecond) hplaces
    refine ⟨rfl, fun hdistinct => ?_⟩
    exact hleaf.unique (Resolve.schemaNode_sound hdistinct hnode) hsecond

/-- Both orders and the user have a state that cannot be chosen; the failure names the first one. -/
theorem refused_choice_named_by_place :
    let state : Binding := ⟨"enum", Params.ofMembers [("values", .arr [])]⟩
    let order := Schema.ofFields "order"
      [⟨"id", .leaf ⟨"integer", Params.empty⟩⟩, ⟨"state", .leaf state⟩]
    let user := Schema.ofFields "user"
      [⟨"orders", .list (.nested "order") (.fixed 2)⟩, ⟨"state", .leaf state⟩]
    let store := Store.ofDefinitions ⟨[user, order], [], []⟩
    let source : Source := ⟨[], 0, [0, 0x80000000, 0, 0x40000000]⟩
    let here : FieldPath := [.field "orders", .index 0, .field "state"]
    ∃ tree, resolve Limits.standard store.schema? "user" = .ok tree ∧
      (tree.root.synthesizeFrom source).1 =
        .error (.fault (.badParameters "enum" "'values' must not be empty" "orders[0].state")) ∧
      ∀ place binding fault, tree.root.LeafOn place binding →
        (GeneratorFault.toFailure place fault).place? = some "orders[0].state" →
          place = here ∧ binding = state := by
  intro state order user store source here
  have hschemas (id : String) (schema : Schema) (hs : store.schema? id = some schema) :
      (∀ field ∈ schema.fields, PlainName field.name) ∧ (schema.fields.map (·.name)).Nodup := by
    have hmem : (id, schema) ∈ [("user", user), ("order", order)] := Keyed.mem_of_find? hs
    simp only [List.mem_cons, List.not_mem_nil, or_false] at hmem
    rcases hmem with heq | heq <;> cases heq <;>
      simp only [order, user, Schema.ofFields, List.forall_mem_cons] <;>
      exact ⟨⟨⟨by decide, by decide, by decide⟩, ⟨by decide, by decide, by decide⟩,
        List.forall_mem_nil _⟩, by decide⟩
  let orders : Node :=
    .object "order" [("id", .leaf ⟨"integer", Params.empty⟩), ("state", .leaf state)]
  let root : Node := .object "user" [("orders", .list (.fixed 2) orders), ("state", .leaf state)]
  let tree : Tree := ⟨"user", root, [("user", user.version), ("order", order.version)]⟩
  have htree : resolve Limits.standard store.schema? "user" = .ok tree := rfl
  have hfails : (root.synthesizeFrom source).1 =
      .error (.fault (.badParameters "enum" "'values' must not be empty" "orders[0].state")) := rfl
  have hhere : root.LeafOn here state :=
    .field List.mem_cons_self (.item 0 (.field (List.mem_cons_of_mem _ List.mem_cons_self)
      (.here state)))
  have hplaces := failure_place_unambiguous.2 Limits.standard store.schema? "user" tree htree
    fun id schema hs => (hschemas id schema hs).1
  refine ⟨tree, htree, hfails, fun place binding fault hleaf hplace => ?_⟩
  obtain ⟨rfl, hbinding⟩ :=
    hplaces.2 place here binding state fault (.unknown "") hleaf hhere (hplace.trans rfl)
  exact ⟨rfl, hbinding fun id schema hs => (hschemas id schema hs).2⟩

end MockApi
