import Mathlib.Data.List.Nodup
import MockApi.Proofs.Resolution.Walks
import MockApi.Settings.Validation

/-! Every failure of resolution tells the truth. Its place is written from a chain of fields that
leads from the root through stored schemas, and the defect that it names is at the end of the
chain. -/
namespace MockApi

variable {limits : Limits} {schema? : String → Option Schema} {root : String}

/-! ## Chains of fields -/

/-- A field on the way down, with the schema that it belongs to. -/
structure Link where
  schema : String
  field : Field

/-- A chain of fields leads from a root to a schema: each field belongs to the stored schema that
the one before it refers to, and the last one refers to the end. -/
inductive Leads (schema? : String → Option Schema) (root : String) : List Link → String → Prop
  | here : Leads schema? root [] root
  | down {chain : List Link} {id next : String} {schema : Schema} {field : Field}
      (hleads : Leads schema? root chain id) (hs : schema? id = some schema)
      (hf : field ∈ schema.fields) (hnext : field.reference? = some next) :
      Leads schema? root (chain ++ [⟨id, field⟩]) next

/-- A chain whose last field belongs to the stored schema that the fields before it lead to. -/
structure EndsAt (schema? : String → Option Schema) (root : String) (chain : List Link)
    (last : Link) : Prop where
  leads : Leads schema? root chain last.schema
  stored : ∃ schema, schema? last.schema = some schema ∧ last.field ∈ schema.fields

/-- The place of what a field holds: of a list that is an item. -/
def Field.contentSteps (field : Field) : FieldPath :=
  match field.shape with
  | .list _ _ => [.field field.name, .anyIndex]
  | _ => [.field field.name]

/-- The place of what the last field of a chain holds. -/
def contentPlace (chain : List Link) : FieldPath := chain.flatMap (·.field.contentSteps)

def fieldPlace (chain : List Link) (last : Link) : FieldPath :=
  contentPlace chain ++ [.field last.field.name]

def schemasOn (chain : List Link) : List String := chain.map (·.schema)

def ItemCount.upper : ItemCount → Nat
  | .fixed n => n
  | .range _ max => max

def ItemCount.Reversed : ItemCount → Prop
  | .fixed _ => False
  | .range min max => max < min

/-- What a failure says is so: there is a chain to the place, and the defect is at its end. -/
def Failure.Witnessed (limits : Limits) (schema? : String → Option Schema) (root : String) :
    Failure → Prop
  | .cyclicSchema cycle place => ∃ chain first inner, Leads schema? root chain first ∧
      cycle = first :: inner ++ [first] ∧ (first :: inner).Nodup ∧
      cycle.IsChain (Refers schema?) ∧ first :: inner <:+ schemasOn chain ∧
      place = (contentPlace chain).render
  | .tooDeep maxDepth place => ∃ chain next, Leads schema? root chain next ∧
      maxDepth = limits.maxDepth ∧ chain.length = maxDepth ∧ (schemasOn chain).Nodup ∧
      (∀ id ∈ schemasOn chain, (schema? id).isSome) ∧ next ∉ schemasOn chain ∧
      place = (contentPlace chain).render
  | .danglingReference missing referrer place => ∃ chain, Leads schema? root chain missing ∧
      schema? missing = none ∧ (place = none ↔ missing = root) ∧
      ((place = none ∧ chain = [] ∧ referrer = "the endpoint") ∨
        (place = some (contentPlace chain).render ∧
          referrer = "field " ++ Failure.quoted (contentPlace chain).render))
  | .unknownGenerator generator place => ∃ chain last, EndsAt schema? root chain last ∧
      Validation.generatorOf? last.field = some generator ∧ Generator.known generator = false ∧
      place = (contentPlace (chain ++ [last])).render
  | .reversedCount min max place => ∃ chain last element, EndsAt schema? root chain last ∧
      last.field.shape = .list element (.range min max) ∧ max < min ∧
      place = (fieldPlace chain last).render
  | .tooManyItems count maxItems place => ∃ chain last element declared,
      EndsAt schema? root chain last ∧ last.field.shape = .list element declared ∧
      ¬ declared.Reversed ∧ declared.upper = count ∧ maxItems = limits.maxItems ∧
      maxItems < count ∧ place = (fieldPlace chain last).render
  | _ => False

theorem contentPlace_append (chain : List Link) (last : Link) :
    contentPlace (chain ++ [last]) = contentPlace chain ++ last.field.contentSteps := by
  simp [contentPlace]

theorem schemasOn_append (chain : List Link) (last : Link) :
    schemasOn (chain ++ [last]) = schemasOn chain ++ [last.schema] := by
  simp [schemasOn]

theorem contentPlace_eq_nil_iff (chain : List Link) : contentPlace chain = [] ↔ chain = [] := by
  cases chain with
  | nil => simp [contentPlace]
  | cons link rest =>
    have hsteps : link.field.contentSteps ≠ [] := by
      unfold Field.contentSteps
      split <;> simp
    simp [contentPlace, hsteps]

theorem leads_nil_iff {id : String} : Leads schema? root [] id ↔ id = root := by
  constructor
  · intro h
    generalize hchain : ([] : List Link) = chain at h
    cases h with
    | here => rfl
    | down _ _ _ _ => simp at hchain
  · rintro rfl
    exact .here

theorem Leads.root_stored {chain : List Link} {id : String} (h : Leads schema? root chain id)
    (hchain : chain ≠ []) : (schema? root).isSome := by
  induction h with
  | here => exact absurd rfl hchain
  | @down front id _ schema _ hleads hs hf hnext ih =>
    cases hleads with
    | here => simp [hs]
    | down _ _ _ _ => exact ih (by simp)

theorem Leads.stored {chain : List Link} {id : String} (h : Leads schema? root chain id) :
    ∀ other ∈ schemasOn chain, (schema? other).isSome := by
  induction h with
  | here => simp [schemasOn]
  | down _ hs _ _ ih =>
    intro other ho
    rw [schemasOn_append, List.mem_append, List.mem_singleton] at ho
    rcases ho with ho | rfl
    · exact ih other ho
    · simp [hs]

theorem Leads.refers {chain : List Link} {id : String} (h : Leads schema? root chain id) :
    (schemasOn chain ++ [id]).IsChain (Refers schema?) := by
  induction h with
  | here => exact .singleton root
  | @down chain id next schema field _ hs hf hnext ih =>
    rw [schemasOn_append, List.append_assoc]
    exact List.isChain_append_cons_cons.mpr ⟨ih, ⟨schema, hs, field, hf, hnext⟩, .singleton next⟩

theorem contentPlace_step (chain : List Link) (id : String) (field : Field) :
    contentPlace (chain ++ [⟨id, field⟩]) = match field.shape with
      | .list _ _ => ((contentPlace chain).push (.field field.name)).push .anyIndex
      | _ => (contentPlace chain).push (.field field.name) := by
  rw [contentPlace_append, Field.contentSteps]
  cases field.shape <;> simp [FieldPath.push]

/-! ## How a step fails -/

namespace Resolve

variable {nested : Nested Id} {path : FieldPath} {failure : Failure}

theorem bind_eq_error {α β : Type} {x : ExceptT Failure Id α} {f : α → ExceptT Failure Id β} :
    (x >>= f) = Except.error failure ↔
      x = Except.error failure ∨ ∃ a, x = Except.ok a ∧ f a = Except.error failure := by
  cases x with
  | ok a =>
    constructor
    · exact fun h => .inr ⟨a, rfl, h⟩
    · rintro (h | ⟨_, ha, h⟩)
      · cases h
      · cases ha
        exact h
  | error other =>
    constructor
    · intro h
      cases h
      exact .inl rfl
    · rintro (h | ⟨_, ha, _⟩)
      · cases h
        rfl
      · cases ha

theorem pure_ne_error {α : Type} {a : α} :
    (pure a : ExceptT Failure Id α) ≠ Except.error failure :=
  nofun

theorem ofExcept_eq_error {α : Type} {result : Except Failure α} :
    ofExcept (m := Id) result = Except.error failure ↔ result = .error failure :=
  Iff.rfl

theorem leafNode_eq_error {binding : Binding} :
    leafNode path binding = .error failure ↔ Generator.known binding.generator = false ∧
      failure = .unknownGenerator binding.generator path.render := by
  unfold leafNode
  split
  · next h => simp [h]
  · next h => simp [h, eq_comm]

theorem checkCount_eq_error {count : ItemCount}
    (h : checkCount limits path count = .error failure) :
    (∃ min max, count = .range min max ∧ max < min ∧
        failure = .reversedCount min max path.render) ∨
      ¬ count.Reversed ∧ limits.maxItems < count.upper ∧
        failure = .tooManyItems count.upper limits.maxItems path.render := by
  cases count with
  | fixed n =>
    simp only [checkCount] at h
    split at h
    · next hlt => exact .inr ⟨id, hlt, by simpa [ItemCount.upper, eq_comm] using h⟩
    · simp at h
  | range min max =>
    simp only [checkCount] at h
    split at h
    · next hlt => exact .inl ⟨min, max, rfl, hlt, by simpa [eq_comm] using h⟩
    · next hle =>
      split at h
      · next hlt => exact .inr ⟨hle, hlt, by simpa [ItemCount.upper, eq_comm] using h⟩
      · simp at h

theorem shapeNode_eq_error {shape : Shape} :
    shapeNode limits nested path shape = Except.error failure → match shape with
    | .leaf binding => leafNode path binding = .error failure
    | .nested schema => nested path schema = Except.error failure
    | .list element count => checkCount limits path count = .error failure ∨
        match element with
        | .leaf binding => leafNode (path.push .anyIndex) binding = .error failure
        | .nested schema => nested (path.push .anyIndex) schema = Except.error failure := by
  intro h
  cases shape with
  | leaf binding =>
    simpa only [shapeNode, bind_eq_error, ofExcept_eq_error, pure_ne_error, and_false,
      exists_false, or_false] using h
  | nested schema => exact h
  | list element count =>
    simp only [shapeNode, bind_eq_error, ofExcept_eq_error, pure_ne_error, and_false,
      exists_false, or_false] at h
    refine h.imp_right ?_
    rintro ⟨_, _, h⟩
    cases element with
    | leaf binding =>
      simpa only [elementNode, bind_eq_error, ofExcept_eq_error, pure_ne_error, and_false,
        exists_false, or_false] using h
    | nested schema => exact h

theorem fieldNodes_eq_error {fields : List Field}
    (h : fieldNodes limits nested path fields = Except.error failure) :
    ∃ field ∈ fields,
      shapeNode limits nested (path.push (.field field.name)) field.shape =
        Except.error failure := by
  induction fields with
  | nil => exact absurd h pure_ne_error
  | cons field rest ih =>
    simp only [fieldNodes, bind_eq_error, pure_ne_error, and_false, exists_false, or_false] at h
    rcases h with h | ⟨_, _, h⟩
    · exact ⟨field, List.mem_cons_self, h⟩
    · obtain ⟨other, ho, h⟩ := ih h
      exact ⟨other, List.mem_cons_of_mem _ ho, h⟩

/-! ## The defect at the end of a chain -/

variable {chain : List Link} {id : String}

/-- The cycle that is reported is the end of the chain, from the schema that comes up again. -/
theorem cycleAt_of_mem {ancestors : List String} (h : id ∈ ancestors) :
    ∃ inner, cycleAt ancestors id = id :: inner ++ [id] ∧ id :: inner <:+ ancestors := by
  obtain ⟨front, inner, rfl, hfront⟩ := List.eq_append_cons_of_mem h
  have hskipped : ∀ ancestor ∈ front, decide (ancestor ≠ id) = true := fun ancestor ha =>
    decide_eq_true fun heq => hfront (heq ▸ ha)
  refine ⟨inner, ?_, List.suffix_append front _⟩
  rw [cycleAt, List.dropWhile_append_of_pos hskipped]
  simp

theorem witnessed_cycle (hleads : Leads schema? root chain id)
    (hnodup : (schemasOn chain).Nodup) (hid : id ∈ schemasOn chain) :
    Failure.Witnessed limits schema? root
      (.cyclicSchema (cycleAt (schemasOn chain) id) (contentPlace chain).render) := by
  obtain ⟨inner, hcycle, hsuffix⟩ := cycleAt_of_mem hid
  have hrefers : (id :: inner ++ [id]).IsChain (Refers schema?) :=
    hleads.refers.suffix (List.suffix_append_self_iff.mpr hsuffix)
  exact ⟨chain, id, inner, hleads, hcycle, hnodup.sublist hsuffix.sublist, hcycle ▸ hrefers,
    hsuffix, rfl⟩

theorem witnessed_tooDeep (hleads : Leads schema? root chain id)
    (hnodup : (schemasOn chain).Nodup) (hid : id ∉ schemasOn chain)
    (hdepth : chain.length = limits.maxDepth) :
    Failure.Witnessed limits schema? root (.tooDeep limits.maxDepth (contentPlace chain).render) :=
  ⟨chain, id, hleads, rfl, hdepth, hnodup, hleads.stored, hid, rfl⟩

theorem witnessed_dangling (hleads : Leads schema? root chain id) (hid : schema? id = none) :
    Failure.Witnessed limits schema? root (dangling (contentPlace chain) id) := by
  by_cases hchain : chain = []
  · subst hchain
    have hroot := leads_nil_iff.mp hleads
    exact ⟨[], hleads, hid, iff_of_true rfl hroot, .inl ⟨rfl, rfl, rfl⟩⟩
  · have hroot : id ≠ root := by
      rintro rfl
      have hstored := hleads.root_stored hchain
      simp [hid] at hstored
    have hplace : (contentPlace chain).isRoot = false := by
      simp [FieldPath.isRoot, contentPlace_eq_nil_iff, hchain]
    rw [dangling, hplace]
    exact ⟨chain, hleads, hid, by simpa using hroot, .inr ⟨rfl, rfl⟩⟩

/-- A field fails by a defect of its own, or because of the schema that it refers to. -/
theorem shapeNode_witnessed_or_nested {field : Field} (hend : EndsAt schema? root chain ⟨id, field⟩)
    (h : shapeNode limits nested ((contentPlace chain).push (.field field.name)) field.shape =
      Except.error failure) :
    failure.Witnessed limits schema? root ∨ ∃ next, field.reference? = some next ∧
      nested (contentPlace (chain ++ [⟨id, field⟩])) next = Except.error failure := by
  have hplace := contentPlace_step chain id field
  have hshape := shapeNode_eq_error h
  cases hfield : field.shape with
  | leaf binding =>
    rw [hfield] at hplace hshape
    obtain ⟨hknown, rfl⟩ := leafNode_eq_error.mp hshape
    exact .inl ⟨chain, _, hend, by simp [Validation.generatorOf?, hfield], hknown, by rw [hplace]⟩
  | nested next =>
    rw [hfield] at hplace hshape
    exact .inr ⟨next, by simp [Field.reference?, hfield], hplace ▸ hshape⟩
  | list element count =>
    rw [hfield] at hplace hshape
    rcases hshape with hcount | helement
    · rcases checkCount_eq_error hcount with ⟨min, max, rfl, hlt, rfl⟩ | ⟨hordered, hlt, rfl⟩
      · exact .inl ⟨chain, _, element, hend, hfield, hlt, rfl⟩
      · exact .inl ⟨chain, _, element, count, hend, hfield, hordered, rfl, rfl, hlt, rfl⟩
    · cases element with
      | leaf binding =>
        obtain ⟨hknown, rfl⟩ := leafNode_eq_error.mp helement
        exact .inl ⟨chain, _, hend, by simp [Validation.generatorOf?, hfield], hknown,
          by rw [hplace]⟩
      | nested next =>
        exact .inr ⟨next, by simp [Field.reference?, hfield], hplace ▸ helement⟩

theorem schemaNode_witnessed (hown : OwnIds schema?) {remaining : Nat}
    (hleads : Leads schema? root chain id) (hnodup : (schemasOn chain).Nodup)
    (hdepth : chain.length + remaining = limits.maxDepth)
    (h : schemaNode (m := Id) limits schema? remaining (schemasOn chain) (contentPlace chain) id =
      Except.error failure) : failure.Witnessed limits schema? root := by
  induction remaining generalizing chain id with
  | zero =>
    by_cases hid : id ∈ schemasOn chain
    · cases (schemaNode_of_mem hid).symm.trans h
      exact witnessed_cycle hleads hnodup hid
    · cases (schemaNode_zero hid).symm.trans h
      exact witnessed_tooDeep hleads hnodup hid hdepth
  | succ remaining ih =>
    by_cases hid : id ∈ schemasOn chain
    · cases (schemaNode_of_mem hid).symm.trans h
      exact witnessed_cycle hleads hnodup hid
    cases hs : schema? id with
    | none =>
      cases (schemaNode_succ_of_none hid hs).symm.trans h
      exact witnessed_dangling hleads hs
    | some schema =>
      rw [schemaNode_succ_of_some hid hs, hown id schema hs] at h
      simp only [bind_eq_error, pure_ne_error, and_false, exists_false, or_false] at h
      obtain ⟨field, hf, h⟩ := fieldNodes_eq_error h
      rcases shapeNode_witnessed_or_nested ⟨hleads, schema, hs, hf⟩ h with
        hwitnessed | ⟨next, hnext, h⟩
      · exact hwitnessed
      · have hids : schemasOn (chain ++ [⟨id, field⟩]) = schemasOn chain ++ [id] :=
          schemasOn_append chain _
        refine ih (hleads.down hs hf hnext) ?_ ?_ (hids ▸ h)
        · rw [hids]
          exact List.concat_eq_append ▸ List.Nodup.concat hid hnodup
        · rw [List.length_append, List.length_singleton]
          omega

end Resolve

/-- Whatever resolution complains about is really there, at the place that it gives. -/
theorem failure_of_resolve_is_witnessed {store : Store} (hstore : store.Reachable)
    (limits : Limits) (root : String) {failure : Failure}
    (h : resolve limits store.schema? root = .error failure) :
    failure.Witnessed limits store.schema? root := by
  rw [resolve, Resolve.resolveReading, Resolve.bind_eq_error] at h
  rcases h with h | ⟨_, _, h⟩
  · exact Resolve.schemaNode_witnessed hstore.tidy.ownId .here List.nodup_nil (Nat.zero_add _) h
  · exact absurd h Resolve.pure_ne_error

/-- A cycle that comes back through the items of a list. -/
theorem cycle_through_items_is_witnessed :
    let order := Schema.ofFields "order" [⟨"customer", .nested "customer"⟩]
    let customer := Schema.ofFields "customer"
      [⟨"name", .leaf ⟨"fullName", Params.empty⟩⟩, ⟨"orders", .list (.nested "order") (.fixed 1)⟩]
    let store := Store.ofDefinitions ⟨[order, customer], [], []⟩
    let failure := Failure.cyclicSchema ["order", "customer", "order"] "customer.orders[]"
    store.Reachable ∧ resolve Limits.standard store.schema? "order" = .error failure ∧
      failure.Witnessed Limits.standard store.schema? "order" := by
  intro order customer store failure
  have hstore : store.Reachable := ⟨_, [], rfl⟩
  have hfailure : resolve Limits.standard store.schema? "order" = .error failure := rfl
  exact ⟨hstore, hfailure, failure_of_resolve_is_witnessed hstore _ _ hfailure⟩

end MockApi
