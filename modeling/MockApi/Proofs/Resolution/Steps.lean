import MockApi.Resolution.Resolve

/-! Resolution against fixed definitions, taken apart: what each step needs to succeed, and what it
then gives. -/
namespace MockApi

/-- Every schema is found under its own id. -/
def OwnIds (schema? : String → Option Schema) : Prop :=
  ∀ id schema, schema? id = some schema → schema.id = id

/-- A fixed count, or the upper end of a range, is within the limit, and a range is in order. -/
def ItemCount.Allowed (maxItems : Nat) : ItemCount → Prop
  | .fixed n => n ≤ maxItems
  | .range min max => min ≤ max ∧ max ≤ maxItems

/-- The generator of a leaf exists. -/
def Element.Known : Element → Prop
  | .leaf binding => Generator.known binding.generator = true
  | .nested _ => True

/-- What a shape must satisfy apart from the schema that it refers to. -/
def Shape.Admissible (limits : Limits) : Shape → Prop
  | .leaf binding => Generator.known binding.generator = true
  | .nested _ => True
  | .list element count => count.Allowed limits.maxItems ∧ element.Known

namespace Resolve

variable {limits : Limits} {schema? : String → Option Schema} {nested : Nested Id}
  {path : FieldPath}

theorem bind_eq_ok {α β : Type} {x : ExceptT Failure Id α} {f : α → ExceptT Failure Id β} {r : β} :
    (x >>= f) = Except.ok r ↔ ∃ a, x = Except.ok a ∧ f a = Except.ok r := by
  cases x with
  | ok a => exact ⟨fun h => ⟨a, rfl, h⟩, fun ⟨_, hb, h⟩ => by cases hb; exact h⟩
  | error failure => exact ⟨fun h => (nomatch h), fun ⟨_, hb, _⟩ => (nomatch hb)⟩

theorem pure_eq_ok {α : Type} {a r : α} :
    (pure a : ExceptT Failure Id α) = Except.ok r ↔ r = a :=
  ⟨fun h => by cases h; rfl, fun h => by cases h; rfl⟩

theorem ofExcept_eq_ok {α : Type} {result : Except Failure α} {r : α} :
    ofExcept (m := Id) result = Except.ok r ↔ result = .ok r :=
  Iff.rfl

/-! ## Leaves, counts and lists -/

theorem leafNode_eq_ok {binding : Binding} {node : Node} :
    leafNode path binding = .ok node ↔
      Generator.known binding.generator = true ∧ node = .leaf binding := by
  unfold leafNode
  split
  · next h => simp [h, eq_comm]
  · next h => simp [h]

theorem checkCount_eq_ok {count : ItemCount} {u : Unit} :
    checkCount limits path count = .ok u ↔ count.Allowed limits.maxItems := by
  cases count with
  | fixed n =>
    simp only [checkCount, ItemCount.Allowed]
    split <;> simp <;> omega
  | range min max =>
    simp only [checkCount, ItemCount.Allowed]
    split
    · simp
      omega
    · split <;> simp <;> omega

theorem elementNode_eq_ok {element : Element} {result : Node × Reads} :
    elementNode nested path element = Except.ok result ↔
      element.Known ∧ match element with
        | .leaf binding => result = (.leaf binding, [])
        | .nested schema => nested path schema = Except.ok result := by
  cases element with
  | leaf binding =>
    simp only [elementNode, bind_eq_ok, ofExcept_eq_ok, leafNode_eq_ok, pure_eq_ok, Element.Known]
    constructor
    · rintro ⟨node, ⟨hknown, rfl⟩, rfl⟩
      exact ⟨hknown, rfl⟩
    · rintro ⟨hknown, rfl⟩
      exact ⟨_, ⟨hknown, rfl⟩, rfl⟩
  | nested schema => simp [elementNode, Element.Known]

theorem shapeNode_eq_ok {shape : Shape} {result : Node × Reads} :
    shapeNode limits nested path shape = Except.ok result ↔
      shape.Admissible limits ∧ match shape with
        | .leaf binding => result = (.leaf binding, [])
        | .nested schema => nested path schema = Except.ok result
        | .list (.leaf binding) count => result = (.list count (.leaf binding), [])
        | .list (.nested schema) count => ∃ node reads,
            nested (path.push .anyIndex) schema = Except.ok (node, reads) ∧
              result = (.list count node, reads) := by
  cases shape with
  | leaf binding =>
    simp only [shapeNode, bind_eq_ok, ofExcept_eq_ok, leafNode_eq_ok, pure_eq_ok, Shape.Admissible]
    constructor
    · rintro ⟨node, ⟨hknown, rfl⟩, rfl⟩
      exact ⟨hknown, rfl⟩
    · rintro ⟨hknown, rfl⟩
      exact ⟨_, ⟨hknown, rfl⟩, rfl⟩
  | nested schema => simp [shapeNode, Shape.Admissible]
  | list element count =>
    simp only [shapeNode, bind_eq_ok, ofExcept_eq_ok, checkCount_eq_ok, elementNode_eq_ok,
      pure_eq_ok, Shape.Admissible, Prod.exists]
    cases element with
    | leaf binding =>
      constructor
      · rintro ⟨_, hcount, node, reads, ⟨hknown, heq⟩, rfl⟩
        cases heq
        exact ⟨⟨hcount, hknown⟩, rfl⟩
      · rintro ⟨⟨hcount, hknown⟩, rfl⟩
        exact ⟨(), hcount, _, _, ⟨hknown, rfl⟩, rfl⟩
    | nested schema =>
      constructor
      · rintro ⟨_, hcount, node, reads, ⟨hknown, hnested⟩, rfl⟩
        exact ⟨⟨hcount, hknown⟩, node, reads, hnested, rfl⟩
      · rintro ⟨⟨hcount, hknown⟩, node, reads, hnested, rfl⟩
        exact ⟨(), hcount, node, reads, ⟨hknown, hnested⟩, rfl⟩

/-! ## Fields and schemas -/

theorem fieldNodes_nil_eq_ok {result : List (String × Node) × Reads} :
    fieldNodes limits nested path [] = Except.ok result ↔ result = ([], []) := by
  rw [fieldNodes, pure_eq_ok]

theorem fieldNodes_cons_eq_ok {field : Field} {rest : List Field}
    {result : List (String × Node) × Reads} :
    fieldNodes limits nested path (field :: rest) = Except.ok result ↔
      ∃ node reads nodes more,
        shapeNode limits nested (path.push (.field field.name)) field.shape =
          Except.ok (node, reads) ∧
        fieldNodes limits nested path rest = Except.ok (nodes, more) ∧
        result = ((field.name, node) :: nodes, reads ++ more) := by
  simp only [fieldNodes, bind_eq_ok, pure_eq_ok, Prod.exists]
  constructor
  · rintro ⟨node, reads, hshape, nodes, more, hrest, rfl⟩
    exact ⟨node, reads, nodes, more, hshape, hrest, rfl⟩
  · rintro ⟨node, reads, nodes, more, hshape, hrest, rfl⟩
    exact ⟨node, reads, hshape, nodes, more, hrest, rfl⟩

theorem schemaNode_of_mem {remaining : Nat} {ancestors : List String} {id : String}
    (h : id ∈ ancestors) : schemaNode (m := Id) limits schema? remaining ancestors path id =
      Except.error (.cyclicSchema (cycleAt ancestors id) path.render) := by
  rw [schemaNode.eq_def]
  simp only [h, ↓reduceIte]
  rfl

theorem schemaNode_zero {ancestors : List String} {id : String} (h : id ∉ ancestors) :
    schemaNode (m := Id) limits schema? 0 ancestors path id =
      Except.error (.tooDeep limits.maxDepth path.render) := by
  rw [schemaNode.eq_def]
  simp only [h, ↓reduceIte]
  rfl

theorem schemaNode_succ_of_none {remaining : Nat} {ancestors : List String} {id : String}
    (h : id ∉ ancestors) (hs : schema? id = none) :
    schemaNode (m := Id) limits schema? (remaining + 1) ancestors path id =
      Except.error (dangling path id) := by
  rw [schemaNode.eq_def]
  simp only [h, ↓reduceIte, hs]
  rfl

theorem schemaNode_succ_of_some {remaining : Nat} {ancestors : List String} {id : String}
    {schema : Schema} (h : id ∉ ancestors) (hs : schema? id = some schema) :
    schemaNode (m := Id) limits schema? (remaining + 1) ancestors path id =
      (do let (fields, reads) ← fieldNodes limits
            (schemaNode (m := Id) limits schema? remaining (ancestors ++ [schema.id])) path
            schema.fields
          return (.object schema.id fields, (schema.id, schema.version) :: reads)) := by
  rw [schemaNode.eq_def]
  simp only [h, ↓reduceIte, hs]
  rfl

theorem schemaNode_eq_ok {n : Nat} {ancestors : List String} {id : String}
    {result : Node × Reads} :
    schemaNode (m := Id) limits schema? n ancestors path id = Except.ok result ↔
      id ∉ ancestors ∧ ∃ remaining schema fields reads,
        n = remaining + 1 ∧ schema? id = some schema ∧
        fieldNodes limits (schemaNode (m := Id) limits schema? remaining (ancestors ++ [schema.id]))
          path schema.fields = Except.ok (fields, reads) ∧
        result = (.object schema.id fields, (schema.id, schema.version) :: reads) := by
  by_cases h : id ∈ ancestors
  · simp [schemaNode_of_mem h, h]
  cases n with
  | zero => simp [schemaNode_zero h]
  | succ remaining =>
    cases hs : schema? id with
    | none => simp [schemaNode_succ_of_none h hs]
    | some schema =>
      rw [schemaNode_succ_of_some h hs, bind_eq_ok]
      simp only [pure_eq_ok, Prod.exists]
      constructor
      · rintro ⟨fields, reads, hfields, rfl⟩
        exact ⟨h, remaining, schema, fields, reads, rfl, rfl, hfields, rfl⟩
      · rintro ⟨_, _, _, fields, reads, hn, hschema, hfields, rfl⟩
        cases hn
        cases hschema
        exact ⟨fields, reads, hfields, rfl⟩

/-! ## Induction over what resolves -/

section Induction

variable {P : Node → Prop}
  (hleaf : ∀ binding, Generator.known binding.generator = true → P (.leaf binding))
  (hlist : ∀ count node, count.Allowed limits.maxItems → P node → P (.list count node))

include hleaf hlist

theorem shapeNode_induct
    (hnested : ∀ path id node reads, nested path id = Except.ok (node, reads) → P node)
    {shape : Shape} {node : Node} {reads : Reads}
    (h : shapeNode limits nested path shape = Except.ok (node, reads)) : P node := by
  obtain ⟨hadmissible, h⟩ := shapeNode_eq_ok.mp h
  cases shape with
  | leaf binding =>
    cases h
    exact hleaf binding hadmissible
  | nested schema => exact hnested _ _ _ _ h
  | list element count =>
    cases element with
    | leaf binding =>
      cases h
      exact hlist count _ hadmissible.1 (hleaf binding hadmissible.2)
    | nested schema =>
      obtain ⟨item, more, hitem, heq⟩ := h
      cases heq
      exact hlist count item hadmissible.1 (hnested _ _ _ _ hitem)

theorem fieldNodes_induct
    (hnested : ∀ path id node reads, nested path id = Except.ok (node, reads) → P node)
    {fields : List Field} {nodes : List (String × Node)} {reads : Reads}
    (h : fieldNodes limits nested path fields = Except.ok (nodes, reads)) :
    Keyed.keys nodes = fields.map (·.name) ∧ ∀ entry ∈ nodes, P entry.2 := by
  induction fields generalizing nodes reads with
  | nil =>
    cases fieldNodes_nil_eq_ok.mp h
    exact ⟨rfl, List.forall_mem_nil _⟩
  | cons field rest ih =>
    obtain ⟨node, first, others, more, hshape, hrest, heq⟩ := fieldNodes_cons_eq_ok.mp h
    cases heq
    obtain ⟨hnames, hothers⟩ := ih hrest
    refine ⟨?_, List.forall_mem_cons.mpr ⟨shapeNode_induct hleaf hlist hnested hshape, hothers⟩⟩
    rw [List.map_cons, ← hnames]
    rfl

/-- What holds of known leaves, and is kept by allowed lists and by the objects of schemas, holds of
every node that a schema resolves to. -/
theorem schemaNode_induct
    (hobject : ∀ id schema fields, schema? id = some schema →
      Keyed.keys fields = schema.fields.map (·.name) → (∀ entry ∈ fields, P entry.2) →
        P (.object schema.id fields))
    {remaining : Nat} {ancestors : List String} {id : String} {node : Node} {reads : Reads}
    (h : schemaNode (m := Id) limits schema? remaining ancestors path id =
      Except.ok (node, reads)) : P node := by
  induction remaining generalizing ancestors path id node reads with
  | zero =>
    obtain ⟨_, _, _, _, _, hn, _⟩ := schemaNode_eq_ok.mp h
    omega
  | succ remaining ih =>
    obtain ⟨_, _, schema, fields, more, hn, hs, hfields, heq⟩ := schemaNode_eq_ok.mp h
    cases hn
    cases heq
    obtain ⟨hnames, hnodes⟩ := fieldNodes_induct hleaf hlist (fun _ _ _ _ hnode => ih hnode) hfields
    exact hobject id schema fields hs hnames hnodes

end Induction

end Resolve

theorem resolve_eq_ok {limits : Limits} {schema? : String → Option Schema} {id : String}
    {tree : Tree} :
    resolve limits schema? id = .ok tree ↔
      ∃ root reads, Resolve.schemaNode (m := Id) limits schema? limits.maxDepth []
        FieldPath.root id = Except.ok (root, reads) ∧ tree = ⟨id, root, Keyed.ofEntries reads⟩ := by
  rw [resolve, Resolve.resolveReading, Resolve.bind_eq_ok]
  simp only [Resolve.pure_eq_ok, Prod.exists]

end MockApi
