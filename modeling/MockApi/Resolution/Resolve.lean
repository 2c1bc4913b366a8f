import MockApi.Generator.Registry
import MockApi.Resolution.Tree

/-!
Resolution of a schema into a tree. The schemas are read one by one through `read`, so that the
definitions may change between two reads; `resolve` takes them all from one state. The recursion
goes down with the depth that is left, and a reference to a schema on the way from the root is a
cycle.
-/
namespace MockApi

structure Limits where
  maxDepth : Nat
  maxItems : Nat
  deriving DecidableEq, Repr

def Limits.standard : Limits := ⟨32, 1000⟩

namespace Resolve

abbrev Reads := List (String × UInt64)

/-- The largest count must be allowed, and a range in order. -/
def checkCount (limits : Limits) (path : FieldPath) (count : ItemCount) : Except Failure Unit :=
  let checkUpper (upper : Nat) : Except Failure Unit :=
    if limits.maxItems < upper then .error (.tooManyItems upper limits.maxItems path.render)
    else .ok ()
  match count with
  | .fixed n => checkUpper n
  | .range min max =>
      if max < min then .error (.reversedCount min max path.render) else checkUpper max

def leafNode (path : FieldPath) (binding : Binding) : Except Failure Node :=
  if Generator.known binding.generator then .ok (.leaf binding)
  else .error (.unknownGenerator binding.generator path.render)

/-- The root is referred to by the endpoint, every other schema by a field. -/
def dangling (path : FieldPath) (missing : String) : Failure :=
  if path.isRoot then .danglingReference missing "the endpoint" none
  else .danglingReference missing ("field " ++ Failure.quoted path.render) (some path.render)

def cycleAt (ancestors : List String) (id : String) : List String :=
  ancestors.dropWhile (fun ancestor => ancestor ≠ id) ++ [id]

variable {m : Type → Type} [Monad m]

def ofExcept {α : Type} (result : Except Failure α) : ExceptT Failure m α := ExceptT.mk (pure result)

abbrev Nested (m : Type → Type) := FieldPath → String → ExceptT Failure m (Node × Reads)

def elementNode (nested : Nested m) (path : FieldPath) : Element →
    ExceptT Failure m (Node × Reads)
  | .leaf binding => do return (← ofExcept (leafNode path binding), [])
  | .nested schema => nested path schema

/-- The count of a list is looked at before its element. -/
def shapeNode (limits : Limits) (nested : Nested m) (path : FieldPath) : Shape →
    ExceptT Failure m (Node × Reads)
  | .leaf binding => do return (← ofExcept (leafNode path binding), [])
  | .nested schema => nested path schema
  | .list element count => do
      ofExcept (checkCount limits path count)
      let (node, reads) ← elementNode nested (path.push .anyIndex) element
      return (.list count node, reads)

def fieldNodes (limits : Limits) (nested : Nested m) (path : FieldPath) :
    List Field → ExceptT Failure m (List (String × Node) × Reads)
  | [] => return ([], [])
  | field :: rest => do
      let (node, reads) ← shapeNode limits nested (path.push (.field field.name)) field.shape
      let (nodes, more) ← fieldNodes limits nested path rest
      return ((field.name, node) :: nodes, reads ++ more)

/-- The object of a schema at a place, below the given ancestors. -/
def schemaNode (limits : Limits) (read : String → m (Option Schema)) :
    (remaining : Nat) → (ancestors : List String) → Nested m
  | remaining, ancestors, path, id => do
      if id ∈ ancestors then throw (.cyclicSchema (cycleAt ancestors id) path.render)
      match remaining with
      | 0 => throw (.tooDeep limits.maxDepth path.render)
      | remaining + 1 =>
          match ← ExceptT.lift (read id) with
          | none => throw (dangling path id)
          | some schema =>
              let nested := schemaNode limits read remaining (ancestors ++ [schema.id])
              let (fields, reads) ← fieldNodes limits nested path schema.fields
              return (.object schema.id fields, (schema.id, schema.version) :: reads)

/-- Resolves a schema whose definitions are read one at a time. -/
def resolveReading (limits : Limits) (read : String → m (Option Schema)) (id : String) :
    ExceptT Failure m Tree := do
  let (root, reads) ← schemaNode limits read limits.maxDepth [] FieldPath.root id
  return ⟨id, root, Keyed.ofEntries reads⟩

end Resolve

def resolve (limits : Limits) (schema? : String → Option Schema) (id : String) :
    Except Failure Tree :=
  Resolve.resolveReading limits (m := Id) schema? id

end MockApi
