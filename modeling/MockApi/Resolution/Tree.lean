import MockApi.Definition.Basic

/-!
Resolved schemas: trees in which every reference has been replaced by what it refers to, with the
version of every schema that was read.
-/
namespace MockApi

inductive Node where
  | leaf (binding : Binding)
  | object (schema : String) (fields : List (String × Node))
  | list (count : ItemCount) (element : Node)

namespace Node

mutual

def size : Node → Nat
  | leaf _ => 1
  | object _ fields => 1 + sizeFields fields
  | list _ element => 1 + size element

def sizeFields : List (String × Node) → Nat
  | [] => 0
  | (_, node) :: rest => size node + sizeFields rest

end

mutual

/-- The schemas of the objects in a tree, in reading order. -/
def schemas : Node → List String
  | leaf _ => []
  | object schema fields => schema :: schemasOfFields fields
  | list _ element => schemas element

def schemasOfFields : List (String × Node) → List String
  | [] => []
  | (_, node) :: rest => schemas node ++ schemasOfFields rest

end

end Node

/-- The versions of the schemas that a tree was made from. -/
abbrev Dependencies := Keyed UInt64

structure Tree where
  schema : String
  root : Node
  dependencies : Dependencies

namespace Tree

/-- Every schema that the tree was made from still has its version. -/
def current (version? : String → Option UInt64) (tree : Tree) : Bool :=
  tree.dependencies.all fun entry => version? entry.1 == some entry.2

def dependsOn (schema : String) (tree : Tree) : Bool := Keyed.contains schema tree.dependencies

end Tree
end MockApi
