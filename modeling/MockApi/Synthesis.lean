import MockApi.Generator.Registry
import MockApi.Resolution.Tree

/-!
Values made from resolved trees: every leaf is drawn from its generator, in the order of the fields
and items.
-/
namespace MockApi

/-- How many items a list gets; only a range of more than one count takes a draw. -/
def ItemCount.draw : ItemCount → Draw Nat
  | fixed n => return n
  | range min max => if max ≤ min then return min else Draw.natBetween min max

namespace Node

/-- A value that fails only at a leaf, which refuses its parameters or crashes on them. -/
abbrev Synthesis := ExceptT (Abort Failure) Draw Json

mutual

def synthesizeAt (path : FieldPath) : Node → Synthesis
  | leaf binding =>
      (Generator.generate binding.generator binding.params).adapt
        (Abort.map (GeneratorFault.toFailure path))
  | object _ fields => synthesizeFields path [] fields
  | list count element => do
      let n ← ExceptT.lift count.draw
      let items ← (List.range n).mapM fun i => synthesizeAt (path.push (.index i)) element
      return .arr items

/-- A repeated name keeps its place and takes the later value. -/
def synthesizeFields (path : FieldPath) (members : Keyed Json) :
    List (String × Node) → Synthesis
  | [] => return .obj members
  | (name, node) :: rest => do
      let value ← synthesizeAt (path.push (.field name)) node
      synthesizeFields path (Keyed.insert name value members) rest

end

def synthesize (node : Node) : Synthesis := synthesizeAt FieldPath.root node

def synthesizeFrom (node : Node) (source : Source) : Except (Abort Failure) Json × Source :=
  node.synthesize.run.run source

end Node
end MockApi
