import MockApi.Resolution.Resolve

/-!
A cache of resolved trees. A key leads to a slot, and a slot holds a tree or, as long as it is being
resolved, nothing. The operations below are the ones that happen at once; a lookup by a single
caller is put together from them.
-/
namespace MockApi

inductive Outcome where
  | hit | miss
  /-- Resolved outside the cache. -/
  | bypass
  deriving DecidableEq, Repr

def Outcome.name : Outcome → String
  | .hit => "hit"
  | .miss => "miss"
  | .bypass => "bypass"

/-- What a lookup depends on: the present versions, and how a schema resolves now. -/
structure Backing where
  version? : String → Option UInt64
  resolve : String → Except Failure Tree

structure Cache where
  enabled : Bool
  /-- The slot of each key. -/
  slots : Keyed Nat
  /-- What the slots hold, by their numbers; a number is never used again. -/
  cells : List (Option Tree)

/-- The answer of a first look: a tree that is still current, or the slot to wait for. -/
inductive Entry where
  | found (tree : Tree)
  | slot (n : Nat)

/-- A tree with the way it was found, or the failure of its resolution. -/
abbrev Lookup := Except Failure (Tree × Outcome)

namespace Cache

def empty (enabled : Bool) : Cache := ⟨enabled, [], []⟩

def cell? (cache : Cache) (n : Nat) : Option Tree := cache.cells[n]?.join

def tree? (cache : Cache) (key : String) : Option Tree :=
  (Keyed.find? key cache.slots).bind cache.cell?

def allot (cache : Cache) (key : String) : Nat × Cache :=
  (cache.cells.length,
    { cache with
      slots := Keyed.insert key cache.cells.length cache.slots
      cells := cache.cells ++ [none] })

/-- A first look at a key: a current tree is given out, one that is not is dropped, and a slot that
others are waiting for is shared. -/
def enter (version? : String → Option UInt64) (key : String) (cache : Cache) : Entry × Cache :=
  match Keyed.find? key cache.slots with
  | none =>
      let (n, cache) := cache.allot key
      (.slot n, cache)
  | some n =>
      match cache.cell? n with
      | none => (.slot n, cache)
      | some tree =>
          if tree.current version? then (.found tree, cache)
          else
            let (n, cache) := { cache with slots := Keyed.erase key cache.slots }.allot key
            (.slot n, cache)

/-- Puts a tree into a slot, whether or not a key still leads there. -/
def fill (n : Nat) (tree : Tree) (cache : Cache) : Cache :=
  { cache with cells := cache.cells.set n (some tree) }

/-- After a failure a key no longer leads to its slot, unless that holds a tree by now. -/
def abandon (key : String) (n : Nat) (cache : Cache) : Cache :=
  if Keyed.find? key cache.slots = some n ∧ (cache.cell? n).isNone then
    { cache with slots := Keyed.erase key cache.slots }
  else cache

/-- A tree that another caller has put into a shared slot; if it is no longer current, the caller
resolves alone and leaves the slot as it is. -/
def share (backing : Backing) (key : String) (tree : Tree) : Lookup :=
  if tree.current backing.version? then .ok (tree, .hit)
  else (backing.resolve key).map fun tree => (tree, .bypass)

def lookup (backing : Backing) (key : String) (cache : Cache) : Lookup × Cache :=
  if ¬ cache.enabled then ((backing.resolve key).map fun tree => (tree, .bypass), cache)
  else match cache.enter backing.version? key with
    | (.found tree, cache) => (.ok (tree, .hit), cache)
    | (.slot n, cache) =>
        match cache.cell? n with
        | some tree => (share backing key tree, cache)
        | none =>
            match backing.resolve key with
            | .ok tree => (.ok (tree, .miss), cache.fill n tree)
            | .error failure => (.error failure, cache.abandon key n)

def invalidate (schema : String) (cache : Cache) : Cache :=
  { cache with slots := cache.slots.filter fun entry =>
      entry.1 ≠ schema && ((cache.cell? entry.2).map fun tree => !tree.dependsOn schema).getD true }

def clear (cache : Cache) : Cache := { cache with slots := [] }

def size (cache : Cache) : Nat :=
  (cache.slots.filter fun entry => (cache.cell? entry.2).isSome).length

@[simp] theorem tree?_clear (cache : Cache) (key : String) : cache.clear.tree? key = none := rfl

/-- Without the cache every lookup resolves, and nothing is kept. -/
theorem lookup_of_not_enabled {cache : Cache} (h : cache.enabled = false) (backing : Backing)
    (key : String) :
    cache.lookup backing key = ((backing.resolve key).map fun tree => (tree, .bypass), cache) := by
  simp [lookup, h]

end Cache
end MockApi
