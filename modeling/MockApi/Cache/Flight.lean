import MockApi.Cache.Basic

/-!
Lookups of one key by several callers at the same time. A caller goes through its phases step by
step, each step happening at once; only one caller at a time resolves for a slot, and the others
wait for it. Any order of steps is allowed.
-/
namespace MockApi

inductive Phase where
  | arriving
  /-- Has a slot and wants its tree. -/
  | waiting (slot : Nat)
  /-- Resolves for a slot. -/
  | resolving (slot : Nat)
  /-- Has failed to resolve for a slot. -/
  | leaving (slot : Nat) (failure : Failure)
  | finished (result : Lookup)

structure Flight where
  cache : Cache
  callers : List Phase
  /-- How often the schema was resolved. -/
  resolutions : Nat

namespace Flight

def start (cache : Cache) (callers : Nat) : Flight := ⟨cache, List.replicate callers .arriving, 0⟩

def Phase.resolvesFor (n : Nat) : Phase → Bool
  | .resolving slot => slot == n
  | _ => false

def busy (flight : Flight) (n : Nat) : Bool := flight.callers.any (Phase.resolvesFor n)

def become (flight : Flight) (i : Nat) (phase : Phase) : Flight :=
  { flight with callers := flight.callers.set i phase }

def resolveAlone (backing : Backing) (key : String) : Lookup :=
  (backing.resolve key).map fun tree => (tree, .bypass)

/-- One step of a caller; none if it has to wait or is finished. -/
def step? (backing : Backing) (key : String) (i : Nat) (flight : Flight) : Option Flight := do
  match ← flight.callers[i]? with
  | .arriving =>
      if ¬ flight.cache.enabled then
        return { flight with resolutions := flight.resolutions + 1 }.become i
          (.finished (resolveAlone backing key))
      else
        match flight.cache.enter backing.version? key with
        | (.found tree, cache) => return { flight with cache }.become i (.finished (.ok (tree, .hit)))
        | (.slot n, cache) => return { flight with cache }.become i (.waiting n)
  | .waiting n =>
      match flight.cache.cell? n with
      | some tree =>
          if tree.current backing.version? then
            return flight.become i (.finished (.ok (tree, .hit)))
          else
            return { flight with resolutions := flight.resolutions + 1 }.become i
              (.finished (resolveAlone backing key))
      | none => if flight.busy n then none else return flight.become i (.resolving n)
  | .resolving n =>
      let flight := { flight with resolutions := flight.resolutions + 1 }
      match backing.resolve key with
      | .ok tree =>
          return { flight with cache := flight.cache.fill n tree }.become i
            (.finished (.ok (tree, .miss)))
      | .error failure => return flight.become i (.leaving n failure)
  | .leaving n failure =>
      return { flight with cache := flight.cache.abandon key n }.become i (.finished (.error failure))
  | .finished _ => none

/-- A step that is skipped where it cannot be made. -/
def step (backing : Backing) (key : String) (i : Nat) (flight : Flight) : Flight :=
  (flight.step? backing key i).getD flight

def run (backing : Backing) (key : String) (order : List Nat) (flight : Flight) : Flight :=
  order.foldl (fun flight i => flight.step backing key i) flight

def result? (flight : Flight) (i : Nat) : Option Lookup :=
  match flight.callers[i]? with
  | some (.finished result) => some result
  | _ => none

/-- Enough steps for a caller that nobody holds up. -/
def alone (i : Nat) : List Nat := List.replicate 4 i

/-- A caller holds a slot that another one is resolving for. -/
def held (flight : Flight) (i : Nat) : Bool :=
  match flight.callers[i]? with
  | some (.waiting _) => true
  | _ => false

end Flight
end MockApi
