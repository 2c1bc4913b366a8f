import MockApi.Composition
import MockApi.Server.Basic
import MockApi.Synthesis

/-!
How a request for mock data is answered: the endpoint is looked up, its schema resolved, a payload
drawn, and the payload put into the endpoint's envelope. A request that fails does so in one of
these stages.
-/
namespace MockApi

structure MockRequest where
  project : String
  method : Method
  path : String
  /-- Without a seed the payload is a new one each time. -/
  seed : Option UInt64

inductive Stage where
  | received | resolving | synthesizing | composing
  deriving DecidableEq, Repr

namespace Stage

def name : Stage → String
  | received => "received"
  | resolving => "resolving"
  | synthesizing => "synthesizing"
  | composing => "composing"

def upTo : Stage → List Stage
  | received => [received]
  | resolving => [received, resolving]
  | synthesizing => [received, resolving, synthesizing]
  | composing => [received, resolving, synthesizing, composing]

end Stage

structure MockReply where
  status : Nat
  endpoint : String
  body : Json

/-- A failure with the stage in which it came up. -/
structure Breakdown where
  stage : Stage
  failure : Failure

/-- A request may also crash while its payload is drawn; then it has no answer. -/
abbrev Answer := Except (Abort Breakdown) MockReply

namespace Answer

/-- The names of the stages that a request went through, the last one being its end. -/
def stages : Answer → List String
  | .ok _ => (Stage.upTo .composing).map Stage.name ++ ["responded"]
  | .error (.fault breakdown) =>
      breakdown.stage.upTo.map Stage.name ++ ["failed(" ++ breakdown.failure.kind ++ ")"]
  | .error .crash => Stage.synthesizing.upTo.map Stage.name

def warnings : Answer → List String
  | .ok _ => []
  | .error (.fault breakdown) => ["Mock request failed: " ++ breakdown.failure.message]
  | .error .crash => []

/-- How a request ended, as it is counted. A crash is not counted. -/
def outcome? : Answer → Option String
  | .ok _ => some "ok"
  | .error (.fault breakdown) => some breakdown.failure.kind
  | .error .crash => none

end Answer

def Stage.within {α : Type} (stage : Stage) : Except Failure α → Except (Abort Breakdown) α
  | .ok value => .ok value
  | .error failure => .error (.fault ⟨stage, failure⟩)

/-- The status of a successful answer; a code that is no status counts as absent. -/
def Endpoint.replyStatus (endpoint : Endpoint) : Nat :=
  (endpoint.status.filter fun code => 100 ≤ code && code ≤ 999).getD 200

namespace Server

def envelopeOf (store : Store) (endpoint : Endpoint) : Except Failure (Option Envelope) :=
  match endpoint.envelope with
  | none => .ok none
  | some id =>
      match store.envelope? id with
      | some envelope => .ok (some envelope)
      | none =>
          .error (.danglingReference id ("endpoint " ++ Failure.quoted endpoint.id) none)

def replyFrom (server : Server) (endpoint : Endpoint) (tree : Tree) (source : Source) : Answer := do
  let envelope ← Stage.resolving.within (envelopeOf server.store endpoint)
  let payload ← (tree.root.synthesizeFrom source).1.mapError
    (Abort.map (Breakdown.mk .synthesizing))
  let body ← Stage.composing.within (Envelope.wrap server.settings.placeholder payload envelope)
  return ⟨endpoint.replyStatus, endpoint.id, body⟩

def sourceOf (entropy : Source) (request : MockRequest) : Source :=
  match request.seed with
  | some seed => Source.ofSeed seed
  | none => entropy

def dispatch (entropy : Source) (request : MockRequest) (server : Server) : Answer × Server :=
  match server.store.endpoint? request.project request.method request.path with
  | none =>
      (.error (.fault ⟨.received, .endpointNotFound request.project request.method request.path⟩),
        server)
  | some endpoint =>
      match server.lookup endpoint.schema with
      | (.error failure, server) => (.error (.fault ⟨.resolving, failure⟩), server)
      | (.ok (tree, outcome), server) =>
          let server := { server with metrics := server.metrics.recordLookup outcome }
          (server.replyFrom endpoint tree (sourceOf entropy request), server)

end Server
end MockApi
