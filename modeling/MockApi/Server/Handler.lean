import MockApi.Http.Message
import MockApi.Server.Dispatch
import MockApi.Text.Digits

/-!
Mock requests over HTTP: how a request is read, and how its answer is written.
-/
namespace MockApi

inductive RequestFault where
  | method (upper : String)
  | seed (raw : String)
  deriving DecidableEq, Repr

namespace RequestFault

def status : RequestFault → Nat
  | method _ => 405
  | seed _ => 400

def message : RequestFault → String
  | method upper => Method.unsupportedMessage upper
  | seed raw => "seed must be an unsigned 64-bit integer, got " ++ Failure.quoted raw

end RequestFault

/-- The body of an error that is not one of the definitions. -/
def errorBody (kind message : String) : Json :=
  .obj [("error", .obj [("kind", .str kind), ("message", .str message)])]

def RequestFault.kind : String := "BadRequest"

namespace Http.Request

def project (standard : String) (request : Http.Request) : String :=
  let named := (request.textHeader? "x-project-id").map fun value =>
    String.ofList (Text.trim value.toList)
  (named.filter fun value => value ≠ "").getD standard

/-- The seed as it is written, in the header first; a header that is no text reads as empty. -/
def rawSeed? (request : Http.Request) : Option String :=
  match request.header? "x-mock-seed" with
  | some _ => some ((request.textHeader? "x-mock-seed").getD "")
  | none => request.uri.queryValue? "seed"

def seed? (request : Http.Request) : Except RequestFault (Option UInt64) :=
  match request.rawSeed? with
  | none => .ok none
  | some raw =>
      match Text.readBelow? (2 ^ 64) (Text.trim raw.toList) with
      | some n => .ok (some (UInt64.ofNat n))
      | none => .error (.seed raw)

end Http.Request

def mockPath (rest : List Char) : String := String.ofList ('/' :: rest.dropWhile Route.isSlash)

def MockRequest.ofHttp (standard : String) (request : Http.Request) (rest : List Char) :
    Except RequestFault MockRequest := do
  let method ← match Method.parse request.method with
    | .ok method => .ok method
    | .error upper => .error (.method upper)
  let seed ← request.seed?
  return ⟨request.project standard, method, mockPath rest, seed⟩

theorem MockRequest.project_and_path_of_ofHttp {standard : String} {request : Http.Request}
    {rest : List Char} {mock : MockRequest} (h : ofHttp standard request rest = .ok mock) :
    mock.project = request.project standard ∧ mock.path = mockPath rest := by
  unfold ofHttp at h
  cases hmethod : Method.parse request.method with
  | error upper =>
    rw [hmethod] at h
    cases h
  | ok method =>
    cases hseed : request.seed? with
    | error fault =>
      rw [hmethod, hseed] at h
      cases h
    | ok seed =>
      rw [hmethod, hseed] at h
      cases h
      exact ⟨rfl, rfl⟩

/-- The endpoint is named in a header, unless it cannot be. -/
def MockReply.response (reply : MockReply) : Http.Response :=
  let response := Http.Response.ofJson reply.status reply.body
  if Http.isHeaderValue reply.endpoint then response.withHeader "x-mock-endpoint" reply.endpoint
  else response

def Answer.response? : Answer → Option Http.Response
  | .ok reply => some reply.response
  | .error (.fault breakdown) =>
      some (Http.Response.ofJson breakdown.failure.status breakdown.failure.body)
  | .error .crash => none

namespace Server

/-- A request that ended is counted; one that crashed stays in flight. -/
def finish (method : String) (outcome? : Option String) (server : Server) : Server :=
  match outcome? with
  | some outcome => { server with metrics := server.metrics.leave (method, outcome) }
  | none => server

/-- Reads, answers and counts a request; without a response the connection is closed. -/
def handle (entropy : Source) (request : Http.Request) (rest : List Char) (server : Server) :
    Option Http.Response × Server :=
  let server := { server with metrics := server.metrics.enter }
  match MockRequest.ofHttp server.settings.defaultProject request rest with
  | .ok mock =>
      let (answer, server) := server.dispatch entropy mock
      (answer.response?, server.finish request.method answer.outcome?)
  | .error fault =>
      (some (Http.Response.ofJson fault.status (errorBody RequestFault.kind fault.message)),
        server.finish request.method (some RequestFault.kind))

end Server
end MockApi
