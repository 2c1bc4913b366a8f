import MockApi.Generator.Registry
import MockApi.Server.Handler
import MockApi.Text.Percent
import MockApi.Text.Utf8

/-!
The routes of the server. Every response may be read by pages of any origin; requests with the
method OPTIONS are answered without looking at the routes' contents.
-/
namespace MockApi

namespace Server

inductive Page where
  | health | ready | live | metrics | generators
  deriving DecidableEq, Repr

inductive Target where
  | page (page : Page)
  /-- The rest of the path names a mock endpoint. -/
  | mock (rest : List Char)
  | nowhere
  deriving DecidableEq, Repr

def mockRoot : List Char := "/api/mock/".toList

def target (path : String) : Target :=
  match path with
  | "/health" => .page .health
  | "/health/ready" => .page .ready
  | "/health/live" => .page .live
  | "/metrics" => .page .metrics
  | "/api/generators" => .page .generators
  | _ =>
      let chars := path.toList
      let rest := chars.drop mockRoot.length
      if chars.take mockRoot.length = mockRoot ∧ rest ≠ [] then .mock rest else .nowhere

def version : String := "0.1.0"

def pageResponse (uptime : Nat) (server : Server) : Page → Http.Response
  | .health =>
      .ofJson 200 (.obj [("status", .str "healthy"), ("version", .str version),
        ("uptime_seconds", .ofNat uptime),
        ("checks", .obj [("schemas", .ofNat server.store.schemaCount),
          ("endpoints", .ofNat server.store.endpointCount),
          ("cached_resolutions", .ofNat server.cache.size)])])
  | .ready =>
      if 0 < server.store.endpointCount then
        .ofJson 200 (.obj [("status", .str "ready"),
          ("message", .str "Server is ready to accept requests")])
      else
        .ofJson 503 (.obj [("status", .str "not_ready"),
          ("message", .str "No mock endpoints loaded")])
  | .live => .ofJson 200 (.obj [("status", .str "alive"), ("message", .str "Server is alive")])
  | .metrics => .ofText 200 "text/plain; charset=utf-8" server.metrics.render
  | .generators =>
      .ofJson 200 (.obj [("generators", .arr (Generator.sorted.map Generator.describe))])

def pageMethods : String := "GET,HEAD"

def rateLimited (project : String) : Http.Response :=
  .ofJson 429
    (errorBody "RateLimited" ("Rate limit exceeded for project " ++ Failure.quoted project))

/-- Charges a request to its project; without a rate limit it always passes. -/
def charge (now : Nat) (project : String) (server : Server) : Bool × Server :=
  match server.limiter with
  | none => (true, server)
  | some limiter =>
      let (allowed, limiter) := limiter.check now project
      (allowed, { server with limiter := some limiter })

/-- The mock route: the rate limit comes first, then the decoding of the path. -/
def mockRoute (entropy : Source) (now : Nat) (request : Http.Request) (rest : List Char)
    (server : Server) : Option Http.Response × Server :=
  let project := request.project server.settings.defaultProject
  match server.charge now project with
  | (false, server) => (some (rateLimited project), server)
  | (true, server) =>
      match Text.strictUtf8? (Text.percentBytes rest) with
      | some rest => server.handle entropy request rest
      | none =>
          (some (.ofText 400 "text/plain; charset=utf-8" "Invalid URL: Invalid UTF-8 in `path`"),
            server)

/-- Answers a request other than one with the method OPTIONS; `now` is in nanoseconds. -/
def route (entropy : Source) (now : Nat) (request : Http.Request) (server : Server) :
    Option Http.Response × Server :=
  match target request.uri.path with
  | .page page =>
      let response := server.pageResponse (now / RateLimiter.second) page
      if request.method = "GET" then (some response, server)
      else if request.method = "HEAD" then (some response.withoutBody, server)
      else (some ((Http.Response.empty 405).withHeader "allow" pageMethods), server)
  | .mock rest => server.mockRoute entropy now request rest
  | .nowhere => (some (.empty 404), server)

/-- What a page of another origin may do is asked before it does it. -/
def preflight (path : String) : Http.Response :=
  let response := ((Http.Response.empty 200).withHeader "access-control-allow-methods" "*").withHeader
    "access-control-allow-headers" "*"
  match target path with
  | .page _ => response.withHeader "allow" pageMethods
  | _ => response

def openToAll (response : Http.Response) : Http.Response :=
  (response.withHeader "vary"
      "origin, access-control-request-method, access-control-request-headers").withHeader
    "access-control-allow-origin" "*"

def serve (entropy : Source) (now : Nat) (request : Http.Request) (server : Server) :
    Option Http.Response × Server :=
  let (response?, server) :=
    if request.method = "OPTIONS" then (some (preflight request.uri.path), server)
    else server.route entropy now request
  (response?.map openToAll, server)

end Server
end MockApi
