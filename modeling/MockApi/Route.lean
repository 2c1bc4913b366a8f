import MockApi.Definition.Basic
import MockApi.Text.Blank
import MockApi.Text.Split

/-!
Paths of requests and endpoints: their normal form, the match of a path against a pattern with
parameters, and tables of endpoints by project and method.
-/
namespace MockApi

namespace Route

def isSlash (c : Char) : Bool := c == '/'

/-- Without white space around it, slashes at the end, or a missing slash in front. -/
def normalizeChars (path : List Char) : List Char :=
  let trimmed := Text.dropRight isSlash (Text.trim path)
  if trimmed.head? = some '/' then trimmed else '/' :: trimmed

def normalize (path : String) : String := String.ofList (normalizeChars path.toList)

def segments (path : List Char) : List (List Char) := Text.splitAt '/' path

/-- `{name}` and `:name` with a name stand for any segment that is not empty. -/
def isParameter (segment : List Char) : Bool :=
  (segment.head? == some '{' && segment.getLast? == some '}' && decide (2 < segment.length)) ||
    (segment.head? == some ':' && decide (1 < segment.length))

def segmentMatches (pattern segment : List Char) : Bool :=
  if isParameter pattern then !segment.isEmpty else pattern == segment

def segmentsMatch : List (List Char) → List (List Char) → Bool
  | [], [] => true
  | p :: ps, s :: ss => segmentMatches p s && segmentsMatch ps ss
  | _, _ => false

/-- Segment by segment, with as many segments on both sides. -/
def pathMatches (pattern path : String) : Bool :=
  segmentsMatch (segments pattern.toList) (segments path.toList)

end Route

/-- Endpoints share a group when they have the same project and method. -/
structure RouteKey where
  project : String
  method : Method
  deriving DecidableEq, Repr

abbrev RouteTable := List (RouteKey × List Endpoint)

namespace RouteTable

def group? (key : RouteKey) : RouteTable → Option (List Endpoint)
  | [] => none
  | (other, endpoints) :: rest => if other = key then some endpoints else group? key rest

def add (key : RouteKey) (endpoint : Endpoint) : RouteTable → RouteTable
  | [] => [(key, [endpoint])]
  | (other, endpoints) :: rest =>
      if other = key then (other, endpoints ++ [endpoint]) :: rest
      else (other, endpoints) :: add key endpoint rest

/-- Declares an endpoint under the normal form of its path. -/
def declare (table : RouteTable) (endpoint : Endpoint) : RouteTable :=
  table.add ⟨endpoint.project, endpoint.method⟩
    { endpoint with path := Route.normalize endpoint.path }

/-- An endpoint with exactly the path comes first, then the first one whose pattern matches. -/
def find? (table : RouteTable) (key : RouteKey) (path : String) : Option Endpoint := do
  let path := Route.normalize path
  let candidates ← table.group? key
  (candidates.find? fun endpoint => endpoint.path = path) <|>
    candidates.find? fun endpoint => Route.pathMatches endpoint.path path

def count (table : RouteTable) : Nat := table.foldr (fun group n => group.2.length + n) 0

end RouteTable
end MockApi
