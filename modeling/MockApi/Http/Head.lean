import MockApi.Http.Message
import MockApi.Text.Split

/-!
Requests and responses as text: a first line, then a line for each header, then an empty line.
-/
namespace MockApi.Http

def headerOf? (line : String) : Option (String × String) :=
  let chars := line.toList
  let name := String.ofList (chars.takeWhile (· ≠ ':'))
  let value := String.ofList (Text.trim (chars.drop (name.length + 1)))
  if name.length < chars.length ∧ isToken name ∧ isHeaderValue value then some (name, value)
  else none

/-- The method and the target of a request; a version behind them is not looked at. -/
def requestLine? (line : String) : Option (String × Uri) :=
  match (Text.splitAt ' ' line.toList).map String.ofList with
  | [method, target] | [method, target, _] =>
      if isToken method then (Uri.parse? target).map fun uri => (method, uri) else none
  | _ => none

namespace Request

def ofLines? : List String → Option Request
  | [] => none
  | first :: headers => do
      let (method, uri) ← requestLine? first
      return ⟨method, uri, ← headers.mapM headerOf?⟩

def bodyLength (request : Request) : Nat :=
  ((request.header? "content-length").bind fun text =>
    Text.readBelow? (2 ^ 32) text.toList).getD 0

end Request

namespace Response

def unreadable : Response := empty 400

/-- A response as text; the answer to HEAD has no body. -/
def text (method : String) (response : Response) : String :=
  let first := "HTTP/1.1 " ++ toString response.status ++ "\r\n"
  let headers := response.headers.map fun (name, value) => name ++ ": " ++ value ++ "\r\n"
  first ++ String.join headers ++ "\r\n" ++ if method = "HEAD" then "" else response.body

end Response
end MockApi.Http
