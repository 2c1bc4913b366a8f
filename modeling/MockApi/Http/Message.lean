import MockApi.Http.Uri
import MockApi.Json.Printer
import MockApi.Keyed
import MockApi.Text.Blank
import MockApi.Text.Bytes

/-!
Requests and responses.
-/
namespace MockApi

namespace Http

/-- A request; the method is any token. -/
structure Request where
  method : String
  uri : Uri
  headers : List (String × String)

structure Response where
  status : Nat
  headers : Keyed String
  body : String
  deriving Inhabited

def isTokenChar (c : Char) : Bool := c.isAlphanum || "!#$%&'*+-.^_`|~".toList.contains c

def isToken (text : String) : Bool := text ≠ "" && text.toList.all isTokenChar

def isVisible (c : Char) : Bool := c == '\t' || (0x20 ≤ c.toNat && c.toNat ≤ 0x7E)

def isHeaderChar (c : Char) : Bool := c == '\t' || (0x20 ≤ c.toNat && c.toNat ≠ 0x7F)

def isHeaderValue (text : String) : Bool := text.toList.all isHeaderChar

/-- The first value of a header; the case of names does not count. -/
def Request.header? (request : Request) (name : String) : Option String :=
  (request.headers.find? fun entry => entry.1.toLower = name.toLower).map (·.2)

/-- The first value of a header, if it reads as text. -/
def Request.textHeader? (request : Request) (name : String) : Option String :=
  (request.header? name).filter fun value => value.toList.all isVisible

namespace Response

def ofText (status : Nat) (type body : String) : Response :=
  { status
    headers := [("content-type", type), ("content-length", toString (Text.byteCount body.toList))]
    body }

def ofJson (status : Nat) (body : Json) : Response := ofText status "application/json" body.render

def empty (status : Nat) : Response := ⟨status, [("content-length", "0")], ""⟩

def withHeader (response : Response) (name value : String) : Response :=
  { response with headers := Keyed.insert name value response.headers }

def withoutBody (response : Response) : Response := { response with body := "" }

end Response
end Http
end MockApi
