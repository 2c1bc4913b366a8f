/-!
The HTTP methods that an endpoint can answer.
-/
namespace MockApi

inductive Method where
  | get | post | put | patch | delete | head | options
  deriving DecidableEq, Repr

namespace Method

def all : List Method := [get, post, put, patch, delete, head, options]

def name : Method → String
  | get => "GET"
  | post => "POST"
  | put => "PUT"
  | patch => "PATCH"
  | delete => "DELETE"
  | head => "HEAD"
  | options => "OPTIONS"

/-- Reads a method in any mix of cases of ASCII letters; any other text comes back in upper case. -/
def parse (text : String) : Except String Method :=
  let upper := text.toUpper
  match all.find? (fun method => method.name = upper) with
  | some method => .ok method
  | none => .error upper

def unsupportedMessage (upper : String) : String := "unsupported HTTP method '" ++ upper ++ "'"

theorem toUpper_name (method : Method) : method.name.toUpper = method.name := by
  cases method <;> decide +kernel

theorem parse_name (method : Method) : parse method.name = .ok method := by
  rw [parse, toUpper_name]
  cases method <;> rfl

end Method
end MockApi
