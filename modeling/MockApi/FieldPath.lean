/-!
Places inside a payload, written like `user.addresses[2].zip`; `[]` stands for an item of a list
whose position is not known.
-/
namespace MockApi

inductive Step where
  | field (name : String)
  | index (n : Nat)
  | anyIndex
  deriving DecidableEq, Repr

abbrev FieldPath := List Step

namespace FieldPath

def root : FieldPath := []

def push (step : Step) (path : FieldPath) : FieldPath := path ++ [step]

/-- Leaves the innermost step; nothing happens at the root. -/
def pop (path : FieldPath) : FieldPath := path.dropLast

def isRoot (path : FieldPath) : Bool := path.isEmpty

/-- A step behind others; only there a field needs a dot. -/
def renderStep : Step → List Char
  | .field name => '.' :: name.toList
  | .index n => '[' :: Nat.toDigits 10 n ++ [']']
  | .anyIndex => ['[', ']']

def renderChars : FieldPath → List Char
  | .field name :: rest => name.toList ++ rest.flatMap renderStep
  | path => path.flatMap renderStep

def render (path : FieldPath) : String := String.ofList path.renderChars

end FieldPath
end MockApi
