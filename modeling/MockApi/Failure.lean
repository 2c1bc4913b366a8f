import MockApi.FieldPath
import MockApi.Definition.Basic

/-!
The ways in which a request for mock data fails: a missing endpoint, or a defect of the
definitions.
-/
namespace MockApi

/-- Why work that was begun gives no result: a fault that is reported, or a crash on the way, which
is answered by nobody. -/
inductive Abort (ε : Type) where
  | fault (fault : ε)
  | crash
  deriving DecidableEq, Repr

def Abort.map {ε ε' : Type} (f : ε → ε') : Abort ε → Abort ε'
  | fault e => fault (f e)
  | crash => crash

/-- Places are kept as they are written; the empty place is the whole payload. -/
inductive Failure where
  | endpointNotFound (project : String) (method : Method) (path : String)
  | cyclicSchema (cycle : List String) (place : String)
  | tooDeep (maxDepth : Nat) (place : String)
  | danglingReference (missing referrer : String) (place : Option String)
  | unknownGenerator (generator place : String)
  | badParameters (generator reason place : String)
  | reversedCount (min max : Nat) (place : String)
  | tooManyItems (count maxItems : Nat) (place : String)
  | unreadableTemplate (envelope reason : String)
  | placeholderCount (envelope placeholder : String) (found : Nat)
  deriving DecidableEq, Repr

namespace Failure

def kind : Failure → String
  | endpointNotFound .. => "EndpointNotFoundError"
  | cyclicSchema .. => "CyclicSchemaError"
  | tooDeep .. => "MaxDepthExceededError"
  | danglingReference .. => "DanglingReferenceError"
  | unknownGenerator .. => "UnknownGeneratorError"
  | badParameters .. => "InvalidGeneratorParamsError"
  | reversedCount .. | tooManyItems .. => "InvalidArrayCountError"
  | unreadableTemplate .. => "InvalidWrapperTemplateError"
  | placeholderCount .. => "WrapperPlaceholderError"

def quoted (text : String) : String := "'" ++ text ++ "'"

def message : Failure → String
  | endpointNotFound project method path =>
      "No endpoint matches " ++ method.name ++ " " ++ path ++ " in project " ++ quoted project
  | cyclicSchema cycle _ => "Cyclic schema reference: " ++ String.intercalate " -> " cycle
  | tooDeep maxDepth place =>
      "Schema nesting exceeds the maximum depth of " ++ toString maxDepth ++ " at " ++ quoted place
  | danglingReference missing referrer _ =>
      "Dangling reference to " ++ quoted missing ++ " from " ++ referrer
  | unknownGenerator generator place =>
      "Unknown generator " ++ quoted generator ++ " at " ++ quoted place
  | badParameters generator reason place =>
      "Invalid parameters for generator " ++ quoted generator ++ " at " ++ quoted place ++ ": " ++
        reason
  | reversedCount min max place =>
      "Invalid item count at " ++ quoted place ++ ": min (" ++ toString min ++
        ") must not exceed max (" ++ toString max ++ ")"
  | tooManyItems count maxItems place =>
      "Item count " ++ toString count ++ " at " ++ quoted place ++ " exceeds the limit of " ++
        toString maxItems
  | unreadableTemplate envelope reason =>
      "Response wrapper " ++ quoted envelope ++ " is not valid JSON: " ++ reason
  | placeholderCount envelope placeholder found =>
      "Response wrapper " ++ quoted envelope ++ " must contain placeholder " ++
        quoted placeholder ++ " exactly once, found " ++ toString found

def place? : Failure → Option String
  | cyclicSchema _ place | tooDeep _ place | unknownGenerator _ place | badParameters _ _ place
  | reversedCount _ _ place | tooManyItems _ _ place => if place = "" then none else some place
  | danglingReference _ _ place => place
  | _ => none

/-- A missing endpoint is the caller's mistake, all else one of the definitions. -/
def status : Failure → Nat
  | endpointNotFound .. => 404
  | _ => 500

def body (failure : Failure) : Json :=
  let place := failure.place?.toList.map fun place => ("path", Json.str place)
  .obj [("error", .obj ([("kind", .str failure.kind), ("message", .str failure.message)] ++ place))]

end Failure
end MockApi
