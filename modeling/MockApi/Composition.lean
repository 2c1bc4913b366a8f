import MockApi.Failure
import MockApi.Json.Parser

/-!
Putting a payload into an envelope: the one string of the template that is the placeholder gives
way to the payload.
-/
namespace MockApi

namespace Json

mutual

def countText (text : String) : Json → Nat
  | str value => if value = text then 1 else 0
  | arr items => countTextItems text items
  | obj members => countTextMembers text members
  | _ => 0

def countTextItems (text : String) : List Json → Nat
  | [] => 0
  | item :: rest => countText text item + countTextItems text rest

def countTextMembers (text : String) : List (String × Json) → Nat
  | [] => 0
  | (_, value) :: rest => countText text value + countTextMembers text rest

end

mutual

/-- Puts a value in the place of every string equal to a text. The value is not searched. -/
def replaceText (text : String) (payload : Json) : Json → Json
  | str value => if value = text then payload else str value
  | arr items => arr (replaceTextItems text payload items)
  | obj members => obj (replaceTextMembers text payload members)
  | other => other

def replaceTextItems (text : String) (payload : Json) : List Json → List Json
  | [] => []
  | item :: rest => replaceText text payload item :: replaceTextItems text payload rest

def replaceTextMembers (text : String) (payload : Json) : List (String × Json) → List (String × Json)
  | [] => []
  | (name, value) :: rest =>
      (name, replaceText text payload value) :: replaceTextMembers text payload rest

end

end Json

def standardPlaceholder : String := "__PAYLOAD__"

namespace Envelope

/-- A template is read as JSON and must hold the placeholder once. -/
def fill (placeholder : String) (payload : Json) (id template : String) : Except Failure Json :=
  match Json.parse template with
  | .error e => .error (.unreadableTemplate id e.message)
  | .ok document =>
      let found := Json.countText placeholder document
      if found = 1 then .ok (Json.replaceText placeholder payload document)
      else .error (.placeholderCount id placeholder found)

/-- Without an envelope the payload stands alone. -/
def wrap (placeholder : String) (payload : Json) : Option Envelope → Except Failure Json
  | none => .ok payload
  | some envelope => fill placeholder payload envelope.id envelope.template

end Envelope
end MockApi
