import MockApi.Keyed

/-!
Outlines of documents: what kind of value is expected at which place. A reader of loosely written
documents needs them, as there a word or a number may stand for a text.
-/
namespace MockApi

/-- What is expected at a place and below it. -/
inductive Outline where
  /-- Whatever is written. -/
  | any
  | text
  /-- An unsigned integer of so many bits. -/
  | natural (bits : Nat)
  | flag
  /-- Null, or what the outline says. -/
  | optional (value : Outline)
  | list (item : Outline)
  /-- Members under these names, or a list of them in this order. -/
  | record (members : List (String × Outline))

namespace Outline

def under (name : String) : Outline → Outline
  | record members => (Keyed.find? name members).getD any
  | optional value => under name value
  | _ => any

def itemAt (i : Nat) : Outline → Outline
  | record members => (members[i]?.map (·.2)).getD any
  | list item => item
  | optional value => itemAt i value
  | _ => any

/-- Members with names are expected. -/
def isRecord : Outline → Bool
  | record _ => true
  | optional value => isRecord value
  | _ => false

end Outline
end MockApi
