import MockApi.Json.Basic

/-!
One document laid over another: objects are joined member by member, and any other value takes the
place of the one below it.
-/
namespace MockApi.Json

def entries : Json → Keyed Json
  | obj members => members
  | _ => []

mutual

/-- A value over what was there before, if anything was. -/
def overlay (below : Option Json) : Json → Json
  | obj members => overlayMembers (below.getD (obj [])) members
  | value => value

/-- Members laid over a value one after another. -/
def overlayMembers (below : Json) : List (String × Json) → Json
  | [] => below
  | (name, value) :: rest =>
      overlayMembers (obj (Keyed.insert name (overlay (Keyed.find? name below.entries) value)
        below.entries)) rest

end

def nested (names : List String) (value : Json) : Json :=
  names.foldr (fun name inner => obj [(name, inner)]) value

end MockApi.Json
