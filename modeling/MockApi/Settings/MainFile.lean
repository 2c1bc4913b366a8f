import MockApi.Files
import MockApi.Format
import MockApi.Json.Overlay
import MockApi.Settings.Coercion

/-!
The main file of the settings: where it is found, and how it is laid over the address that holds
where nothing is said.
-/
namespace MockApi

namespace MainFile

/-- The path itself, or with the extension of a format behind it. -/
def candidates (path : String) : List String :=
  path :: Format.extensions.map fun extension => path ++ "." ++ extension.1

def find? (files : Files) (path : String) : Option (String × String) :=
  (candidates path).findSome? fun name => (files.read? name).map fun content => (name, content)

def readMembers? (text : String) (format : Format) : Option (Keyed Json) := do
  let json ← match format with
    | .json => (Json.parse text).toOption
    | .toml => Toml.parse? text
    | .yaml =>
        if Yaml.isEmpty text then some (.obj [])
        else Json.tidied <$> (Yaml.parse? text >>= Yaml.toJson? .loose .any)
  match json with
  | .obj members => some members
  | _ => none

def isNameChar (c : Char) : Bool :=
  c.isAlphanum || c == ' ' || c == '_' || c == '-'

/-- A name with dots between plain names stands for members inside each other. -/
def namesOf (name : String) : List String :=
  let parts := (Text.splitAt '.' name.toList).map String.ofList
  if parts.all fun part => part ≠ "" && part.toList.all isNameChar then parts else [name]

def unfolded (members : Keyed Json) : List (String × Json) :=
  members.flatMap fun (name, value) => (Json.nested (namesOf name) value).entries

def standard : Json := .obj [("server", ServerSettings.standard.encode)]

def settingsOf? (members : Keyed Json) : Option Settings := do
  let document := Json.overlayMembers standard (unfolded members)
  Settings.decode? (← Json.fitted? Settings.outline document)

/-- The settings in the main file of a path. A file of no known format is passed over, as one that
is not there. -/
def read? (files : Files) (path : String) : Option Settings :=
  match find? files path with
  | none => settingsOf? []
  | some (name, content) =>
      match Format.ofFileName? (Path.fileName name) with
      | none => settingsOf? []
      | some format => readMembers? content format >>= settingsOf?

end MainFile
end MockApi
