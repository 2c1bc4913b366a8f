import MockApi.Json.Parser
import MockApi.Path
import MockApi.Toml.Document
import MockApi.Yaml.Document

/-!
The formats that documents are written in, told apart by the extensions of file names.
-/
namespace MockApi

inductive Format where
  | json | toml | yaml
  deriving DecidableEq, Repr

namespace Format

def extensions : Keyed Format :=
  [("toml", .toml), ("json", .json), ("yaml", .yaml), ("yml", .yaml)]

def ofFileName? (name : String) : Option Format :=
  (Path.extension? name).bind fun extension => Keyed.find? extension extensions

end Format
end MockApi
