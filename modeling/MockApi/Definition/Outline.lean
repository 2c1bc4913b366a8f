import MockApi.Definition.Basic
import MockApi.Outline

/-!
The outlines of definitions. The members of a field are kept as they are written, apart from its
name.
-/
namespace MockApi

def Field.outline : Outline := .record [("name", .text)]

def Schema.outline : Outline :=
  .record [("id", .text), ("project_id", .text), ("name", .text), ("version", .natural 64),
    ("fields", .list Field.outline)]

def Endpoint.outline : Outline :=
  .record [("id", .text), ("project_id", .text), ("method", .text), ("path", .text),
    ("schema_id", .text), ("wrapper_id", .optional .text), ("status", .optional (.natural 16))]

def Envelope.outline : Outline :=
  .record [("id", .text), ("project_id", .text), ("name", .text), ("json", .text)]

end MockApi
