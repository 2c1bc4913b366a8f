import MockApi.Json.Basic

/-!
Tables while a TOML document is being read. A table is defined once: by a header, by dotted keys, or
only implied by the header of a table inside it, and then still open to a header of its own.
-/
namespace MockApi.Toml

inductive Origin where
  | header | dotted | implied
  deriving DecidableEq, Repr

inductive Item where
  /-- A value that is closed, tables in braces and lists in brackets included. -/
  | leaf (value : Json)
  | table (origin : Origin) (members : List (String × Item))
  /-- The tables of a list, the last one being open. -/
  | rows (tables : List (List (String × Item)))

abbrev Table := Keyed Item

mutual

def Item.toJson : Item → Json
  | .leaf value => value
  | .table _ members => .obj (membersToJson members)
  | .rows tables => .arr (rowsToJson tables)

def membersToJson : List (String × Item) → List (String × Json)
  | [] => []
  | (name, item) :: rest => (name, item.toJson) :: membersToJson rest

def rowsToJson : List (List (String × Item)) → List Json
  | [] => []
  | members :: rest => .obj (membersToJson members) :: rowsToJson rest

end

namespace Table

/-- Gives a value to a key, through tables that only dotted keys have made. -/
def assign (value : Json) : (key : List String) → Table → Option Table
  | [], _ => none
  | [name], table =>
      if Keyed.contains name table then none else some (Keyed.insert name (.leaf value) table)
  | name :: rest, table => do
      let inner ← match Keyed.find? name table with
        | none => assign value rest []
        | some (.table .dotted inner) => assign value rest inner
        | some _ => none
      some (Keyed.insert name (.table .dotted inner) table)

/-- Changes the table that a key leads to; tables on the way are implied where they are missing. -/
def change (f : Table → Option Table) : (key : List String) → Table → Option Table
  | [], table => f table
  | name :: rest, table => do
      let item : Item ← match Keyed.find? name table with
        | none => Item.table .implied <$> change f rest []
        | some (.table origin inner) => Item.table origin <$> change f rest inner
        | some (.rows tables) => do
            let last ← tables.getLast?
            some (Item.rows (tables.dropLast ++ [← change f rest last]))
        | some (.leaf _) => none
      some (Keyed.insert name item table)

def openTable (key : List String) (table : Table) : Option Table := do
  let name ← key.getLast?
  let enter (parent : Table) : Option Table :=
    match Keyed.find? name parent with
    | none => some (Keyed.insert name (.table .header []) parent)
    | some (.table .implied inner) => some (Keyed.insert name (.table .header inner) parent)
    | some _ => none
  change enter key.dropLast table

def openRow (key : List String) (table : Table) : Option Table := do
  let name ← key.getLast?
  let enter (parent : Table) : Option Table :=
    match Keyed.find? name parent with
    | none => some (Keyed.insert name (.rows [[]]) parent)
    | some (.rows tables) => some (Keyed.insert name (.rows (tables ++ [[]])) parent)
    | some _ => none
  change enter key.dropLast table

end Table
end MockApi.Toml
