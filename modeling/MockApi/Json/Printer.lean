import MockApi.Json.Basic
import MockApi.Decimal.Shortest

/-!
The compact text of a JSON value: no spaces, members in their order, the shortest digits of a
double.
-/
namespace MockApi.Json

/-- Doubles keep their point, and are written with an exponent below 1e-5 and from 1e16 on. -/
def number : Decimal.Layout := ⟨.even, some (-5, 15), true⟩

def hexDigit (n : Nat) : Char := Nat.digitChar n

def escapeChar (c : Char) : String :=
  match c with
  | '"' => "\\\""
  | '\\' => "\\\\"
  | '\x08' => "\\b"
  | '\x0c' => "\\f"
  | '\n' => "\\n"
  | '\r' => "\\r"
  | '\t' => "\\t"
  | c =>
      if c.toNat < 0x20 then
        String.ofList ['\\', 'u', '0', '0', hexDigit (c.toNat / 16), hexDigit (c.toNat % 16)]
      else String.singleton c

/-- A string between quotes; only quotes, backslashes and control characters are escaped. -/
def quote (text : String) : String :=
  text.toList.foldl (fun acc c => acc ++ escapeChar c) "\"" ++ "\""

mutual

def render : Json → String
  | null => "null"
  | bool value => if value then "true" else "false"
  | int value => toString value
  | float value => number.render value
  | str value => quote value
  | arr items => "[" ++ renderItems items ++ "]"
  | obj members => "\x7b" ++ renderMembers members ++ "\x7d"

def renderItems : List Json → String
  | [] => ""
  | [item] => render item
  | item :: rest => render item ++ "," ++ renderItems rest

def renderMembers : List (String × Json) → String
  | [] => ""
  | [(name, value)] => quote name ++ ":" ++ render value
  | (name, value) :: rest => quote name ++ ":" ++ render value ++ "," ++ renderMembers rest

end

mutual

def sorted : Json → Json
  | arr items => arr (sortedItems items)
  | obj members => obj (Keyed.sorted (sortedMembers members))
  | other => other

def sortedItems : List Json → List Json
  | [] => []
  | item :: rest => sorted item :: sortedItems rest

def sortedMembers : List (String × Json) → List (String × Json)
  | [] => []
  | (name, value) :: rest => (name, sorted value) :: sortedMembers rest

end

end MockApi.Json
