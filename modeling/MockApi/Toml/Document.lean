import MockApi.Toml.Scalar
import MockApi.Toml.Table

/-!
TOML documents. Values nest no deeper than the text is long, which bounds the recursion.
-/
namespace MockApi.Toml

def skipBlank (text : List Char) : List Char := text.dropWhile isBlank

def isBareKeyChar (c : Char) : Bool := c.isAlphanum || c == '_' || c == '-'

def readName : Scan String := fun text =>
  match text with
  | '"' :: rest => (basicTail rest).map fun (chars, rest) => (String.ofList chars, rest)
  | '\'' :: rest => (literalTail rest).map fun (chars, rest) => (String.ofList chars, rest)
  | _ =>
      let name := text.takeWhile isBareKeyChar
      if name = [] then none else some (String.ofList name, text.drop name.length)

def readKey : Nat → Scan (List String)
  | 0, _ => none
  | fuel + 1, text => do
      let (name, rest) ← readName (skipBlank text)
      match skipBlank rest with
      | '.' :: more => do
          let (names, rest) ← readKey fuel more
          return (name :: names, rest)
      | rest => return ([name], rest)

def skipComment? : List Char → Option (List Char)
  | '#' :: rest =>
      let comment := rest.takeWhile fun c => c ≠ '\n' && c ≠ '\r'
      if comment.all isPrintable then some (rest.drop comment.length) else none
  | rest => some rest

def skipLines : Nat → List Char → Option (List Char)
  | 0, text => some text
  | fuel + 1, text => do
      let text ← skipComment? (skipBlank text)
      match newline? text with
      | some rest => skipLines fuel rest
      | none => some text

/-- What must stand between a value and the next line. -/
def endOfLine? (text : List Char) : Option (List Char) := do
  match ← skipComment? (skipBlank text) with
  | [] => some []
  | rest => newline? rest

mutual

def readValue : Nat → Scan Json
  | 0, _ => none
  | fuel + 1, text =>
      match text with
      | '[' :: rest => (readItems fuel rest).map fun (items, rest) => (.arr items, rest)
      | '{' :: rest =>
          match skipBlank rest with
          | '}' :: rest => some (.obj [], rest)
          | rest => (readPairs fuel [] rest).map fun (table, rest) =>
              (.obj (membersToJson table), rest)
      | '"' :: _ | '\'' :: _ => (readString text).map fun (value, rest) => (.str value, rest)
      | _ => readToken text

def readItems : Nat → Scan (List Json)
  | 0, _ => none
  | fuel + 1, text => do
      match ← skipLines text.length text with
      | ']' :: rest => some ([], rest)
      | text => do
          let (value, rest) ← readValue fuel text
          match ← skipLines rest.length rest with
          | ']' :: rest => some ([value], rest)
          | ',' :: rest => do
              let (values, rest) ← readItems fuel rest
              return (value :: values, rest)
          | _ => none

def readPairs : Nat → Table → Scan Table
  | 0, _, _ => none
  | fuel + 1, table, text => do
      let (key, rest) ← readKey fuel text
      match rest with
      | '=' :: rest => do
          let (value, rest) ← readValue fuel (skipBlank rest)
          let table ← table.assign value key
          match skipBlank rest with
          | '}' :: rest => some (table, rest)
          | ',' :: rest => readPairs fuel table rest
          | _ => none
      | _ => none

end

/-- The table that the lines below a header belong to, and all tables so far. -/
structure Reading where
  header : List String
  root : Table

/-- A header or a key with its value, up to the end of the line. -/
def readExpression (fuel : Nat) (reading : Reading) : Scan Reading := fun text => do
  match text with
  | '[' :: '[' :: rest =>
      let (key, rest) ← readKey fuel rest
      match rest with
      | ']' :: ']' :: rest =>
          return (⟨key, ← reading.root.openRow key⟩, ← endOfLine? rest)
      | _ => none
  | '[' :: rest =>
      let (key, rest) ← readKey fuel rest
      match rest with
      | ']' :: rest => return (⟨key, ← reading.root.openTable key⟩, ← endOfLine? rest)
      | _ => none
  | _ =>
      let (key, rest) ← readKey fuel text
      match rest with
      | '=' :: rest =>
          let (value, rest) ← readValue fuel (skipBlank rest)
          let root ← reading.root.change (Table.assign value key) reading.header
          return ({ reading with root }, ← endOfLine? rest)
      | _ => none

def readExpressions (size : Nat) : Nat → Reading → List Char → Option Table
  | 0, _, _ => none
  | fuel + 1, reading, text => do
      match ← skipLines text.length text with
      | [] => some reading.root
      | text => do
          let (reading, rest) ← readExpression size reading text
          readExpressions size fuel reading rest

def parse? (text : String) : Option Json :=
  let chars := text.toList.dropWhile (· == '\uFEFF')
  let size := chars.length + 1
  (readExpressions size size ⟨[], []⟩ chars).map fun table => .obj (membersToJson table)

end MockApi.Toml
