import MockApi.Text.Digits
import MockApi.Yaml.Basic

/-!
The parts of YAML that do not depend on indentation: quoted scalars, lists in brackets and mappings
in braces. A line break inside a scalar stands for a space, several of them for one break less.
-/
namespace MockApi.Yaml

abbrev Scan (α : Type) := List Char → Option (α × List Char)

def isBlank (c : Char) : Bool := c == ' ' || c == '\t'

def isSpace (c : Char) : Bool := isBlank c || c == '\n'

def isFlowMark (c : Char) : Bool := c == ',' || c == '[' || c == ']' || c == '\x7b' || c == '\x7d'

/-- Blanks, then nothing, a line break or a white space. -/
def endsWord (text : List Char) : Bool := match text with
  | [] => true
  | c :: _ => isSpace c

/-- What white space with line breaks in it stands for. -/
def folded (space : List Char) : List Char :=
  match space.count '\n' with
  | 0 => space
  | 1 => [' ']
  | n + 2 => List.replicate (n + 1) '\n'

def hexNumber? (digits : List Char) : Option Nat :=
  digits.foldlM (fun n c => (Text.hexValue? c).map (16 * n + ·)) 0

def scalarValue? (digits : List Char) : Option Char := do
  let n ← hexNumber? digits
  if n.isValidChar then some (Char.ofNat n) else none

def escape? : Char → Option Char
  | '0' => some '\x00'
  | 'a' => some '\x07'
  | 'b' => some '\x08'
  | 't' | '\t' => some '\t'
  | 'n' => some '\n'
  | 'v' => some '\x0b'
  | 'f' => some '\x0c'
  | 'r' => some '\r'
  | 'e' => some '\x1b'
  | ' ' => some ' '
  | '"' => some '"'
  | '/' => some '/'
  | '\\' => some '\\'
  | 'N' => some '\u0085'
  | '_' => some '\u00a0'
  | 'L' => some '\u2028'
  | 'P' => some '\u2029'
  | _ => none

def readEscape : Scan (List Char)
  | '\n' :: rest => some ([], rest.dropWhile isBlank)
  | 'x' :: a :: b :: rest => (scalarValue? [a, b]).map fun c => ([c], rest)
  | 'u' :: a :: b :: c :: d :: rest => (scalarValue? [a, b, c, d]).map fun c => ([c], rest)
  | 'U' :: a :: b :: c :: d :: e :: f :: g :: h :: rest =>
      (scalarValue? [a, b, c, d, e, f, g, h]).map fun c => ([c], rest)
  | c :: rest => (escape? c).map fun c => ([c], rest)
  | [] => none

def doubleQuoted : Nat → Scan (List Char)
  | 0, _ => none
  | _, [] => none
  | fuel + 1, c :: rest =>
      if c = '"' then some ([], rest)
      else if c = '\\' then do
        let (chars, rest) ← readEscape rest
        let (more, rest) ← doubleQuoted fuel rest
        return (chars ++ more, rest)
      else if isSpace c then do
        let space := (c :: rest).takeWhile isSpace
        let (more, rest) ← doubleQuoted fuel ((c :: rest).drop space.length)
        return (folded space ++ more, rest)
      else do
        let (more, rest) ← doubleQuoted fuel rest
        return (c :: more, rest)

/-- Behind an opening single quote, which is written twice inside. -/
def singleQuoted : Nat → Scan (List Char)
  | 0, _ => none
  | _, [] => none
  | fuel + 1, c :: rest =>
      if c = '\'' then
        match rest with
        | '\'' :: rest => do
            let (more, rest) ← singleQuoted fuel rest
            return ('\'' :: more, rest)
        | _ => some ([], rest)
      else if isSpace c then do
        let space := (c :: rest).takeWhile isSpace
        let (more, rest) ← singleQuoted fuel ((c :: rest).drop space.length)
        return (folded space ++ more, rest)
      else do
        let (more, rest) ← singleQuoted fuel rest
        return (c :: more, rest)

def readQuoted : Scan Yaml
  | '"' :: rest => (doubleQuoted (rest.length + 1) rest).map fun (text, rest) => (quoted text, rest)
  | '\'' :: rest => (singleQuoted (rest.length + 1) rest).map fun (text, rest) => (quoted text, rest)
  | _ => none

/-- A plain scalar starts with no mark that has a meaning of its own. -/
def startsPlain : List Char → Bool
  | [] => false
  | c :: rest =>
      if c == '-' || c == '?' || c == ':' then !endsWord rest
      else !isSpace c && !isFlowMark c && !"#&*!|>'\"%@`".toList.contains c

def endsName (flow : Bool) : List Char → Bool
  | ':' :: rest => endsWord rest || (flow && (rest.head?.map isFlowMark).getD false)
  | _ => false

/-- A plain scalar inside brackets or braces, up to whatever ends it. -/
def plainInFlow : Nat → Scan (List Char)
  | 0, _ => none
  | _, [] => some ([], [])
  | fuel + 1, c :: rest =>
      if isFlowMark c || endsName true (c :: rest) then some ([], c :: rest)
      else if isSpace c then
        let space := (c :: rest).takeWhile isSpace
        let behind := (c :: rest).drop space.length
        match behind with
        | [] => some ([], [])
        | next :: _ =>
            if next = '#' || isFlowMark next || endsName true behind then some ([], behind)
            else do
              let (more, rest) ← plainInFlow fuel behind
              return (folded space ++ more, rest)
      else do
        let (more, rest) ← plainInFlow fuel rest
        return (c :: more, rest)

def skipSpace : Nat → List Char → List Char
  | 0, text => text
  | fuel + 1, text =>
      match text.dropWhile isSpace with
      | '#' :: rest => skipSpace fuel (rest.dropWhile (· ≠ '\n'))
      | rest => rest

def skip (text : List Char) : List Char := skipSpace (text.length + 1) text

def asScalar? : Yaml → Option Scalar
  | .scalar leaf => some leaf
  | _ => none

/-- A value that is left out ends where it would begin. -/
def startsAbsent : List Char → Bool
  | [] => true
  | c :: rest => c == ',' || c == ']' || c == '\x7d' || endsName true (c :: rest)

mutual

def readFlow : Nat → Scan Yaml
  | 0, _ => none
  | fuel + 1, text =>
      match text with
      | '[' :: rest => (readFlowItems fuel (skip rest)).map fun (items, rest) => (.seq items, rest)
      | '\x7b' :: rest =>
          (readFlowMembers fuel (skip rest)).map fun (members, rest) => (.map members, rest)
      | '"' :: _ | '\'' :: _ => readQuoted text
      | _ =>
          if startsAbsent text then some (absent, text)
          else if startsPlain text then
            (plainInFlow (text.length + 1) text).map fun (chars, rest) => (plain chars, rest)
          else none

/-- The items of a list, behind white space. An item with a colon behind it is a mapping of its
own. -/
def readFlowItems : Nat → Scan (List Yaml)
  | 0, _ => none
  | _, ']' :: rest => some ([], rest)
  | fuel + 1, text =>
      if startsAbsent text && text.head? != some ':' then none
      else do
        let (item, rest) ← readFlow fuel text
        let (item, rest) ← match skip rest with
          | ':' :: value => do
              let (value, rest) ← readFlow fuel (skip value)
              pure (Yaml.map [(← asScalar? item, value)], skip rest)
          | rest => pure (item, rest)
        match rest with
        | ']' :: rest => some ([item], rest)
        | ',' :: rest => do
            let (items, rest) ← readFlowItems fuel (skip rest)
            return (item :: items, rest)
        | _ => none

/-- The members of a mapping, behind white space. -/
def readFlowMembers : Nat → Scan (List (Scalar × Yaml))
  | 0, _ => none
  | _, '\x7d' :: rest => some ([], rest)
  | fuel + 1, text =>
      if startsAbsent text && text.head? != some ':' then none
      else do
        let (key, rest) ← readFlow fuel text
        let key ← asScalar? key
        let (value, rest) ← match skip rest with
          | ':' :: value => do
              let (value, rest) ← readFlow fuel (skip value)
              pure (value, skip rest)
          | rest => pure (absent, rest)
        match rest with
        | '\x7d' :: rest => some ([(key, value)], rest)
        | ',' :: rest => do
            let (members, rest) ← readFlowMembers fuel (skip rest)
            return ((key, value) :: members, rest)
        | _ => none

end

end MockApi.Yaml
