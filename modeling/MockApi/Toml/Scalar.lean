import MockApi.Json.Basic
import MockApi.Text.Digits
import MockApi.Text.Split

/-!
The scalars of TOML: four kinds of strings, numbers with grouped digits, and truth values. Dates are
kept as their text. A reader gives the value and the rest of the text.
-/
namespace MockApi.Toml

open Text (isDigit digitsValue hexValue?)

abbrev Scan (α : Type) := List Char → Option (α × List Char)

def isBlank (c : Char) : Bool := c == ' ' || c == '\t'

def isPrintable (c : Char) : Bool := c == '\t' || (0x20 ≤ c.toNat && c.toNat ≠ 0x7F)

def newline? : List Char → Option (List Char)
  | '\n' :: rest => some rest
  | '\r' :: '\n' :: rest => some rest
  | _ => none

def hexNumber? (digits : List Char) : Option Nat :=
  digits.foldlM (fun n c => (hexValue? c).map (16 * n + ·)) 0

def scalar? (digits : List Char) : Option Char := do
  let n ← hexNumber? digits
  if n.isValidChar then some (Char.ofNat n) else none

def escape? : Char → Option Char
  | 'b' => some '\x08'
  | 't' => some '\t'
  | 'n' => some '\n'
  | 'f' => some '\x0c'
  | 'r' => some '\r'
  | '"' => some '"'
  | '\\' => some '\\'
  | _ => none

def prepend (c : Char) (found : Option (List Char × List Char)) : Option (List Char × List Char) :=
  found.map fun (text, rest) => (c :: text, rest)

def basicTail : Scan (List Char)
  | [] => none
  | '"' :: rest => some ([], rest)
  | '\\' :: 'u' :: a :: b :: c :: d :: rest => do prepend (← scalar? [a, b, c, d]) (basicTail rest)
  | '\\' :: 'U' :: a :: b :: c :: d :: e :: f :: g :: h :: rest => do
      prepend (← scalar? [a, b, c, d, e, f, g, h]) (basicTail rest)
  | '\\' :: c :: rest => do prepend (← escape? c) (basicTail rest)
  | c :: rest => if isPrintable c then prepend c (basicTail rest) else none

def endsLine (text : List Char) : Bool := (newline? (text.dropWhile isBlank)).isSome

/-- Up to two quotes may stand in front of the three that close a string. -/
def closing (quote : Char) : Scan (List Char)
  | a :: b :: rest =>
      if a = quote ∧ b = quote then some ([a, b], rest)
      else if a = quote then some ([a], b :: rest)
      else some ([], a :: b :: rest)
  | [a] => if a = quote then some ([a], []) else some ([], [a])
  | [] => some ([], [])

/-- Behind the three quotes that open a string of several lines; blanks and line breaks are skipped
behind a backslash at the end of a line. -/
def basicLines (skipping : Bool) : Scan (List Char)
  | [] => none
  | '"' :: '"' :: '"' :: rest => closing '"' rest
  | '\\' :: 'u' :: a :: b :: c :: d :: rest => do
      prepend (← scalar? [a, b, c, d]) (basicLines false rest)
  | '\\' :: 'U' :: a :: b :: c :: d :: e :: f :: g :: h :: rest => do
      prepend (← scalar? [a, b, c, d, e, f, g, h]) (basicLines false rest)
  | '\\' :: c :: rest =>
      if endsLine (c :: rest) then basicLines true (c :: rest)
      else do prepend (← escape? c) (basicLines false rest)
  | '\r' :: '\n' :: rest =>
      if skipping then basicLines true rest else prepend '\n' (basicLines false rest)
  | c :: rest =>
      if skipping && (isBlank c || c == '\n') then basicLines true rest
      else if isPrintable c || c == '\n' then prepend c (basicLines false rest)
      else none

/-- Behind the quote that opens a string without escapes. -/
def literalTail : Scan (List Char)
  | [] => none
  | '\'' :: rest => some ([], rest)
  | c :: rest => if isPrintable c then prepend c (literalTail rest) else none

def literalLines : Scan (List Char)
  | [] => none
  | '\'' :: '\'' :: '\'' :: rest => closing '\'' rest
  | '\r' :: '\n' :: rest => prepend '\n' (literalLines rest)
  | c :: rest => if isPrintable c || c == '\n' then prepend c (literalLines rest) else none

/-- A line break right behind the opening quotes does not count. -/
def dropNewline (text : List Char) : List Char := (newline? text).getD text

def readString : Scan String := fun text =>
  let found := match text with
    | '"' :: '"' :: '"' :: rest => basicLines false (dropNewline rest)
    | '\'' :: '\'' :: '\'' :: rest => literalLines (dropNewline rest)
    | '"' :: rest => basicTail rest
    | '\'' :: rest => literalTail rest
    | _ => none
  found.map fun (chars, rest) => (String.ofList chars, rest)

/-- Digits in groups between underscores, without these. -/
def ungrouped? (isDigit : Char → Bool) (text : List Char) : Option (List Char) :=
  let groups := Text.splitAt '_' text
  if groups.all fun group => !group.isEmpty && group.all isDigit then some groups.flatten else none

def based? (base : Nat) (text : List Char) : Option Nat := do
  let isDigit (c : Char) : Bool := match hexValue? c with
    | some value => value < base
    | none => false
  let digits ← ungrouped? isDigit text
  digits.foldlM (fun n c => (hexValue? c).map (base * n + ·)) 0

def whole? (text : List Char) : Option (List Char) := do
  let digits ← ungrouped? isDigit text
  if digits.head? = some '0' ∧ digits ≠ ['0'] then none else some digits

def splitSign : List Char → Bool × List Char
  | '-' :: rest => (true, rest)
  | '+' :: rest => (false, rest)
  | rest => (false, rest)

def integer? (token : List Char) : Option Json := do
  let n : Int ← match token with
    | '0' :: 'x' :: digits => Int.ofNat <$> based? 16 digits
    | '0' :: 'o' :: digits => Int.ofNat <$> based? 8 digits
    | '0' :: 'b' :: digits => Int.ofNat <$> based? 2 digits
    | _ =>
        let (negative, digits) := splitSign token
        let n ← digitsValue <$> whole? digits
        pure (if negative then -(n : Int) else n)
  if -2 ^ 63 ≤ n ∧ n < 2 ^ 63 then some (.int n) else none

/-- A number that is not finite has no value in JSON. -/
def ofDouble : Option Binary64 → Json
  | some x => .float x
  | none => .null

def fraction? : List Char → Option (List Char)
  | [] => some []
  | '.' :: digits => ungrouped? isDigit digits
  | _ => none

def exponent? : List Char → Option Int
  | [] => some 0
  | _ :: text => do
      let (negative, digits) := splitSign text
      let n ← digitsValue <$> ungrouped? isDigit digits
      some (if negative then -(n : Int) else n)

def float? (token : List Char) : Option Json := do
  let (negative, text) := splitSign token
  if text = "inf".toList ∨ text = "nan".toList then some .null
  else if text.all isDigit then none
  else
    let mantissa := text.takeWhile fun c => c ≠ 'e' && c ≠ 'E'
    let digits ← whole? (mantissa.takeWhile (· ≠ '.'))
    let places ← fraction? (mantissa.dropWhile (· ≠ '.'))
    let shift ← exponent? (text.drop mantissa.length)
    some (ofDouble (Binary64.ofScientific? negative (digitsValue (digits ++ places))
      (shift - places.length)))

/-- Four digits and a hyphen, or two digits and a colon. -/
def isDate : List Char → Bool
  | a :: b :: ':' :: _ => isDigit a && isDigit b
  | a :: b :: c :: d :: '-' :: _ => isDigit a && isDigit b && isDigit c && isDigit d
  | _ => false

def isTokenChar (c : Char) : Bool := c.isAlphanum || "+-_.:".toList.contains c

/-- A date and a time may be set apart by a space. -/
def dateEnd (date rest : List Char) : List Char × List Char :=
  match rest with
  | ' ' :: a :: b :: ':' :: more =>
      if date.length = 10 ∧ isDigit a ∧ isDigit b then
        let time := a :: b :: ':' :: more.takeWhile isTokenChar
        (date ++ ' ' :: time, rest.drop (time.length + 1))
      else (date, rest)
  | _ => (date, rest)

/-- A value that is written without quotes or brackets. -/
def readToken : Scan Json := fun text =>
  let token := text.takeWhile isTokenChar
  let rest := text.drop token.length
  if token = "true".toList then some (.bool true, rest)
  else if token = "false".toList then some (.bool false, rest)
  else if isDate token then
    let (date, rest) := dateEnd token rest
    some (.str (String.ofList date), rest)
  else ((integer? token) <|> float? token).map fun value => (value, rest)

end MockApi.Toml
