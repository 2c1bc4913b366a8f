import MockApi.Json.Basic
import MockApi.Text.Bytes
import MockApi.Text.Digits

/-!
Reading JSON text. Each step returns what is left of the text with a proof that it is shorter, so
that all loops end with the text; nesting is bounded by `maxNesting`. A fault carries the number of
bytes left behind it, from which `locate` finds its line and column.
-/
namespace MockApi.Json

open Text (isDigit digitValue digitsValue byteCount hexValue?)

inductive SyntaxFault where
  | expectedValue | expectedIdent | expectedColon | expectedKey
  | expectedCommaOrBracket | expectedCommaOrBrace
  | eofValue | eofList | eofObject | eofString
  | trailingComma | trailingCharacters
  | invalidNumber | numberOutOfRange
  | invalidEscape | controlCharacter | loneSurrogate | unpairedEscape
  | nestingLimit
  deriving DecidableEq, Repr

def SyntaxFault.message : SyntaxFault → String
  | expectedValue => "expected value"
  | expectedIdent => "expected ident"
  | expectedColon => "expected `:`"
  | expectedKey => "key must be a string"
  | expectedCommaOrBracket => "expected `,` or `]`"
  | expectedCommaOrBrace => "expected `,` or `\x7d`"
  | eofValue => "EOF while parsing a value"
  | eofList => "EOF while parsing a list"
  | eofObject => "EOF while parsing an object"
  | eofString => "EOF while parsing a string"
  | trailingComma => "trailing comma"
  | trailingCharacters => "trailing characters"
  | invalidNumber => "invalid number"
  | numberOutOfRange => "number out of range"
  | invalidEscape => "invalid escape"
  | controlCharacter => "control character (\\u0000-\\u001F) found while parsing a string"
  | loneSurrogate => "lone leading surrogate in hex escape"
  | unpairedEscape => "unexpected end of hex escape"
  | nestingLimit => "recursion limit exceeded"

/-- A fault with the number of bytes behind the last byte looked at. -/
structure Stop where
  fault : SyntaxFault
  bytesLeft : Nat
  deriving DecidableEq, Repr

/-- A fault seen at the next byte, which is not taken. -/
def Stop.at (fault : SyntaxFault) (rest : List Char) : Stop := ⟨fault, byteCount rest - 1⟩

/-- A fault seen after everything before `rest` was taken. -/
def Stop.before (fault : SyntaxFault) (rest : List Char) : Stop := ⟨fault, byteCount rest⟩

/-- A value read from `text`, with a shorter rest. -/
abbrev Read (α : Type) (text : List Char) := Except Stop { r : α × List Char // r.2.length < text.length }

/-- The same result, seen from a longer text. -/
def Read.widen {α : Type} {short long : List Char} (h : short.length ≤ long.length) :
    Read α short → Read α long
  | .ok ⟨r, hr⟩ => .ok ⟨r, Nat.lt_of_lt_of_le hr h⟩
  | .error stop => .error stop

def Read.map {α β : Type} {text : List Char} (f : α → β) : Read α text → Read β text
  | .ok ⟨(value, rest), h⟩ => .ok ⟨(f value, rest), h⟩
  | .error stop => .error stop

def isBlank (c : Char) : Bool := c == ' ' || c == '\t' || c == '\n' || c == '\r'

def skipBlank (text : List Char) : List Char := text.dropWhile isBlank

theorem length_skipBlank (text : List Char) : (skipBlank text).length ≤ text.length :=
  (List.dropWhile_sublist _).length_le

def word (letters text : List Char) : Except Stop { r : List Char // r.length ≤ text.length } :=
  match letters, text with
  | [], text => .ok ⟨text, Nat.le_refl _⟩
  | _ :: _, [] => .error (Stop.before .eofValue [])
  | letter :: letters, c :: text =>
      if c = letter then
        match word letters text with
        | .ok ⟨r, h⟩ => .ok ⟨r, Nat.le_succ_of_le h⟩
        | .error stop => .error stop
      else .error (Stop.at .expectedIdent (c :: text))

/-! ## Numbers -/

def exponentLimit : Nat := 2 ^ 31

/-- How many digits it takes until the exponent leaves its range. -/
def overflowIndex? (digits : List Char) : Option Nat :=
  (List.range digits.length).map (· + 1) |>.find? fun n => exponentLimit ≤ digitsValue (digits.take n)

/-- What is read of a number: a significand of 64 bits and a power of ten. -/
structure Reading where
  significand : Nat
  exponent : Int

namespace Reading

/-- Puts digits behind a significand while it fits in 64 bits; the digits that are left are not
looked at any more. -/
def takeDigits (significand : Nat) : List Char → Nat × List Char
  | [] => (significand, [])
  | digit :: rest =>
      let next := significand * 10 + digitValue digit
      if next < 2 ^ 64 then takeDigits next rest else (significand, digit :: rest)

def ofWhole (digits : List Char) : Reading :=
  let (significand, left) := takeDigits 0 digits
  ⟨significand, left.length⟩

def addFraction (reading : Reading) (digits : List Char) : Reading :=
  let (significand, left) := takeDigits reading.significand digits
  ⟨significand, reading.exponent - (digits.length - left.length)⟩

def shift (reading : Reading) (places : Int) : Reading :=
  { reading with exponent := reading.exponent + places }

/-- Powers of ten up to this one are doubles. -/
def maxPower : Nat := 308

def power (n : Nat) : Float := Float.ofScientific 1 false n

/-- Divides by the largest power a number of times, and at last by a smaller one. -/
def lower (last : Nat) : (steps : Nat) → Float → Float
  | 0, x => x / power last
  | steps + 1, x => if x == 0 then x else lower last steps (x / power maxPower)

/-- The significand is rounded before it is scaled, and so is each step of the scaling. -/
def magnitude? (reading : Reading) : Option Float :=
  let x := Float.ofNat reading.significand
  match reading.exponent with
  | .ofNat up => if up ≤ maxPower then some (x * power up) else if x == 0 then some x else none
  | .negSucc down => some (lower (down % maxPower + 1) (down / maxPower) x)

def value? (negative : Bool) (reading : Reading) : Option Binary64 := do
  let magnitude ← reading.magnitude?
  Binary64.ofFloat? (if negative then -magnitude else magnitude)

end Reading

/-- A number that is no integer of 64 bits. -/
def float? (negative : Bool) (reading : Reading) (rest : List Char) : Except Stop Json :=
  match reading.value? negative with
  | some x => .ok (float x)
  | none => .error (Stop.before .numberOutOfRange rest)

/-- Behind the letter of an exponent: a sign and at least one digit. An exponent out of range is an
error only when it makes the number too large. -/
def exponentPart (negative : Bool) (reading : Reading) (text : List Char) :
    Except Stop { r : Json × List Char // r.2.length ≤ text.length } :=
  let down := text.head? == some '-'
  let unsigned := if down || text.head? == some '+' then text.drop 1 else text
  let places := unsigned.takeWhile isDigit
  let rest := unsigned.drop places.length
  if places = [] then
    match unsigned with
    | [] => .error (Stop.before .eofValue [])
    | _ => .error (Stop.at .invalidNumber unsigned)
  else
    have bound : rest.length ≤ text.length := by
      have hd : unsigned.length ≤ text.length := by
        simp only [unsigned]; split <;> simp
      simp only [rest, List.length_drop]; omega
    match overflowIndex? places with
    | some n =>
        if !down && reading.significand != 0 then
          .error (Stop.before .numberOutOfRange (unsigned.drop n))
        else .ok ⟨(float (if negative then .negZero else .zero), rest), bound⟩
    | none =>
        let shift : Int := if down then -(digitsValue places : Int) else digitsValue places
        match float? negative (reading.shift shift) rest with
        | .ok value => .ok ⟨(value, rest), bound⟩
        | .error stop => .error stop

/-- An integer where it fits in 64 bits; negative zero and all else are doubles. -/
def wholeNumber (negative : Bool) (digits rest : List Char) : Except Stop Json :=
  let n := digitsValue digits
  if !negative && n < 2 ^ 64 then .ok (int n)
  else if negative && 0 < n && n ≤ 2 ^ 63 then .ok (int (-(n : Int)))
  else float? negative (.ofWhole digits) rest

/-- Behind the integer digits: a fraction, an exponent, or the end of the number. -/
def numberTail (negative : Bool) (digits : List Char) (text : List Char) :
    Except Stop { r : Json × List Char // r.2.length ≤ text.length } :=
  match text with
  | '.' :: behind =>
      let fraction := behind.takeWhile isDigit
      let rest := behind.drop fraction.length
      have bound : rest.length ≤ behind.length := by simp [rest]
      if fraction = [] then
        match behind with
        | [] => .error (Stop.at .eofValue [])
        | _ => .error (Stop.at .invalidNumber behind)
      else
        let reading := (Reading.ofWhole digits).addFraction fraction
        match h : rest with
        | 'e' :: more | 'E' :: more =>
            match exponentPart negative reading more with
            | .ok ⟨r, hr⟩ => .ok ⟨r, by simp at bound ⊢; omega⟩
            | .error stop => .error stop
        | _ =>
            match float? negative reading rest with
            | .ok value => .ok ⟨(value, rest), by rw [h]; simp at bound ⊢; omega⟩
            | .error stop => .error stop
  | 'e' :: behind | 'E' :: behind =>
      match exponentPart negative (.ofWhole digits) behind with
      | .ok ⟨r, hr⟩ => .ok ⟨r, by simp; omega⟩
      | .error stop => .error stop
  | rest =>
      match wholeNumber negative digits rest with
      | .ok value => .ok ⟨(value, rest), Nat.le_refl _⟩
      | .error stop => .error stop

def readNumber (negative : Bool) (text : List Char) : Read Json text :=
  match text with
  | [] => .error (Stop.before .eofValue [])
  | '0' :: rest =>
      match rest.head?.map isDigit with
      | some true => .error (Stop.at .invalidNumber rest)
      | _ => match numberTail negative ['0'] rest with
        | .ok ⟨r, h⟩ => .ok ⟨r, Nat.lt_succ_of_le h⟩
        | .error stop => .error stop
  | c :: rest =>
      if isDigit c then
        let more := rest.takeWhile isDigit
        match numberTail negative (c :: more) (rest.drop more.length) with
        | .ok ⟨r, h⟩ => .ok ⟨r, by simp at h ⊢; omega⟩
        | .error stop => .error stop
      else .error (Stop.at .invalidNumber (c :: rest))

/-! ## Strings -/

def hexUnit? (a b c d : Char) : Option Nat := do
  return (((← hexValue? a) * 16 + (← hexValue? b)) * 16 + (← hexValue? c)) * 16 + (← hexValue? d)

def hexUnit (text : List Char) : Read Nat text :=
  if byteCount (text.take 4) < 4 then .error (Stop.before .eofString [])
  else match text with
    | a :: b :: c :: d :: rest =>
        match hexUnit? a b c d with
        | some n => .ok ⟨(n, rest), by simp; omega⟩
        | none => .error ⟨.invalidEscape, byteCount text - 4⟩
    | _ => .error ⟨.invalidEscape, byteCount text - 4⟩

def secondUnit (text : List Char) : Read Nat text :=
  match text with
  | [] => .error (Stop.before .eofString [])
  | '\\' :: [] => .error (Stop.before .eofString [])
  | '\\' :: 'u' :: rest => (hexUnit rest).widen (by simp; omega)
  | '\\' :: rest => .error (Stop.at .unpairedEscape rest)
  | rest => .error (Stop.at .unpairedEscape rest)

def unicodeEscape (text : List Char) : Read Char text :=
  match hexUnit text with
  | .error stop => .error stop
  | .ok ⟨(n, rest), h⟩ =>
      if 0xDC00 ≤ n ∧ n ≤ 0xDFFF then .error (Stop.before .loneSurrogate rest)
      else if n < 0xD800 ∨ 0xDBFF < n then .ok ⟨(Char.ofNat n, rest), h⟩
      else match secondUnit rest with
        | .error stop => .error stop
        | .ok ⟨(low, rest'), h'⟩ =>
            if low < 0xDC00 ∨ 0xDFFF < low then .error (Stop.before .loneSurrogate rest')
            else
              let code := (n - 0xD800) * 0x400 + (low - 0xDC00) + 0x10000
              .ok ⟨(Char.ofNat code, rest'), Nat.lt_trans h' h⟩

def escape (text : List Char) : Read Char text :=
  match text with
  | [] => .error (Stop.before .eofString [])
  | c :: rest =>
      let simple (value : Char) : Read Char (c :: rest) := .ok ⟨(value, rest), by simp⟩
      match c with
      | '"' => simple '"'
      | '\\' => simple '\\'
      | '/' => simple '/'
      | 'b' => simple '\x08'
      | 'f' => simple '\x0c'
      | 'n' => simple '\n'
      | 'r' => simple '\r'
      | 't' => simple '\t'
      | 'u' => (unicodeEscape rest).widen (by simp)
      | other => .error (Stop.at .invalidEscape (other :: rest))

def stringBody (read : List Char) (text : List Char) : Read String text :=
  match text with
  | [] => .error (Stop.before .eofString [])
  | '"' :: rest => .ok ⟨(String.ofList read.reverse, rest), by simp⟩
  | '\\' :: rest =>
      match escape rest with
      | .error stop => .error stop
      | .ok ⟨(c, rest'), h⟩ =>
          have hlt : rest'.length < rest.length := h
          (stringBody (c :: read) rest').widen (by simp; omega)
  | c :: rest =>
      if c.toNat < 0x20 then .error (Stop.before .controlCharacter rest)
      else (stringBody (c :: read) rest).widen (by simp)
termination_by text.length

/-! ## Lists and objects -/

variable {α : Type}

def items (item : (text : List Char) → Read α text) (read : List α) (text : List Char) :
    Read (List α) text :=
  match item text with
  | .error stop => .error stop
  | .ok ⟨(value, rest), h⟩ =>
      match hr : skipBlank rest with
      | [] => .error (Stop.at .eofList [])
      | ']' :: rest' => .ok ⟨((value :: read).reverse, rest'), by
          have := length_skipBlank rest; simp [hr] at this h ⊢; omega⟩
      | ',' :: rest' =>
          have hlt : rest'.length < text.length := by
            have := length_skipBlank rest; simp [hr] at this h ⊢; omega
          match skipBlank rest' with
          | [] => .error (Stop.at .eofValue [])
          | ']' :: more => .error (Stop.at .trailingComma (']' :: more))
          | _ => (items item (value :: read) rest').widen (Nat.le_of_lt hlt)
      | other => .error (Stop.at .expectedCommaOrBracket other)
termination_by text.length

def list (item : (text : List Char) → Read α text) (text : List Char) : Read (List α) text :=
  match hr : skipBlank text with
  | [] => .error (Stop.at .eofList [])
  | ']' :: rest => .ok ⟨([], rest), by
      have := length_skipBlank text; simp [hr] at this ⊢; omega⟩
  | _ => items item [] text

def member (item : (text : List Char) → Read α text) (text : List Char) : Read (String × α) text :=
  match stringBody [] text with
  | .error stop => .error stop
  | .ok ⟨(name, rest), h⟩ =>
      match hr : skipBlank rest with
      | [] => .error (Stop.at .eofObject [])
      | ':' :: rest' =>
          ((item rest').map (fun value => (name, value))).widen (by
            have := length_skipBlank rest; simp [hr] at this h ⊢; omega)
      | other => .error (Stop.at .expectedColon other)

def members (item : (text : List Char) → Read α text) (read : List (String × α))
    (text : List Char) : Read (List (String × α)) text :=
  match member item text with
  | .error stop => .error stop
  | .ok ⟨(entry, rest), h⟩ =>
      match hr : skipBlank rest with
      | [] => .error (Stop.at .eofObject [])
      | '}' :: rest' => .ok ⟨((entry :: read).reverse, rest'), by
          have := length_skipBlank rest; simp [hr] at this h ⊢; omega⟩
      | ',' :: rest' =>
          have hlt : rest'.length < text.length := by
            have := length_skipBlank rest; simp [hr] at this h ⊢; omega
          match hn : skipBlank rest' with
          | [] => .error (Stop.at .eofValue [])
          | '"' :: next =>
              have hle : next.length < text.length := by
                have := length_skipBlank rest'; simp [hn] at this ⊢; omega
              (members item (entry :: read) next).widen (Nat.le_of_lt hle)
          | '}' :: more => .error (Stop.at .trailingComma ('}' :: more))
          | other => .error (Stop.at .expectedKey other)
      | other => .error (Stop.at .expectedCommaOrBrace other)
termination_by text.length

def object (item : (text : List Char) → Read α text) (text : List Char) :
    Read (List (String × α)) text :=
  match hr : skipBlank text with
  | [] => .error (Stop.at .eofObject [])
  | '}' :: rest => .ok ⟨([], rest), by
      have := length_skipBlank text; simp [hr] at this ⊢; omega⟩
  | '"' :: rest => (members item [] rest).widen (by
      have := length_skipBlank text; simp [hr] at this ⊢; omega)
  | other => .error (Stop.at .expectedKey other)

/-! ## Values -/

/-- Lists and objects may stand this many levels inside one another. -/
def maxNesting : Nat := 127

def value (depth : Nat) (text : List Char) : Read Json text :=
  match hr : skipBlank text with
  | [] => .error (Stop.at .eofValue [])
  | c :: rest =>
      have hle : rest.length < text.length := by
        have := length_skipBlank text; simp [hr] at this ⊢; omega
      let named (letters : List Char) (v : Json) : Read Json text :=
        match word letters rest with
        | .ok ⟨rest', h⟩ => .ok ⟨(v, rest'), Nat.lt_of_le_of_lt h hle⟩
        | .error stop => .error stop
      match c with
      | 'n' => named ['u', 'l', 'l'] null
      | 't' => named ['r', 'u', 'e'] (bool true)
      | 'f' => named ['a', 'l', 's', 'e'] (bool false)
      | '-' => (readNumber true rest).widen (Nat.le_of_lt hle)
      | '"' => ((stringBody [] rest).map str).widen (Nat.le_of_lt hle)
      | '[' =>
          match depth with
          | 0 => .error (Stop.at .nestingLimit (c :: rest))
          | depth + 1 => ((list (value depth) rest).map arr).widen (Nat.le_of_lt hle)
      | '{' =>
          match depth with
          | 0 => .error (Stop.at .nestingLimit (c :: rest))
          | depth + 1 => ((object (value depth) rest).map obj).widen (Nat.le_of_lt hle)
      | c =>
          if isDigit c then
            (readNumber false (c :: rest)).widen (by simp; omega)
          else .error (Stop.at .expectedValue (c :: rest))

/-- A fault with its line and column; the column counts the bytes of the line up to the fault. -/
structure SyntaxError where
  fault : SyntaxFault
  line : Nat
  column : Nat
  deriving DecidableEq, Repr

def SyntaxError.message (e : SyntaxError) : String :=
  e.fault.message ++ " at line " ++ toString e.line ++ " column " ++ toString e.column

def locate (bytes : Nat) : (line column : Nat) → List Char → Nat × Nat
  | line, column, [] => (line, column)
  | line, column, c :: rest =>
      if bytes < c.utf8Size then (line, column + bytes)
      else if c = '\n' then locate (bytes - 1) (line + 1) 0 rest
      else locate (bytes - c.utf8Size) line (column + c.utf8Size) rest
termination_by structural _ _ text => text

def Stop.locateIn (stop : Stop) (text : List Char) : SyntaxError :=
  let place := locate (byteCount text - stop.bytesLeft) 1 0 text
  ⟨stop.fault, place.1, place.2⟩

def parseVerbatim (source : String) : Except SyntaxError Json :=
  let text := source.toList
  match value maxNesting text with
  | .error stop => .error (stop.locateIn text)
  | .ok ⟨(v, rest), _⟩ =>
      match skipBlank rest with
      | [] => .ok v
      | more => .error ((Stop.at .trailingCharacters more).locateIn text)

/-- Reads a whole text as one value; of a repeated name the last value counts. -/
def parse (source : String) : Except SyntaxError Json := (parseVerbatim source).map tidied

end MockApi.Json
