/-!
Bytes as text: strict reading of UTF-8, and reading that puts a mark in the place of every
malformed sequence.
-/
namespace MockApi.Text

def isContinuation (b : Nat) : Bool := 0x80 ≤ b && b ≤ 0xBF

/-- How many continuation bytes follow a first byte, and between which values the first of them
lies; none for a byte that starts no character. -/
def lead? (b : Nat) : Option (Nat × Nat × Nat) :=
  if b < 0x80 then some (0, 0, 0)
  else if 0xC2 ≤ b ∧ b ≤ 0xDF then some (1, 0x80, 0xBF)
  else if b = 0xE0 then some (2, 0xA0, 0xBF)
  else if b = 0xED then some (2, 0x80, 0x9F)
  else if 0xE1 ≤ b ∧ b ≤ 0xEF then some (2, 0x80, 0xBF)
  else if b = 0xF0 then some (3, 0x90, 0xBF)
  else if 0xF1 ≤ b ∧ b ≤ 0xF3 then some (3, 0x80, 0xBF)
  else if b = 0xF4 then some (3, 0x80, 0x8F)
  else none

def leadBits (continuations b : Nat) : Nat :=
  match continuations with
  | 0 => b
  | 1 => b % 0x20
  | 2 => b % 0x10
  | _ => b % 0x08

/-- Continuation bytes behind a started character: the character when all are there, `none` where
they break off. -/
def continuations (code : Nat) : (wanted : Nat) → (low high : Nat) → (bytes : List Nat) →
    Option Char × { rest : List Nat // rest.length ≤ bytes.length }
  | 0, _, _, bytes => (some (Char.ofNat code), ⟨bytes, Nat.le_refl _⟩)
  | _ + 1, _, _, [] => (none, ⟨[], Nat.le_refl _⟩)
  | wanted + 1, low, high, b :: bytes =>
      if low ≤ b ∧ b ≤ high then
        let (c, ⟨rest, h⟩) := continuations (code * 64 + b % 64) wanted 0x80 0xBF bytes
        (c, ⟨rest, Nat.le_succ_of_le h⟩)
      else (none, ⟨b :: bytes, Nat.le_refl _⟩)

/-- The characters of some bytes, with `none` for each malformed sequence. -/
def decodeUtf8 : List Nat → List (Option Char)
  | [] => []
  | b :: bytes =>
      match lead? b with
      | none => none :: decodeUtf8 bytes
      | some (n, low, high) =>
          match continuations (leadBits n b) n low high bytes with
          | (c, ⟨rest, _⟩) => c :: decodeUtf8 rest
termination_by bytes => bytes.length
decreasing_by all_goals simp; try omega

def strictUtf8? (bytes : List Nat) : Option (List Char) := (decodeUtf8 bytes).mapM id

def replacement : Char := '\uFFFD'

def lossyUtf8 (bytes : List Nat) : List Char := (decodeUtf8 bytes).map (·.getD replacement)

end MockApi.Text
