import MockApi.Decimal.Binary64

/-!
The random source: the key stream of ChaCha with twelve rounds, and the draws made from it. A draw
is a state transformer on `Source`; a bounded draw always lies below its bound.
-/
namespace MockApi

/-- A key stream: the words still unused of the current block, and the number of the next block. -/
structure Source where
  key : List UInt32
  nextBlock : UInt64
  pending : List UInt32
  deriving DecidableEq, Repr

abbrev Draw := StateM Source

namespace Source

def rotateLeft (x : UInt32) (n : UInt32) : UInt32 := (x <<< n) ||| (x >>> (32 - n))

def quarterRound (a b c d : Nat) (s : Array UInt32) : Array UInt32 :=
  let mix (target addend turned : Nat) (n : UInt32) (s : Array UInt32) : Array UInt32 :=
    let sum := s.getD target 0 + s.getD addend 0
    (s.setIfInBounds target sum).setIfInBounds turned (rotateLeft (s.getD turned 0 ^^^ sum) n)
  mix c d b 7 (mix a b d 8 (mix c d b 12 (mix a b d 16 s)))

def doubleRound (s : Array UInt32) : Array UInt32 :=
  let columns := quarterRound 3 7 11 15 (quarterRound 2 6 10 14
    (quarterRound 1 5 9 13 (quarterRound 0 4 8 12 s)))
  quarterRound 3 4 9 14 (quarterRound 2 7 8 13
    (quarterRound 1 6 11 12 (quarterRound 0 5 10 15 columns)))

def block (key : List UInt32) (number : UInt64) : List UInt32 :=
  let constants : Array UInt32 := #[0x61707865, 0x3320646e, 0x79622d32, 0x6b206574]
  let start := constants ++ key.toArray ++
    #[number.toUInt32, (number >>> 32).toUInt32, 0, 0]
  let rounds := 6
  let mixed := rounds.repeat doubleRound start
  List.zipWith (· + ·) mixed.toList start.toList

def expandSeed : (words : Nat) → UInt64 → List UInt32
  | 0, _ => []
  | words + 1, state =>
      let state := state * 6364136223846793005 + 11634580027462260723
      let folded := (((state >>> 18) ^^^ state) >>> 27).toUInt32
      let turn := (state >>> 59).toUInt32
      rotateLeft folded ((32 - turn) % 32) :: expandSeed words state

def ofSeed (seed : UInt64) : Source := ⟨expandSeed 8 seed, 0, []⟩

def next : Draw UInt32 := fun source =>
  match source.pending with
  | word :: rest => (word, { source with pending := rest })
  | [] =>
      match block source.key source.nextBlock with
      | word :: rest => (word, { source with nextBlock := source.nextBlock + 1, pending := rest })
      | [] => (0, source)

end Source

namespace Draw

inductive Width where
  | word | double
  deriving DecidableEq, Repr

def Width.bits : Width → Nat
  | .word => 32
  | .double => 64

def word : Draw UInt32 := Source.next

def double : Draw UInt64 := do
  let low ← word
  let high ← word
  return high.toUInt64 <<< 32 ||| low.toUInt64

def raw : Width → Draw Nat
  | .word => UInt32.toNat <$> word
  | .double => UInt64.toNat <$> double

/-- Draws until the low half of `draw * n` lies in the zone, and takes the high half. The last of
`tries` draws is taken in any case. -/
def untilInZone (width : Width) (n zone : Nat) : (tries : Nat) → Draw Nat
  | 0 => do return (← raw width) * n / 2 ^ width.bits
  | tries + 1 => do
      let product := (← raw width) * n
      if product % 2 ^ width.bits ≤ zone then return product / 2 ^ width.bits
      else untilInZone width n zone tries

/-- More draws than a run of refusals can last: each refuses less than half of the words. -/
def maxTries : Nat := 1000

/-- Uniform below `n`. The zone is the largest multiple of `n` by a power of two. -/
def below (width : Width) (n : Nat) : Draw Nat :=
  untilInZone width n (n * 2 ^ (width.bits - (n.log2 + 1)) - 1) maxTries

/-- Uniform below a small `n`, from one word with the largest possible zone. -/
def belowSmall (n : Nat) : Draw Nat :=
  untilInZone .word n (2 ^ 32 - 1 - 2 ^ 32 % n) maxTries

/-- Uniform between two integers of 64 bits, both included. Where all of them are allowed, two
words are read as one signed integer. -/
def between (low high : Int) : Draw Int := do
  if high - low + 1 = 2 ^ 64 then return Int.bmod (← double).toNat (2 ^ 64)
  else
    let offset ← below .double (high - low + 1).toNat
    return low + offset

def natBetween (low high : Nat) : Draw Nat := do
  let offset ← below .double (high - low + 1)
  return low + offset

/-- One entry of a list; `none` for the empty list, without a draw. -/
def pick? {α : Type} (choices : List α) : Draw (Option α) :=
  match choices with
  | [] => return none
  | _ => do return choices[← below .word choices.length]?

def pick (table : Array String) : Draw String := do
  let i ← below .word table.size
  return table.getD i ""

/-- True with the given probability; certainty takes nothing from the stream. -/
def chance (p : Float) : Draw Bool := do
  if p == 1.0 then return true
  else return (← double) < (p * 18446744073709551616.0).toUInt64

def byte : Draw Nat := do return (← word).toNat % 256

/-- The largest draw from the unit interval. -/
def largestUnit : Float := 1.0 - 1.0 / 4503599627370496.0

/-- Lowers a scale step by step until the largest draw stays within the upper end. -/
def fitScale (low high : Float) : (tries : Nat) → Float → Float
  | 0, scale => scale
  | tries + 1, scale =>
      if scale * largestUnit + low > high then
        fitScale low high tries (Float.ofBits (scale.toBits - 1))
      else scale

/-- Uniform between two doubles, both included. The scale is a little more than their distance; if
it is no finite number, nothing is drawn. -/
def floatBetween? (low high : Float) : Draw (Option Float) := do
  let scale := (high - low) / largestUnit
  if scale.isFinite then
    let unit := ((← double) >>> 12).toFloat / 4503599627370496.0
    return some (unit * fitScale low high maxTries scale + low)
  else return none

end Draw
end MockApi
