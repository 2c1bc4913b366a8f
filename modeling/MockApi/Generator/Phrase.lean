import MockApi.Generator.Number
import MockApi.Words.Latin

/-!
Generators of filler text with a bounded number of parts, and of texts after a pattern.
-/
namespace MockApi.Generator

open Draw (below belowSmall natBetween pick chance)

def countOr (params : Params) (name : String) (default : Nat) : Attempt Nat :=
  match params.find? name with
  | none => return default
  | some value =>
      match value.asSize? with
      | some n => return n
      | none => refuse (.negativeCount name)

/-- The least and the greatest count; the default of the greatest gives way to a larger least. -/
def countRange (params : Params) (minName maxName : String) (defaultMin defaultMax : Nat) :
    Attempt (Nat × Nat) := do
  let min ← countOr params minName defaultMin
  let max ← countOr params maxName (Nat.max defaultMax min)
  if maxTextCount < max then refuse (.countTooLarge maxName max)
  if max < min then refuse (.reversedCounts minName min maxName max)
  return (min, max)

/-- Between `min` and `max` words, closed by a full stop. -/
def drawSentence (min max : Nat) : Draw String := do
  let count ← natBetween min max
  let words ← (List.range count).mapM fun _ => pick Words.latin
  return String.intercalate " " words ++ "."

/-- Between `min` and `max` lines, each a sentence of four to nine words. -/
def drawParagraph (min max : Nat) : Draw String := do
  let count ← natBetween min max
  let sentences ← (List.range count).mapM fun _ => drawSentence 4 9
  return String.intercalate "\n" sentences

def sentence : Generator where
  id := "sentence"
  output := .string
  params := [integerParam "min_words", integerParam "max_words"]
  produce params := do
    let (min, max) ← countRange params "min_words" "max_words" 3 10
    Json.str <$> ExceptT.lift (drawSentence min max)

def paragraph : Generator where
  id := "paragraph"
  output := .string
  params := [integerParam "min_sentences", integerParam "max_sentences"]
  produce params := do
    let (min, max) ← countRange params "min_sentences" "max_sentences" 1 3
    Json.str <$> ExceptT.lift (drawParagraph min max)

def randomDigit : Draw Char := do return Nat.digitChar (← belowSmall 10)

def randomLetter : Draw Char := do return Char.ofNat ('a'.toNat + (← belowSmall 26))

/-- A number sign becomes a digit, a question mark a lower-case letter, a star one of the two, and
every other character itself. -/
def fillPlace (c : Char) : Draw Char :=
  match c with
  | '#' => randomDigit
  | '?' => randomLetter
  | '*' => do if ← chance 0.5 then randomDigit else randomLetter
  | other => return other

def fillPattern : List Char → Draw (List Char)
  | [] => return []
  | c :: rest => do
      let filled ← fillPlace c
      return filled :: (← fillPattern rest)

def pattern : Generator where
  id := "pattern"
  output := .string
  params := [⟨"pattern", .string, true⟩]
  produce params := do
    let format := ((params.find? "pattern").bind Json.asString?).getD ""
    let filled ← ExceptT.lift (fillPattern format.toList)
    return .str (String.ofList filled)

end MockApi.Generator
