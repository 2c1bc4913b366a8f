/-!
Characters that count as white space in text, and their removal from the ends of a text.
-/
namespace MockApi.Text

/-- The characters with the property White_Space. -/
def isBlank (c : Char) : Bool :=
  let n := c.toNat
  (9 ≤ n && n ≤ 13) || n == 0x20 || n == 0x85 || n == 0xA0 || n == 0x1680 ||
    (0x2000 ≤ n && n ≤ 0x200A) || n == 0x2028 || n == 0x2029 || n == 0x202F || n == 0x205F ||
    n == 0x3000

def trimLeft (text : List Char) : List Char := text.dropWhile isBlank

def dropRight (p : Char → Bool) (text : List Char) : List Char :=
  (text.reverse.dropWhile p).reverse

def trim (text : List Char) : List Char := dropRight isBlank (trimLeft text)

/-- Nothing of the kind is left at the end. -/
theorem getLast?_dropRight (p : Char → Bool) (text : List Char) (c : Char)
    (h : (dropRight p text).getLast? = some c) : p c = false := by
  rw [dropRight, List.getLast?_reverse] at h
  have := List.head?_dropWhile_not p text.reverse
  rw [h] at this
  simpa using this

end MockApi.Text
