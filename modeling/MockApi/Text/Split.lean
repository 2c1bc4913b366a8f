/-!
Texts cut at a separator.
-/
namespace MockApi.Text

/-- The parts of a text between separators, at least one. -/
def splitAt (separator : Char) : List Char → List (List Char)
  | [] => [[]]
  | c :: rest =>
      if c = separator then [] :: splitAt separator rest
      else match splitAt separator rest with
        | [] => [[c]]
        | first :: others => (c :: first) :: others

theorem splitAt_ne_nil (separator : Char) (text : List Char) : splitAt separator text ≠ [] := by
  cases text with
  | nil => simp [splitAt]
  | cons c rest =>
    by_cases h : c = separator
    · simp [splitAt, h]
    · simp only [splitAt, h, ↓reduceIte]
      split <;> simp

end MockApi.Text
