import MockApi.Generator.Phrase
import MockApi.Proofs.Draw.Bounds

/-! Filler text is made of a number of words, or of sentences, within the bounds of the draw. -/
namespace MockApi

/-! ## Words -/

namespace Words

theorem splitOnAux_ne_nil (text separator : String) (start place found : String.Pos.Raw)
    (parts : List String) : text.splitOnAux separator start place found parts ≠ [] := by
  fun_induction String.splitOnAux text separator start place found parts with
  | case1 => exact List.reverse_ne_nil_iff.mpr (List.cons_ne_nil _ _)
  | case2 => assumption
  | case3 => assumption
  | case4 => assumption

/-- A table with a line has an entry. -/
theorem size_entries_pos (line : String) (lines : List String) :
    0 < (entries (line :: lines)).size := by
  have hline : line.splitOn ";" ≠ [] := by
    unfold String.splitOn
    split
    · exact List.cons_ne_nil _ _
    · exact splitOnAux_ne_nil _ _ _ _ _ _
  have hpos := List.length_pos_iff.mpr hline
  rw [entries, List.size_toArray, List.flatMap_cons, List.length_append]
  omega

theorem size_latin_pos : 0 < latin.size := size_entries_pos _ _

end Words

theorem Draw.pick_mem {table : Array String} (h : 0 < table.size) :
    (pick table).Always (· ∈ table) := by
  refine (below_lt .word h).bind fun i hi => Always.pure ?_
  rw [Array.getD_eq_getD_getElem?, Array.getElem?_eq_getElem hi, Option.getD_some]
  exact Array.getElem_mem hi

namespace Generator

open Draw

variable {min max : Nat}

/-! ## Sentences and paragraphs -/

/-- A number of words between the bounds, with blanks between them and a full stop at the end. -/
def IsSentence (min max : Nat) (text : String) : Prop :=
  ∃ words : List String, text = String.intercalate " " words ++ "." ∧
    min ≤ words.length ∧ words.length ≤ max ∧ ∀ word ∈ words, word ∈ Words.latin

/-- A number of lines between the bounds, each of them a sentence of four to nine words. -/
def IsParagraph (min max : Nat) (text : String) : Prop :=
  ∃ sentences : List String, text = String.intercalate "\n" sentences ∧
    min ≤ sentences.length ∧ sentences.length ≤ max ∧
    ∀ sentence ∈ sentences, IsSentence 4 9 sentence

/-- As many repetitions as a count between the bounds says. -/
theorem repeated_always {P : String → Prop} {draw : Draw String} (hdraw : draw.Always P)
    {count : Nat} (hcount : min ≤ count ∧ count ≤ max) :
    Always (fun texts => min ≤ texts.length ∧ texts.length ≤ max ∧ ∀ text ∈ texts, P text)
      ((List.range count).mapM fun _ => draw) := by
  refine (Always.mapM fun _ _ => hdraw).mono fun texts ⟨hlength, htexts⟩ => ?_
  rw [List.length_range] at hlength
  exact ⟨hlength ▸ hcount.1, hlength ▸ hcount.2, htexts⟩

theorem drawSentence_always (h : min ≤ max) :
    (drawSentence min max).Always (IsSentence min max) := by
  have hword : (pick Words.latin).Always (· ∈ Words.latin) := pick_mem Words.size_latin_pos
  unfold drawSentence
  refine (natBetween_mem h).bind fun count hcount => ?_
  exact (repeated_always hword hcount).bind fun words hwords => Always.pure ⟨words, rfl, hwords⟩

theorem drawParagraph_always (h : min ≤ max) :
    (drawParagraph min max).Always (IsParagraph min max) := by
  have hsentence : (drawSentence 4 9).Always (IsSentence 4 9) := drawSentence_always (by decide)
  unfold drawParagraph
  refine (natBetween_mem h).bind fun count hcount => ?_
  exact (repeated_always hsentence hcount).bind fun sentences hsentences =>
    Always.pure ⟨sentences, rfl, hsentences⟩

end Generator
end MockApi
