import Mathlib.Data.List.Forall2
import MockApi.Generator.Registry
import MockApi.Proofs.Draw.Bounds

/-! Patterns are filled place by place, from the first place to the last. -/
namespace MockApi.Generator

open Draw (Always)

variable {pattern : List Char}

/-- The marks that stand for a drawn character. -/
def IsMark (place : Char) : Prop := place = '#' ∨ place = '?' ∨ place = '*'

/-- What may come to stand at a place of a pattern. -/
def Fills (place c : Char) : Prop :=
  if place = '#' then c.isDigit = true
  else if place = '?' then c.isLower = true
  else if place = '*' then c.isDigit = true ∨ c.isLower = true
  else c = place

/-! ## One place -/

theorem belowSmall_lt {n : Nat} (h : 0 < n) : (Draw.belowSmall n).Always (· < n) :=
  Draw.untilInZone_lt .word h _ _

theorem randomDigit_isDigit : randomDigit.Always fun c => c.isDigit = true := by
  have hdigits : ∀ n < 10, (Nat.digitChar n).isDigit = true := by decide
  exact (belowSmall_lt (by decide)).bind fun n hn => Always.pure (hdigits n hn)

theorem randomLetter_isLower : randomLetter.Always fun c => c.isLower = true := by
  have hletters : ∀ n < 26, (Char.ofNat ('a'.toNat + n)).isLower = true := by decide
  exact (belowSmall_lt (by decide)).bind fun n hn => Always.pure (hletters n hn)

theorem fillPlace_fills (place : Char) : (fillPlace place).Always (Fills place) := by
  unfold fillPlace
  split
  · exact randomDigit_isDigit
  · exact randomLetter_isLower
  · refine (Always.trivially _).bind fun digit _ => ?_
    split
    · exact randomDigit_isDigit.mono fun c hc => Or.inl hc
    · exact randomLetter_isLower.mono fun c hc => Or.inr hc
  · next hnumber hquestion hstar =>
    apply Always.pure
    unfold Fills
    rw [if_neg hnumber, if_neg hquestion, if_neg hstar]

theorem fillPlace_of_not_mark {place : Char} (h : ¬IsMark place) :
    fillPlace place = pure place := by
  unfold fillPlace
  split
  · exact (h (.inl rfl)).elim
  · exact (h (.inr (.inl rfl))).elim
  · exact (h (.inr (.inr rfl))).elim
  · rfl

/-! ## All places -/

theorem fillPattern_fills (pattern : List Char) :
    (fillPattern pattern).Always (List.Forall₂ Fills pattern) := by
  induction pattern with
  | nil => exact Always.pure .nil
  | cons place rest ih =>
    exact (fillPlace_fills place).bind fun c hc => ih.bind fun others hothers =>
      Always.pure (.cons hc hothers)

/-- The places of the front are filled before those of the back are looked at. -/
theorem fillPattern_append (front back : List Char) : fillPattern (front ++ back) =
    fillPattern front >>= fun filled => (filled ++ ·) <$> fillPattern back := by
  induction front with
  | nil => simp [fillPattern]
  | cons place rest ih => simp [fillPattern, ih]

theorem fillPattern_of_no_mark (h : ∀ place ∈ pattern, ¬IsMark place) :
    fillPattern pattern = pure pattern := by
  induction pattern with
  | nil => rfl
  | cons place rest ih =>
    obtain ⟨hplace, hrest⟩ := List.forall_mem_cons.mp h
    rw [fillPattern, fillPlace_of_not_mark hplace, ih hrest, pure_bind, pure_bind]

/-- The generator gives the filled pattern, and takes nothing more from the source. -/
theorem generate_pattern (format : String) :
    generate "pattern" (Params.ofMembers [("pattern", .str format)]) =
      ExceptT.lift ((fun filled => .str (String.ofList filled)) <$> fillPattern format.toList) := by
  rfl

/-- A pattern is filled place by place: the text has a character for each place, which fits it, and
the characters of a pattern are those in front of any longer one. A text without marks stays as it
is, and takes nothing from the source. -/
theorem patterns_filled_place_by_place (pattern : List Char) (source : Source) :
    List.Forall₂ Fills pattern ((fillPattern pattern).run source).1 ∧
    (∀ following, ((fillPattern (pattern ++ following)).run source).1.take pattern.length =
      ((fillPattern pattern).run source).1) ∧
    ((∀ place ∈ pattern, ¬IsMark place) →
      (fillPattern pattern).run source = (pattern, source)) ∧
    (generate "pattern" (Params.ofMembers [("pattern", .str (String.ofList pattern))])).run.run
        source =
      (.ok (.str (String.ofList ((fillPattern pattern).run source).1)),
        ((fillPattern pattern).run source).2) := by
  refine ⟨fillPattern_fills pattern source, fun following => ?_, fun hplain => ?_, ?_⟩
  · have hlength := (fillPattern_fills pattern source).length_eq
    rw [fillPattern_append]
    show (((fillPattern pattern).run source).1 ++ _).take pattern.length = _
    rw [hlength, List.take_left]
  · rw [fillPattern_of_no_mark hplain]
    rfl
  · rw [generate_pattern, String.toList_ofList]
    rfl

/-- A letter beyond ASCII is a place like any other. -/
theorem plain_pattern_left_alone :
    let pattern := ['Z', 'o', 'ë', '-', '7']
    let source := Source.ofSeed 7
    (∀ place ∈ pattern, ¬IsMark place) ∧ (fillPattern pattern).run source = (pattern, source) := by
  intro pattern source
  have hplain : ∀ place ∈ pattern, ¬IsMark place := by simp [pattern, IsMark]
  exact ⟨hplain, (patterns_filled_place_by_place pattern source).2.2.1 hplain⟩

end MockApi.Generator
