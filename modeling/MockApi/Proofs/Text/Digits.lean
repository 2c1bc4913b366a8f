import Mathlib.Tactic.IntervalCases
import MockApi.Text.Blank
import MockApi.Text.Digits

/-! Padded numbers digit by digit, from the last one. -/
namespace MockApi.Text

variable {width n digit : Nat}

theorem isDigit_digitChar (h : digit < 10) : isDigit (Nat.digitChar digit) = true := by
  interval_cases digit <;> rfl

theorem digitValue_digitChar (h : digit < 10) : digitValue (Nat.digitChar digit) = digit := by
  interval_cases digit <;> rfl

theorem isBlank_of_isDigit {c : Char} (h : isDigit c = true) : isBlank c = false := by
  have hcode : 48 ≤ c.toNat ∧ c.toNat ≤ 57 := by
    simpa [isDigit, Char.le_def, UInt32.le_iff_toNat_le] using h
  simp [isBlank]
  omega

theorem width_le_length_padded (width n : Nat) : width ≤ (padded width n).length := by
  rw [padded, List.length_append, List.length_replicate]
  omega

theorem padded_one (h : n < 10) : padded 1 n = [Nat.digitChar n] := by
  rw [padded, Nat.toDigits_of_lt_base h]
  rfl

/-- The last digit comes off the end, and a zero in front makes up for it if it was the only one. -/
theorem padded_succ (hwidth : 0 < width) (n : Nat) :
    padded (width + 1) n = padded width (n / 10) ++ [Nat.digitChar (n % 10)] := by
  unfold padded
  rw [Nat.toDigits_eq_if (n := n) (by omega)]
  by_cases h : n < 10
  · have hquotient : n / 10 = 0 := by omega
    have hremainder : n % 10 = n := by omega
    obtain ⟨zeros, rfl⟩ := Nat.exists_eq_add_of_lt hwidth
    simp [h, hquotient, hremainder, Nat.toDigits_of_lt_base, Nat.digitChar, List.replicate_succ']
  · simp [h]

theorem isDigit_of_mem_padded {c : Char} (h : c ∈ padded width n) : isDigit c = true := by
  rcases List.mem_append.mp h with hzero | hdigit
  · rw [List.eq_of_mem_replicate hzero]
    rfl
  · have hcore := Nat.isDigit_of_mem_toDigits (by decide) (by decide) hdigit
    simpa [Char.isDigit, isDigit, Char.le_def] using hcore

theorem padded_eq_cons (hwidth : 0 < width) (n : Nat) :
    ∃ c others, isDigit c = true ∧ padded width n = c :: others := by
  have hlength := width_le_length_padded width n
  obtain ⟨c, others, hpadded⟩ := List.exists_cons_of_length_pos (Nat.lt_of_lt_of_le hwidth hlength)
  exact ⟨c, others, isDigit_of_mem_padded (hpadded ▸ List.mem_cons_self), hpadded⟩

/-- A number that fits into the width takes no more. -/
theorem length_padded (hwidth : 0 < width) (h : n < 10 ^ width) :
    (padded width n).length = width := by
  have hdigits := (Nat.length_toDigits_le_iff (by decide) hwidth).mpr h
  rw [padded, List.length_append, List.length_replicate]
  omega

/-- A padded number reads as the number. -/
theorem digitsValue_padded (width n : Nat) : digitsValue (padded width n) = n := by
  have hzeros (zeros : Nat) (digits : List Char) :
      digitsValue (List.replicate zeros '0' ++ digits) = digitsValue digits := by
    induction zeros with
    | zero => rfl
    | succ zeros ih =>
      rw [List.replicate_succ]
      exact ih
  rw [padded, hzeros]
  exact Nat.ofDigitChars_toDigits (by decide) (by decide)

end MockApi.Text
