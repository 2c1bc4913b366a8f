import Mathlib.Tactic.Common
import MockApi.Calendar.Date

/-! Day numbers and dates: the date of a day number is in the calendar, and has that day number. -/
namespace MockApi.Date

variable {year : Int} {n : Int}

/-- The number of days in a list of months. -/
def total (lengths : List Nat) : Nat := lengths.foldr (· + ·) 0

theorem total_append (front back : List Nat) :
    total (front ++ back) = total front + total back := by
  induction front with
  | nil => simp [total]
  | cons length rest ih =>
    simp only [total, List.cons_append, List.foldr_cons] at ih ⊢
    omega

/-! ## Years -/

theorem daysBeforeYear_succ (year : Int) :
    daysBeforeYear (year + 1) = daysBeforeYear year + total (monthLengths year) := by
  have htotal : total (monthLengths year) = if leap year then 366 else 365 := by
    unfold monthLengths
    cases leap year <;> rfl
  rw [htotal]
  unfold daysBeforeYear leap
  by_cases h4 : year % 4 = 0 <;> by_cases h100 : year % 100 = 0 <;>
    by_cases h400 : year % 400 = 0 <;> simp [h4, h100, h400] <;> omega

/-- The estimate of the year is not off by more than one. -/
theorem day_in_yearOfDay (n : Int) :
    daysBeforeYear (yearOfDay n) ≤ n ∧ n < daysBeforeYear (yearOfDay n + 1) := by
  unfold yearOfDay
  dsimp only
  split
  · unfold daysBeforeYear at *
    omega
  · split
    · unfold daysBeforeYear at *
      omega
    · unfold daysBeforeYear at *
      omega

theorem daysBeforeYear_mono {other : Int} (h : year ≤ other) :
    daysBeforeYear year ≤ daysBeforeYear other := by
  unfold daysBeforeYear
  omega

/-! ## Months -/

/-- A day of so many months falls on one of them, behind the days of the months before it. -/
theorem monthAndDay_spec {lengths : List Nat} (month : Nat) {day : Nat} (h : day < total lengths) :
    ∃ i, ∃ hi : i < lengths.length, (monthAndDay month day lengths).1 = month + i ∧
      1 ≤ (monthAndDay month day lengths).2 ∧ (monthAndDay month day lengths).2 ≤ lengths[i] ∧
      total (lengths.take i) + (monthAndDay month day lengths).2 = day + 1 := by
  induction lengths generalizing month day with
  | nil => simp [total] at h
  | cons length rest ih =>
    rw [monthAndDay]
    split
    · next hlt => exact ⟨0, by simp, rfl, by simp, hlt, by simp [total]⟩
    · next hge =>
      have hrest : day - length < total rest := by
        simp only [total, List.foldr_cons] at h ⊢
        omega
      obtain ⟨i, hi, hmonth, hpos, hle, htotal⟩ := ih (month + 1) hrest
      refine ⟨i + 1, by simpa using hi, by omega, hpos, by simpa using hle, ?_⟩
      simp only [total, List.take_succ_cons, List.foldr_cons] at htotal ⊢
      omega

/-- The date is in the calendar, whether or not its year is supported. -/
def InCalendar (d : Date) : Prop :=
  1 ≤ d.day ∧ d.day ≤ (monthLength? d.year d.month).getD 0

theorem valid_iff (d : Date) :
    d.Valid ↔ leastYear ≤ d.year ∧ d.year ≤ greatestYear ∧ d.InCalendar :=
  Iff.rfl

/-- The date of a day number is a date, and it has this day number. -/
theorem ofDayNumber_spec (n : Int) :
    (ofDayNumber n).InCalendar ∧ (ofDayNumber n).dayNumber = n ∧
      1 ≤ (ofDayNumber n).month ∧ (ofDayNumber n).month ≤ 12 := by
  obtain ⟨hfrom, hto⟩ := day_in_yearOfDay n
  rw [daysBeforeYear_succ] at hto
  have hday : (n - daysBeforeYear (yearOfDay n)).toNat < total (monthLengths (yearOfDay n)) := by
    omega
  obtain ⟨i, hi, hmonth, hpos, hle, htotal⟩ := monthAndDay_spec 1 hday
  have hmonths : (monthLengths (yearOfDay n)).length = 12 := rfl
  have hlength : monthLength? (yearOfDay n) (1 + i) = some ((monthLengths (yearOfDay n))[i]) := by
    rw [monthLength?, if_neg (by omega), Nat.add_sub_cancel_left, List.getElem?_eq_getElem hi]
  unfold ofDayNumber InCalendar dayNumber daysBeforeMonth
  dsimp only
  rw [hmonth, hlength, Nat.add_sub_cancel_left]
  rw [total] at htotal
  exact ⟨⟨hpos, hle⟩, by omega, by omega, by omega⟩

/-- The days of a year have the day numbers between its first one and that of the next year. -/
theorem dayNumber_bounds {d : Date} (h : d.InCalendar) :
    daysBeforeYear d.year ≤ d.dayNumber ∧ d.dayNumber < daysBeforeYear (d.year + 1) := by
  obtain ⟨hpos, hle⟩ := h
  rw [daysBeforeYear_succ]
  have hin : daysBeforeMonth d.year d.month + d.day ≤ total (monthLengths d.year) := by
    unfold monthLength? at hle
    split at hle
    · simp at hle
      omega
    · rcases Nat.lt_or_ge (d.month - 1) (monthLengths d.year).length with hi | hi
      · rw [List.getElem?_eq_getElem hi, Option.getD_some] at hle
        have hsplit := List.take_append_drop (d.month - 1) (monthLengths d.year)
        rw [← hsplit, total_append, List.drop_eq_getElem_cons hi]
        unfold daysBeforeMonth
        rw [total, total, List.foldr_cons]
        omega
      · rw [List.getElem?_eq_none hi, Option.getD_none] at hle
        omega
  unfold dayNumber
  omega

/-- Later days are not in earlier years. -/
theorem year_ofDayNumber_mono {m : Int} (h : n ≤ m) :
    (ofDayNumber n).year ≤ (ofDayNumber m).year := by
  show yearOfDay n ≤ yearOfDay m
  have hn := day_in_yearOfDay n
  have hm := day_in_yearOfDay m
  by_contra hlt
  have hmono : daysBeforeYear (yearOfDay m + 1) ≤ daysBeforeYear (yearOfDay n) :=
    daysBeforeYear_mono (by omega)
  omega

theorem InCalendar.month_bounds {d : Date} (h : d.InCalendar) : 1 ≤ d.month ∧ d.month ≤ 12 := by
  obtain ⟨hpos, hle⟩ := h
  have hlength : (monthLengths d.year).length = 12 := rfl
  unfold monthLength? at hle
  split at hle
  · rw [Option.getD_none] at hle
    omega
  · by_contra hbounds
    rw [List.getElem?_eq_none (by omega), Option.getD_none] at hle
    omega

/-- No month is longer than 31 days. -/
theorem InCalendar.day_le {d : Date} (h : d.InCalendar) : d.day ≤ 31 := by
  have hlengths : ∀ length ∈ monthLengths d.year, length ≤ 31 := by
    unfold monthLengths
    cases leap d.year <;> decide
  obtain ⟨-, hle⟩ := h
  unfold monthLength? at hle
  split at hle
  · simp at hle
    omega
  · cases hlength : (monthLengths d.year)[d.month - 1]? with
    | none =>
      rw [hlength, Option.getD_none] at hle
      omega
    | some length =>
      rw [hlength, Option.getD_some] at hle
      have hlongest := hlengths length (List.mem_of_getElem? hlength)
      omega

end MockApi.Date
