import MockApi.Proofs.Calendar.DayNumber

/-! Dates in the order of the calendar. Day numbers have the same order, so that a date is known by
its day number. -/
namespace MockApi.Date

variable {a b d : Date}

/-- An earlier year, an earlier month of one year, or an earlier day of one month. -/
instance : LT Date where
  lt a b := a.year < b.year ∨
    a.year = b.year ∧ (a.month < b.month ∨ a.month = b.month ∧ a.day < b.day)

instance : LE Date where
  le a b := a < b ∨ a = b

theorem lt_iff : a < b ↔ a.year < b.year ∨
    a.year = b.year ∧ (a.month < b.month ∨ a.month = b.month ∧ a.day < b.day) :=
  Iff.rfl

theorem lt_or_eq_or_gt (a b : Date) : a < b ∨ a = b ∨ b < a := by
  obtain ⟨year, month, day⟩ := a
  obtain ⟨year', month', day'⟩ := b
  simp only [lt_iff, Date.mk.injEq]
  omega

/-! ## Months -/

theorem daysBeforeMonth_mono (year : Int) {month later : Nat} (h : month ≤ later) :
    daysBeforeMonth year month ≤ daysBeforeMonth year later := by
  have hle : month - 1 ≤ later - 1 := by omega
  obtain ⟨between, hbetween⟩ := List.take_prefix_take_left (l := monthLengths year) hle
  have htotal := congrArg total hbetween
  rw [total_append] at htotal
  unfold daysBeforeMonth
  unfold total at htotal
  omega

/-- A month is over before the next one begins. -/
theorem InCalendar.before_next_month (h : d.InCalendar) :
    daysBeforeMonth d.year d.month + d.day ≤ daysBeforeMonth d.year (d.month + 1) := by
  obtain ⟨hpos, hle⟩ := h
  unfold monthLength? at hle
  split at hle
  · rw [Option.getD_none] at hle
    omega
  · next hmonth =>
    obtain ⟨index, hindex⟩ := Nat.exists_eq_add_of_le' (Nat.pos_of_ne_zero hmonth)
    rw [hindex, Nat.add_sub_cancel] at hle
    unfold daysBeforeMonth
    rw [hindex, Nat.add_sub_cancel, Nat.add_sub_cancel]
    cases hlength : (monthLengths d.year)[index]? with
    | none =>
      rw [hlength, Option.getD_none] at hle
      omega
    | some length =>
      rw [hlength, Option.getD_some] at hle
      have htotal := total_append ((monthLengths d.year).take index) [length]
      rw [List.take_add_one, hlength, Option.toList_some]
      simp only [total, List.foldr_cons, List.foldr_nil] at htotal
      omega

/-! ## Day numbers -/

theorem dayNumber_lt_of_lt (ha : a.InCalendar) (hb : b.InCalendar) (h : a < b) :
    a.dayNumber < b.dayNumber := by
  rcases lt_iff.mp h with hyear | ⟨hyear, hmonth | ⟨hmonth, hday⟩⟩
  · obtain ⟨-, haend⟩ := dayNumber_bounds ha
    obtain ⟨hbstart, -⟩ := dayNumber_bounds hb
    have hyears : daysBeforeYear (a.year + 1) ≤ daysBeforeYear b.year :=
      daysBeforeYear_mono (by omega)
    omega
  · have hend := ha.before_next_month
    have hmonths := daysBeforeMonth_mono a.year (show a.month + 1 ≤ b.month from hmonth)
    have hpos := hb.1
    unfold dayNumber
    rw [← hyear]
    omega
  · unfold dayNumber
    rw [hyear, hmonth]
    omega

theorem dayNumber_le_iff (ha : a.InCalendar) (hb : b.InCalendar) :
    a.dayNumber ≤ b.dayNumber ↔ a ≤ b := by
  constructor
  · intro hle
    rcases lt_or_eq_or_gt a b with hlt | heq | hgt
    · exact .inl hlt
    · exact .inr heq
    · have := dayNumber_lt_of_lt hb ha hgt
      omega
  · rintro (hlt | rfl)
    · exact Int.le_of_lt (dayNumber_lt_of_lt ha hb hlt)
    · exact Int.le_refl _

theorem le_antisymm (hab : a ≤ b) (hba : b ≤ a) : a = b := by
  rcases hab with hab | heq
  · rcases hba with hba | heq
    · rw [lt_iff] at hab hba
      omega
    · exact heq.symm
  · exact heq

end MockApi.Date
