import MockApi.Calendar.Instant
import MockApi.Proofs.Calendar.DayNumber
import MockApi.Proofs.Text.Digits

/-! Timestamps that are written and read again. -/
namespace MockApi.Instant

open Text

variable {n : Nat} {rest : List Char}

/-! ## Numbers of two and four digits -/

theorem digit_digitChar (h : n < 10) (rest : List Char) :
    digit (Nat.digitChar n :: rest) = .ok (n, rest) := by
  rw [digit, isDigit_digitChar h, digitValue_digitChar h]
  rfl

theorem twoDigits_padded (h : n < 100) (rest : List Char) :
    twoDigits (padded 2 n ++ rest) = .ok (n, rest) := by
  have htens : n / 10 < 10 := by omega
  have hunits : n % 10 < 10 := by omega
  have hvalue : 10 * (n / 10) + n % 10 = n := by omega
  rw [padded_succ (by omega), padded_one htens, twoDigits, List.append_assoc, List.singleton_append,
    digit_digitChar htens]
  show (digit (Nat.digitChar (n % 10) :: rest) >>= fun result =>
    pure (10 * (n / 10) + result.1, result.2)) = _
  rw [digit_digitChar hunits]
  show Except.ok (10 * (n / 10) + n % 10, rest) = _
  rw [hvalue]

theorem fourDigits_padded (h : n < 10000) (rest : List Char) :
    fourDigits (padded 4 n ++ rest) = .ok (n, rest) := by
  have hfront : n / 100 < 100 := by omega
  have hback : n % 100 < 100 := by omega
  have hvalue : 100 * (n / 100) + n % 100 = n := by omega
  have hsplit : padded 4 n = padded 2 (n / 100) ++ padded 2 (n % 100) := by
    rw [padded_succ (by omega), padded_succ (by omega), padded_succ (n := n % 100) (by omega),
      padded_one (by omega), Nat.div_div_eq_div_mul, List.append_assoc]
    congr 4 <;> omega
  rw [hsplit, fourDigits, List.append_assoc, twoDigits_padded hfront]
  show (twoDigits (padded 2 (n % 100) ++ rest) >>= fun result =>
    pure (100 * (n / 100) + result.1, result.2)) = _
  rw [twoDigits_padded hback]
  show Except.ok (100 * (n / 100) + n % 100, rest) = _
  rw [hvalue]

/-! ## What is written is read -/

variable {year month day hour minute second : Nat}

/-- A timestamp from its parts. -/
def stamp (year month day hour minute second : Nat) : List Char :=
  padded 4 year ++ '-' :: (padded 2 month ++ '-' :: (padded 2 day ++ 'T' ::
    (padded 2 hour ++ ':' :: (padded 2 minute ++ ':' :: (padded 2 second ++ ['Z'])))))

theorem length_le_byteCount (text : List Char) : text.length ≤ byteCount text := by
  have hfold (text : List Char) (n : Nat) :
      n + text.length ≤ text.foldl (fun n c => n + c.utf8Size) n := by
    induction text generalizing n with
    | nil => exact Nat.le_refl n
    | cons c rest ih =>
      have hrest := ih (n + c.utf8Size)
      have hpos := c.utf8Size_pos
      rw [List.foldl_cons, List.length_cons]
      omega
  have h := hfold text 0
  rw [Nat.zero_add] at h
  exact h

theorem leastLength_le_stamp (year month day hour minute second : Nat) :
    leastLength ≤ byteCount (stamp year month day hour minute second) := by
  apply Nat.le_trans _ (length_le_byteCount _)
  have hyear := width_le_length_padded 4 year
  have hmonth := width_le_length_padded 2 month
  have hday := width_le_length_padded 2 day
  have hhour := width_le_length_padded 2 hour
  have hminute := width_le_length_padded 2 minute
  have hsecond := width_le_length_padded 2 second
  simp only [stamp, leastLength, List.length_append, List.length_cons, List.length_nil]
  omega

theorem parseChars_stamp (hyear : year < 10000) (hdate : (Date.mk year month day).Valid)
    (hmonth : month < 100) (hday : day < 100) (hhour : hour < 24) (hminute : minute < 60)
    (hsecond : second < 60) :
    parseChars (stamp year month day hour minute second) =
      .ok ⟨((Date.mk year month day).dayNumber - epochDay) * secondsPerDay + 3600 * hour +
        60 * minute + second, 0⟩ := by
  have hlength := Nat.not_lt.mpr (leastLength_le_stamp year month day hour minute second)
  have hoffset : readOffset ['Z'] = .ok (0, []) := rfl
  have hfraction : readFraction ['Z'] = .ok (0, ['Z']) := rfl
  have hplain : second ≠ 60 := by omega
  have hclock : ¬(hour ≥ 24 ∨ minute ≥ 60 ∨ second ≥ 60) := by omega
  unfold parseChars
  rw [if_neg hlength]
  simp [stamp, fourDigits_padded hyear, twoDigits_padded hmonth, twoDigits_padded hday,
    twoDigits_padded (show hour < 100 by omega), twoDigits_padded (show minute < 100 by omega),
    twoDigits_padded (show second < 100 by omega), mark, hdate, hoffset, hfraction, hplain, hclock,
    secondsPerDay, bind, Except.bind, pure, Except.pure]

variable {t : Instant}

theorem renderChars_eq_stamp (hfirst : 0 ≤ t.date.year) (hlast : t.date.year ≤ 9999) :
    t.renderChars = stamp t.date.year.natAbs t.date.month t.date.day (t.secondOfDay / 3600)
      (t.secondOfDay / 60 % 60) (t.secondOfDay % 60) := by
  have hyear : Date.renderYear t.date.year = padded 4 t.date.year.natAbs := by
    unfold Date.renderYear
    rw [if_neg (by omega), if_neg (by omega)]
  simp [renderChars, Date.renderChars, clock, stamp, hyear]

/-- A timestamp of whole seconds with a year of four digits reads back as the instant. -/
theorem parse_render (hwhole : t.nanos = 0) (hfirst : 0 ≤ t.date.year)
    (hlast : t.date.year ≤ 9999) : parse t.render = .ok t := by
  obtain ⟨hcalendar, hnumber, -, hmonth⟩ :=
    Date.ofDayNumber_spec (t.seconds / secondsPerDay + epochDay)
  have hday := hcalendar.day_le
  have hyear : (t.date.year.natAbs : Int) = t.date.year := by omega
  have hdate : Date.mk t.date.year.natAbs t.date.month t.date.day = t.date := by
    rw [hyear]
  have hvalid : (Date.mk t.date.year.natAbs t.date.month t.date.day).Valid := by
    rw [hdate]
    exact (Date.valid_iff _).mpr ⟨by unfold Date.leastYear; omega,
      by unfold Date.greatestYear; omega, hcalendar⟩
  have hsecond : t.secondOfDay < 86400 := by
    unfold secondOfDay secondsPerDay
    omega
  rw [parse, render, String.toList_ofList, renderChars_eq_stamp hfirst hlast,
    parseChars_stamp (by omega) hvalid (show t.date.month < 100 by unfold date; omega)
      (show t.date.day < 100 by unfold date; omega) (by omega) (by omega) (by omega), hdate]
  show Except.ok _ = Except.ok (Instant.mk t.seconds t.nanos)
  rw [hwhole, date, hnumber]
  congr 2
  unfold secondOfDay secondsPerDay
  omega

/-- A year with a sign in front is not read. -/
theorem exists_fault_parse_render (hyear : t.date.year < 0 ∨ 9999 < t.date.year) :
    ∃ fault, parse t.render = .error fault := by
  have hsign : ∃ sign rest, isDigit sign = false ∧ t.renderChars = sign :: rest := by
    unfold renderChars Date.renderChars Date.renderYear
    rcases hyear with hbefore | hafter
    · rw [if_pos hbefore]
      exact ⟨'-', _, rfl, rfl⟩
    · rw [if_neg (by omega), if_pos hafter]
      exact ⟨'+', _, rfl, rfl⟩
  obtain ⟨sign, rest, hdigit, htext⟩ := hsign
  have hyear : fourDigits (sign :: rest) = .error .invalid := by
    unfold fourDigits twoDigits
    rw [digit, hdigit]
    rfl
  rw [parse, render, String.toList_ofList, htext, parseChars]
  split
  · exact ⟨.tooShort, rfl⟩
  · rw [hyear]
    exact ⟨.invalid, rfl⟩

/-- A timestamp of whole seconds is read exactly if its year has four digits and no sign. -/
theorem parse_render_eq_ok_iff (hwhole : t.nanos = 0) {u : Instant} :
    parse t.render = .ok u ↔ u = t ∧ 0 ≤ t.date.year ∧ t.date.year ≤ 9999 := by
  constructor
  · intro hread
    by_cases hyear : t.date.year < 0 ∨ 9999 < t.date.year
    · obtain ⟨fault, hfault⟩ := exists_fault_parse_render hyear
      rw [hfault] at hread
      cases hread
    · have hfirst : 0 ≤ t.date.year := by omega
      have hlast : t.date.year ≤ 9999 := by omega
      rw [parse_render hwhole hfirst hlast] at hread
      exact ⟨(Except.ok.inj hread).symm, hfirst, hlast⟩
  · rintro ⟨rfl, hfirst, hlast⟩
    exact parse_render hwhole hfirst hlast

/-! ## How far apart instants can be -/

theorem exists_of_bind_eq_ok {ε α β : Type} {x : Except ε α} {f : α → Except ε β} {b : β}
    (h : (x >>= f) = .ok b) : ∃ a, x = .ok a ∧ f a = .ok b := by
  cases x with
  | ok a => exact ⟨a, rfl, h⟩
  | error e => cases h

/-- Behind a check that let pass, its condition does not hold. -/
theorem of_check_eq_ok {ε α β : Type} {c : Prop} [Decidable c] {e : ε} {f : α → Except ε β}
    {x : Except ε β} {b : β} (h : (if c then throw e >>= f else x) = .ok b) : ¬c ∧ x = .ok b := by
  by_cases hc : c
  · rw [if_pos hc] at h
    cases h
  · rw [if_neg hc] at h
    exact ⟨hc, h⟩

/-- An instant that was read is not a day or more away from the date in its timestamp. -/
theorem near_date_of_parse {text : String} (h : parse text = .ok t) :
    ∃ d : Date, d.Valid ∧ (d.dayNumber - epochDay - 1) * secondsPerDay < t.seconds ∧
      t.seconds < (d.dayNumber - epochDay + 2) * secondsPerDay := by
  unfold parse parseChars at h
  obtain ⟨-, h⟩ := of_check_eq_ok h
  obtain ⟨year, -, h⟩ := exists_of_bind_eq_ok h
  obtain ⟨_, -, h⟩ := exists_of_bind_eq_ok h
  obtain ⟨month, -, h⟩ := exists_of_bind_eq_ok h
  obtain ⟨_, -, h⟩ := exists_of_bind_eq_ok h
  obtain ⟨day, -, h⟩ := exists_of_bind_eq_ok h
  obtain ⟨hvalid, h⟩ := of_check_eq_ok h
  obtain ⟨_, -, h⟩ := exists_of_bind_eq_ok h
  obtain ⟨hour, -, h⟩ := exists_of_bind_eq_ok h
  obtain ⟨_, -, h⟩ := exists_of_bind_eq_ok h
  obtain ⟨minute, -, h⟩ := exists_of_bind_eq_ok h
  obtain ⟨_, -, h⟩ := exists_of_bind_eq_ok h
  obtain ⟨second, -, h⟩ := exists_of_bind_eq_ok h
  obtain ⟨nanos, -, h⟩ := exists_of_bind_eq_ok h
  obtain ⟨hclock, h⟩ := of_check_eq_ok h
  obtain ⟨⟨offset, _⟩, -, h⟩ := exists_of_bind_eq_ok h
  obtain ⟨-, h⟩ := of_check_eq_ok h
  obtain ⟨hoffset, h⟩ := of_check_eq_ok h
  cases h
  apply Exists.intro (Date.mk year.1 month.1 day.1)
  unfold secondsPerDay at hoffset ⊢
  dsimp only at hoffset ⊢
  exact ⟨not_not.mp hvalid, by omega, by omega⟩

/-- The seconds of an instant that was read fit into 64 bits with a sign. -/
theorem seconds_bounds_of_parse {text : String} (h : parse text = .ok t) :
    -2 ^ 63 ≤ t.seconds ∧ t.seconds < 2 ^ 63 := by
  obtain ⟨d, hvalid, hafter, hbefore⟩ := near_date_of_parse h
  obtain ⟨hleast, hgreatest, hcalendar⟩ := (Date.valid_iff d).mp hvalid
  obtain ⟨hfrom, hto⟩ := Date.dayNumber_bounds hcalendar
  have hfirst := Date.daysBeforeYear_mono hleast
  have hlast := Date.daysBeforeYear_mono (show d.year + 1 ≤ Date.greatestYear + 1 by omega)
  have hleastDay : Date.daysBeforeYear Date.leastYear = -95746130 := by decide
  have hgreatestDay : Date.daysBeforeYear (Date.greatestYear + 1) = 95745399 := by decide
  unfold secondsPerDay epochDay at hafter hbefore
  omega

end MockApi.Instant
