import MockApi.Proofs.Calendar.Timestamp

/-! Dates that are written are read again, whatever the length and the sign of the year. -/
namespace MockApi.Date

open Text

variable {d : Date} {width : Option Nat} {digits rest : List Char} {n : Nat}

/-! ## Numbers -/

/-- A run of digits that the width has room for is read to its end. -/
theorem readNumber_append (hne : digits ≠ []) (hdigits : ∀ c ∈ digits, isDigit c = true)
    (hrest : rest.takeWhile isDigit = []) (hwidth : ∀ w ∈ width, digits.length ≤ w)
    (hlimit : digitsValue digits < numberLimit) :
    readNumber width (digits ++ rest) = .ok (digitsValue digits, rest) := by
  have hrun : (digits ++ rest).takeWhile isDigit = digits := by
    rw [List.takeWhile_append_of_pos hdigits, hrest, List.append_nil]
  have htaken : (digits ++ rest).drop digits.length = rest := List.drop_left
  obtain ⟨c, others, rfl⟩ := List.exists_cons_of_ne_nil hne
  unfold readNumber
  rw [hrun]
  cases width with
  | none =>
    dsimp only
    rw [if_neg (Nat.not_le.mpr hlimit), htaken]
  | some w =>
    dsimp only
    rw [List.take_of_length_le (hwidth w rfl)]
    dsimp only
    rw [if_neg (Nat.not_le.mpr hlimit), htaken]

theorem readNumber_padded {places : Nat} (hplaces : 0 < places)
    (hrest : rest.takeWhile isDigit = []) (hwidth : ∀ w ∈ width, (padded places n).length ≤ w)
    (hlimit : n < numberLimit) :
    readNumber width (padded places n ++ rest) = .ok (n, rest) := by
  obtain ⟨c, others, -, hpadded⟩ := padded_eq_cons hplaces n
  have hne : padded places n ≠ [] := by simp [hpadded]
  have hvalue := digitsValue_padded places n
  have hread := readNumber_append hne (fun c hc => isDigit_of_mem_padded hc) hrest hwidth
    (by rwa [hvalue])
  rwa [hvalue] at hread

/-! ## Years, months and days -/

theorem ok_bind {ε α β : Type} (a : α) (f : α → Except ε β) : (Except.ok a >>= f) = f a := rfl

/-- A number that was read becomes the year, or its negative, if it is not too large. -/
theorem checkYear_eq_ok {read : Except TimeFault (Nat × List Char)} (value : Nat → Int)
    (hread : read = .ok (n, rest)) (hfrom : -2 ^ 31 ≤ value n) (hto : value n < 2 ^ 31) :
    (read >>= fun result => pure (value result.1, result.2) >>= fun result =>
      if -2 ^ 31 ≤ result.1 ∧ result.1 < 2 ^ 31 then Except.ok (result.1, result.2)
      else .error TimeFault.outOfRange) = .ok (value n, rest) := by
  rw [hread, ok_bind, pure_bind]
  exact if_pos ⟨hfrom, hto⟩

theorem readYear_minus {text : List Char} (hread : readNumber none text = .ok (n, rest))
    (hn : n < 2 ^ 31) : readYear ('-' :: text) = .ok (-(n : Int), rest) :=
  checkYear_eq_ok (fun n => -(n : Int)) hread (by omega) (by omega)

theorem readYear_plus {text : List Char} (hread : readNumber none text = .ok (n, rest))
    (hn : n < 2 ^ 31) : readYear ('+' :: text) = .ok ((n : Int), rest) :=
  checkYear_eq_ok (fun n => (n : Int)) hread (by omega) (by omega)

theorem readYear_digits {c : Char} {text : List Char} (hc : isDigit c = true)
    (hread : readNumber (some 4) (c :: text) = .ok (n, rest)) (hn : n < 2 ^ 31) :
    readYear (c :: text) = .ok ((n : Int), rest) := by
  have hminus : c ≠ '-' := by
    rintro rfl
    exact absurd hc (by decide)
  have hplus : c ≠ '+' := by
    rintro rfl
    exact absurd hc (by decide)
  unfold readYear
  dsimp only
  split
  · next heq => exact (hminus (List.cons.inj heq).1).elim
  · next heq => exact (hplus (List.cons.inj heq).1).elim
  · exact checkYear_eq_ok (fun n => (n : Int)) hread (by omega) (by omega)

theorem readYear_renderYear {year : Int} (hleast : leastYear ≤ year)
    (hgreatest : year ≤ greatestYear) (hrest : rest.takeWhile isDigit = []) :
    readYear (renderYear year ++ rest) = .ok (year, rest) := by
  unfold leastYear at hleast
  unfold greatestYear at hgreatest
  have hlimit : year.natAbs < numberLimit := by
    unfold numberLimit
    omega
  have hwide : year.natAbs < 2 ^ 31 := by omega
  have hsigned : readNumber none (padded 4 year.natAbs ++ rest) = .ok (year.natAbs, rest) :=
    readNumber_padded (by decide) hrest (by simp) hlimit
  unfold renderYear
  by_cases hnegative : year < 0
  · have hyear : -(year.natAbs : Int) = year := by omega
    rw [if_pos hnegative, List.cons_append, readYear_minus hsigned hwide, hyear]
  · have hyear : (year.natAbs : Int) = year := by omega
    rw [if_neg hnegative]
    by_cases hlong : 9999 < year
    · rw [if_pos hlong, List.cons_append, readYear_plus hsigned hwide, hyear]
    · have hlength : (padded 4 year.natAbs).length = 4 := length_padded (by decide) (by omega)
      have hread : readNumber (some 4) (padded 4 year.natAbs ++ rest) = .ok (year.natAbs, rest) :=
        readNumber_padded (by decide) hrest (by simp [hlength]) hlimit
      obtain ⟨c, others, hc, hpadded⟩ := padded_eq_cons (show 0 < 4 by decide) year.natAbs
      rw [hpadded, List.cons_append] at hread
      rw [if_neg hlong, hpadded, List.cons_append, readYear_digits hc hread hwide, hyear]

/-- Two digits of a month or a day. -/
theorem readPart_padded {greatest : Nat} (hpos : 1 ≤ n) (hle : n ≤ greatest) (hn : n < 100)
    (hrest : rest.takeWhile isDigit = []) :
    readPart greatest (padded 2 n ++ rest) = .ok (n, rest) := by
  have hlength : (padded 2 n).length = 2 := length_padded (by decide) hn
  have hlimit : n < numberLimit := by
    unfold numberLimit
    omega
  have hread : readNumber (some 2) (padded 2 n ++ rest) = .ok (n, rest) :=
    readNumber_padded (by decide) hrest (by simp [hlength]) hlimit
  simp only [readPart, hread, bind, Except.bind]
  rw [if_pos ⟨hpos, hle⟩]

/-! ## Dates -/

theorem trimLeft_padded {places : Nat} (hplaces : 0 < places) (n : Nat) (rest : List Char) :
    trimLeft (padded places n ++ rest) = padded places n ++ rest := by
  obtain ⟨c, others, hc, hpadded⟩ := padded_eq_cons hplaces n
  have hblank : ¬isBlank c = true := by
    rw [isBlank_of_isDigit hc]
    exact Bool.false_ne_true
  rw [hpadded, List.cons_append, trimLeft, List.dropWhile_cons_of_neg hblank]

theorem trimLeft_renderYear (year : Int) (rest : List Char) :
    trimLeft (renderYear year ++ rest) = renderYear year ++ rest := by
  unfold renderYear
  split
  · rfl
  · split
    · rfl
    · exact trimLeft_padded (by decide) _ rest

theorem expect_cons (c : Char) (rest : List Char) : expect c (c :: rest) = .ok rest :=
  if_pos rfl

/-- A supported date is read back from its text. -/
theorem parse_render (h : d.Valid) : parse d.render = .ok d := by
  obtain ⟨hleast, hgreatest, hcalendar⟩ := (valid_iff d).mp h
  obtain ⟨hmonthPos, hmonthLe⟩ := hcalendar.month_bounds
  have hdayLe := hcalendar.day_le
  have hdash (rest : List Char) : ('-' :: rest).takeWhile isDigit = [] := rfl
  have hyear := readYear_renderYear hleast hgreatest
    (hdash (padded 2 d.month ++ '-' :: (padded 2 d.day ++ [])))
  have hmonth := readPart_padded hmonthPos hmonthLe (by omega) (hdash (padded 2 d.day ++ []))
  have hday : readPart 31 (padded 2 d.day ++ []) = .ok (d.day, []) :=
    readPart_padded hcalendar.1 hdayLe (by omega) rfl
  have htext : d.renderChars =
      renderYear d.year ++ '-' :: (padded 2 d.month ++ '-' :: (padded 2 d.day ++ [])) := by
    simp [renderChars]
  rw [parse, render, String.toList_ofList, htext, parseChars, trimLeft_renderYear, hyear, ok_bind]
  dsimp only
  rw [expect_cons, ok_bind, trimLeft_padded (by decide), hmonth, ok_bind]
  dsimp only
  rw [expect_cons, ok_bind, trimLeft_padded (by decide), hday, ok_bind]
  dsimp only
  rw [if_neg (not_not.mpr rfl), if_pos h]

/-- Only supported dates are read. -/
theorem valid_of_parse {text : String} (h : parse text = .ok d) : d.Valid := by
  unfold parse parseChars at h
  obtain ⟨year, -, h⟩ := Instant.exists_of_bind_eq_ok h
  obtain ⟨_, -, h⟩ := Instant.exists_of_bind_eq_ok h
  obtain ⟨month, -, h⟩ := Instant.exists_of_bind_eq_ok h
  obtain ⟨_, -, h⟩ := Instant.exists_of_bind_eq_ok h
  obtain ⟨day, -, h⟩ := Instant.exists_of_bind_eq_ok h
  dsimp only at h
  split at h
  · cases h
  · split at h
    · next hvalid =>
      cases h
      exact hvalid
    · cases h

end MockApi.Date
