import MockApi.Proofs.Calendar.DateText
import MockApi.Proofs.Calendar.Order
import MockApi.Proofs.Draw.Bounds
import MockApi.Proofs.Generator.Acceptance

/-! Generated dates: they are drawn exactly for the intervals of supported days, and from the whole
interval. -/
namespace MockApi

namespace Date

variable {start stop d : Date}

theorem year_le_of_le (h : start ≤ stop) : start.year ≤ stop.year := by
  rcases h with hlt | rfl
  · rw [lt_iff] at hlt
    omega
  · exact Int.le_refl _

/-- The day numbers of the first and the last supported day. -/
theorem dayNumber_range (h : d.Valid) : -95746130 ≤ d.dayNumber ∧ d.dayNumber < 95745399 := by
  obtain ⟨hleast, hgreatest, hcalendar⟩ := (valid_iff d).mp h
  obtain ⟨hfrom, hto⟩ := dayNumber_bounds hcalendar
  have hfirst := daysBeforeYear_mono hleast
  have hlast := daysBeforeYear_mono (show d.year + 1 ≤ greatestYear + 1 by omega)
  have hleastDay : daysBeforeYear leastYear = -95746130 := by decide
  have hgreatestDay : daysBeforeYear (greatestYear + 1) = 95745399 := by decide
  omega

/-- A day number between those of two supported dates belongs to a supported date between them. -/
theorem ofDayNumber_between (hstart : start.Valid) (hstop : stop.Valid) {n : Int}
    (hfrom : start.dayNumber ≤ n) (hto : n ≤ stop.dayNumber) :
    (ofDayNumber n).Valid ∧ start ≤ ofDayNumber n ∧ ofDayNumber n ≤ stop := by
  obtain ⟨hleast, -, hstartIn⟩ := (valid_iff start).mp hstart
  obtain ⟨-, hgreatest, hstopIn⟩ := (valid_iff stop).mp hstop
  obtain ⟨hcalendar, hnumber, -⟩ := ofDayNumber_spec n
  have hafter : start ≤ ofDayNumber n := (dayNumber_le_iff hstartIn hcalendar).mp (by omega)
  have hbefore : ofDayNumber n ≤ stop := (dayNumber_le_iff hcalendar hstopIn).mp (by omega)
  have hvalid : (ofDayNumber n).Valid := (valid_iff _).mpr
    ⟨Int.le_trans hleast (year_le_of_le hafter), Int.le_trans (year_le_of_le hbefore) hgreatest,
      hcalendar⟩
  exact ⟨hvalid, hafter, hbefore⟩

theorem before_eq_true_iff (hstart : start.Valid) (hstop : stop.Valid) :
    stop.before start = true ↔ ¬start ≤ stop := by
  rw [← dayNumber_le_iff ((valid_iff _).mp hstart).2.2 ((valid_iff _).mp hstop).2.2, Int.not_le]
  exact decide_eq_true_iff

/-- A JSON text that is read as the date. -/
def ReadFrom (value : Json) (d : Date) : Prop := ∃ text, value = .str text ∧ parse text = .ok d

theorem ReadFrom.valid {value : Json} (h : ReadFrom value d) : d.Valid := by
  obtain ⟨text, -, hread⟩ := h
  exact valid_of_parse hread

theorem ReadFrom.unique {value : Json} {other : Date} (h : ReadFrom value d)
    (hother : ReadFrom value other) : d = other := by
  obtain ⟨text, rfl, hread⟩ := h
  obtain ⟨_, ⟨⟩, hreadOther⟩ := hother
  exact Except.ok.inj (hread.symm.trans hreadOther)

theorem readFrom_render (h : d.Valid) : ReadFrom (.str d.render) d :=
  ⟨d.render, rfl, parse_render h⟩

end Date

namespace Generator

variable {params : Params}

/-- The parameters ask for the days from one date to another: nothing but the two bounds is given,
and they, or their defaults, are texts that are read as dates in their order. -/
structure DateRange (params : Params) (start stop : Date) : Prop where
  only : params.Only ["from", "to"] fun value => ∃ text, value = .str text
  start_eq : Date.ReadFrom (params.valueOr "from" (.str "2000-01-01")) start
  stop_eq : Date.ReadFrom (params.valueOr "to" (.str "2030-12-31")) stop
  ordered : start ≤ stop

theorem accepts_string_iff {value : Json} :
    ParamKind.string.accepts value = true ↔ ∃ text, value = .str text := by
  cases value <;> simp [ParamKind.accepts, Json.asString?]

theorem check_timeParams_iff : check timeParams params = .ok () ↔
    params.Only ["from", "to"] fun value => ∃ text, value = .str text := by
  have hspecs : ∀ spec ∈ timeParams, spec.required = false ∧ spec.kind = .string := by decide
  rw [check_optional_eq_ok_iff hspecs]
  simp only [accepts_string_iff]
  rfl

theorem valueOr_str {names : List String}
    (h : params.Only names fun value => ∃ text, value = .str text) (name default : String) :
    params.valueOr name (.str default) = .str (textOr params name default) := by
  unfold Params.valueOr textOr
  cases hvalue : params.find? name with
  | none => rfl
  | some value =>
    obtain ⟨-, text, rfl⟩ := h name value hvalue
    rfl

/-- Of texts, a bound is the date that the text is read as, or it is refused. -/
theorem dateParam_cases {names : List String}
    (h : params.Only names fun value => ∃ text, value = .str text) (name default : String) :
    (∃ d, Date.ReadFrom (params.valueOr name (.str default)) d ∧
      Succeeds (fun read => read = d) (dateParam params name default)) ∨
    ((∀ d, ¬Date.ReadFrom (params.valueOr name (.str default)) d) ∧
      ∃ fault, Fails (.fault fault) (dateParam params name default)) := by
  rw [valueOr_str h name default]
  unfold dateParam
  cases hread : Date.parse (textOr params name default) with
  | ok d => exact .inl ⟨d, ⟨_, rfl, hread⟩, .pure rfl⟩
  | error fault =>
    refine .inr ⟨?_, _, .throw _⟩
    rintro d ⟨_, ⟨⟩, hok⟩
    cases hread.symm.trans hok

theorem dateParam_succeeds {names : List String} {d : Date}
    (h : params.Only names fun value => ∃ text, value = .str text) (name default : String)
    (hd : Date.ReadFrom (params.valueOr name (.str default)) d) :
    Succeeds (fun read => read = d) (dateParam params name default) := by
  rcases dateParam_cases h name default with ⟨other, hother, hsucceeds⟩ | ⟨hnone, -⟩
  · exact hother.unique hd ▸ hsucceeds
  · exact (hnone d hd).elim

theorem date_succeeds {start stop : Date} (h : DateRange params start stop) :
    Succeeds (fun value => ∃ d, Date.ReadFrom value d ∧ start ≤ d ∧ d ≤ stop)
      (date.produce params) := by
  have hstart := h.start_eq.valid
  have hstop := h.stop_eq.valid
  apply (dateParam_succeeds h.only _ _ h.start_eq).bind_eq
  apply (dateParam_succeeds h.only _ _ h.stop_eq).bind_eq
  have horder : ¬stop.before start = true :=
    fun hbefore => (Date.before_eq_true_iff hstart hstop).mp hbefore h.ordered
  refine Succeeds.check horder ?_
  have hdays : 0 ≤ stop.dayNumber - start.dayNumber := by
    simp [Date.before] at horder
    omega
  have hfirst := Date.dayNumber_range hstart
  have hlast := Date.dayNumber_range hstop
  have hoffset := Draw.between_mem hdays (by omega) (by omega)
  refine (Succeeds.lift hoffset).bind fun offset ⟨hfrom, hto⟩ => .pure ?_
  obtain ⟨hvalid, hafter, hbefore⟩ := Date.ofDayNumber_between hstart hstop
    (show start.dayNumber ≤ start.dayNumber + offset by omega) (by omega)
  exact ⟨_, Date.readFrom_render hvalid, hafter, hbefore⟩

theorem date_fails (honly : params.Only ["from", "to"] fun value => ∃ text, value = .str text)
    (hnone : ¬∃ start stop, DateRange params start stop) :
    ∃ fault, Fails (.fault fault) (date.produce params) := by
  rcases dateParam_cases honly "from" "2000-01-01" with
    ⟨start, hstart, hsucceeds⟩ | ⟨-, fault, hfails⟩
  · rcases dateParam_cases honly "to" "2030-12-31" with
      ⟨stop, hstop, hsucceeds'⟩ | ⟨-, fault, hfails⟩
    · have horder : stop.before start = true :=
        (Date.before_eq_true_iff hstart.valid hstop.valid).mpr fun hle =>
          hnone ⟨start, stop, honly, hstart, hstop, hle⟩
      refine ⟨.reversedTimes start.render stop.render, ?_⟩
      apply Fails.bind_eq hsucceeds
      apply Fails.bind_eq hsucceeds'
      exact .check horder
    · exact ⟨fault, .bind_eq hsucceeds hfails.bind⟩
  · exact ⟨fault, hfails.bind⟩

/-- Dates are drawn for exactly the parameters that ask for an interval of supported days. What is
drawn reads back, by the same rules, as a date of the interval. -/
theorem dates_keep_to_interval (params : Params) (source : Source) :
    Honours "date" params source (DateRange params) fun start stop value =>
      ∃ d, Date.ReadFrom value d ∧ start ≤ d ∧ d ≤ stop ∧ (start = stop → d = start) := by
  apply honours_of_produce (show find? "date" = some date by rfl)
  · intro start stop h
    exact check_timeParams_iff.mpr h.only
  · intro start stop h
    refine (date_succeeds h).mono fun value ⟨d, hread, hafter, hbefore⟩ => ?_
    refine ⟨d, hread, hafter, hbefore, ?_⟩
    rintro rfl
    exact Date.le_antisymm hbefore hafter
  · intro hcheck hnone
    exact date_fails (check_timeParams_iff.mp hcheck) hnone

end Generator
end MockApi
