import MockApi.Proofs.Calendar.Timestamp
import MockApi.Proofs.Generator.Output

/-! Generated timestamps and the interval they are drawn for. -/
namespace MockApi

/-- How an instant drawn for two others lies to them. It keeps to the later one and to the years of
both, but where the earlier one has a fraction its second may be drawn, without the fraction. -/
structure Instant.DrawnBetween (t start stop : Instant) : Prop where
  whole : t.nanos = 0
  second_le : start.seconds ≤ t.seconds
  not_after : stop.before t = false
  before_iff : t.before start = true ↔ t.seconds = start.seconds ∧ start.nanos ≠ 0
  years : start.date.year ≤ t.date.year ∧ t.date.year ≤ stop.date.year

namespace Instant

variable {start stop t : Instant}

/-- Later instants are not in earlier years. -/
theorem year_mono (h : start.seconds ≤ stop.seconds) : start.date.year ≤ stop.date.year := by
  apply Date.year_ofDayNumber_mono
  have hdays : start.seconds / secondsPerDay ≤ stop.seconds / secondsPerDay :=
    Int.ediv_le_ediv (by decide) h
  omega

theorem drawnBetween_of_mem {second : Int} (hstart : start.seconds ≤ second)
    (hstop : second ≤ stop.seconds) : (Instant.mk second 0).DrawnBetween start stop where
  whole := rfl
  second_le := hstart
  not_after := by simp [before]; omega
  before_iff := by simp [before]; omega
  years := ⟨year_mono hstart, year_mono hstop⟩

end Instant

namespace Generator

/-- The instants that the parameters, or else their defaults, denote. -/
structure Bounds (params : Params) (start stop : Instant) : Prop where
  start_eq : Instant.parse (textOr params "from" "2000-01-01T00:00:00Z") = .ok start
  stop_eq : Instant.parse (textOr params "to" "2030-12-31T23:59:59Z") = .ok stop

theorem instantParam_yields (params : Params) (name default : String) :
    Yields (fun t => Instant.parse (textOr params name default) = .ok t)
      (instantParam params name default) := by
  unfold instantParam
  cases hread : Instant.parse (textOr params name default) with
  | ok t => exact Yields.pure rfl
  | error fault => exact Yields.throw _

theorem dateTime_between (params : Params) :
    Yields (fun value => ∃ start stop t : Instant, Bounds params start stop ∧
      value = .str t.render ∧ t.DrawnBetween start stop) (dateTime.produce params) := by
  refine (instantParam_yields params _ _).bind fun start hstart =>
    (instantParam_yields params _ _).bind fun stop hstop => Yields.check fun horder => ?_
  have hlow := Instant.seconds_bounds_of_parse hstart
  have hhigh := Instant.seconds_bounds_of_parse hstop
  have hle : start.seconds ≤ stop.seconds := by
    simp [Instant.before] at horder
    omega
  refine (Yields.lift (Draw.between_mem hle hlow.1 hhigh.2)).bind fun second hsecond => ?_
  apply Yields.pure
  exact ⟨start, stop, ⟨second, 0⟩, ⟨hstart, hstop⟩, rfl,
    Instant.drawnBetween_of_mem hsecond.1 hsecond.2⟩

/-- Whatever the source is, a generated timestamp denotes an instant that was drawn between those of
the parameters. It is read back as this instant if the year has four digits and no sign, but not
otherwise. -/
theorem timestamps_keep_to_seconds_of_bounds (params : Params) (source : Source) (value : Json)
    (h : ((generate "dateTime" params).run.run source).1 = .ok value) :
    ∃ start stop t : Instant, Bounds params start stop ∧ value = .str t.render ∧
      t.DrawnBetween start stop ∧
      ∀ u, Instant.parse t.render = .ok u ↔ u = t ∧ 0 ≤ t.date.year ∧ t.date.year ≤ 9999 := by
  have hyields := (run_yields dateTime params (dateTime_between params)).adapt
    (Abort.map fun fault => GeneratorFault.refused "dateTime" fault.message)
  obtain ⟨start, stop, t, hbounds, hvalue, hdrawn⟩ := hyields source value h
  exact ⟨start, stop, t, hbounds, hvalue, hdrawn,
    fun u => Instant.parse_render_eq_ok_iff hdrawn.whole⟩

theorem eq_ok_of_text {ε : Type} {outcome : Except ε Json} {text : String}
    (h : outcome.toOption.bind Json.asString? = some text) : outcome = .ok (.str text) := by
  cases outcome with
  | error fault => cases h
  | ok value =>
    cases value <;> cases h
    rfl

/-- The second behind a leap second, with bounds from two time zones. -/
theorem timestamp_behind_leap_second :
    let params := Params.ofMembers [("from", .str "2016-12-31T23:59:60.25Z"),
      ("to", .str "2017-01-01T01:00:01+01:00")]
    let value := Json.str "2017-01-01T00:00:00Z"
    ((generate "dateTime" params).run.run (Source.ofSeed 5)).1 = .ok value ∧
      ∃ start stop t : Instant, Bounds params start stop ∧ value = .str t.render ∧
        t.DrawnBetween start stop ∧
        ∀ u, Instant.parse t.render = .ok u ↔ u = t ∧ 0 ≤ t.date.year ∧ t.date.year ≤ 9999 := by
  have hvalue : generateSeeded "dateTime" (Params.ofMembers
      [("from", .str "2016-12-31T23:59:60.25Z"), ("to", .str "2017-01-01T01:00:01+01:00")]) 5 =
        .ok (.str "2017-01-01T00:00:00Z") :=
    eq_ok_of_text (by decide +kernel)
  exact ⟨hvalue, timestamps_keep_to_seconds_of_bounds _ _ _ hvalue⟩

/-- Where the earlier bound has a fraction, its second is drawn without it, and lies before it. -/
theorem timestamp_before_bound_with_fraction :
    let params := Params.ofMembers [("from", .str "2024-01-01T00:00:00.5Z"),
      ("to", .str "2024-01-01T00:00:01Z")]
    ∃ start stop t : Instant, Bounds params start stop ∧
      generateSeeded "dateTime" params 2 = .ok (.str "2024-01-01T00:00:00Z") ∧
      Instant.parse "2024-01-01T00:00:00Z" = .ok t ∧ t.before start = true :=
  ⟨⟨1704067200, 500000000⟩, ⟨1704067201, 0⟩, ⟨1704067200, 0⟩,
    ⟨by decide +kernel, by decide +kernel⟩, eq_ok_of_text (by decide +kernel), by decide +kernel,
    by decide⟩

end Generator
end MockApi
