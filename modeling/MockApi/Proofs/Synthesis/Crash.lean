import MockApi.Proofs.Generator.Refusal
import MockApi.Proofs.Synthesis.Blame

/-! A payload crashes only where doubles are drawn from a range that passes the checks and yet is
too wide to draw from. -/
namespace MockApi

namespace Blames

variable {α β ε : Type} {P : ε → Prop}

theorem of_succeeds {Q : α → Prop} {x : ExceptT ε Draw α} (hx : Succeeds Q x) : Blames P x :=
  Draw.Always.mono hx fun _ ⟨_, hvalue, _⟩ _ he => by cases hvalue.symm.trans he

theorem of_fails {e : ε} {x : ExceptT ε Draw α} (hx : Fails e x) (he : P e) : Blames P x :=
  Draw.Always.mono hx fun _ h _ heq => Except.error.inj (h.symm.trans heq) ▸ he

/-- What is refused has not crashed. -/
theorem refuse {e : ε} {R : Prop} :
    Blames (fun abort => abort = .crash → R) (MockApi.refuse e : ExceptT (Abort ε) Draw α) :=
  of_fails (Fails.throw _) fun h => by cases h

theorem check {c : Prop} [Decidable c] {e : ε} {R : Prop} {f : α → ExceptT (Abort ε) Draw β}
    {x : ExceptT (Abort ε) Draw β} (hx : ¬c → Blames (fun abort => abort = .crash → R) x) :
    Blames (fun abort => abort = .crash → R) (if c then MockApi.refuse e >>= f else x) := by
  split
  · exact of_fails (Fails.throw _).bind fun h => by cases h
  · next hc => exact hx hc

end Blames

namespace Generator

variable {params : Params} {low high : Float}

/-- What a draw between two doubles multiplies the unit interval with. -/
def scale (low high : Float) : Float := (high - low) / Draw.largestUnit

/-- Bounds of doubles that are in order and at a finite distance, but not at a finite scale. -/
structure Overwide (params : Params) : Prop where
  checked : check float.params params = .ok ()
  ordered : ¬floatOr params "min" 0 > floatOr params "max" 100
  spanned : ¬(Binary64.ofFloat? (floatOr params "max" 100 - floatOr params "min" 0)).isNone
  unscaled : (scale (floatOr params "min" 0) (floatOr params "max" 100)).isFinite = false

/-! ## The draw -/

theorem drawOrCrash_floatBetween?_fails (h : (scale low high).isFinite = false) :
    Fails .crash (drawOrCrash (Draw.floatBetween? low high) : Attempt Float) := by
  rw [scale] at h
  unfold drawOrCrash Draw.floatBetween?
  simp only [h, Bool.false_eq_true, ↓reduceIte]
  exact .throw _

theorem drawOrCrash_floatBetween?_succeeds (h : (scale low high).isFinite = true) :
    Succeeds (fun _ => True) (drawOrCrash (Draw.floatBetween? low high) : Attempt Float) := by
  rw [scale] at h
  unfold drawOrCrash Draw.floatBetween?
  simp only [h, ↓reduceIte]
  have hdraw : Draw.Always (fun drawn => drawn.isSome) (do
      let unit := ((← Draw.double) >>> 12).toFloat / 4503599627370496.0
      return some (unit * Draw.fitScale low high Draw.maxTries
        ((high - low) / Draw.largestUnit) + low)) :=
    (Draw.Always.trivially _).bind fun _ _ => Draw.Always.pure rfl
  refine (Succeeds.lift hdraw).bind fun drawn hdrawn => ?_
  obtain ⟨value, rfl⟩ := Option.isSome_iff_exists.mp hdrawn
  exact .pure trivial

/-- The rounding does not crash, nor does what follows it. -/
theorem rounded_blames (min max value : Float) :
    Blames (· ≠ .crash) (rounded params min max value) := by
  unfold rounded
  split
  · exact .pure _
  · split
    · exact .refuse
    · exact .pure _

theorem float_fails (h : Overwide params) : Fails .crash (float.run params) := by
  rw [run, h.checked]
  exact .passed h.ordered (.passed h.spanned (drawOrCrash_floatBetween?_fails h.unscaled).bind)

theorem float_blames :
    Blames (fun abort => abort = .crash → Overwide params) (float.run params) := by
  unfold run
  split
  · next hchecked =>
    refine .check fun hordered => .check fun hspanned => ?_
    refine Blames.bind ?_ fun drawn => Blames.bind ?_ fun value => ?_
    · cases hscale : (scale (floatOr params "min" 0) (floatOr params "max" 100)).isFinite with
      | false =>
        exact .of_fails (drawOrCrash_floatBetween?_fails hscale) fun _ =>
          ⟨hchecked, hordered, hspanned, hscale⟩
      | true => exact .of_succeeds (drawOrCrash_floatBetween?_succeeds hscale)
    · exact (rounded_blames _ _ _).mono fun _ hne heq => (hne heq).elim
    · split
      · exact .pure _
      · exact .refuse
  · exact .refuse

/-- Doubles crash on such parameters from every source, and on no others; nothing else crashes. -/
theorem generate_eq_crash_iff {id : String} {source : Source} :
    ((generate id params).run.run source).1 = .error .crash ↔ id = "float" ∧ Overwide params := by
  by_cases hid : id = "float"
  · subst hid
    have hgenerate : generate "float" params =
        (float.run params).adapt (Abort.map fun fault => .refused "float" fault.message) := rfl
    rw [hgenerate, eq_self, true_and]
    refine ⟨fun h => ?_, fun h => (float_fails h).adapt _ source⟩
    obtain ⟨cause, ⟨start, hcause⟩, heq⟩ := Blames.adapt _ _ source _ h
    cases cause with
    | fault fault => cases heq
    | crash => exact float_blames start _ hcause rfl
  · refine iff_of_false (fun h => ?_) fun h => hid h.1
    cases hknown : known id with
    | false =>
      rw [known, Option.isSome_eq_false_iff, Option.isNone_iff_eq_none] at hknown
      rw [generate, hknown] at h
      cases h
    | true =>
      rcases @generate_settled ⟨id, params⟩ hknown hid with hvalue | ⟨reason, hreason⟩
      · obtain ⟨value, hvalue, -⟩ := hvalue source
        cases hvalue.symm.trans h
      · cases (hreason source).symm.trans h

end Generator

/-- A payload crashes at a leaf. -/
theorem Node.overwide_of_crash {node : Node} {source : Source}
    (h : (node.synthesizeFrom source).1 = .error .crash) :
    ∃ place binding, node.LeafOn place binding ∧ binding.generator = "float" ∧
      Generator.Overwide binding.params := by
  obtain ⟨place, binding, cause, hleaf, ⟨start, hcause⟩, heq⟩ :=
    node.synthesizeAt_blames FieldPath.root source _ h
  cases cause with
  | fault fault => cases heq
  | crash => exact ⟨place, binding, hleaf, Generator.generate_eq_crash_iff.mp hcause⟩

end MockApi
