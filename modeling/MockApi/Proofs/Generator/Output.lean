import MockApi.Generator.Registry
import MockApi.Proofs.Draw.Bounds

/-! Every generator keeps to the kind of output that it declares. -/
namespace MockApi

/-- The values of a declared kind; integers are those of 64 bits with a sign. -/
def OutputKind.Admits : OutputKind → Json → Prop
  | .string, value | .date, value => ∃ text, value = .str text
  | .integer, value => ∃ n, value = .int n ∧ -2 ^ 63 ≤ n ∧ n < 2 ^ 63
  | .number, value => value.isNumber = true
  | .boolean, value => ∃ b, value = .bool b
  | .any, _ => True

namespace Generator

theorem asInt64?_mem {value : Json} {n : Int} (h : value.asInt64? = some n) :
    -2 ^ 63 ≤ n ∧ n < 2 ^ 63 := by
  cases value <;> simp only [Json.asInt64?, reduceCtorEq] at h
  split at h
  · next hn =>
    cases h
    exact hn
  · cases h

theorem intOr_mem (params : Params) (name : String) {default : Int}
    (h : -2 ^ 63 ≤ default ∧ default < 2 ^ 63) :
    -2 ^ 63 ≤ intOr params name default ∧ intOr params name default < 2 ^ 63 := by
  unfold intOr
  cases hv : (params.find? name).bind Json.asInt64? with
  | none => exact h
  | some n =>
    obtain ⟨value, _, hn⟩ := Option.bind_eq_some_iff.mp hv
    exact asInt64?_mem hn

/-- A generator yields what its production yields. -/
theorem run_yields {P : Json → Prop} (generator : Generator) (params : Params)
    (h : Yields P (generator.produce params)) : Yields P (generator.run params) := by
  unfold run
  split
  · exact h
  · exact Yields.throw _

theorem integer_yields (params : Params) :
    Yields OutputKind.integer.Admits (integer.produce params) := by
  have hmin : -2 ^ 63 ≤ intOr params "min" 0 ∧ intOr params "min" 0 < 2 ^ 63 :=
    intOr_mem params "min" (by decide)
  have hmax : -2 ^ 63 ≤ intOr params "max" 100 ∧ intOr params "max" 100 < 2 ^ 63 :=
    intOr_mem params "max" (by decide)
  refine Yields.check fun hle => ?_
  refine (Yields.lift (Draw.between_mem (by omega) hmin.1 hmax.2)).map fun n hn => ?_
  exact ⟨n, rfl, by omega, by omega⟩

theorem float_yields (params : Params) :
    Yields OutputKind.number.Admits (float.produce params) := by
  refine Yields.check fun _ => Yields.check fun _ => (Yields.trivially _).bind fun drawn _ => ?_
  refine (Yields.trivially _).bind fun value _ => ?_
  split
  · exact Yields.pure rfl
  · exact Yields.throw _

theorem boolean_yields (params : Params) :
    Yields OutputKind.boolean.Admits (boolean.produce params) :=
  Yields.check fun _ => (Yields.trivially _).map fun b _ => ⟨b, rfl⟩

theorem sentence_yields (params : Params) :
    Yields OutputKind.string.Admits (sentence.produce params) :=
  (Yields.trivially _).bind fun _ _ => (Yields.trivially _).map fun text _ => ⟨text, rfl⟩

theorem paragraph_yields (params : Params) :
    Yields OutputKind.string.Admits (paragraph.produce params) :=
  (Yields.trivially _).bind fun _ _ => (Yields.trivially _).map fun text _ => ⟨text, rfl⟩

theorem date_yields (params : Params) : Yields OutputKind.date.Admits (date.produce params) := by
  refine (Yields.trivially _).bind fun start _ => (Yields.trivially _).bind fun stop _ => ?_
  exact Yields.check fun _ => (Yields.trivially _).bind fun offset _ => Yields.pure ⟨_, rfl⟩

theorem dateTime_yields (params : Params) :
    Yields OutputKind.date.Admits (dateTime.produce params) := by
  refine (Yields.trivially _).bind fun start _ => (Yields.trivially _).bind fun stop _ => ?_
  exact Yields.check fun _ => (Yields.trivially _).bind fun seconds _ => Yields.pure ⟨_, rfl⟩

theorem pattern_yields (params : Params) :
    Yields OutputKind.string.Admits (pattern.produce params) :=
  (Yields.trivially _).bind fun _ _ => Yields.pure ⟨_, rfl⟩

theorem ofText_yields (id : String) (draw : Draw String) (params : Params) :
    Yields OutputKind.string.Admits ((ofText id draw).produce params) :=
  Yields.lift ((Draw.Always.trivially draw).map fun text _ => ⟨text, rfl⟩)

/-- Every generator that exists yields values of the kind that it declares. -/
theorem all_yield : ∀ generator ∈ all, ∀ params,
    Yields generator.output.Admits (generator.produce params) := by
  have hpersonal : ∀ generator ∈ personal, ∀ params,
      Yields generator.output.Admits (generator.produce params) := by
    simp only [personal, List.forall_mem_cons, List.not_mem_nil, false_implies, implies_true,
      and_true]
    and_intros <;> exact ofText_yields _ _
  simp only [all, List.forall_mem_append, List.forall_mem_cons, List.not_mem_nil, false_implies,
    implies_true, and_true]
  exact ⟨⟨⟨integer_yields, float_yields, boolean_yields⟩, hpersonal⟩, sentence_yields,
    paragraph_yields, date_yields, dateTime_yields, pattern_yields,
    fun _ => (Yields.trivially _).mono fun _ _ => trivial,
    fun _ => (Yields.trivially _).mono fun _ _ => trivial⟩

/-- A value made under an id is of the kind that the generator of this id declares. -/
theorem generate_yields (id : String) (params : Params) :
    Yields (fun value => ∃ generator, find? id = some generator ∧ generator.output.Admits value)
      (generate id params) := by
  unfold generate
  cases hfind : find? id with
  | none => exact Yields.throw _
  | some generator =>
    have hmem : generator ∈ all := List.mem_of_find?_eq_some hfind
    refine Yields.adapt ?_ _
    exact (run_yields generator params (all_yield generator hmem params)).mono fun value hv =>
      ⟨generator, rfl, hv⟩

end Generator
end MockApi
