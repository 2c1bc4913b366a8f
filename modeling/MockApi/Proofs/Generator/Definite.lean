import Mathlib.Data.List.Perm.Subperm
import MockApi.Proofs.Generator.Acceptance
import MockApi.Proofs.Json.Rigid

/-! Parameters with the same contents are the same to a generator, unless it shows what equality
does not look at: the order of names, or the order and the signs within a value that it copies. -/
namespace MockApi

/-! ## The same contents under every name -/

namespace Params

variable {a b : Params}

theorem found_of_same (h : a.same b = true) {name : String} {value : Json}
    (hvalue : a.find? name = some value) :
    ∃ other, b.find? name = some other ∧ value.same other = true := by
  simp only [same, Json.same, Bool.and_eq_true] at h
  exact Json.found_of_sameMembers h.2 hvalue

theorem keys_perm_of_same (h : a.same b = true) :
    (Keyed.keys a.members).Perm (Keyed.keys b.members) := by
  have hunique : (Keyed.keys a.members).Nodup := by
    have htidy := a.tidy
    rw [Json.Tidy] at htidy
    exact htidy.1
  have hsubset : Keyed.keys a.members ⊆ Keyed.keys b.members := by
    intro name hname
    obtain ⟨value, hvalue⟩ := Option.isSome_iff_exists.mp ((Keyed.mem_keys_iff_find? _ _).mp hname)
    obtain ⟨other, hother, -⟩ := found_of_same h hvalue
    exact (Keyed.mem_keys_iff_find? _ _).mpr (Option.isSome_of_eq_some hother)
  simp only [same, Json.same, Bool.and_eq_true, beq_iff_eq] at h
  refine (List.subperm_of_subset hunique hsubset).perm_of_length_le ?_
  simpa [Keyed.keys] using Nat.le_of_eq h.1.symm

theorem find?_eq_none_of_same (h : a.same b = true) {name : String} (hnone : a.find? name = none) :
    b.find? name = none := by
  have hgone : name ∉ Keyed.keys a.members := by
    rw [Keyed.mem_keys_iff_find?]
    simpa [find?] using hnone
  rw [(keys_perm_of_same h).mem_iff, Keyed.mem_keys_iff_find?] at hgone
  simpa [find?] using hgone

/-- The given names that are not declared. -/
def undeclared (params : Params) (specs : List ParamSpec) : List String :=
  (Keyed.keys params.members).filter fun name => specs.all fun spec => spec.name ≠ name

end Params

theorem ParamKind.accepts_of_same (kind : ParamKind) {value other : Json}
    (h : value.same other = true) : kind.accepts other = kind.accepts value := by
  cases value <;> cases other <;> simp only [Json.same, Bool.false_eq_true, beq_iff_eq] at h <;>
    cases kind <;> simp [ParamKind.accepts, Json.asInt64?, Json.isNumber, Json.asString?,
      Json.asArray?, h]

/-- Integers and texts are rigid; what else is taken may be a zero, a list or an object. -/
theorem ParamKind.rigid_of_accepts {kind : ParamKind} (hkind : kind = .integer ∨ kind = .string)
    {value : Json} (h : kind.accepts value = true) : value.Rigid := by
  rcases hkind with rfl | rfl
  · cases value <;> first | exact trivial | cases h
  · cases value <;> first | exact trivial | cases h

namespace Generator

variable {a b : Params}

/-- What is given leaves nothing open to the generator: one name at most is unknown to it, and every
value that it takes is rigid. -/
structure Definite (generator : Generator) (params : Params) : Prop where
  unknown : (params.undeclared generator.params).length ≤ 1
  rigid : ∀ spec ∈ generator.params, ∀ value, params.find? spec.name = some value →
    spec.kind.accepts value = true → value.Rigid

/-! ## The check -/

theorem find?_unknown_of_same (h : a.same b = true) {specs : List ParamSpec}
    (hsingle : (a.undeclared specs).length ≤ 1) :
    (Keyed.keys b.members).find? (fun name => specs.all fun spec => spec.name ≠ name) =
      (Keyed.keys a.members).find? (fun name => specs.all fun spec => spec.name ≠ name) := by
  have hperm : (a.undeclared specs).Perm (b.undeclared specs) :=
    (Params.keys_perm_of_same h).filter _
  have heq : b.undeclared specs = a.undeclared specs := by
    match hnames : a.undeclared specs, hsingle with
    | [], _ => exact List.nil_perm.mp (hnames ▸ hperm)
    | [name], _ => exact (List.singleton_perm.mp (hnames ▸ hperm)).symm
    | _ :: _ :: _, hsingle => exact absurd hsingle (by simp)
  rw [← List.head?_filter, ← List.head?_filter]
  exact congrArg List.head? heq

theorem check_of_same (h : a.same b = true) {specs : List ParamSpec}
    (hsingle : (a.undeclared specs).length ≤ 1) : check specs b = check specs a := by
  unfold check
  rw [find?_unknown_of_same h hsingle]
  split
  · rfl
  · refine congrArg specs.forM (funext fun spec => ?_)
    cases hvalue : a.find? spec.name with
    | none => rw [Params.find?_eq_none_of_same h hvalue]
    | some value =>
      obtain ⟨other, hother, hsame⟩ := Params.found_of_same h hvalue
      rw [hother]
      dsimp only
      rw [spec.kind.accepts_of_same hsame]

/-- Everything that a generator declares is given alike. -/
def GivenAlike (generator : Generator) (a b : Params) : Prop :=
  ∀ spec ∈ generator.params, b.find? spec.name = a.find? spec.name

/-- Behind the check, a generator is given the same values. -/
theorem find?_of_same {generator : Generator} (h : a.same b = true)
    (hdefinite : generator.Definite a) (hcheck : check generator.params a = .ok ()) :
    generator.GivenAlike a b := by
  intro spec hspec
  cases hvalue : a.find? spec.name with
  | none => exact Params.find?_eq_none_of_same h hvalue
  | some value =>
    obtain ⟨other, hother, hsame⟩ := Params.found_of_same h hvalue
    have hmeets := (check_eq_ok_iff.mp hcheck).2 spec hspec
    rw [hvalue, Meets] at hmeets
    rw [hother, Json.eq_of_same value other (hdefinite.rigid spec hspec value hvalue hmeets) hsame]

/-! ## Values -/

theorem intOr_congr {name : String} (h : b.find? name = a.find? name) (default : Int) :
    intOr b name default = intOr a name default := by
  rw [intOr, h, ← intOr]

theorem floatOr_congr {name : String} (h : b.find? name = a.find? name) (default : Float) :
    floatOr b name default = floatOr a name default := by
  rw [floatOr, h, ← floatOr]

theorem countOr_congr {name : String} (h : b.find? name = a.find? name) (default : Nat) :
    countOr b name default = countOr a name default := by
  simp only [countOr, h]

theorem countRange_congr {minName maxName : String} (hmin : b.find? minName = a.find? minName)
    (hmax : b.find? maxName = a.find? maxName) (defaultMin defaultMax : Nat) :
    countRange b minName maxName defaultMin defaultMax =
      countRange a minName maxName defaultMin defaultMax := by
  simp only [countRange, countOr_congr hmin, countOr_congr hmax]

theorem integer_congr (h : integer.GivenAlike a b) : integer.produce b = integer.produce a := by
  have hmin : b.find? "min" = a.find? "min" := h (integerParam "min") (by decide)
  have hmax : b.find? "max" = a.find? "max" := h (integerParam "max") (by decide)
  simp only [integer]
  rw [intOr_congr hmin, intOr_congr hmax]

theorem float_congr (h : float.GivenAlike a b) : float.produce b = float.produce a := by
  have hmin : b.find? "min" = a.find? "min" := h (numberParam "min") (by decide)
  have hmax : b.find? "max" = a.find? "max" := h (numberParam "max") (by decide)
  have hprecision : b.find? "precision" = a.find? "precision" :=
    h (integerParam "precision") (by decide)
  simp only [float]
  simp only [floatOr_congr hmin, floatOr_congr hmax, rounded, hprecision]

theorem boolean_congr (h : boolean.GivenAlike a b) : boolean.produce b = boolean.produce a := by
  have hratio : b.find? "ratio" = a.find? "ratio" := h (numberParam "ratio") (by decide)
  simp only [boolean]
  rw [floatOr_congr hratio]

theorem sentence_congr (h : sentence.GivenAlike a b) : sentence.produce b = sentence.produce a := by
  have hmin : b.find? "min_words" = a.find? "min_words" := h (integerParam "min_words") (by decide)
  have hmax : b.find? "max_words" = a.find? "max_words" := h (integerParam "max_words") (by decide)
  simp only [sentence, countRange_congr hmin hmax]

theorem paragraph_congr (h : paragraph.GivenAlike a b) :
    paragraph.produce b = paragraph.produce a := by
  have hmin : b.find? "min_sentences" = a.find? "min_sentences" :=
    h (integerParam "min_sentences") (by decide)
  have hmax : b.find? "max_sentences" = a.find? "max_sentences" :=
    h (integerParam "max_sentences") (by decide)
  simp only [paragraph, countRange_congr hmin hmax]

theorem date_congr (h : date.GivenAlike a b) : date.produce b = date.produce a := by
  have hfrom : b.find? "from" = a.find? "from" := h ⟨"from", .string, false⟩ (by decide)
  have hto : b.find? "to" = a.find? "to" := h ⟨"to", .string, false⟩ (by decide)
  simp only [date, dateParam, textOr, hfrom, hto]

theorem dateTime_congr (h : dateTime.GivenAlike a b) : dateTime.produce b = dateTime.produce a := by
  have hfrom : b.find? "from" = a.find? "from" := h ⟨"from", .string, false⟩ (by decide)
  have hto : b.find? "to" = a.find? "to" := h ⟨"to", .string, false⟩ (by decide)
  simp only [dateTime, instantParam, textOr, hfrom, hto]

theorem pattern_congr (h : pattern.GivenAlike a b) : pattern.produce b = pattern.produce a := by
  have hpattern : b.find? "pattern" = a.find? "pattern" := h ⟨"pattern", .string, true⟩ (by decide)
  simp only [pattern, hpattern]

theorem choice_congr (h : choice.GivenAlike a b) : choice.produce b = choice.produce a := by
  have hvalues : b.find? "values" = a.find? "values" := h ⟨"values", .list, true⟩ (by decide)
  simp only [choice, hvalues]

theorem constant_congr (h : constant.GivenAlike a b) : constant.produce b = constant.produce a := by
  have hvalue : b.find? "value" = a.find? "value" := h ⟨"value", .any, true⟩ (by decide)
  simp only [constant, hvalue]

/-- A generator reads what it declares, and nothing else. -/
theorem produce_congr : ∀ generator ∈ all, ∀ a b : Params, generator.GivenAlike a b →
    generator.produce b = generator.produce a := by
  have hpersonal : ∀ generator ∈ personal, ∀ a b : Params, generator.GivenAlike a b →
      generator.produce b = generator.produce a := by
    simp only [personal, List.forall_mem_cons, List.not_mem_nil, false_implies, implies_true,
      and_true]
    and_intros <;> exact fun _ _ _ => rfl
  simp only [all, List.forall_mem_append, List.forall_mem_cons, List.not_mem_nil, false_implies,
    implies_true, and_true]
  exact ⟨⟨⟨fun _ _ => integer_congr, fun _ _ => float_congr, fun _ _ => boolean_congr⟩, hpersonal⟩,
    fun _ _ => sentence_congr, fun _ _ => paragraph_congr, fun _ _ => date_congr,
    fun _ _ => dateTime_congr, fun _ _ => pattern_congr, fun _ _ => choice_congr,
    fun _ _ => constant_congr⟩

theorem run_of_same {generator : Generator} (hmem : generator ∈ all) (h : a.same b = true)
    (hdefinite : generator.Definite a) : generator.run b = generator.run a := by
  unfold run
  rw [check_of_same h hdefinite.unknown]
  split
  · next hcheck => exact produce_congr generator hmem a b (find?_of_same h hdefinite hcheck)
  · rfl

end Generator

/-- The parameters are definite for the generator, if it exists. -/
def Binding.Definite (binding : Binding) : Prop :=
  ∀ generator, Generator.find? binding.generator = some generator →
    generator.Definite binding.params

/-- The same draw is made from bindings with the same contents. -/
theorem Binding.generate_of_same {a b : Binding} (h : a.same b = true) (hdefinite : a.Definite) :
    Generator.generate b.generator b.params = Generator.generate a.generator a.params := by
  simp only [Binding.same, Bool.and_eq_true, beq_iff_eq] at h
  unfold Generator.generate
  rw [← h.1]
  split
  · rfl
  · next generator hfind =>
    have hmem : generator ∈ Generator.all := List.mem_of_find?_eq_some hfind
    rw [Generator.run_of_same hmem h.2 (hdefinite generator hfind)]

end MockApi
