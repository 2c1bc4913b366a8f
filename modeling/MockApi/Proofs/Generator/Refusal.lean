import MockApi.Generator.Registry
import MockApi.Proofs.Draw.Verdict

/-! Whether a generator refuses its parameters, and with which fault, is a matter of the parameters
alone; only the generator of doubles draws before its last check. -/
namespace MockApi.Generator

variable {params : Params}

/-! ## Parameters that are read -/

theorem dateParam_foregone {name default : String} : Foregone (dateParam params name default) := by
  unfold dateParam
  split
  · exact .pure _
  · exact .refuse _

theorem instantParam_foregone {name default : String} :
    Foregone (instantParam params name default) := by
  unfold instantParam
  split
  · exact .pure _
  · exact .refuse _

theorem countOr_foregone {name : String} {default : Nat} :
    Foregone (countOr params name default) := by
  unfold countOr
  split
  · exact .pure _
  · split
    · exact .pure _
    · exact .refuse _

theorem countRange_foregone {minName maxName : String} {defaultMin defaultMax : Nat} :
    Foregone (countRange params minName maxName defaultMin defaultMax) :=
  countOr_foregone.bind fun _ => countOr_foregone.bind fun _ => .check (.check (.pure _))

/-! ## Generators -/

theorem integer_settled : Settled (integer.produce params) :=
  .check fun _ => .map (.draws _)

theorem boolean_settled : Settled (boolean.produce params) :=
  .check fun _ => .map (.draws _)

theorem ofText_settled {id : String} {draw : Draw String} :
    Settled ((ofText id draw).produce params) :=
  .draws _

theorem sentence_settled : Settled (sentence.produce params) :=
  countRange_foregone.settled_bind fun _ =>
    .map (.draws _)

theorem paragraph_settled : Settled (paragraph.produce params) :=
  countRange_foregone.settled_bind fun _ =>
    .map (.draws _)

theorem date_settled : Settled (date.produce params) :=
  dateParam_foregone.settled_bind fun _ => dateParam_foregone.settled_bind fun _ =>
    .check fun _ => .draws_bind fun _ => .pure trivial

theorem dateTime_settled : Settled (dateTime.produce params) :=
  instantParam_foregone.settled_bind fun _ => instantParam_foregone.settled_bind fun _ =>
    .check fun _ => .draws_bind fun _ => .pure trivial

theorem pattern_settled : Settled (pattern.produce params) := .draws_bind fun _ => .pure trivial

/-- Of a list that is not empty some entry is drawn. -/
theorem pick?_isSome {choices : List Json} (h : choices ≠ []) :
    (Draw.pick? choices).Always fun choice => choice.isSome := by
  have hlength : 0 < choices.length := List.length_pos_iff.mpr h
  unfold Draw.pick?
  split
  · exact (h rfl).elim
  · exact (Draw.below_lt .word hlength).bind fun i hi => Draw.Always.pure (by simp [hi])

theorem choice_settled : Settled (choice.produce params) := by
  by_cases hnone : ((params.find? "values").bind Json.asArray?).getD [] = []
  · have hdraw : (Draw.pick? (((params.find? "values").bind Json.asArray?).getD [])).Always
        (· = none) := by
      rw [hnone]
      exact Draw.Always.pure rfl
    refine .inl ⟨.nothingToChoose, Fails.of_succeeds (Succeeds.lift hdraw) fun choice hchoice => ?_⟩
    subst hchoice
    exact .throw _
  · refine .inr ((Succeeds.lift (pick?_isSome hnone)).bind fun choice hchoice => ?_)
    obtain ⟨value, rfl⟩ := Option.isSome_iff_exists.mp hchoice
    exact .pure trivial

theorem constant_settled : Settled (constant.produce params) := .pure _

theorem produce_settled : ∀ generator ∈ all, generator.id ≠ "float" → ∀ params,
    Settled (generator.produce params) := by
  have hpersonal : ∀ generator ∈ personal, generator.id ≠ "float" → ∀ params,
      Settled (generator.produce params) := by
    simp only [personal, List.forall_mem_cons, List.not_mem_nil, false_implies, implies_true,
      and_true]
    and_intros <;> exact fun _ _ => ofText_settled
  simp only [all, List.forall_mem_append, List.forall_mem_cons, List.not_mem_nil, false_implies,
    implies_true, and_true]
  exact ⟨⟨⟨fun _ _ => integer_settled, fun hid => (hid rfl).elim, fun _ _ => boolean_settled⟩,
    hpersonal⟩, fun _ _ => sentence_settled, fun _ _ => paragraph_settled, fun _ _ => date_settled,
    fun _ _ => dateTime_settled, fun _ _ => pattern_settled, fun _ _ => choice_settled,
    fun _ _ => constant_settled⟩

/-! ## Values under an id -/

/-- Whatever the source is, the generator refuses the parameters for a reason. -/
def Rejects (binding : Binding) (reason : String) : Prop :=
  Fails (.fault (.refused binding.generator reason)) (generate binding.generator binding.params)

/-- A generator that exists, other than that of doubles, gives a value from every source or refuses
from every source for the same reason. -/
theorem generate_settled {binding : Binding} (hknown : known binding.generator = true)
    (hsteady : binding.generator ≠ "float") :
    Succeeds (fun _ => True) (generate binding.generator binding.params) ∨
      ∃ reason, Rejects binding reason := by
  obtain ⟨generator, hfind⟩ := Option.isSome_iff_exists.mp hknown
  have hmem : generator ∈ all := List.mem_of_find?_eq_some hfind
  have hid : generator.id = binding.generator := by simpa using List.find?_some hfind
  have hrun : Settled (generator.run binding.params) := by
    unfold run
    split
    · exact produce_settled generator hmem (hid ▸ hsteady) binding.params
    · exact .refuse _
  unfold Rejects generate
  rw [hfind]
  rcases hrun with ⟨fault, hfails⟩ | hsucceeds
  · exact .inr ⟨fault.message, hfails.adapt _⟩
  · exact .inl (hsucceeds.adapt _)

end MockApi.Generator
