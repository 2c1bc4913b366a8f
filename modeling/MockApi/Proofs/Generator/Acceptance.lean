import Mathlib.Tactic.Common
import MockApi.Generator.Registry
import MockApi.Proofs.Draw.Verdict

/-! Which parameters pass the check against a declaration, and what it means that a generator
honours the bounds that its parameters ask for. -/
namespace MockApi

namespace Params

variable {params : Params} {names : List String} {P Q : Json → Prop}

/-- Nothing but these names is given, and only values with a property. -/
def Only (params : Params) (names : List String) (P : Json → Prop) : Prop :=
  ∀ name value, params.find? name = some value → name ∈ names ∧ P value

/-- The value of a name, or a default where the name is not given. -/
def valueOr (params : Params) (name : String) (default : Json) : Json :=
  (params.find? name).getD default

theorem Only.mono (h : params.Only names P) (hPQ : ∀ value, P value → Q value) :
    params.Only names Q := by
  intro name value hvalue
  obtain ⟨hname, hP⟩ := h name value hvalue
  exact ⟨hname, hPQ value hP⟩

end Params

namespace Generator

variable {params : Params} {specs : List ParamSpec}

/-! ## The check against a declaration -/

theorem forM_eq_ok_iff {α ε : Type} {check : α → Except ε Unit} {items : List α} :
    items.forM check = .ok () ↔ ∀ a ∈ items, check a = .ok () := by
  induction items with
  | nil => exact iff_of_true rfl (List.forall_mem_nil _)
  | cons a rest ih =>
    rw [List.forall_mem_cons, ← ih]
    change (check a >>= fun _ => rest.forM check) = .ok () ↔ _
    cases check a with
    | error e => exact iff_of_false nofun fun h => nomatch h.1
    | ok => exact (and_iff_right rfl).symm

/-- No name is unknown. -/
def Declared (specs : List ParamSpec) (params : Params) : Prop :=
  ∀ name value, params.find? name = some value → name ∈ specs.map (·.name)

theorem find?_unknown_eq_none_iff :
    (Keyed.keys params.members).find? (fun name => specs.all fun spec => spec.name ≠ name) = none ↔
      Declared specs params := by
  rw [List.find?_eq_none]
  constructor
  · intro h name value hvalue
    have hmem : name ∈ Keyed.keys params.members :=
      (Keyed.mem_keys_iff_find? _ _).mpr (Option.isSome_iff_exists.mpr ⟨value, hvalue⟩)
    have hname := h name hmem
    simpa using hname
  · intro h name hmem
    obtain ⟨value, hvalue⟩ :=
      Option.isSome_iff_exists.mp ((Keyed.mem_keys_iff_find? _ _).mp hmem)
    simpa using h name value hvalue

/-- A declaration goes with what is given under its name. -/
def Meets (spec : ParamSpec) : Option Json → Prop
  | none => spec.required = false
  | some value => spec.kind.accepts value = true

theorem check_eq_ok_iff : check specs params = .ok () ↔
    Declared specs params ∧ ∀ spec ∈ specs, Meets spec (params.find? spec.name) := by
  unfold check
  split
  · next name hunknown =>
    refine iff_of_false nofun fun h => ?_
    rw [find?_unknown_eq_none_iff.mpr h.1] at hunknown
    cases hunknown
  · next hunknown =>
    rw [and_iff_right (find?_unknown_eq_none_iff.mp hunknown), forM_eq_ok_iff]
    refine forall₂_congr fun spec hspec => ?_
    cases params.find? spec.name with
    | none =>
      rw [Meets]
      cases spec.required with
      | false => exact iff_of_true rfl rfl
      | true => exact iff_of_false (fun h => by cases h) Bool.false_ne_true.symm
    | some value =>
      rw [Meets]
      dsimp only
      cases spec.kind.accepts value with
      | false => exact iff_of_false (fun h => by cases h) Bool.false_ne_true
      | true => exact iff_of_true rfl rfl

/-- Optional parameters of one kind pass if nothing else is given. -/
theorem check_optional_eq_ok_iff {kind : ParamKind}
    (hspecs : ∀ spec ∈ specs, spec.required = false ∧ spec.kind = kind) :
    check specs params = .ok () ↔
      params.Only (specs.map (·.name)) fun value => kind.accepts value = true := by
  rw [check_eq_ok_iff]
  constructor
  · rintro ⟨hdeclared, hmeets⟩ name value hvalue
    have hname := hdeclared name value hvalue
    obtain ⟨spec, hspec, rfl⟩ := List.mem_map.mp hname
    have hmeet := hmeets spec hspec
    rw [hvalue, Meets, (hspecs spec hspec).2] at hmeet
    exact ⟨hname, hmeet⟩
  · intro honly
    refine ⟨fun name value hvalue => (honly name value hvalue).1, fun spec hspec => ?_⟩
    obtain ⟨hrequired, hkind⟩ := hspecs spec hspec
    cases hvalue : params.find? spec.name with
    | none => exact hrequired
    | some value =>
      rw [Meets, hkind]
      exact (honly spec.name value hvalue).2

/-! ## Bounds -/

/-- How a generator with a lower and an upper bound answers to parameters. It gives a value exactly
if they ask for bounds, the value lies within these, and all other parameters are refused. -/
structure Honours {α : Type} (id : String) (params : Params) (source : Source)
    (Asks : α → α → Prop) (Within : α → α → Json → Prop) : Prop where
  succeeds_iff : (∃ value, ((generate id params).run.run source).1 = .ok value) ↔
    ∃ low high, Asks low high
  within : ∀ value, ((generate id params).run.run source).1 = .ok value →
    ∃ low high, Asks low high ∧ Within low high value
  refuses : (¬∃ low high, Asks low high) →
    ∃ reason, ((generate id params).run.run source).1 = .error (.fault (.refused id reason))

variable {α : Type} {Asks : α → α → Prop} {Within : α → α → Json → Prop}

/-- Of a generator that exists it is enough to look at the check and the production. -/
theorem honours_of_produce {id : String} {generator : Generator}
    (hfind : find? id = some generator)
    (hcheck : ∀ low high, Asks low high → check generator.params params = .ok ())
    (hgives : ∀ low high, Asks low high → Succeeds (Within low high) (generator.produce params))
    (hrefuses : check generator.params params = .ok () → (¬∃ low high, Asks low high) →
      ∃ fault, Fails (.fault fault) (generator.produce params))
    (source : Source) : Honours id params source Asks Within := by
  have hgenerate : generate id params =
      (generator.run params).adapt (Abort.map fun fault => .refused id fault.message) := by
    rw [generate, hfind]
  have hvalue (low high : α) (hasks : Asks low high) :
      ∃ value, ((generate id params).run.run source).1 = .ok value ∧ Within low high value := by
    have hrun : generator.run params = generator.produce params := by
      rw [run, hcheck low high hasks]
    rw [hgenerate, hrun]
    exact (hgives low high hasks).adapt _ source
  have hfault (hnone : ¬∃ low high, Asks low high) :
      ∃ reason, ((generate id params).run.run source).1 = .error (.fault (.refused id reason)) := by
    have hfails : ∃ fault, Fails (.fault fault) (generator.run params) := by
      rw [run]
      cases hchecked : check generator.params params with
      | error fault => exact ⟨fault, .throw _⟩
      | ok => exact hrefuses hchecked hnone
    obtain ⟨fault, hfails⟩ := hfails
    rw [hgenerate]
    exact ⟨fault.message, hfails.adapt _ source⟩
  have hasks (value : Json) (hrun : ((generate id params).run.run source).1 = .ok value) :
      ∃ low high, Asks low high := by
    by_contra hnone
    obtain ⟨reason, herror⟩ := hfault hnone
    cases herror.symm.trans hrun
  refine ⟨⟨fun ⟨value, hrun⟩ => hasks value hrun, fun ⟨low, high, h⟩ => ?_⟩, fun value hrun => ?_,
    hfault⟩
  · obtain ⟨value, hrun, -⟩ := hvalue low high h
    exact ⟨value, hrun⟩
  · obtain ⟨low, high, h⟩ := hasks value hrun
    obtain ⟨other, hother, hwithin⟩ := hvalue low high h
    cases hrun.symm.trans hother
    exact ⟨low, high, h, hwithin⟩

end Generator
end MockApi
