import MockApi.Proofs.Sameness

/-! Values of which the contents leave nothing open. Where an object has several members their order
shows in the text, and so does the sign of a zero; equality of contents looks at neither. -/
namespace MockApi

namespace Json

mutual

/-- No object has several members, and no double is a zero. -/
def Rigid : Json → Prop
  | float x => x.isZero = false
  | arr items => RigidItems items
  | obj members => members.length ≤ 1 ∧ RigidMembers members
  | _ => True

def RigidItems : List Json → Prop
  | [] => True
  | item :: rest => Rigid item ∧ RigidItems rest

def RigidMembers : List (String × Json) → Prop
  | [] => True
  | (_, value) :: rest => Rigid value ∧ RigidMembers rest

end

mutual

/-- A rigid value is the only one with its contents. -/
theorem eq_of_same : ∀ value other : Json, value.Rigid → value.same other = true → other = value
  | null, other, _, h => by
    cases other <;> simp only [same, Bool.false_eq_true] at h
    rfl
  | bool _, other, _, h => by
    cases other <;> simp only [same, Bool.false_eq_true, beq_iff_eq] at h
    rw [h]
  | int _, other, _, h => by
    cases other <;> simp only [same, Bool.false_eq_true, beq_iff_eq] at h
    rw [h]
  | float x, other, hrigid, h => by
    rw [Rigid] at hrigid
    cases other <;> simp only [same, Bool.false_eq_true] at h
    simp only [Binary64.same, hrigid, Bool.false_and, Bool.or_false, beq_iff_eq] at h
    rw [h]
  | str _, other, _, h => by
    cases other <;> simp only [same, Bool.false_eq_true, beq_iff_eq] at h
    rw [h]
  | arr items, other, hrigid, h => by
    rw [Rigid] at hrigid
    cases other <;> simp only [same, Bool.false_eq_true] at h
    rw [eq_of_sameItems items _ hrigid h]
  | obj members, other, hrigid, h => by
    rw [Rigid] at hrigid
    cases other <;> simp only [same, Bool.false_eq_true, Bool.and_eq_true, beq_iff_eq] at h
    rw [eq_of_sameMembers members _ hrigid.1 hrigid.2 h.1 h.2]

theorem eq_of_sameItems : ∀ items others : List Json, RigidItems items →
    sameItems items others = true → others = items
  | [], others, _, h => by
    cases others <;> simp only [sameItems, Bool.false_eq_true] at h
    rfl
  | item :: rest, others, hrigid, h => by
    rw [RigidItems] at hrigid
    cases others <;> simp only [sameItems, Bool.false_eq_true, Bool.and_eq_true] at h
    rw [eq_of_same item _ hrigid.1 h.1, eq_of_sameItems rest _ hrigid.2 h.2]

theorem eq_of_sameMembers : ∀ members others : List (String × Json), members.length ≤ 1 →
    RigidMembers members → members.length = others.length → sameMembers members others = true →
    others = members
  | [], others, _, _, hlength, _ => List.length_eq_zero_iff.mp hlength.symm
  | [(name, value)], others, _, hrigid, hlength, h => by
    rw [RigidMembers] at hrigid
    obtain ⟨⟨key, other⟩, rfl⟩ := List.length_eq_one_iff.mp hlength.symm
    by_cases hkey : key = name
    · subst hkey
      have hvalue : value.same other = true := by simpa [sameMembers, Keyed.find?] using h
      rw [eq_of_same value other hrigid.1 hvalue]
    · simp [sameMembers, Keyed.find?, hkey] at h
  | _ :: _ :: _, _, hsingle, _, _, _ => absurd hsingle (by simp)

end

end Json
end MockApi
