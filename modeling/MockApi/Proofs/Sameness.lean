import MockApi.Definition.Basic
import MockApi.Proofs.Keyed

/-! The equality of field lists is reflexive and transitive. Reflexivity needs parameters that
repeat no name, as members are compared by name; transitivity holds of all values. -/
namespace MockApi

theorem Binary64.same_trans {x y z : Binary64} (hxy : x.same y = true) (hyz : y.same z = true) :
    x.same z = true := by
  simp only [Binary64.same, Bool.or_eq_true, beq_iff_eq, Bool.and_eq_true] at hxy hyz ⊢
  rcases hxy with rfl | hx
  · exact hyz
  · rcases hyz with rfl | hy
    · exact Or.inr hx
    · exact Or.inr ⟨hx.1, hy.2⟩

namespace Json

/-- Every entry of the first list is found in the second. -/
theorem sameMembers_of_found {xs ys : List (String × Json)}
    (h : ∀ entry ∈ xs, ∃ other, Keyed.find? entry.1 ys = some other ∧ entry.2.same other = true) :
    sameMembers xs ys = true := by
  induction xs with
  | nil => simp [sameMembers]
  | cons entry rest ih =>
    obtain ⟨name, value⟩ := entry
    obtain ⟨other, hfind, hsame⟩ := h (name, value) List.mem_cons_self
    have hrest := ih fun entry he => h entry (List.mem_cons_of_mem _ he)
    simp [sameMembers, hfind, hsame, hrest]

theorem found_of_sameMembers {xs ys : List (String × Json)} (h : sameMembers xs ys = true)
    {name : String} {value : Json} (hfind : Keyed.find? name xs = some value) :
    ∃ other, Keyed.find? name ys = some other ∧ value.same other = true := by
  induction xs with
  | nil => simp at hfind
  | cons entry rest ih =>
    obtain ⟨key, first⟩ := entry
    simp only [sameMembers, Bool.and_eq_true] at h
    by_cases hk : key = name
    · subst hk
      have hv : first = value := by simpa [Keyed.find?] using hfind
      subst hv
      cases ho : Keyed.find? key ys with
      | none => simp [ho] at h
      | some other => exact ⟨other, rfl, by simpa [ho] using h.1⟩
    · exact ih h.2 (by simpa [Keyed.find?, hk] using hfind)

mutual

theorem same_refl : ∀ value : Json, Tidy value → value.same value = true
  | null, _ => by simp [same]
  | bool _, _ => by simp [same]
  | int _, _ => by simp [same]
  | float x, _ => by simp [same, Binary64.same_refl]
  | str _, _ => by simp [same]
  | arr items, h => by
    rw [Tidy] at h
    rw [same]
    exact sameItems_refl items h
  | obj members, h => by
    rw [Tidy] at h
    simp only [same, BEq.rfl, Bool.true_and]
    apply sameMembers_of_found
    intro entry he
    refine ⟨entry.2, Keyed.find?_of_mem h.1 he, ?_⟩
    exact sameMembers_refl members h.2 entry he

theorem sameItems_refl : ∀ items : List Json, TidyItems items → sameItems items items = true
  | [], _ => by simp [sameItems]
  | item :: rest, h => by simp [sameItems, same_refl item h.1, sameItems_refl rest h.2]

/-- Each member on its own. -/
theorem sameMembers_refl : ∀ members : List (String × Json), TidyMembers members →
    ∀ entry ∈ members, entry.2.same entry.2 = true
  | [], _ => by simp
  | (_, value) :: rest, h => by
    intro entry he
    rcases List.mem_cons.mp he with rfl | he
    · exact same_refl value h.1
    · exact sameMembers_refl rest h.2 entry he

end

mutual

theorem same_trans : ∀ x y z : Json, x.same y = true → y.same z = true → x.same z = true
  | null, y, z, hxy, hyz => by
    cases y <;> simp only [same, Bool.false_eq_true] at hxy
    exact hyz
  | bool _, y, z, hxy, hyz => by
    cases y <;> simp only [same, Bool.false_eq_true, beq_iff_eq] at hxy
    exact hxy ▸ hyz
  | int _, y, z, hxy, hyz => by
    cases y <;> simp only [same, Bool.false_eq_true, beq_iff_eq] at hxy
    exact hxy ▸ hyz
  | float _, y, z, hxy, hyz => by
    cases y <;> simp only [same, Bool.false_eq_true] at hxy
    cases z <;> simp only [same, Bool.false_eq_true] at hyz
    rw [same]
    exact Binary64.same_trans hxy hyz
  | str _, y, z, hxy, hyz => by
    cases y <;> simp only [same, Bool.false_eq_true, beq_iff_eq] at hxy
    exact hxy ▸ hyz
  | arr items, y, z, hxy, hyz => by
    cases y <;> simp only [same, Bool.false_eq_true] at hxy
    cases z <;> simp only [same, Bool.false_eq_true] at hyz
    rw [same]
    exact sameItems_trans items _ _ hxy hyz
  | obj members, y, z, hxy, hyz => by
    cases y <;> simp only [same, Bool.false_eq_true, Bool.and_eq_true, beq_iff_eq] at hxy
    cases z <;> simp only [same, Bool.false_eq_true, Bool.and_eq_true, beq_iff_eq] at hyz
    simp only [same, Bool.and_eq_true, beq_iff_eq]
    exact ⟨hxy.1.trans hyz.1, sameMembers_trans members _ _ hxy.2 hyz.2⟩

theorem sameItems_trans : ∀ xs ys zs : List Json, sameItems xs ys = true →
    sameItems ys zs = true → sameItems xs zs = true
  | [], ys, zs, hxy, hyz => by
    cases ys <;> simp only [sameItems, Bool.false_eq_true] at hxy
    exact hyz
  | x :: xs, ys, zs, hxy, hyz => by
    cases ys <;> simp only [sameItems, Bool.false_eq_true, Bool.and_eq_true] at hxy
    cases zs <;> simp only [sameItems, Bool.false_eq_true, Bool.and_eq_true] at hyz
    simp only [sameItems, Bool.and_eq_true]
    exact ⟨same_trans x _ _ hxy.1 hyz.1, sameItems_trans xs _ _ hxy.2 hyz.2⟩

theorem sameMembers_trans : ∀ xs ys zs : List (String × Json), sameMembers xs ys = true →
    sameMembers ys zs = true → sameMembers xs zs = true
  | [], _, _, _, _ => by simp [sameMembers]
  | (name, value) :: rest, ys, zs, hxy, hyz => by
    simp only [sameMembers, Bool.and_eq_true] at hxy ⊢
    refine ⟨?_, sameMembers_trans rest ys zs hxy.2 hyz⟩
    cases hy : Keyed.find? name ys with
    | none => simp [hy] at hxy
    | some other =>
      obtain ⟨last, hz, hlast⟩ := found_of_sameMembers hyz hy
      have hvalue : value.same other = true := by simpa [hy] using hxy.1
      simpa [hz] using same_trans value other last hvalue hlast

end

end Json

theorem Binding.same_refl (binding : Binding) : binding.same binding = true := by
  simpa [Binding.same, Params.same] using Json.same_refl _ binding.params.tidy

theorem Binding.same_trans {a b c : Binding} (hab : a.same b = true) (hbc : b.same c = true) :
    a.same c = true := by
  simp only [Binding.same, Params.same, Bool.and_eq_true, beq_iff_eq] at hab hbc ⊢
  exact ⟨hab.1.trans hbc.1, Json.same_trans _ _ _ hab.2 hbc.2⟩

theorem Element.same_refl (element : Element) : element.same element = true := by
  cases element with
  | leaf binding => exact binding.same_refl
  | nested schema => simp [Element.same]

theorem Element.same_trans {a b c : Element} (hab : a.same b = true) (hbc : b.same c = true) :
    a.same c = true := by
  cases a <;> cases b <;> simp only [Element.same, Bool.false_eq_true, beq_iff_eq] at hab <;>
    cases c <;> simp only [Element.same, Bool.false_eq_true, beq_iff_eq] at hbc ⊢
  · exact Binding.same_trans hab hbc
  · exact hab.trans hbc

theorem Shape.same_refl (shape : Shape) : shape.same shape = true := by
  cases shape with
  | leaf binding => exact binding.same_refl
  | nested schema => simp [Shape.same]
  | list element count => simp [Shape.same, element.same_refl]

theorem Shape.same_trans {a b c : Shape} (hab : a.same b = true) (hbc : b.same c = true) :
    a.same c = true := by
  cases a <;> cases b <;>
    simp only [Shape.same, Bool.false_eq_true, Bool.and_eq_true, beq_iff_eq] at hab <;>
    cases c <;> simp only [Shape.same, Bool.false_eq_true, Bool.and_eq_true, beq_iff_eq] at hbc ⊢
  · exact Binding.same_trans hab hbc
  · exact hab.trans hbc
  · exact ⟨Element.same_trans hab.1 hbc.1, hab.2.trans hbc.2⟩

theorem Field.same_refl (field : Field) : field.same field = true := by
  simp [Field.same, Shape.same_refl]

theorem Field.same_trans {a b c : Field} (hab : a.same b = true) (hbc : b.same c = true) :
    a.same c = true := by
  simp only [Field.same, Bool.and_eq_true, beq_iff_eq] at hab hbc ⊢
  exact ⟨hab.1.trans hbc.1, Shape.same_trans hab.2 hbc.2⟩

theorem sameFields_refl (fields : List Field) : sameFields fields fields = true := by
  induction fields with
  | nil => rfl
  | cons field rest ih => simp [sameFields, Field.same_refl, ih]

theorem sameFields_trans {as bs cs : List Field} (hab : sameFields as bs = true)
    (hbc : sameFields bs cs = true) : sameFields as cs = true := by
  induction as generalizing bs cs with
  | nil =>
    cases bs <;> simp only [sameFields, Bool.false_eq_true] at hab
    exact hbc
  | cons a as ih =>
    cases bs <;> simp only [sameFields, Bool.false_eq_true, Bool.and_eq_true] at hab
    cases cs <;> simp only [sameFields, Bool.false_eq_true, Bool.and_eq_true] at hbc
    simp only [sameFields, Bool.and_eq_true]
    exact ⟨Field.same_trans hab.1 hbc.1, ih hab.2 hbc.2⟩

end MockApi
