import MockApi.Random

/-! What holds of every value that a draw can give, whatever the source is. -/
namespace MockApi

variable {α β ε ε' : Type}

/-- Every drawn value has a property. -/
def Draw.Always (P : α → Prop) (draw : Draw α) : Prop := ∀ source, P (draw.run source).1

/-- Every value has a property; failures are left open. -/
def Yields (P : α → Prop) (attempt : ExceptT ε Draw α) : Prop :=
  ∀ source value, (attempt.run.run source).1 = .ok value → P value

namespace Draw.Always

variable {P Q : α → Prop}

theorem pure {a : α} (h : P a) : Always P (pure a) := fun _ => h

theorem bind {x : Draw α} {f : α → Draw β} {R : β → Prop} (hx : Always P x)
    (hf : ∀ a, P a → Always R (f a)) : Always R (x >>= f) :=
  fun source => hf _ (hx source) _

theorem map {x : Draw α} {f : α → β} {R : β → Prop} (hx : Always P x)
    (hf : ∀ a, P a → R (f a)) : Always R (f <$> x) :=
  fun source => hf _ (hx source)

theorem mono {x : Draw α} (hx : Always P x) (h : ∀ a, P a → Q a) : Always Q x :=
  fun source => h _ (hx source)

theorem trivially (x : Draw α) : Always (fun _ => True) x := fun _ => trivial

theorem mapM {R : β → Prop} {x : α → Draw β} {items : List α} (hx : ∀ a ∈ items, Always R (x a)) :
    Always (fun values => values.length = items.length ∧ ∀ value ∈ values, R value)
      (items.mapM x) := by
  induction items with
  | nil => exact pure ⟨rfl, List.forall_mem_nil _⟩
  | cons a rest ih =>
    rw [List.mapM_cons]
    refine (hx a List.mem_cons_self).bind fun b hb => ?_
    refine (ih fun a ha => hx a (List.mem_cons_of_mem _ ha)).bind fun bs hbs => ?_
    exact pure ⟨by simp [hbs.1], List.forall_mem_cons.mpr ⟨hb, hbs.2⟩⟩

end Draw.Always

/-- The outcome of two attempts, from what is known of the first one: its failures are final, and
behind its values the second one runs. -/
theorem Draw.Always.attempt_bind {x : ExceptT ε Draw α} {f : α → ExceptT ε Draw β}
    {Q : Except ε α → Prop} {R : Except ε β → Prop} (hx : Always Q x.run)
    (herror : ∀ e, Q (.error e) → R (.error e)) (hok : ∀ a, Q (.ok a) → Always R (f a).run) :
    Always R (x >>= f).run := by
  change Always R (x.run >>= ExceptT.bindCont f)
  refine hx.bind fun outcome houtcome => ?_
  cases outcome with
  | error e => exact Always.pure (herror e houtcome)
  | ok a => exact hok a houtcome

namespace Yields

variable {P Q : α → Prop} {R : β → Prop}

theorem pure {a : α} (h : P a) : Yields P (pure a : ExceptT ε Draw α) := by
  intro source value hv
  cases hv
  exact h

theorem throw (e : ε) : Yields P (throw e : ExceptT ε Draw α) := by
  intro source value hv
  cases hv

theorem bind {x : ExceptT ε Draw α} {f : α → ExceptT ε Draw β} (hx : Yields P x)
    (hf : ∀ a, P a → Yields R (f a)) : Yields R (x >>= f) :=
  Draw.Always.attempt_bind (Q := fun outcome => ∀ value, outcome = .ok value → P value)
    (R := fun outcome => ∀ value, outcome = .ok value → R value) hx (fun _ _ => nofun)
    fun a ha => hf a (ha a rfl)

/-- A check that refuses gives no value, and nothing behind it runs. -/
theorem check {c : Prop} [Decidable c] {e : ε} {f : α → ExceptT ε Draw β}
    {x : ExceptT ε Draw β} (hx : ¬c → Yields R x) :
    Yields R (if c then MonadExcept.throw e >>= f else x) := by
  split
  · exact (Yields.throw (P := fun _ => False) e).bind fun _ h => h.elim
  · next hc => exact hx hc

theorem trivially (x : ExceptT ε Draw α) : Yields (fun _ => True) x := fun _ _ _ => trivial

theorem mono {x : ExceptT ε Draw α} (hx : Yields P x) (h : ∀ a, P a → Q a) : Yields Q x :=
  fun source value hv => h _ (hx source value hv)

theorem lift {x : Draw α} (hx : x.Always P) : Yields P (ExceptT.lift x : ExceptT ε Draw α) := by
  intro source value hv
  have heq : (Except.ok (x.run source).1 : Except ε α) = .ok value := hv
  cases heq
  exact hx source

theorem map {x : ExceptT ε Draw α} {f : α → β} (hx : Yields P x) (hf : ∀ a, P a → R (f a)) :
    Yields R (f <$> x) := by
  rw [map_eq_pure_bind]
  exact hx.bind fun a ha => Yields.pure (hf a ha)

theorem adapt {x : ExceptT ε Draw α} (hx : Yields P x) (f : ε → ε') :
    Yields P (ExceptT.adapt f x) := by
  intro source value hv
  have hrun : ((x.run.run source).1.mapError f) = .ok value := hv
  cases hx' : (x.run.run source).1 with
  | error e =>
    rw [hx'] at hrun
    exact nomatch (show Except.error (f e) = Except.ok value from hrun)
  | ok a =>
    rw [hx'] at hrun
    have heq : (Except.ok a : Except ε' α) = .ok value := hrun
    exact Except.ok.inj heq ▸ hx source a hx'

theorem mapM {x : α → ExceptT ε Draw β} {items : List α} (hx : ∀ a ∈ items, Yields R (x a)) :
    Yields (fun values => values.length = items.length ∧ ∀ value ∈ values, R value)
      (items.mapM x) := by
  induction items with
  | nil => exact Yields.pure ⟨rfl, by simp⟩
  | cons a rest ih =>
    rw [List.mapM_cons]
    refine (hx a List.mem_cons_self).bind fun b hb => ?_
    refine (ih fun a ha => hx a (List.mem_cons_of_mem _ ha)).bind fun bs hbs => ?_
    refine Yields.pure ⟨by simp [hbs.1], fun value hv => ?_⟩
    rcases List.mem_cons.mp hv with rfl | hv
    · exact hb
    · exact hbs.2 value hv

end Yields
end MockApi
