import MockApi.Generator.Basic
import MockApi.Proofs.Draw.Bounds

/-! Attempts of which the source does not decide whether they fail, nor how. -/
namespace MockApi

open Draw (Always)

variable {α β ε ε' : Type}

/-- Every source leads to the failure. -/
def Fails (e : ε) (attempt : ExceptT ε Draw α) : Prop :=
  Always (fun outcome => outcome = .error e) attempt.run

/-- Every source leads to a value, and to one that has a property. -/
def Succeeds (P : α → Prop) (attempt : ExceptT ε Draw α) : Prop :=
  Always (fun outcome => ∃ value, outcome = .ok value ∧ P value) attempt.run

/-- All sources lead to one fault, or all of them to values. -/
def Settled (attempt : ExceptT (Abort ε) Draw α) : Prop :=
  (∃ e, Fails (.fault e) attempt) ∨ Succeeds (fun _ => True) attempt

variable {e : ε} {x : ExceptT ε Draw α} {f : α → ExceptT ε Draw β} {P : α → Prop} {R : β → Prop}

namespace Succeeds

theorem pure {a : α} (h : P a) : Succeeds P (pure a : ExceptT ε Draw α) := fun _ => ⟨a, rfl, h⟩

theorem lift {draw : Draw α} (h : draw.Always P) :
    Succeeds P (ExceptT.lift draw : ExceptT ε Draw α) := fun source => ⟨_, rfl, h source⟩

theorem draws (draw : Draw α) : Succeeds (fun _ => True) (ExceptT.lift draw : ExceptT ε Draw α) :=
  lift (Always.trivially draw)

theorem bind (hx : Succeeds P x) (hf : ∀ a, P a → Succeeds R (f a)) : Succeeds R (x >>= f) := by
  refine Always.attempt_bind hx (fun e h => ?_) fun a h => ?_
  · obtain ⟨_, ⟨⟩, _⟩ := h
  · obtain ⟨_, ⟨⟩, ha⟩ := h
    exact hf a ha

/-- Behind an attempt with one possible value. -/
theorem bind_eq {a : α} (hx : Succeeds (fun value => value = a) x) (hf : Succeeds R (f a)) :
    Succeeds R (x >>= f) :=
  hx.bind fun _ hvalue => hvalue ▸ hf

theorem mono {Q : α → Prop} (hx : Succeeds P x) (h : ∀ a, P a → Q a) : Succeeds Q x :=
  Always.mono hx fun _ ⟨value, hvalue, hP⟩ => ⟨value, hvalue, h value hP⟩

theorem map {g : α → β} (hx : Succeeds P x) (h : ∀ a, P a → R (g a)) : Succeeds R (g <$> x) := by
  rw [map_eq_pure_bind]
  exact hx.bind fun a ha => pure (h a ha)

/-- A check that lets pass. -/
theorem check {c : Prop} [Decidable c] {x : ExceptT ε Draw β} (hc : ¬c) (hx : Succeeds R x) :
    Succeeds R (if c then MonadExcept.throw e >>= f else x) := by
  rw [if_neg hc]
  exact hx

theorem adapt (hx : Succeeds P x) (g : ε → ε') : Succeeds P (ExceptT.adapt g x) := by
  intro source
  obtain ⟨value, hvalue, h⟩ := hx source
  refine ⟨value, ?_, h⟩
  change (x.run.run source).1.mapError g = _
  rw [hvalue]
  rfl

theorem mapM {x : α → ExceptT ε Draw β} {items : List α}
    (hx : ∀ a ∈ items, Succeeds (fun _ => True) (x a)) :
    Succeeds (fun _ => True) (items.mapM x) := by
  induction items with
  | nil => exact pure trivial
  | cons a rest ih =>
    rw [List.mapM_cons]
    refine (hx a List.mem_cons_self).bind fun b _ => ?_
    exact (ih fun a ha => hx a (List.mem_cons_of_mem _ ha)).bind fun bs _ => pure trivial

end Succeeds

namespace Fails

theorem throw (e : ε) : Fails e (throw e : ExceptT ε Draw α) := fun _ => rfl

/-- What fails first decides. -/
theorem bind (hx : Fails e x) : Fails e (x >>= f) :=
  Always.attempt_bind hx (fun _ h => congrArg Except.error (Except.error.inj h)) fun _ h => nomatch h

theorem of_succeeds (hx : Succeeds P x) (hf : ∀ a, P a → Fails e (f a)) : Fails e (x >>= f) := by
  refine Always.attempt_bind hx (fun _ h => ?_) fun a h => ?_
  · obtain ⟨_, ⟨⟩, _⟩ := h
  · obtain ⟨_, ⟨⟩, ha⟩ := h
    exact hf a ha

/-- Behind an attempt with one possible value. -/
theorem bind_eq {a : α} (hx : Succeeds (fun value => value = a) x) (hf : Fails e (f a)) :
    Fails e (x >>= f) :=
  of_succeeds hx fun _ hvalue => hvalue ▸ hf

/-- A check that does not let pass. -/
theorem check {c : Prop} [Decidable c] {x : ExceptT ε Draw β} (hc : c) :
    Fails e (if c then MonadExcept.throw e >>= f else x) := by
  rw [if_pos hc]
  exact (throw e).bind

/-- What fails behind a check that lets pass. -/
theorem passed {c : Prop} [Decidable c] {e' : ε} {x : ExceptT ε Draw β} (hc : ¬c)
    (hx : Fails e' x) : Fails e' (if c then MonadExcept.throw e >>= f else x) := by
  rw [if_neg hc]
  exact hx

theorem adapt (hx : Fails e x) (g : ε → ε') : Fails (g e) (ExceptT.adapt g x) := by
  intro source
  change (x.run.run source).1.mapError g = _
  rw [hx source]
  rfl

/-- The first of several attempts decides. -/
theorem mapM {x : α → ExceptT ε Draw β} {a : α} {rest : List α} (hx : Fails e (x a)) :
    Fails e ((a :: rest).mapM x) := by
  rw [List.mapM_cons]
  exact hx.bind

end Fails

namespace Settled

variable {x : ExceptT (Abort ε) Draw α} {f : α → ExceptT (Abort ε) Draw β}

theorem pure (a : α) : Settled (pure a : ExceptT (Abort ε) Draw α) := .inr (.pure trivial)

theorem refuse (e : ε) : Settled (refuse e : ExceptT (Abort ε) Draw α) := .inl ⟨e, .throw _⟩

theorem draws (draw : Draw α) : Settled (ExceptT.lift draw : ExceptT (Abort ε) Draw α) :=
  .inr (.draws draw)

/-- Behind a draw there must not be a failure that only some values lead to. -/
theorem draws_bind {draw : Draw α} (hf : ∀ a, Succeeds (fun _ => True) (f a)) :
    Settled (ExceptT.lift draw >>= f) :=
  .inr ((Succeeds.draws draw).bind fun a _ => hf a)

theorem map {g : α → β} (hx : Settled x) : Settled (g <$> x) := by
  rw [map_eq_pure_bind]
  rcases hx with ⟨e, hx⟩ | hx
  · exact .inl ⟨e, hx.bind⟩
  · exact .inr (hx.bind fun _ _ => .pure trivial)

/-- A check of things other than the source. -/
theorem check {c : Prop} [Decidable c] {x : ExceptT (Abort ε) Draw β} (hx : ¬c → Settled x) :
    Settled (if c then MockApi.refuse e >>= f else x) := by
  split
  · exact .inl ⟨e, (Fails.throw _).bind⟩
  · next hc => exact hx hc

end Settled

/-- An attempt that does not touch the source. -/
def Foregone (attempt : ExceptT (Abort ε) Draw α) : Prop :=
  (∃ value, attempt = pure value) ∨ ∃ e, attempt = refuse e

namespace Foregone

variable {x : ExceptT (Abort ε) Draw α} {f : α → ExceptT (Abort ε) Draw β}

theorem pure (a : α) : Foregone (pure a : ExceptT (Abort ε) Draw α) := .inl ⟨a, rfl⟩

theorem refuse (e : ε) : Foregone (refuse e : ExceptT (Abort ε) Draw α) := .inr ⟨e, rfl⟩

theorem bind (hx : Foregone x) (hf : ∀ a, Foregone (f a)) : Foregone (x >>= f) := by
  rcases hx with ⟨a, rfl⟩ | ⟨e, rfl⟩
  · exact hf a
  · exact .inr ⟨e, rfl⟩

theorem check {c : Prop} [Decidable c] {x : ExceptT (Abort ε) Draw β} (hx : Foregone x) :
    Foregone (if c then MockApi.refuse e >>= f else x) := by
  split
  · exact .inr ⟨e, rfl⟩
  · exact hx

theorem settled_bind (hx : Foregone x) (hf : ∀ a, Settled (f a)) : Settled (x >>= f) := by
  rcases hx with ⟨a, rfl⟩ | ⟨e, rfl⟩
  · exact hf a
  · exact .inl ⟨e, (Fails.throw _).bind⟩

end Foregone
end MockApi
