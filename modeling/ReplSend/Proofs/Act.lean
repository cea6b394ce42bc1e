import Mathlib.Order.Defs.Unbundled
import ReplSend.Request

/-!
# Running operations step by step

What an operation made of steps answers and leaves behind, one equation for each way to make one.
A relation between states that holds over each step holds over the whole operation (`Keeps`).
-/

namespace ReplSend.Act

variable {τ α β : Type}

theorem bind_apply (x : Act τ α) (f : α → Act τ β) (w : World τ) :
    (x >>= f) w = match x w with
      | (.ok a, w') => f a w'
      | (.error e, w') => (.error e, w') := by
  show (match x w with | (r, w') => ExceptT.bindCont f r w') = _
  rcases x w with ⟨_ | _, w'⟩ <;> rfl

/-- A run of steps that succeeds is made of steps that succeed. -/
theorem bind_eq_ok {x : Act τ α} {f : α → Act τ β} {w w'' : World τ} {b : β}
    (h : (x >>= f) w = (.ok b, w'')) : ∃ a w', x w = (.ok a, w') ∧ f a w' = (.ok b, w'') := by
  rw [bind_apply] at h
  rcases hx : x w with ⟨e | a, w'⟩
  · rw [hx] at h
    cases h
  · rw [hx] at h
    exact ⟨a, w', rfl, h⟩

/-- A run of steps that fails has a step that fails after steps that succeed. -/
theorem bind_eq_error {x : Act τ α} {f : α → Act τ β} {w w'' : World τ} {e : Failure}
    (h : (x >>= f) w = (.error e, w'')) : x w = (.error e, w'') ∨
      ∃ a w', x w = (.ok a, w') ∧ f a w' = (.error e, w'') := by
  rw [bind_apply] at h
  rcases hx : x w with ⟨e' | a, w'⟩
  · rw [hx] at h
    obtain ⟨he, rfl⟩ := Prod.mk.inj h
    exact .inl (by rw [Except.error.inj he])
  · rw [hx] at h
    exact .inr ⟨a, w', rfl, h⟩

theorem eq_ok_of_isSome {x : Act τ α} {w : World τ} (h : (x w).1.toOption.isSome = true) :
    ∃ a, x w = (.ok a, (x w).2) := by
  rcases hx : x w with ⟨e | a, w'⟩
  · rw [hx] at h
    cases h
  · exact ⟨a, rfl⟩

@[simp] theorem pure_apply (a : α) (w : World τ) : (pure a : Act τ α) w = (.ok a, w) := rfl

@[simp] theorem throw_apply (e : Failure) (w : World τ) :
    (throw e : Act τ α) w = (.error e, w) := rfl

@[simp] theorem get_apply (w : World τ) : (get : Act τ (World τ)) w = (.ok w, w) := rfl

@[simp] theorem ofExcept_apply (r : Except Failure α) (w : World τ) : ofExcept r w = (r, w) := by
  cases r <;> rfl

theorem map_apply (f : α → β) (x : Act τ α) (w : World τ) :
    (f <$> x) w = ((x w).1.map f, (x w).2) := by
  rw [map_eq_pure_bind, bind_apply]
  rcases x w with ⟨_ | _, w'⟩ <;> rfl

theorem tryCatch_apply (x : Act τ α) (f : Failure → Act τ α) (w : World τ) :
    tryCatch x f w = match x w with
      | (.ok a, w') => (.ok a, w')
      | (.error e, w') => f e w' := by
  simp only [tryCatch, tryCatchThe, MonadExceptOf.tryCatch, ExceptT.tryCatch, ExceptT.mk, bind,
    StateT.bind]
  rcases x w with ⟨_ | _, w'⟩
  · rfl
  · rfl

/-! ## From state to state -/

/-- Whatever it answers, the operation leaves a state that stands in the relation to the one
before. -/
def Keeps (R : World τ → World τ → Prop) (x : Act τ α) : Prop := ∀ w, R w (x w).2

section Keeps

variable {R : World τ → World τ → Prop} {x : Act τ α}

theorem Keeps.of_eq (hx : Keeps R x) {w w' : World τ} {r : Except Failure α}
    (h : x w = (r, w')) : R w w' := by
  have hw := hx w
  rwa [h] at hw

theorem keeps_change {f : World τ → α × World τ} (hf : ∀ w, R w (f w).2) : Keeps R (change f) := hf

theorem keeps_update {f : World τ → World τ} (hf : ∀ w, R w (f w)) : Keeps R (update f) := hf

theorem Keeps.bind [IsTrans (World τ) R] {f : α → Act τ β} (hx : Keeps R x)
    (hf : ∀ a, Keeps R (f a)) : Keeps R (x >>= f) := by
  intro w
  have hw := hx w
  rw [bind_apply]
  generalize x w = r at hw
  rcases r with ⟨e | a, w'⟩
  · exact hw
  · exact IsTrans.trans _ _ _ hw (hf a w')

variable [Std.Refl R]

theorem keeps_pure (a : α) : Keeps R (pure a : Act τ α) := fun w => refl w

theorem keeps_throw (e : Failure) : Keeps R (throw e : Act τ α) := fun w => refl w

theorem keeps_get : Keeps R (get : Act τ (World τ)) := fun w => refl w

theorem keeps_ofExcept (r : Except Failure α) : Keeps R (ofExcept r : Act τ α) := fun w => by
  rw [ofExcept_apply]
  exact refl w

end Keeps

end ReplSend.Act
