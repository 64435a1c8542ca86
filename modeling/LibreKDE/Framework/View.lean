/-!
# What a stateful program leaves alone

`Keeps view x` says that the program `x` never changes what `view` shows of its state.  The
rules are one for each way a program is put together; `run_bind` is how the parts that *do*
change the view are followed.

`Alike view x y` compares two programs: they do the same, and `view` does not tell their results
apart.
-/

namespace Stateful

universe u v

variable {σ α β : Type u} {γ : Type v} {view : σ → γ}

/-- The program leaves the view of its state alone. -/
def Keeps (view : σ → γ) (x : StateM σ α) : Prop := ∀ s, view (x s).2 = view s

theorem run_bind (x : StateM σ α) (f : α → StateM σ β) (s : σ) :
    (x >>= f) s = f (x s).1 (x s).2 := rfl

theorem run_pure (a : α) (s : σ) : (Pure.pure a : StateM σ α) s = (a, s) := rfl

theorem run_map (f : α → β) (x : StateM σ α) (s : σ) :
    (f <$> x) s = (f (x s).1, (x s).2) := rfl

theorem Keeps.pure (a : α) : Keeps view (Pure.pure a : StateM σ α) := fun _ => rfl

theorem Keeps.bind {x : StateM σ α} {f : α → StateM σ β} (hx : Keeps view x)
    (hf : ∀ a, Keeps view (f a)) : Keeps view (x >>= f) := by
  intro s
  rw [run_bind, hf, hx]

/-- What follows shows as it was left, if it keeps the view. -/
theorem Keeps.after {f : α → StateM σ β} (hf : ∀ a, Keeps view (f a)) (x : StateM σ α) (s : σ) :
    view ((x >>= f) s).2 = view (x s).2 :=
  hf _ _

theorem Keeps.forIn {f : α → β → StateM σ (ForInStep β)} (hf : ∀ a b, Keeps view (f a b))
    (as : List α) (b : β) : Keeps view (ForIn.forIn as b f) := by
  induction as generalizing b with
  | nil => exact Keeps.pure b
  | cons a as ih =>
      rw [List.forIn_cons]
      apply Keeps.bind (hf a b)
      intro r
      cases r with
      | done b => exact Keeps.pure b
      | yield b => exact ih b

/-! ## Programs that end alike -/

section Alike

variable {view : α → γ}

/-- From every state the two programs reach the same state, with results that show the same. -/
def Alike (view : α → γ) (x y : StateM σ α) : Prop :=
  ∀ s, view (x s).1 = view (y s).1 ∧ (x s).2 = (y s).2

theorem Alike.refl (x : StateM σ α) : Alike view x x := fun _ => ⟨rfl, rfl⟩

theorem Alike.pure {a b : α} (hab : view a = view b) :
    Alike view (Pure.pure a : StateM σ α) (Pure.pure b) :=
  fun _ => ⟨hab, rfl⟩

/-- What follows the same program is compared in the state that it leaves. -/
theorem Alike.bind (x : StateM σ β) {f g : β → StateM σ α} (hfg : ∀ b, Alike view (f b) (g b)) :
    Alike view (x >>= f) (x >>= g) := by
  intro s
  rw [run_bind, run_bind]
  exact hfg (x s).1 (x s).2

end Alike

end Stateful
