import Flatline.Common.Triple

/-!
# Programs that leave part of the state alone

`Keeps view m`: whatever `m` does, the part of the state that `view` shows stays, whether `m` returns
or stops. `KeepsRaising view E m` also says with which errors it stops.
-/

namespace Triple

variable {ε σ γ α β : Type}

/-- The program leaves alone what `view` shows. -/
def Keeps (view : σ → γ) (m : EStateM ε σ α) : Prop :=
  ∀ c, Holds (fun s => view s = c) m (fun _ s => view s = c) (fun _ s => view s = c)

variable {view : σ → γ} {m : EStateM ε σ α} {f : α → EStateM ε σ β} {s s' : σ}

namespace Keeps

theorem pure (a : α) : Keeps view (Pure.pure a : EStateM ε σ α) :=
  fun _ => Holds.pure fun _ h => h

theorem throw (e : ε) : Keeps view (MonadExcept.throw e : EStateM ε σ α) :=
  fun _ => Holds.throw fun _ h => h

theorem bind (hm : Keeps view m) (hf : ∀ a, Keeps view (f a)) : Keeps view (m >>= f) :=
  fun c => (hm c).bind fun a => hf a c

/-- A program that looks at the state first. -/
theorem get_bind {g : σ → EStateM ε σ β} (hg : ∀ s, Keeps view (g s)) : Keeps view (get >>= g) :=
  fun c s hs => hg s c s hs

theorem modify {g : σ → σ} (hg : ∀ s, view (g s) = view s) :
    Keeps view (modifyGet fun s => (⟨⟩, g s) : EStateM ε σ PUnit) :=
  fun _ => Holds.modify fun s hs => (hg s).trans hs

/-- A program that does not change the state. -/
theorem of_same (h : ∀ s, (∃ a, m s = .ok a s) ∨ ∃ e, m s = .error e s) : Keeps view m := by
  intro c s hs
  rcases h s with ⟨a, hrun⟩ | ⟨e, hrun⟩
  · rw [hrun]
    exact hs
  · rw [hrun]
    exact hs

/-- A loop over a list keeps what each of its turns keeps. -/
theorem forM {δ : Type} {g : δ → EStateM ε σ PUnit} (hg : ∀ d, Keeps view (g d)) (l : List δ) :
    Keeps view (l.forM g) :=
  fun c => Holds.forM (fun d => hg d c) l

theorem of_ok (hm : Keeps view m) {a : α} (hrun : m s = .ok a s') : view s' = view s :=
  (hm (view s)).of_ok rfl hrun

theorem of_error (hm : Keeps view m) {e : ε} (hrun : m s = .error e s') : view s' = view s :=
  (hm (view s)).of_error rfl hrun

/-- Whatever holds of the part that stays goes on to hold. -/
theorem holds (hm : Keeps view m) (P : γ → Prop) :
    Holds (fun s => P (view s)) m (fun _ s => P (view s)) (fun _ s => P (view s)) :=
  fun s hs => (hm (view s)).mono (fun _ h => h) (fun _ _ h => h.symm ▸ hs)
    (fun _ _ h => h.symm ▸ hs) s rfl

end Keeps

/-- The program leaves alone what `view` shows, and stops with errors of `E` only. -/
def KeepsRaising (view : σ → γ) (E : ε → Prop) (m : EStateM ε σ α) : Prop :=
  ∀ c, Holds (fun s => view s = c) m (fun _ s => view s = c) (fun e s => E e ∧ view s = c)

namespace KeepsRaising

variable {E : ε → Prop}

theorem pure (a : α) : KeepsRaising view E (Pure.pure a : EStateM ε σ α) :=
  fun _ => Holds.pure fun _ h => h

theorem throw {e : ε} (he : E e) :
    KeepsRaising view E (MonadExcept.throw e : EStateM ε σ α) :=
  fun _ => Holds.throw fun _ h => ⟨he, h⟩

theorem bind (hm : KeepsRaising view E m) (hf : ∀ a, KeepsRaising view E (f a)) :
    KeepsRaising view E (m >>= f) :=
  fun c => (hm c).bind fun a => hf a c

/-- A program that looks at the state first. -/
theorem get_bind {g : σ → EStateM ε σ β} (hg : ∀ s, KeepsRaising view E (g s)) :
    KeepsRaising view E (get >>= g) :=
  fun c s hs => hg s c s hs

theorem modify {g : σ → σ} (hg : ∀ s, view (g s) = view s) :
    KeepsRaising view E (modifyGet fun s => (⟨⟩, g s) : EStateM ε σ PUnit) :=
  fun _ => Holds.modify fun s hs => (hg s).trans hs

/-- A loop over a list keeps and raises what each of its turns does. -/
theorem forM {δ : Type} {g : δ → EStateM ε σ PUnit} (hg : ∀ d, KeepsRaising view E (g d))
    (l : List δ) : KeepsRaising view E (l.forM g) :=
  fun c => Holds.forM (fun d => hg d c) l

/-- What shows less stays too. -/
theorem mono {δ : Type} {view' : σ → δ} (hm : KeepsRaising view E m)
    (h : ∀ {s s'}, view s = view s' → view' s = view' s') : KeepsRaising view' E m := by
  rintro c s rfl
  exact (hm (view s)).mono (fun _ hs => hs) (fun _ _ hs => h hs)
    (fun _ _ hs => ⟨hs.1, h hs.2⟩) s rfl

theorem keeps (hm : KeepsRaising view E m) : Keeps view m :=
  fun c => (hm c).error fun _ _ h => h.2

theorem raises (hm : KeepsRaising view E m) {e : ε} (hrun : m s = .error e s') : E e :=
  ((hm (view s)).of_error rfl hrun).1

/-- An error that the first program of a chain does not stop with comes from the rest. -/
theorem bind_eq_error_iff (hm : KeepsRaising view E m) {e : ε} (he : ¬ E e) :
    (m >>= f) s = .error e s' ↔ ∃ a s₁, m s = .ok a s₁ ∧ f a s₁ = .error e s' := by
  cases hrun : m s with
  | ok a s₁ =>
    rw [bind_of_ok hrun]
    constructor
    · exact fun h => ⟨a, s₁, rfl, h⟩
    · rintro ⟨a', s₁', h, hf⟩
      cases h
      exact hf
  | error e' s₁ =>
    rw [bind_of_error hrun]
    refine iff_of_false (fun h => ?_) (by rintro ⟨a, s₁', h, -⟩; cases h)
    cases h
    exact he (hm.raises hrun)

/-- An error that the rest of a chain does not stop with comes from its first program. -/
theorem bind_eq_error_iff_left (hf : ∀ a, KeepsRaising view E (f a)) {e : ε} (he : ¬ E e) :
    (m >>= f) s = .error e s' ↔ m s = .error e s' := by
  cases hrun : m s with
  | ok a s₁ =>
    rw [bind_of_ok hrun]
    exact iff_of_false (fun h => he ((hf a).raises h)) (by intro h; cases h)
  | error e' s₁ =>
    rw [bind_of_error hrun]
    constructor
    · rintro ⟨⟩
      rfl
    · rintro ⟨⟩
      rfl

end KeepsRaising

end Triple
