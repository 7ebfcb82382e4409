import Mathlib

/-!
# Triples for stateful programs with errors

`Triple P m Q E`: started in a state with `P`, the program `m` either returns a value and a state
related by `Q`, or stops with an error and a state related by `E`. What a program changed before it
stopped stays changed.
-/

namespace Triple

variable {ε σ α β : Type}

/-- Specification of a program by a precondition and one postcondition for each way to end. -/
def Holds (P : σ → Prop) (m : EStateM ε σ α) (Q : α → σ → Prop) (E : ε → σ → Prop) : Prop :=
  ∀ s, P s → match m s with
    | .ok a s' => Q a s'
    | .error e s' => E e s'

variable {P P' : σ → Prop} {Q Q' : α → σ → Prop} {R : β → σ → Prop} {E E' : ε → σ → Prop}
  {m : EStateM ε σ α} {f : α → EStateM ε σ β}

/-! ## Runs -/

/-- A chain returns exactly when its first program does and the rest does after it. -/
theorem bind_eq_ok_iff {s s' : σ} {b : β} :
    (m >>= f) s = .ok b s' ↔ ∃ a s₁, m s = .ok a s₁ ∧ f a s₁ = .ok b s' := by
  change EStateM.bind m f s = _ ↔ _
  unfold EStateM.bind
  cases m s with
  | ok a s₁ =>
    constructor
    · exact fun h => ⟨a, s₁, rfl, h⟩
    · rintro ⟨a', s₁', h, hf⟩
      injection h with ha hs
      rw [ha, hs]
      exact hf
  | error e s₁ =>
    constructor
    · exact fun h => by cases h
    · rintro ⟨a', s₁', h, -⟩
      cases h

/-- What a chain does once its first program has returned. -/
theorem bind_of_ok {s s₁ : σ} {a : α} (h : m s = .ok a s₁) : (m >>= f) s = f a s₁ := by
  change EStateM.bind m f s = _
  unfold EStateM.bind
  rw [h]

theorem bind_of_error {s s₁ : σ} {e : ε} (h : m s = .error e s₁) :
    (m >>= f) s = .error e s₁ := by
  change EStateM.bind m f s = _
  unfold EStateM.bind
  rw [h]

/-- A program that reads the state first. -/
theorem get_bind (g : σ → EStateM ε σ β) (s : σ) : (get >>= g) s = g s s := rfl

/-! ## Rules -/

/-- What a triple says of a run that returns. -/
theorem Holds.of_ok (h : Holds P m Q E) {s s' : σ} {a : α} (hs : P s) (hrun : m s = .ok a s') :
    Q a s' := by
  have := h s hs
  rwa [hrun] at this

/-- What a triple says of a run that stops. -/
theorem Holds.of_error (h : Holds P m Q E) {s s' : σ} {e : ε} (hs : P s)
    (hrun : m s = .error e s') : E e s' := by
  have := h s hs
  rwa [hrun] at this

/-- Strengthen the precondition and weaken the postconditions. -/
theorem Holds.mono (h : Holds P m Q E) (hP : ∀ s, P' s → P s) (hQ : ∀ a s, Q a s → Q' a s)
    (hE : ∀ e s, E e s → E' e s) : Holds P' m Q' E' := by
  intro s hs
  have := h s (hP s hs)
  split at this
  · exact hQ _ _ this
  · exact hE _ _ this

theorem Holds.pre (h : Holds P m Q E) (hP : ∀ s, P' s → P s) : Holds P' m Q E :=
  h.mono hP (fun _ _ h => h) (fun _ _ h => h)

theorem Holds.post (h : Holds P m Q E) (hQ : ∀ a s, Q a s → Q' a s) : Holds P m Q' E :=
  h.mono (fun _ h => h) hQ (fun _ _ h => h)

theorem Holds.error (h : Holds P m Q E) (hE : ∀ e s, E e s → E' e s) : Holds P m Q E' :=
  h.mono (fun _ h => h) (fun _ _ h => h) hE

/-- Sequencing. -/
theorem Holds.bind (hm : Holds P m Q E) (hf : ∀ a, Holds (Q a) (f a) R E) :
    Holds P (m >>= f) R E := by
  intro s hs
  have := hm s hs
  change match EStateM.bind m f s with
    | .ok a s' => R a s'
    | .error e s' => E e s'
  unfold EStateM.bind
  cases hrun : m s with
  | ok a s' =>
    rw [hrun] at this
    exact hf a s' this
  | error e s' =>
    rw [hrun] at this
    exact this

/-- What holds of every end of the second program holds of the chain, whatever the first one does. -/
theorem Holds.after (hf : ∀ a, Holds (fun _ => True) (f a) R fun _ _ => True) :
    Holds (fun _ => True) (m >>= f) R fun _ _ => True := by
  refine Holds.bind (Q := fun _ _ => True) ?_ hf
  intro s _
  cases m s with
  | ok a s' => trivial
  | error e s' => trivial

theorem Holds.pure {a : α} (h : ∀ s, P s → Q a s) : Holds P (Pure.pure a : EStateM ε σ α) Q E :=
  fun s hs => h s hs

theorem Holds.throw {e : ε} (h : ∀ s, P s → E e s) :
    Holds P (MonadExcept.throw e : EStateM ε σ α) Q E :=
  fun s hs => h s hs

/-- Reading the state: what holds of it holds of the value read. -/
theorem Holds.get : Holds P (MonadState.get : EStateM ε σ σ) (fun a s => P a ∧ P s) E :=
  fun _ hs => ⟨hs, hs⟩

/-- Changing the state. -/
theorem Holds.modify {g : σ → σ} {T : PUnit → σ → Prop} (h : ∀ s, P s → T ⟨⟩ (g s)) :
    Holds P (modify g : EStateM ε σ PUnit) T E :=
  fun s hs => h s hs

/-- A fact about fixed values moves out of the precondition. -/
theorem Holds.of_and {p : Prop} (h : p → Holds P m Q E) : Holds (fun s => p ∧ P s) m Q E :=
  fun s hs => h hs.1 s hs.2

/-- A fixed value moves out of the precondition. -/
theorem Holds.of_exists {T : β → σ → Prop} (h : ∀ b, Holds (T b) m Q E) :
    Holds (fun s => ∃ b, T b s) m Q E :=
  fun s hs => hs.elim fun b hb => h b s hb

/-- A loop over a list keeps what each of its turns keeps. -/
theorem Holds.forM {γ : Type} {g : γ → EStateM ε σ PUnit}
    (h : ∀ c, Holds P (g c) (fun _ => P) E) (l : List γ) : Holds P (l.forM g) (fun _ => P) E := by
  induction l with
  | nil => exact Holds.pure fun _ hs => hs
  | cons c l ih => exact (h c).bind fun _ => ih

end Triple
