import Mathlib

/-!
# Receive loops

A receive loop takes one input at a time from a list: a turn either goes on with a new state, ends
the loop with a result, or fails. A program made of several such loops consumes a prefix of the
list. The lemmas turn "the loop has finished" into a decomposition of the inputs: the ones it
went past, and the one that ended it.
-/

namespace ReceiveLoop

variable {ε ι σ α β : Type*}

/-- What one turn of a loop decides. -/
inductive Turn (σ α : Type*) where
  | again (s : σ)
  | done (a : α)

/-- What a program that reads inputs comes to. -/
inductive Outcome (ε ι α : Type*) where
  /-- It has returned `a`, and `rest` is still unread. -/
  | finished (a : α) (rest : List ι)
  | failed (e : ε)
  /-- It has read every input and wants another one. -/
  | waiting

/-- Run `turn` on one input after the other. -/
def loop (turn : σ → ι → Except ε (Turn σ α)) : σ → List ι → Outcome ε ι α
  | _, [] => .waiting
  | s, input :: rest =>
    match turn s input with
    | .error e => .failed e
    | .ok (.again s') => loop turn s' rest
    | .ok (.done a) => .finished a rest

/-- Go on with what is left once a program has finished. -/
def Outcome.andThen (o : Outcome ε ι α) (f : α → List ι → Outcome ε ι β) : Outcome ε ι β :=
  match o with
  | .finished a rest => f a rest
  | .failed e => .failed e
  | .waiting => .waiting

/-- A fallible step that reads nothing. -/
def Outcome.lift (x : Except ε α) (inputs : List ι) : Outcome ε ι α :=
  match x with
  | .ok a => .finished a inputs
  | .error e => .failed e

/-- The result and the unread inputs of a finished program. -/
def Outcome.result? : Outcome ε ι α → Option (α × List ι)
  | .finished a rest => some (a, rest)
  | _ => none

theorem Outcome.result?_eq_some_iff {o : Outcome ε ι α} {a : α} {rest : List ι} :
    o.result? = some (a, rest) ↔ o = .finished a rest := by
  cases o <;> simp [Outcome.result?]

@[simp] theorem Outcome.lift_eq_finished_iff {x : Except ε α} {inputs rest : List ι} {a : α} :
    Outcome.lift x inputs = .finished a rest ↔ x = .ok a ∧ inputs = rest := by
  cases x <;> simp [Outcome.lift]

theorem Outcome.andThen_eq_finished_iff {o : Outcome ε ι α} {f : α → List ι → Outcome ε ι β}
    {b : β} {rest : List ι} :
    o.andThen f = .finished b rest ↔
      ∃ a mid, o = .finished a mid ∧ f a mid = .finished b rest := by
  cases o <;> simp [Outcome.andThen]

/-- The loop goes past `skipped`, from state `s` to state `s'`. -/
inductive Skips (turn : σ → ι → Except ε (Turn σ α)) : σ → List ι → σ → Prop
  | nil (s : σ) : Skips turn s [] s
  | cons {s s' s'' : σ} {input : ι} {skipped : List ι} (hturn : turn s input = .ok (.again s'))
      (hskips : Skips turn s' skipped s'') : Skips turn s (input :: skipped) s''

/-- A loop has finished exactly when it went past some inputs and the next one ended it. -/
theorem loop_eq_finished_iff {turn : σ → ι → Except ε (Turn σ α)} {s : σ} {inputs rest : List ι}
    {a : α} :
    loop turn s inputs = .finished a rest ↔
      ∃ skipped last s', inputs = skipped ++ last :: rest ∧ Skips turn s skipped s' ∧
        turn s' last = .ok (.done a) := by
  constructor
  · intro h
    induction inputs generalizing s with
    | nil => cases h
    | cons input inputs ih =>
      rw [loop] at h
      split at h
      · cases h
      · next s' hturn =>
          obtain ⟨skipped, last, t, rfl, hskips, hlast⟩ := ih h
          exact ⟨input :: skipped, last, t, rfl, .cons hturn hskips, hlast⟩
      · next b hturn =>
          injection h with hb hrest
          subst hb hrest
          exact ⟨[], input, s, rfl, .nil s, hturn⟩
  · rintro ⟨skipped, last, s', rfl, hskips, hlast⟩
    induction hskips with
    | nil s => simp [loop, hlast]
    | cons hturn hskips ih => simpa [loop, hturn] using ih hlast

/-- The next state has `P`, or the result has `Q`. -/
def Turn.Satisfies (P : σ → Prop) (Q : α → Prop) : Turn σ α → Prop
  | .again s => P s
  | .done a => Q a

/-- A property that every turn keeps, and that the last turn hands to the result, holds of the
result. -/
theorem loop_satisfies {turn : σ → ι → Except ε (Turn σ α)} {P : σ → Prop} {Q : α → Prop}
    (hturn : ∀ s input t, P s → turn s input = .ok t → t.Satisfies P Q) {s : σ}
    {inputs rest : List ι} {a : α} (hs : P s) (hrun : loop turn s inputs = .finished a rest) :
    Q a := by
  obtain ⟨skipped, last, s', -, hskips, hlast⟩ := loop_eq_finished_iff.mp hrun
  refine hturn s' last (.done a) ?_ hlast
  clear hrun hlast
  induction hskips with
  | nil s => exact hs
  | cons hagain _ ih => exact ih (hturn _ _ _ hs hagain)

/-! ## Loops within a loop -/

/-- A turn of a smaller loop as a turn of a larger one: it goes on in the smaller loop, or its result
decides how the larger loop goes on. -/
def Turn.into {τ : Type*} (inj : σ → τ) (next : α → Except ε (Turn τ β)) :
    Turn σ α → Except ε (Turn τ β)
  | .again s => .ok (.again (inj s))
  | .done a => next a

/-- What a loop comes to after a turn. -/
def settle (turn : σ → ι → Except ε (Turn σ α)) (result : Except ε (Turn σ α)) (rest : List ι) :
    Outcome ε ι α :=
  match result with
  | .error e => .failed e
  | .ok (.again s) => loop turn s rest
  | .ok (.done a) => .finished a rest

/-- A larger loop runs the smaller one to its end and goes on from there. -/
theorem loop_into {τ : Type*} {turn : σ → ι → Except ε (Turn σ α)}
    {turn' : τ → ι → Except ε (Turn τ β)} (inj : σ → τ) {next : α → Except ε (Turn τ β)}
    (h : ∀ s input, turn' (inj s) input = (turn s input).bind (Turn.into inj next)) (s : σ)
    (inputs : List ι) :
    loop turn' (inj s) inputs =
      (loop turn s inputs).andThen fun a rest => settle turn' (next a) rest := by
  induction inputs generalizing s with
  | nil => rfl
  | cons input inputs ih =>
    unfold loop
    rw [h]
    cases hturn : turn s input with
    | error e => rfl
    | ok t =>
      cases t with
      | again s' => exact ih s'
      | done a => rfl

/-- A loop that cannot go on from `s` takes exactly one input. -/
theorem loop_eq_finished_iff_of_no_again {turn : σ → ι → Except ε (Turn σ α)} {s : σ}
    {inputs rest : List ι} {a : α} (hstop : ∀ input t, turn s input ≠ .ok (.again t)) :
    loop turn s inputs = .finished a rest ↔
      ∃ input, inputs = input :: rest ∧ turn s input = .ok (.done a) := by
  rw [loop_eq_finished_iff]
  constructor
  · rintro ⟨skipped, last, s', rfl, hskips, hlast⟩
    cases hskips with
    | nil => exact ⟨last, rfl, hlast⟩
    | cons hturn _ => exact absurd hturn (hstop _ _)
  · rintro ⟨input, rfl, hdone⟩
    exact ⟨[], input, s, rfl, .nil s, hdone⟩

end ReceiveLoop
