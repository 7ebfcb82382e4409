import Mathlib

/-!
# Labelled machines

A machine has initial states and a step relation labelled with inputs. `ReachVia` collects the
states of the runs whose steps all meet a guard.
-/

namespace Machine

variable {σ ι : Type*}

/-- The states that runs reach whose steps all meet `guard`. -/
inductive ReachVia (init : σ → Prop) (step : σ → ι → σ → Prop) (guard : σ → ι → Prop) : σ → Prop
  | start {s : σ} (h : init s) : ReachVia init step guard s
  | next {s s' : σ} {i : ι} (h : ReachVia init step guard s) (hguard : guard s i)
      (hstep : step s i s') : ReachVia init step guard s'

/-- The states that any run reaches. -/
abbrev Reachable (init : σ → Prop) (step : σ → ι → σ → Prop) : σ → Prop :=
  ReachVia init step fun _ _ => True

variable {init : σ → Prop} {step : σ → ι → σ → Prop} {guard : σ → ι → Prop}

/-- A run that meets a guard meets every weaker one. -/
theorem ReachVia.mono {guard' : σ → ι → Prop} {s : σ} (h : ReachVia init step guard s)
    (hguard : ∀ s i, guard s i → guard' s i) : ReachVia init step guard' s := by
  induction h with
  | start h => exact .start h
  | next _ hmeets hstep ih => exact .next ih (hguard _ _ hmeets) hstep

/-- What holds initially and is kept by every guarded step holds of every state reached. -/
theorem ReachVia.invariant {Inv : σ → Prop} {s : σ} (h : ReachVia init step guard s)
    (hinit : ∀ s, init s → Inv s)
    (hkeep : ∀ s i s', Inv s → guard s i → step s i s' → Inv s') : Inv s := by
  induction h with
  | start h => exact hinit _ h
  | next _ hguard hstep ih => exact hkeep _ _ _ ih hguard hstep

/-- A part of a machine is a machine of its own when every step is a step of it or leaves it
alone. -/
theorem ReachVia.project {τ κ : Type*} {init' : τ → Prop} {step' : τ → κ → τ → Prop}
    {guard' : τ → κ → Prop} {view : σ → τ} (hinit : ∀ s, init s → init' (view s))
    (hstep : ∀ s i s', guard s i → step s i s' →
      (∃ k, guard' (view s) k ∧ step' (view s) k (view s')) ∨ view s' = view s)
    {s : σ} (h : ReachVia init step guard s) : ReachVia init' step' guard' (view s) := by
  induction h with
  | start h => exact .start (hinit _ h)
  | next _ hguard hs ih =>
    obtain ⟨k, hmeets, hview⟩ | hview := hstep _ _ _ hguard hs
    · exact .next ih hmeets hview
    · exact hview ▸ ih

/-! ## Machines that are functions -/

/-- The step relation of a machine whose inputs are possible or not, and lead to one state. -/
def Step (possible : σ → ι → Bool) (next : σ → ι → σ) (s : σ) (i : ι) (s' : σ) : Prop :=
  possible s i = true ∧ s' = next s i

/-- The state after a list of inputs, as long as they are possible and meet `guard`. -/
def runVia (possible : σ → ι → Bool) (next : σ → ι → σ) (guard : σ → ι → Prop)
    [∀ s i, Decidable (guard s i)] : σ → List ι → Option σ
  | s, [] => some s
  | s, i :: rest =>
    if possible s i = true ∧ guard s i then runVia possible next guard (next s i) rest else none

/-- What a concrete run comes to is reachable. -/
theorem reachVia_runVia {possible : σ → ι → Bool} {next : σ → ι → σ}
    [∀ s i, Decidable (guard s i)] {s t : σ} {inputs : List ι}
    (hs : ReachVia init (Step possible next) guard s)
    (hrun : runVia possible next guard s inputs = some t) :
    ReachVia init (Step possible next) guard t := by
  induction inputs generalizing s with
  | nil =>
    injection hrun with hrun
    exact hrun ▸ hs
  | cons i rest ih =>
    rw [runVia] at hrun
    by_cases hi : possible s i = true ∧ guard s i
    · rw [if_pos hi] at hrun
      exact ih (.next hs hi.2 ⟨hi.1, rfl⟩) hrun
    · rw [if_neg hi] at hrun
      cases hrun

end Machine
