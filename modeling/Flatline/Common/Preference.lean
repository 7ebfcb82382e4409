import Mathlib

/-!
# Choice by preference

Two parties each hold a list. The choice is the first element of the own list that the peer's list
also has. The lemmas say how the choice reacts when either list is edited.
-/

namespace Preference

variable {α : Type*} [BEq α] [LawfulBEq α]

/-- The first element of `own` that `peer` also has. -/
def firstCommon (own peer : List α) : Option α :=
  own.find? fun a => peer.contains a

theorem firstCommon_eq_none_iff {own peer : List α} :
    firstCommon own peer = none ↔ ∀ a ∈ own, a ∉ peer := by
  simp [firstCommon]

theorem firstCommon_mem {own peer : List α} {a : α} (h : firstCommon own peer = some a) :
    a ∈ own ∧ a ∈ peer := by
  refine ⟨List.mem_of_find?_eq_some h, ?_⟩
  simpa using List.find?_some h

/-- Appending to the own list matters only when nothing was common before. -/
theorem firstCommon_append (own extra peer : List α) :
    firstCommon (own ++ extra) peer = (firstCommon own peer).or (firstCommon extra peer) := by
  simp [firstCommon, List.find?_append]

/-! ## Editing the own list -/

/-- Dropping an element that is not the choice keeps the choice. -/
theorem firstCommon_erase_own {own peer : List α} {a b : α} (h : firstCommon own peer = some b)
    (hne : b ≠ a) : firstCommon (own.erase a) peer = some b := by
  induction own with
  | nil => simp [firstCommon] at h
  | cons c own ih =>
    by_cases hc : c ∈ peer
    · -- `c` is the choice, so it is not the erased element
      have hcb : c = b := by simpa [firstCommon, hc] using h
      subst hcb
      simp [firstCommon, hne, hc]
    · have hrest : firstCommon own peer = some b := by simpa [firstCommon, hc] using h
      by_cases hca : c = a
      · simpa [List.erase_cons, hca] using hrest
      · have hstep := ih hrest
        simpa [firstCommon, List.erase_cons, hca, hc] using hstep

/-- Dropping an element makes nothing common. -/
theorem firstCommon_erase_own_of_none {own peer : List α} (a : α)
    (h : firstCommon own peer = none) : firstCommon (own.erase a) peer = none := by
  rw [firstCommon_eq_none_iff] at h ⊢
  exact fun b hb => h b (List.mem_of_mem_erase hb)

/-! ## Shrinking the peer's list -/

/-- A peer's list that only lost elements keeps the choice if the choice is still in it. -/
theorem firstCommon_of_subset {own peer peer' : List α} {a : α} (hsub : ∀ b ∈ peer', b ∈ peer)
    (h : firstCommon own peer = some a) (ha : a ∈ peer') : firstCommon own peer' = some a := by
  induction own with
  | nil => simp [firstCommon] at h
  | cons c own ih =>
    by_cases hc : c ∈ peer
    · have hca : c = a := by simpa [firstCommon, hc] using h
      subst hca
      simp [firstCommon, ha]
    · have hrest : firstCommon own peer = some a := by simpa [firstCommon, hc] using h
      have hc' : c ∉ peer' := fun hmem => hc (hsub c hmem)
      have hstep := ih hrest
      simpa [firstCommon, hc'] using hstep

theorem firstCommon_none_of_subset {own peer peer' : List α} (hsub : ∀ b ∈ peer', b ∈ peer)
    (h : firstCommon own peer = none) : firstCommon own peer' = none := by
  rw [firstCommon_eq_none_iff] at h ⊢
  exact fun b hb hmem => h b hb (hsub b hmem)

end Preference
