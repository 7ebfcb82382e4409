import Mathlib

/-!
# Trimming lists

Patterns are taken away at an end of a list as long as one of them stands there. The patterns form a
code: none of them is empty, and none begins with another. Trimming the front of `l ++ l'` goes on
into `l'` exactly when nothing is left of `l`, provided that no pattern straddles the two.
-/

namespace Trimming

variable {α : Type} [DecidableEq α]

/-! ## The front -/

/-- What is left behind a pattern in front. -/
def dropOne (patterns : List (List α)) (l : List α) : Option (List α) :=
  (patterns.find? fun p => decide (p <+: l)).map fun p => l.drop p.length

/-- At most `n` patterns are taken away. -/
def stripStart (patterns : List (List α)) : ℕ → List α → List α
  | 0, l => l
  | n + 1, l => match dropOne patterns l with
    | some rest => stripStart patterns n rest
    | none => l

def trimStart (patterns : List (List α)) (l : List α) : List α :=
  stripStart patterns l.length l

/-- No pattern is empty, and none begins with another. -/
structure IsCode (patterns : List (List α)) : Prop where
  ne_nil {p : List α} (hp : p ∈ patterns) : p ≠ []
  eq_of_begins {p q : List α} (hp : p ∈ patterns) (hq : q ∈ patterns) (h : p <+: q) : p = q

variable {patterns : List (List α)} {l p : List α}

theorem dropOne_eq_none (h : ∀ p ∈ patterns, ¬ p <+: l) : dropOne patterns l = none := by
  unfold dropOne
  rw [List.find?_eq_none.mpr, Option.map_none]
  intro p hp
  simpa using h p hp

section Code

variable (hcode : IsCode patterns)

include hcode

/-- Induction along the patterns in front. -/
theorem IsCode.induction {motive : List α → Prop}
    (step : ∀ p ∈ patterns, ∀ rest, motive rest → motive (p ++ rest))
    (stop : ∀ l, (∀ p ∈ patterns, ¬ p <+: l) → motive l) (l : List α) : motive l := by
  induction hn : l.length using Nat.strongRecOn generalizing l with
  | _ n ih =>
    by_cases hsome : ∃ p ∈ patterns, p <+: l
    · obtain ⟨p, hp, rest, rfl⟩ := hsome
      have hpos := List.length_pos_iff.mpr (hcode.ne_nil hp)
      rw [List.length_append] at hn
      exact step p hp rest (ih rest.length (by omega) rest rfl)
    · exact stop l fun p hp hbegins => hsome ⟨p, hp, hbegins⟩

theorem dropOne_append (hp : p ∈ patterns) (l : List α) : dropOne patterns (p ++ l) = some l := by
  have hsome : (patterns.find? fun q => decide (q <+: p ++ l)) = some p := by
    cases hfind : patterns.find? fun q => decide (q <+: p ++ l) with
    | none =>
      have hnone := List.find?_eq_none.mp hfind p hp
      simp at hnone
    | some q =>
      have hq := List.mem_of_find?_eq_some hfind
      have hdecide := List.find?_some hfind
      have hbegins : q <+: p ++ l := of_decide_eq_true hdecide
      -- both stand in front, so one of them begins with the other
      rcases List.prefix_or_prefix_of_prefix hbegins (List.prefix_append p l) with h | h
      · rw [hcode.eq_of_begins hq hp h]
      · rw [hcode.eq_of_begins hp hq h]
  unfold dropOne
  rw [hsome, Option.map_some, List.drop_left]

/-- More rounds than there are elements change nothing. -/
theorem stripStart_eq {n : ℕ} (h : l.length ≤ n) :
    stripStart patterns n l = trimStart patterns l := by
  suffices ∀ n m, l.length ≤ n → l.length ≤ m → stripStart patterns n l = stripStart patterns m l
    from this n l.length h (Nat.le_refl _)
  clear h n
  induction l using hcode.induction with
  | step p hp rest ih =>
    intro n m hn hm
    have hpos := List.length_pos_iff.mpr (hcode.ne_nil hp)
    rw [List.length_append] at hn hm
    obtain ⟨n, rfl⟩ : ∃ k, n = k + 1 := ⟨n - 1, by omega⟩
    obtain ⟨m, rfl⟩ : ∃ k, m = k + 1 := ⟨m - 1, by omega⟩
    rw [stripStart, stripStart, dropOne_append hcode hp]
    exact ih n m (by omega) (by omega)
  | stop l hnone =>
    have hstop : ∀ n, stripStart patterns n l = l := by
      rintro (_ | n)
      · rfl
      · rw [stripStart, dropOne_eq_none hnone]
    intro n m _ _
    rw [hstop n, hstop m]

theorem trimStart_append_pattern (hp : p ∈ patterns) (l : List α) :
    trimStart patterns (p ++ l) = trimStart patterns l := by
  have hpos := List.length_pos_iff.mpr (hcode.ne_nil hp)
  obtain ⟨k, hk⟩ : ∃ k, (p ++ l).length = k + 1 := ⟨p.length + l.length - 1, by
    rw [List.length_append]
    omega⟩
  rw [trimStart, hk, stripStart, dropOne_append hcode hp]
  rw [List.length_append] at hk
  exact stripStart_eq hcode (by omega)

theorem trimStart_flatten {ps : List (List α)} (hps : ∀ p ∈ ps, p ∈ patterns) (l : List α) :
    trimStart patterns (ps.flatten ++ l) = trimStart patterns l := by
  induction ps with
  | nil => rfl
  | cons p ps ih =>
    rw [List.flatten_cons, List.append_assoc,
      trimStart_append_pattern hcode (hps p List.mem_cons_self),
      ih fun q hq => hps q (List.mem_cons_of_mem p hq)]

end Code

/-- Where no pattern stands in front, nothing is taken away. -/
theorem trimStart_of_forall (h : ∀ p ∈ patterns, ¬ p <+: l) : trimStart patterns l = l := by
  unfold trimStart
  rcases l with _ | ⟨a, l⟩
  · rfl
  · rw [List.length_cons, stripStart, dropOne_eq_none h]

@[simp] theorem trimStart_nil : trimStart patterns [] = [] := rfl

/-- What is taken away is made of patterns. -/
theorem exists_trimStart (hcode : IsCode patterns) (l : List α) :
    ∃ ps : List (List α), (∀ p ∈ ps, p ∈ patterns) ∧ l = ps.flatten ++ trimStart patterns l := by
  induction l using hcode.induction with
  | step p hp rest ih =>
    obtain ⟨ps, hps, hrest⟩ := ih
    refine ⟨p :: ps, ?_, ?_⟩
    · intro q hq
      rcases List.mem_cons.mp hq with rfl | hq
      · exact hp
      · exact hps q hq
    · rw [trimStart_append_pattern hcode hp, List.flatten_cons, List.append_assoc, ← hrest]
  | stop l hnone =>
    refine ⟨[], fun p hp => absurd hp List.not_mem_nil, ?_⟩
    rw [trimStart_of_forall hnone]
    rfl

theorem not_begins_trimStart (hcode : IsCode patterns) (l : List α) :
    ∀ p ∈ patterns, ¬ p <+: trimStart patterns l := by
  induction l using hcode.induction with
  | step p hp rest ih =>
    rw [trimStart_append_pattern hcode hp]
    exact ih
  | stop l hnone =>
    rw [trimStart_of_forall hnone]
    exact hnone

/-- Trimming goes on into the second part only when the first is used up. `Tail` holds of the
elements that stand in a pattern before its last one, and not of the last element of the first part,
so no pattern straddles the two. -/
theorem trimStart_append (hcode : IsCode patterns) {Tail : α → Prop}
    (htail : ∀ p ∈ patterns, ∀ a ∈ p.dropLast, Tail a) (l : List α)
    (hlast : ∀ a ∈ l.getLast?, ¬ Tail a) (l' : List α) :
    trimStart patterns (l ++ l') =
      if trimStart patterns l = [] then trimStart patterns l' else trimStart patterns l ++ l' := by
  obtain ⟨ps, hps, hl⟩ := exists_trimStart hcode l
  have hfront := not_begins_trimStart hcode l
  generalize trimStart patterns l = left at hl hfront ⊢
  subst hl
  rw [List.append_assoc, trimStart_flatten hcode hps]
  by_cases hleft : left = []
  · rw [if_pos hleft, hleft, List.nil_append]
  · rw [if_neg hleft]
    apply trimStart_of_forall
    rintro p hp hbegins
    rcases List.prefix_or_prefix_of_prefix hbegins (List.prefix_append left l') with h | h
    · exact hfront p hp h
    · -- the pattern goes beyond `left`, so the last element of `left` is not its last one
      obtain ⟨rest, rfl⟩ := h
      have hrest : rest ≠ [] := by
        rintro rfl
        exact hfront _ hp (by simp)
      have hmem : left.getLast hleft ∈ (left ++ rest).dropLast := by
        rw [List.dropLast_append_of_ne_nil hrest]
        exact List.mem_append_left _ (List.getLast_mem hleft)
      refine hlast (left.getLast hleft) ?_ (htail _ hp _ hmem)
      rw [List.getLast?_append, List.getLast?_eq_some_getLast hleft]
      rfl

/-- A check that a list of patterns is a code. -/
theorem isCode_of_all (hne : patterns.all fun p => decide (p ≠ []))
    (h : patterns.all fun p => patterns.all fun q => !(p.isPrefixOf q) || p == q) :
    IsCode patterns where
  ne_nil hp := of_decide_eq_true (List.all_eq_true.mp hne _ hp)
  eq_of_begins {p q} hp hq hbegins := by
    have hpq := List.all_eq_true.mp (List.all_eq_true.mp h p hp) q hq
    rw [List.isPrefixOf_iff_prefix.mpr hbegins, Bool.not_true, Bool.false_or] at hpq
    exact eq_of_beq hpq

/-! ## The back -/

def trimEnd (patterns : List (List α)) (l : List α) : List α :=
  (trimStart (patterns.map List.reverse) l.reverse).reverse

@[simp] theorem trimEnd_nil : trimEnd patterns [] = [] := rfl

/-- Where no pattern stands at the back, nothing is taken away. -/
theorem trimEnd_of_forall (h : ∀ p ∈ patterns, ¬ p <:+ l) : trimEnd patterns l = l := by
  unfold trimEnd
  rw [trimStart_of_forall, List.reverse_reverse]
  intro q hq hbegins
  obtain ⟨p, hp, rfl⟩ := List.mem_map.mp hq
  exact h p hp (List.reverse_prefix.mp hbegins)

section Code

variable (hcode : IsCode (patterns.map List.reverse))

include hcode

/-- What is taken away is made of patterns. -/
theorem exists_trimEnd (l : List α) :
    ∃ ps : List (List α), (∀ p ∈ ps, p ∈ patterns) ∧ l = trimEnd patterns l ++ ps.flatten := by
  obtain ⟨qs, hqs, hl⟩ := exists_trimStart hcode l.reverse
  refine ⟨(qs.map List.reverse).reverse, ?_, ?_⟩
  · intro p hp
    obtain ⟨q, hq, rfl⟩ := List.mem_map.mp (List.mem_reverse.mp hp)
    obtain ⟨p, hp, rfl⟩ := List.mem_map.mp (hqs q hq)
    rwa [List.reverse_reverse]
  · have hreverse := congrArg List.reverse hl
    rwa [List.reverse_reverse, List.reverse_append, List.reverse_flatten] at hreverse

theorem trimEnd_append_pattern (hp : p ∈ patterns) (l : List α) :
    trimEnd patterns (l ++ p) = trimEnd patterns l := by
  unfold trimEnd
  rw [List.reverse_append, trimStart_append_pattern hcode (List.mem_map_of_mem hp)]

theorem trimEnd_append_flatten {ps : List (List α)} (hps : ∀ p ∈ ps, p ∈ patterns) (l : List α) :
    trimEnd patterns (l ++ ps.flatten) = trimEnd patterns l := by
  induction ps generalizing l with
  | nil => rw [List.flatten_nil, List.append_nil]
  | cons p ps ih =>
    rw [List.flatten_cons, ← List.append_assoc,
      ih (fun q hq => hps q (List.mem_cons_of_mem p hq)),
      trimEnd_append_pattern hcode (hps p List.mem_cons_self)]

/-- Trimming goes on into the first part only when the second is used up. `Tail` holds of the
elements of a pattern behind its first one, and not of the first element of the second part. -/
theorem trimEnd_append {Tail : α → Prop} (htail : ∀ p ∈ patterns, ∀ a ∈ p.tail, Tail a)
    (l : List α) {l' : List α} (hhead : ∀ a ∈ l'.head?, ¬ Tail a) :
    trimEnd patterns (l ++ l') =
      if trimEnd patterns l' = [] then trimEnd patterns l else l ++ trimEnd patterns l' := by
  have htail' : ∀ q ∈ patterns.map List.reverse, ∀ a ∈ q.dropLast, Tail a := by
    intro q hq a ha
    obtain ⟨p, hp, rfl⟩ := List.mem_map.mp hq
    rw [List.dropLast_reverse, List.mem_reverse] at ha
    exact htail p hp a ha
  unfold trimEnd
  rw [List.reverse_append, trimStart_append hcode htail' l'.reverse
    (by rwa [List.getLast?_reverse]) l.reverse]
  simp only [List.reverse_eq_nil_iff]
  split_ifs
  · rfl
  · rw [List.reverse_append, List.reverse_reverse]

end Code

end Trimming
