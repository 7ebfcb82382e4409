import Flatline.Common.Except
import Mathlib

/-!
# Streams made of blocks

A stream starts with some values and goes on block by block, each block computed from all that comes
before it. Producing it until it is long enough gives the same values as producing it for a number
of blocks.
-/

/-- A way to compute the next block of a stream. All blocks have one size. -/
structure Expander (ε α : Type) where
  size : ℕ
  block : List α → Except ε (List α)
  size_pos : 0 < size
  length_block {before next : List α} (h : block before = .ok next) : next.length = size

namespace Expander

variable {ε α : Type} (e : Expander ε α)

/-- Append blocks until there are `len` values. -/
def fill (len : ℕ) (output : List α) : Except ε (List α) :=
  if output.length < len then
    match _h : e.block output with
    | .ok next => fill len (output ++ next)
    | .error error => .error error
  else .ok output
termination_by len - output.length
decreasing_by
  have hsize := e.length_block _h
  have hpos := e.size_pos
  rw [List.length_append]
  omega

/-- `start` and `n` blocks behind it. -/
def stream (start : List α) : ℕ → Except ε (List α)
  | 0 => .ok start
  | n + 1 => do
    let before ← stream start n
    let next ← e.block before
    return before ++ next

variable {start before out : List α} {len n m : ℕ}

/-- The first block can be computed first. -/
theorem stream_succ (start : List α) (n : ℕ) :
    e.stream start (n + 1) = e.block start >>= fun next => e.stream (start ++ next) n := by
  induction n with
  | zero => rfl
  | succ n ih =>
    change (e.stream start (n + 1) >>= _) = _
    rw [ih]
    cases e.block start <;> rfl

/-- A longer stream starts with a shorter one. -/
theorem stream_add (h : e.stream start (n + m) = .ok out) :
    ∃ before, e.stream start n = .ok before ∧ before <+: out := by
  induction m generalizing out with
  | zero => exact ⟨out, h, List.prefix_rfl⟩
  | succ m ih =>
    obtain ⟨middle, hmiddle, hlast⟩ := Except.bind_eq_ok_iff.mp h
    obtain ⟨next, -, hout⟩ := Except.bind_eq_ok_iff.mp hlast
    injection hout with hout
    obtain ⟨before, hbefore, hprefix⟩ := ih hmiddle
    exact ⟨before, hbefore, hprefix.trans ⟨next, hout⟩⟩

theorem length_stream (h : e.stream start n = .ok before) :
    before.length = start.length + n * e.size := by
  induction n generalizing before with
  | zero =>
    injection h with h
    rw [← h, Nat.zero_mul, Nat.add_zero]
  | succ n ih =>
    obtain ⟨middle, hmiddle, hlast⟩ := Except.bind_eq_ok_iff.mp h
    obtain ⟨next, hnext, hout⟩ := Except.bind_eq_ok_iff.mp hlast
    injection hout with hout
    rw [← hout, List.length_append, ih hmiddle, e.length_block hnext, Nat.succ_mul, Nat.add_assoc]

/-- `n` is how many blocks it takes to get from `present` values to `len`. -/
structure Takes (len present n : ℕ) : Prop where
  enough : len ≤ present + n * e.size
  least : ∀ k < n, present + k * e.size < len

/-- Filling up to a length is producing the blocks that it takes. -/
theorem fill_eq (h : e.Takes len start.length n) : e.fill len start = e.stream start n := by
  induction n generalizing start with
  | zero =>
    have henough := h.enough
    rw [fill, if_neg (by omega)]
    rfl
  | succ n ih =>
    have hshort := h.least 0 (Nat.succ_pos n)
    rw [Nat.zero_mul, Nat.add_zero] at hshort
    rw [fill, if_pos hshort, stream_succ]
    split
    · next next hblock =>
      have hlength : (start ++ next).length = start.length + e.size := by
        rw [List.length_append, e.length_block hblock]
      have hrest : e.Takes len (start ++ next).length n := by
        rw [hlength]
        refine ⟨?_, fun k hk => ?_⟩
        · have henough := h.enough
          rw [Nat.succ_mul] at henough
          omega
        · have hless := h.least (k + 1) (Nat.succ_lt_succ hk)
          rw [Nat.succ_mul] at hless
          omega
      rw [ih hrest, hblock]
      rfl
    · next error hblock =>
      rw [hblock]
      rfl

end Expander
