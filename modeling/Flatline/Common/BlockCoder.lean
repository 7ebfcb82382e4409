import Mathlib

/-!
# Coders that work on blocks

A coder takes its input in blocks of one size, and its state goes from block to block. Fed with input
of any length it codes the blocks that are complete and keeps the rest. What comes out does not
depend on how the input is divided, and a coder that undoes another one block by block undoes it on
whole inputs.
-/

/-- A step of a coder, from a block to a block. -/
structure BlockCoder (σ α : Type) where
  size : ℕ
  step : σ → List α → List α × σ
  size_pos : 0 < size
  length_step {s : σ} {block : List α} (h : block.length = size) : (step s block).1.length = size

namespace BlockCoder

variable {σ α : Type}

/-- The first `n` blocks of the input. -/
def run (c : BlockCoder σ α) : ℕ → σ → List α → List α × σ
  | 0, s, _ => ([], s)
  | n + 1, s, input =>
    let (block, s') := c.step s (input.take c.size)
    let (rest, s'') := c.run n s' (input.drop c.size)
    (block ++ rest, s'')

/-- A coder that is fed: its state, and input that does not make up a block yet. -/
structure Feed (c : BlockCoder σ α) where
  state : σ
  pending : List α
  pending_lt : pending.length < c.size

/-- A coder that has not been fed. -/
def start (c : BlockCoder σ α) (s : σ) : c.Feed where
  state := s
  pending := []
  pending_lt := c.size_pos

/-- Feed the coder: what comes out, and the coder after it. -/
def Feed.feed {c : BlockCoder σ α} (f : c.Feed) (data : List α) : List α × c.Feed :=
  let input := f.pending ++ data
  let n := input.length / c.size
  let (output, state) := c.run n f.state input
  (output, {
    state
    pending := input.drop (n * c.size)
    pending_lt := by
      rw [List.length_drop, Nat.mul_comm, ← Nat.mod_eq_sub]
      exact Nat.mod_lt _ c.size_pos })

/-- `d` undoes `c` block by block, from the same state. -/
structure Undoes (d c : BlockCoder σ α) : Prop where
  size_eq : d.size = c.size
  step_step {s : σ} {block : List α} (h : block.length = c.size) :
    d.step s (c.step s block).1 = (block, (c.step s block).2)

variable {c d : BlockCoder σ α}

/-! ## Runs -/

theorem length_run {n : ℕ} {s : σ} {input : List α} (h : n * c.size ≤ input.length) :
    (c.run n s input).1.length = n * c.size := by
  induction n generalizing s input with
  | zero => rw [Nat.zero_mul]; rfl
  | succ n ih =>
    rw [Nat.succ_mul] at h
    have hblock : (input.take c.size).length = c.size := by
      rw [List.length_take]
      omega
    have hrest : n * c.size ≤ (input.drop c.size).length := by
      rw [List.length_drop]
      omega
    change ((c.step s (input.take c.size)).1 ++
      (c.run n (c.step s (input.take c.size)).2 (input.drop c.size)).1).length = _
    rw [List.length_append, c.length_step hblock, ih hrest, Nat.succ_mul, Nat.add_comm]

/-- What lies behind the blocks does not matter. -/
theorem run_append {n : ℕ} {s : σ} {input : List α} (more : List α)
    (h : n * c.size ≤ input.length) : c.run n s (input ++ more) = c.run n s input := by
  induction n generalizing s input with
  | zero => rfl
  | succ n ih =>
    rw [Nat.succ_mul] at h
    have htake : (input ++ more).take c.size = input.take c.size :=
      List.take_append_of_le_length (by omega)
    have hdrop : (input ++ more).drop c.size = input.drop c.size ++ more :=
      List.drop_append_of_le_length (by omega)
    have hrest : n * c.size ≤ (input.drop c.size).length := by
      rw [List.length_drop]
      omega
    simp only [run, htake, hdrop, ih hrest]

/-- Some blocks, and then the others. -/
theorem run_add (m n : ℕ) (s : σ) (input : List α) :
    c.run (m + n) s input =
      ((c.run m s input).1 ++ (c.run n (c.run m s input).2 (input.drop (m * c.size))).1,
        (c.run n (c.run m s input).2 (input.drop (m * c.size))).2) := by
  induction m generalizing s input with
  | zero =>
    rw [Nat.zero_add, Nat.zero_mul, List.drop_zero]
    rfl
  | succ m ih =>
    rw [Nat.succ_add]
    simp only [run, ih, List.drop_drop, List.append_assoc]
    rw [Nat.succ_mul, Nat.add_comm c.size]

/-- A run is undone, and leads to the same state. -/
theorem Undoes.run_run (h : d.Undoes c) {n : ℕ} {s : σ} {input : List α}
    (hinput : input.length = n * c.size) :
    d.run n s (c.run n s input).1 = (input, (c.run n s input).2) := by
  induction n generalizing s input with
  | zero =>
    rw [Nat.zero_mul] at hinput
    rw [List.eq_nil_of_length_eq_zero hinput]
    rfl
  | succ n ih =>
    rw [Nat.succ_mul] at hinput
    have hblock : (input.take c.size).length = c.size := by
      rw [List.length_take]
      omega
    have hrest : (input.drop c.size).length = n * c.size := by
      rw [List.length_drop]
      omega
    have hcoded := c.length_step (s := s) hblock
    have htake : ((c.step s (input.take c.size)).1 ++
        (c.run n (c.step s (input.take c.size)).2 (input.drop c.size)).1).take d.size =
        (c.step s (input.take c.size)).1 := by
      rw [h.size_eq]
      exact List.take_left' hcoded
    have hdrop : ((c.step s (input.take c.size)).1 ++
        (c.run n (c.step s (input.take c.size)).2 (input.drop c.size)).1).drop d.size =
        (c.run n (c.step s (input.take c.size)).2 (input.drop c.size)).1 := by
      rw [h.size_eq]
      exact List.drop_left' hcoded
    simp only [run, htake, hdrop, h.step_step hblock, ih hrest, List.take_append_drop]

/-! ## Feeding -/

theorem Feed.ext {f g : c.Feed} (hstate : f.state = g.state) (hpending : f.pending = g.pending) :
    f = g := by
  cases f
  cases g
  cases hstate
  cases hpending
  rfl

/-- Nothing is lost: what comes out and what is kept is as long as what was kept and fed. -/
theorem Feed.length_feed (f : c.Feed) (data : List α) :
    (f.feed data).1.length + (f.feed data).2.pending.length =
      f.pending.length + data.length := by
  have hle := Nat.div_mul_le_self (f.pending ++ data).length c.size
  change (c.run _ f.state (f.pending ++ data)).1.length + (List.drop _ _).length = _
  rw [length_run hle, List.length_drop, ← List.length_append]
  omega

theorem Feed.feed_nil (f : c.Feed) : f.feed [] = ([], f) := by
  have hcount : (f.pending ++ []).length / c.size = 0 := by
    rw [List.append_nil]
    exact Nat.div_eq_of_lt f.pending_lt
  refine Prod.ext ?_ (Feed.ext ?_ ?_)
  · change (c.run ((f.pending ++ []).length / c.size) _ _).1 = _
    rw [hcount]
    rfl
  · change (c.run ((f.pending ++ []).length / c.size) _ _).2 = _
    rw [hcount]
    rfl
  · change List.drop ((f.pending ++ []).length / c.size * c.size) (f.pending ++ []) = _
    rw [hcount, Nat.zero_mul, List.drop_zero, List.append_nil]

/-- Whole blocks are coded at once. -/
theorem Feed.feed_blocks {f : c.Feed} (hpending : f.pending = []) {data : List α} {n : ℕ}
    (hdata : data.length = n * c.size) :
    f.feed data = ((c.run n f.state data).1, c.start (c.run n f.state data).2) := by
  have hn : (f.pending ++ data).length / c.size = n := by
    rw [hpending, List.nil_append, hdata]
    exact Nat.mul_div_cancel n c.size_pos
  have hinput : f.pending ++ data = data := by rw [hpending, List.nil_append]
  refine Prod.ext ?_ (Feed.ext ?_ ?_)
  · change (c.run _ f.state _).1 = _
    rw [hn, hinput]
  · change (c.run _ f.state _).2 = _
    rw [hn, hinput]
    rfl
  · change List.drop _ _ = []
    rw [hn, hinput, List.drop_eq_nil_iff, hdata]

/-- Blocks come out for blocks, whatever is kept. -/
theorem Feed.length_feed_blocks (f : c.Feed) {data : List α} (hdata : c.size ∣ data.length) :
    (f.feed data).1.length = data.length := by
  obtain ⟨n, hn⟩ := hdata
  have hlength : (f.pending ++ data).length = f.pending.length + c.size * n := by
    rw [List.length_append, hn]
  have hcount : (f.pending ++ data).length / c.size = n := by
    rw [hlength, Nat.add_mul_div_left _ _ c.size_pos, Nat.div_eq_of_lt f.pending_lt, Nat.zero_add]
  change (c.run ((f.pending ++ data).length / c.size) f.state (f.pending ++ data)).1.length = _
  rw [hcount, length_run (by rw [hlength, Nat.mul_comm]; omega), hn, Nat.mul_comm]

/-- What comes out does not depend on how the input is divided. -/
theorem Feed.feed_append (f : c.Feed) (xs ys : List α) :
    f.feed (xs ++ ys) =
      ((f.feed xs).1 ++ ((f.feed xs).2.feed ys).1, ((f.feed xs).2.feed ys).2) := by
  have hpos := c.size_pos
  let m := (f.pending ++ xs).length / c.size
  let kept := (f.pending ++ xs).drop (m * c.size)
  let n := (kept ++ ys).length / c.size
  have hm : m * c.size ≤ (f.pending ++ xs).length := Nat.div_mul_le_self _ _
  have hall : f.pending ++ (xs ++ ys) = (f.pending ++ xs) ++ ys := (List.append_assoc _ _ _).symm
  have hlength : kept.length = (f.pending ++ xs).length - m * c.size := List.length_drop
  have hcount : (f.pending ++ (xs ++ ys)).length / c.size = m + n := by
    have hsum : (f.pending ++ (xs ++ ys)).length = (kept ++ ys).length + c.size * m := by
      have hkept : (kept ++ ys).length = kept.length + ys.length := List.length_append
      rw [hall, List.length_append, hkept, hlength, Nat.mul_comm c.size]
      omega
    rw [hsum, Nat.add_mul_div_left _ _ hpos, Nat.add_comm]
  have hdrop : (f.pending ++ (xs ++ ys)).drop (m * c.size) = kept ++ ys := by
    rw [hall, List.drop_append_of_le_length hm]
  have hrun : c.run (m + n) f.state (f.pending ++ (xs ++ ys)) =
      ((c.run m f.state (f.pending ++ xs)).1 ++
        (c.run n (c.run m f.state (f.pending ++ xs)).2 (kept ++ ys)).1,
        (c.run n (c.run m f.state (f.pending ++ xs)).2 (kept ++ ys)).2) := by
    rw [run_add, hdrop, hall, run_append ys hm]
  refine Prod.ext ?_ (Feed.ext ?_ ?_)
  · change (c.run _ f.state _).1 = _
    rw [hcount, hrun]
    rfl
  · change (c.run _ f.state _).2 = _
    rw [hcount, hrun]
    rfl
  · change List.drop _ _ = List.drop (n * c.size) (kept ++ ys)
    rw [hcount, ← hdrop, List.drop_drop, Nat.add_mul]

/-- Whole blocks are coded and decoded, and both coders are left in the same state. -/
theorem Undoes.feed_feed (h : d.Undoes c) (s : σ) {data : List α} (hdata : c.size ∣ data.length) :
    ∃ out s', (c.start s).feed data = (out, c.start s') ∧ out.length = data.length ∧
      (d.start s).feed out = (data, d.start s') := by
  obtain ⟨n, hn⟩ := hdata
  rw [Nat.mul_comm] at hn
  have hout : (c.run n s data).1.length = n * c.size := length_run (Nat.le_of_eq hn.symm)
  refine ⟨(c.run n s data).1, (c.run n s data).2, Feed.feed_blocks rfl hn, hout.trans hn.symm, ?_⟩
  have hback := Feed.feed_blocks (f := d.start s) rfl (hout.trans (congrArg (n * ·) h.size_eq.symm))
  change _ = ((d.run n s (c.run n s data).1).1, d.start (d.run n s (c.run n s data).1).2) at hback
  rwa [h.run_run hn] at hback

end BlockCoder
