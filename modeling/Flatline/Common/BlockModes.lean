import Flatline.Common.BlockCoder

/-!
# Modes of operation

Two block coders that are made from something that codes one block: a key stream that is mixed into
the input, and the chaining of the blocks of a block function. Either is undone by a coder of its
kind.
-/

variable {κ α : Type}

/-! ## Mixing -/

/-- Mix a mask into the input, as far as the mask goes. -/
def mixInto (mix : α → α → α) : List α → List α → List α
  | k :: ks, x :: xs => mix k x :: mixInto mix ks xs
  | _, xs => xs

@[simp] theorem length_mixInto (mix : α → α → α) (ks xs : List α) :
    (mixInto mix ks xs).length = xs.length := by
  induction ks generalizing xs with
  | nil => rfl
  | cons k ks ih =>
    cases xs with
    | nil => rfl
    | cons x xs => exact congrArg (· + 1) (ih xs)

/-- Mixing the same mask in once more takes it out. -/
theorem mixInto_mixInto {mix : α → α → α} (hmix : ∀ k x, mix k (mix k x) = x) (ks xs : List α) :
    mixInto mix ks (mixInto mix ks xs) = xs := by
  induction ks generalizing xs with
  | nil => rfl
  | cons k ks ih =>
    cases xs with
    | nil => rfl
    | cons x xs =>
      change mix k (mix k x) :: mixInto mix ks (mixInto mix ks xs) = _
      rw [hmix, ih]

namespace BlockCoder

/-! ## Key streams -/

/-- A coder that mixes the key stream of its key in, from its position on. -/
def masking (mix : α → α → α) (stream : κ → ℕ → α) : BlockCoder (κ × ℕ) α where
  size := 1
  step s block := (block.map (mix (stream s.1 s.2)), (s.1, s.2 + 1))
  size_pos := Nat.one_pos
  length_step h := (List.length_map _).trans h

theorem masking_undoes {mix : α → α → α} (hmix : ∀ k x, mix k (mix k x) = x)
    (stream : κ → ℕ → α) : (masking mix stream).Undoes (masking mix stream) where
  size_eq := rfl
  step_step {s} {block} _ := by
    refine Prod.ext ?_ rfl
    change (block.map (mix (stream s.1 s.2))).map (mix (stream s.1 s.2)) = block
    rw [List.map_map]
    exact (List.map_congr_left fun x _ => hmix (stream s.1 s.2) x).trans (List.map_id block)

end BlockCoder

/-! ## Chaining -/

/-- A function on blocks of one size that its key inverts. -/
structure BlockFunction (κ α : Type) where
  size : ℕ
  encrypt : κ → List α → List α
  decrypt : κ → List α → List α
  size_pos : 0 < size
  length_encrypt {key : κ} {block : List α} (h : block.length = size) :
    (encrypt key block).length = size
  length_decrypt {key : κ} {block : List α} (h : block.length = size) :
    (decrypt key block).length = size
  decrypt_encrypt {key : κ} {block : List α} (h : block.length = size) :
    decrypt key (encrypt key block) = block

namespace BlockFunction

variable (f : BlockFunction κ α) (mix : α → α → α)

/-- Each block is mixed with the coded block before it, and coded then. -/
def chaining : BlockCoder (κ × List α) α where
  size := f.size
  step s block :=
    let coded := f.encrypt s.1 (mixInto mix s.2 block)
    (coded, (s.1, coded))
  size_pos := f.size_pos
  length_step h := f.length_encrypt ((length_mixInto mix _ _).trans h)

/-- The coder for the other way. -/
def unchaining : BlockCoder (κ × List α) α where
  size := f.size
  step s coded := (mixInto mix s.2 (f.decrypt s.1 coded), (s.1, coded))
  size_pos := f.size_pos
  length_step h := (length_mixInto mix _ _).trans (f.length_decrypt h)

theorem unchaining_undoes {mix : α → α → α} (hmix : ∀ k x, mix k (mix k x) = x) :
    (f.unchaining mix).Undoes (f.chaining mix) where
  size_eq := rfl
  step_step {s} {block} h := by
    refine Prod.ext ?_ rfl
    change mixInto mix s.2 (f.decrypt s.1 (f.encrypt s.1 (mixInto mix s.2 block))) = block
    rw [f.decrypt_encrypt ((length_mixInto mix _ _).trans h), mixInto_mixInto hmix]

end BlockFunction
