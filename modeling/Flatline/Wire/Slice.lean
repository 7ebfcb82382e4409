import Flatline.Common.Triple
import Flatline.Wire.Buffer

/-!
# Consumers on their slice

`Consumer` as the source has it: the whole slice and a position in it. Its methods move the position
before or after they look at the octets, and an index beyond the end, or an assertion, is a panic.
`Views` relates them to the reading steps on the unread octets alone.

Source: `src/ssh/buffer.rs` (`Consumer`).
-/

namespace Flatline

/-- `Consumer`. -/
structure Slice where
  data : Bytes
  pos : ℕ
deriving DecidableEq, Repr

namespace Slice

/-- A method of a consumer. What it has moved before it fails stays moved. -/
abbrev Method := EStateM Abort Slice

/-- `Consumer::new`. -/
def new (data : Bytes) : Slice := ⟨data, 0⟩

/-! ## Methods -/

/-- The method fails. -/
def fail {α : Type} (detail : String) : Method α :=
  throw (.error (.invalidFormat (ascii detail)))

/-- `peek`. -/
def peek : Method Bytes := do
  let s ← get
  if s.pos ≤ s.data.length then return s.data.drop s.pos else throw .panic

/-- `consume`. -/
def consume (size : ℕ) : Method Unit := do
  modify fun s => { s with pos := s.pos + size }
  let s ← get
  if s.pos ≤ s.data.length then return () else throw .panic

/-- `consume_all`. -/
def consumeAll : Method Unit :=
  modify fun s => { s with pos := s.data.length }

/-- `is_empty`. -/
def isEmpty : Method Bool := do
  let s ← get
  if s.pos ≤ s.data.length then return s.data.length - s.pos = 0 else throw .panic

/-- `consume_u32`. -/
def consumeU32 : Method UInt32 := do
  let rest ← peek
  if rest.length < 4 then fail "Unexpected end of buffer while reading u32"
  else
    match rest.take 4 with
    | [a, b, c, d] => do
      consume 4
      return fromBeBytes a b c d
    | _ => throw .panic

/-- `consume_u64`. -/
def consumeU64 : Method UInt64 := do
  let tmp ← peek
  if tmp.length < 8 then fail "Unexpected end of buffer while reading u64"
  else
    match tmp.take 8 with
    | [a, b, c, d, e, f, g, h] => do
      consume 8
      return fromBeBytes64 a b c d e f g h
    | _ => throw .panic

/-- `consume_one`. -/
def consumeOne : Method Bytes := do
  let len ← consumeU32
  let rest ← peek
  if len.toNat > rest.length then fail "Unexpected end of buffer while reading one"
  else
    modify fun s => { s with pos := s.pos + len.toNat }
    let s ← get
    return (s.data.take s.pos).drop (s.pos - len.toNat)

/-- `consume_bytes`. -/
def consumeBytes (len : ℕ) : Method Bytes := do
  let rest ← peek
  if rest.length < len then fail "Unexpected end of buffer while reading bytes"
  else
    consume len
    return rest.take len

/-- `peek_u8`. -/
def peekU8 : Method UInt8 := do
  match ← peek with
  | [] => fail "Unexpected end of buffer while reading u8"
  | b :: _ => return b

/-- `consume_u8`. -/
def consumeU8 : Method UInt8 := do
  match ← peek with
  | [] => fail "Unexpected end of buffer while reading u8"
  | b :: _ => do
    consume 1
    return b

/-! ## The view of the unread octets -/

/-- The position is in the data or at its end. -/
def IsWithin (s : Slice) : Prop :=
  s.pos ≤ s.data.length

/-- The unread octets. -/
def rest (s : Slice) : Bytes :=
  s.data.drop s.pos

/-- The position is moved by `n` octets. -/
def advance (s : Slice) (n : ℕ) : Slice :=
  { s with pos := s.pos + n }

variable {s : Slice} {α β : Type}

theorem advance_advance (s : Slice) (m n : ℕ) : (s.advance m).advance n = s.advance (m + n) := by
  unfold advance
  rw [Nat.add_assoc]

theorem rest_advance (s : Slice) (n : ℕ) : (s.advance n).rest = s.rest.drop n := by
  unfold rest advance
  rw [List.drop_drop]

theorem IsWithin.advance (hs : s.IsWithin) {n : ℕ} (hn : n ≤ s.rest.length) :
    (s.advance n).IsWithin := by
  unfold IsWithin rest Slice.advance at *
  rw [List.length_drop] at hn
  dsimp only
  omega

theorem peek_of_within (hs : s.IsWithin) : peek s = .ok s.rest s := by
  have hle : s.pos ≤ s.data.length := hs
  unfold peek
  rw [Triple.get_bind, if_pos hle]
  rfl

theorem consume_of_le (hs : s.IsWithin) {n : ℕ} (hn : n ≤ s.rest.length) :
    consume n s = .ok () (s.advance n) := by
  have hle : (s.advance n).pos ≤ (s.advance n).data.length := hs.advance hn
  change (if (s.advance n).pos ≤ (s.advance n).data.length then (pure () : Method Unit)
    else throw .panic) (s.advance n) = _
  rw [if_pos hle]
  rfl

/-- On a slice whose position is within the data, a method does to the unread octets what the reading
step does, moves the position by as much, and does not panic. -/
def Views (m : Method α) (step : Consumer α) : Prop :=
  ∀ s : Slice, s.IsWithin → ∃ n ≤ s.rest.length,
    match step s.rest with
    | .ok a rest => rest = s.rest.drop n ∧ m s = .ok a (s.advance n)
    | .error e rest => rest = s.rest.drop n ∧ m s = .error (.error e) (s.advance n)

theorem views_pure (a : α) : Views (pure a) (pure a) :=
  fun _ _ => ⟨0, Nat.zero_le _, rfl, rfl⟩

theorem Views.bind {m : Method α} {step : Consumer α} {f : α → Method β} {g : α → Consumer β}
    (hm : Views m step) (hf : ∀ a, Views (f a) (g a)) : Views (m >>= f) (step >>= g) := by
  intro s hs
  obtain ⟨n, hn, hstep⟩ := hm s hs
  cases hrun : step s.rest with
  | ok a rest =>
    rw [hrun] at hstep
    obtain ⟨rfl, hmethod⟩ := hstep
    obtain ⟨k, hk, hnext⟩ := hf a (s.advance n) (hs.advance hn)
    rw [Triple.bind_of_ok hrun, Triple.bind_of_ok hmethod]
    rw [rest_advance] at hk hnext
    rw [List.length_drop] at hk
    refine ⟨n + k, by omega, ?_⟩
    rwa [advance_advance, List.drop_drop] at hnext
  | error e rest =>
    rw [hrun] at hstep
    rw [Triple.bind_of_error hrun, Triple.bind_of_error hstep.2]
    exact ⟨n, hn, hstep.1, rfl⟩

/-- A method returns exactly what its step does. -/
theorem Views.ok_iff {m : Method α} {step : Consumer α} (h : Views m step) (hs : s.IsWithin) {a : α}
    {n : ℕ} (hn : n ≤ s.rest.length) :
    m s = .ok a (s.advance n) ↔ step s.rest = .ok a (s.rest.drop n) := by
  obtain ⟨k, hk, hview⟩ := h s hs
  cases hrun : step s.rest with
  | ok b more =>
    rw [hrun] at hview
    obtain ⟨rfl, hmethod⟩ := hview
    rw [hmethod]
    constructor
    · intro heq
      injection heq with hab hadvance
      have hpos : s.pos + k = s.pos + n := congrArg Slice.pos hadvance
      rw [hab, Nat.add_left_cancel hpos]
    · intro heq
      injection heq with hab hdrop
      have hlengths := congrArg List.length hdrop
      rw [List.length_drop, List.length_drop] at hlengths
      have hkn : k = n := by omega
      rw [hab, hkn]
  | error e more =>
    rw [hrun] at hview
    rw [hview.2]
    exact iff_of_false nofun nofun

theorem views_consumeU8 : Views consumeU8 Consumer.consumeU8 := by
  intro s hs
  unfold consumeU8
  rw [Triple.bind_of_ok (peek_of_within hs)]
  cases hrest : s.rest with
  | nil => exact ⟨0, Nat.zero_le _, rfl, rfl⟩
  | cons b more =>
    refine ⟨1, Nat.le_add_left _ _, rfl, ?_⟩
    exact Triple.bind_of_ok (consume_of_le hs (by rw [hrest]; exact Nat.le_add_left _ _))

theorem views_consumeU32 : Views consumeU32 Consumer.consumeU32 := by
  intro s hs
  unfold consumeU32
  rw [Triple.bind_of_ok (peek_of_within hs)]
  by_cases hshort : s.rest.length < 4
  · rw [if_pos hshort, Consumer.consumeU32_of_lt hshort]
    exact ⟨0, Nat.zero_le _, rfl, rfl⟩
  · rw [if_neg hshort]
    have hfour : 4 ≤ s.rest.length := Nat.le_of_not_lt hshort
    have hconsume := consume_of_le hs hfour
    obtain ⟨a, b, c, d, more, hrest⟩ := Consumer.exists_of_four_le hfour
    rw [hrest] at hfour ⊢
    exact ⟨4, hfour, rfl, Triple.bind_of_ok hconsume⟩

theorem views_consumeU64 : Views consumeU64 Consumer.consumeU64 := by
  intro s hs
  unfold consumeU64
  rw [Triple.bind_of_ok (peek_of_within hs)]
  by_cases hshort : s.rest.length < 8
  · rw [if_pos hshort, Consumer.consumeU64_of_lt hshort]
    exact ⟨0, Nat.zero_le _, rfl, rfl⟩
  · rw [if_neg hshort]
    have height : 8 ≤ s.rest.length := Nat.le_of_not_lt hshort
    have hconsume := consume_of_le hs height
    obtain ⟨a, b, c, d, e, f, g, h, more, hrest⟩ := Consumer.exists_of_eight_le height
    rw [hrest] at height ⊢
    exact ⟨8, height, rfl, Triple.bind_of_ok hconsume⟩

theorem views_consumeBytes (len : ℕ) : Views (consumeBytes len) (Consumer.consumeBytes len) := by
  intro s hs
  unfold consumeBytes Consumer.consumeBytes
  rw [Triple.bind_of_ok (peek_of_within hs)]
  by_cases hshort : s.rest.length < len
  · rw [if_pos hshort, if_pos hshort]
    exact ⟨0, Nat.zero_le _, rfl, rfl⟩
  · rw [if_neg hshort, if_neg hshort]
    have hle : len ≤ s.rest.length := Nat.le_of_not_lt hshort
    exact ⟨len, hle, rfl, Triple.bind_of_ok (consume_of_le hs hle)⟩

theorem views_consumeOne : Views consumeOne Consumer.consumeOne := by
  intro s hs
  obtain ⟨n, hn, hlen⟩ := views_consumeU32 s hs
  unfold consumeOne Consumer.consumeOne
  cases hrun : Consumer.consumeU32 s.rest with
  | error e more =>
    rw [hrun] at hlen
    rw [Triple.bind_of_error hlen.2]
    exact ⟨n, hn, hlen.1, rfl⟩
  | ok len more =>
    rw [hrun] at hlen
    obtain ⟨rfl, hmethod⟩ := hlen
    have hwithin := hs.advance hn
    rw [Triple.bind_of_ok hmethod, Triple.bind_of_ok (peek_of_within hwithin), rest_advance]
    dsimp only
    by_cases hshort : len.toNat > (s.rest.drop n).length
    · rw [if_pos hshort, if_pos hshort]
      exact ⟨n, hn, rfl, rfl⟩
    · rw [if_neg hshort, if_neg hshort]
      have hle : n + len.toNat ≤ s.rest.length := by
        rw [List.length_drop] at hshort
        omega
      refine ⟨n + len.toNat, hle, List.drop_drop, ?_⟩
      -- the octets in front of the new position
      have htaken : (s.data.take (s.pos + n + len.toNat)).drop (s.pos + n + len.toNat - len.toNat) =
          (s.rest.drop n).take len.toNat := by
        rw [Nat.add_sub_cancel, List.drop_take, Nat.add_sub_cancel_left, rest, List.drop_drop]
      change EStateM.Result.ok ((s.data.take (s.pos + n + len.toNat)).drop
        (s.pos + n + len.toNat - len.toNat)) ((s.advance n).advance len.toNat) = _
      rw [htaken, advance_advance]

/-! ## Calls -/

/-- The reads of one field. -/
inductive Call where
  | u8
  | u32
  | u64
  | one
  | bytes (len : ℕ)
deriving DecidableEq, Repr

/-- A call on the slice. -/
def Call.method : Call → Method Field
  | .u8 => consumeU8 >>= fun n => pure (.u8 n)
  | .u32 => consumeU32 >>= fun n => pure (.u32 n)
  | .u64 => consumeU64 >>= fun n => pure (.u64 n)
  | .one => consumeOne >>= fun content => pure (.one content)
  | .bytes len => consumeBytes len >>= fun content => pure (.bytes content)

/-- A call on the unread octets. -/
def Call.step : Call → Consumer Field
  | .u8 => Consumer.consumeU8 >>= fun n => pure (.u8 n)
  | .u32 => Consumer.consumeU32 >>= fun n => pure (.u32 n)
  | .u64 => Consumer.consumeU64 >>= fun n => pure (.u64 n)
  | .one => Consumer.consumeOne >>= fun content => pure (.one content)
  | .bytes len => Consumer.consumeBytes len >>= fun content => pure (.bytes content)

theorem Call.views (call : Call) : Views call.method call.step := by
  cases call with
  | u8 => exact views_consumeU8.bind fun _ => views_pure _
  | u32 => exact views_consumeU32.bind fun _ => views_pure _
  | u64 => exact views_consumeU64.bind fun _ => views_pure _
  | one => exact views_consumeOne.bind fun _ => views_pure _
  | bytes len => exact (views_consumeBytes len).bind fun _ => views_pure _

/-- The calls in order, up to the first that fails. -/
def methods : List Call → Method (List Field)
  | [] => pure []
  | call :: calls => call.method >>= fun field => methods calls >>= fun fields =>
    pure (field :: fields)

def steps : List Call → Consumer (List Field)
  | [] => pure []
  | call :: calls => call.step >>= fun field => steps calls >>= fun fields =>
    pure (field :: fields)

theorem views_methods (calls : List Call) : Views (methods calls) (steps calls) := by
  induction calls with
  | nil => exact views_pure []
  | cons call calls ih => exact call.views.bind fun _ => ih.bind fun _ => views_pure _

/-- The slice after all calls, whatever their caller makes of errors; `none` is a panic. -/
def after : List Call → Slice → Option Slice
  | [], s => some s
  | call :: calls, s =>
    match call.method s with
    | .ok _ s' | .error (.error _) s' => after calls s'
    | .error .panic _ => none

/-- No call panics, and the position only moves within the data. -/
theorem after_eq_some (calls : List Call) (hs : s.IsWithin) :
    ∃ n ≤ s.rest.length, after calls s = some (s.advance n) := by
  induction calls generalizing s with
  | nil => exact ⟨0, Nat.zero_le _, rfl⟩
  | cons call calls ih =>
    obtain ⟨n, hn, hcall⟩ := call.views s hs
    obtain ⟨k, hk, hrest⟩ := ih (hs.advance hn)
    rw [rest_advance, List.length_drop] at hk
    rw [advance_advance] at hrest
    refine ⟨n + k, by omega, ?_⟩
    unfold after
    cases hrun : call.step s.rest with
    | ok field more =>
      rw [hrun] at hcall
      rw [hcall.2]
      exact hrest
    | error e more =>
      rw [hrun] at hcall
      rw [hcall.2]
      exact hrest

end Slice

end Flatline
