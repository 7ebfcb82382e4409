import Mathlib

/-!
# Streaming coders

A compressor or decompressor that is called again and again: each call takes some of its input,
writes at most as much output as it is given room for, and keeps the rest for later in its state.
A caller learns how much input was taken from a running counter only.

`Fed` says what a coder has been through; `Flushes` and `Inflates` are what the manual of such a
pair promises of a call on a coder that has been through that. Both are stated against a function
`meaning`, what the start of a compressed stream stands for, so that neither mentions the other.
-/

namespace StreamCoder

variable {κ δ α β : Type}

/-- What a call that has not failed says of itself. -/
inductive Status where
  | ok
  /-- No progress was possible. -/
  | bufError
  | streamEnd
deriving DecidableEq, Repr

/-- The result of one call; `status` is `none` when it has failed. -/
structure Call (κ β : Type) where
  status : Option Status
  output : List β
  next : κ

/-- A coder that reads `α` and writes `β`. -/
class Coder (κ : Type) (α β : outParam Type) where
  fresh : κ
  /-- How much input has been taken since the beginning. -/
  totalIn : κ → ℕ
  /-- Offer `input` to the coder, with room for so much output. -/
  call : List α → ℕ → κ → Call κ β

open Coder

variable [Coder κ α β]

/-- How much of `input` a call takes. -/
def took (input : List α) (room : ℕ) (k : κ) : ℕ :=
  totalIn (call input room k).next - totalIn k

/-- `Fed given taken settled k`: a coder in state `k` has taken the input `given` and written
`taken`, and `settled` tells whether its last call left some room unused. -/
inductive Fed : List α → List β → Bool → κ → Prop
  | fresh : Fed [] [] false fresh
  | step {given : List α} {taken : List β} {settled : Bool} {k : κ}
      (hfed : Fed given taken settled k) {input : List α} {room : ℕ} (hroom : 0 < room)
      (hstatus : (call input room k).status = some .ok ∨
        (call input room k).status = some .bufError) :
      Fed (given ++ input.take (took input room k)) (taken ++ (call input room k).output)
        (decide ((call input room k).output.length < room)) (call input room k).next

/-- A call takes input that it was given and writes where it has room. -/
structure Bounded (input : List α) (room : ℕ) (k : κ) : Prop where
  totalIn_le : totalIn k ≤ totalIn (call input room k).next
  totalIn_le_add : totalIn (call input room k).next ≤ totalIn k + input.length
  fits : (call input room k).output.length ≤ room

/-- A call has taken all of its input. -/
def TakesAll (input : List α) (room : ℕ) (k : κ) : Prop :=
  totalIn (call input room k).next = totalIn k + input.length

/-- What a compressor promises whose every call flushes: a call that leaves room unused has taken
all the input and its output so far means all of it. A call is idle only without input, after
one that left room unused. -/
structure Flushes (κ : Type) [Coder κ α β] (meaning : List β → List α) (IsStart : List β → Prop)
    (backlog : List α → κ → ℕ) : Prop where
  isStart {given : List α} {taken : List β} {settled : Bool} {k : κ}
    (hfed : Fed given taken settled k) : IsStart taken
  bounded {given : List α} {taken : List β} {settled : Bool} {k : κ}
    (hfed : Fed given taken settled k) (input : List α) {room : ℕ} (hroom : 0 < room) :
    Bounded input room k
  works {given : List α} {taken : List β} {settled : Bool} {k : κ}
    (hfed : Fed given taken settled k) {input : List α} {room : ℕ} (hroom : 0 < room)
    (hwork : input ≠ [] ∨ settled = false) : (call input room k).status = some .ok
  idles {given : List α} {taken : List β} {k : κ} (hfed : Fed given taken true k) {room : ℕ}
    (hroom : 0 < room) : (call [] room k).status = some .bufError
  complete {given : List α} {taken : List β} {settled : Bool} {k : κ}
    (hfed : Fed given taken settled k) {input : List α} {room : ℕ} (hroom : 0 < room)
    (hspare : (call input room k).output.length < room) :
    TakesAll input room k ∧ meaning (taken ++ (call input room k).output) = given ++ input
  /-- A flush that is called again while it fills its output is complete in the end. -/
  drains {given : List α} {taken : List β} {settled : Bool} {k : κ}
    (hfed : Fed given taken settled k) {input : List α} {room : ℕ} (hroom : 0 < room)
    (hfull : (call input room k).output.length = room) :
    backlog (input.drop (took input room k)) (call input room k).next < backlog input k

/-- What a decompressor promises on the start of a stream: its output is what the stream means, all
of it once a call leaves room unused, and it says `bufError` exactly when nothing is left to do. -/
structure Inflates (κ : Type) [Coder κ β α] (meaning : List β → List α)
    (IsStart : List β → Prop) : Prop where
  bounded {given : List β} {taken : List α} {settled : Bool} {k : κ}
    (hfed : Fed given taken settled k) {input : List β} (hstart : IsStart (given ++ input))
    {room : ℕ} (hroom : 0 < room) : Bounded input room k
  status_eq {given : List β} {taken : List α} {settled : Bool} {k : κ}
    (hfed : Fed given taken settled k) {input : List β} (hstart : IsStart (given ++ input))
    {room : ℕ} (hroom : 0 < room) :
    (call input room k).status =
      some (if took input room k = 0 ∧ (call input room k).output = [] then .bufError else .ok)
  faithful {given : List β} {taken : List α} {settled : Bool} {k : κ}
    (hfed : Fed given taken settled k) {input : List β} (hstart : IsStart (given ++ input))
    {room : ℕ} (hroom : 0 < room) :
    taken ++ (call input room k).output <+: meaning (given ++ input)
  complete {given : List β} {taken : List α} {settled : Bool} {k : κ}
    (hfed : Fed given taken settled k) {input : List β} (hstart : IsStart (given ++ input))
    {room : ℕ} (hroom : 0 < room) (hspare : (call input room k).output.length < room) :
    TakesAll input room k ∧ taken ++ (call input room k).output = meaning (given ++ input)

theorem Bounded.totalIn_next {input : List α} {room : ℕ} {k : κ} (h : Bounded input room k) :
    totalIn (call input room k).next = totalIn k + took input room k := by
  have := h.totalIn_le
  simp only [took]
  omega

theorem Bounded.took_le {input : List α} {room : ℕ} {k : κ} (h : Bounded input room k) :
    took input room k ≤ input.length := by
  have := h.totalIn_le_add
  simp only [took]
  omega

theorem TakesAll.took_eq {input : List α} {room : ℕ} {k : κ} (h : TakesAll input room k) :
    took input room k = input.length := by
  simp only [TakesAll] at h
  simp only [took]
  omega

/-- A call that takes all of its input leaves the coder fed with all of it. -/
theorem Fed.step_all {given : List α} {taken : List β} {settled : Bool} {k : κ}
    (hfed : Fed given taken settled k) {input : List α} {room : ℕ} (hroom : 0 < room)
    (hstatus : (call input room k).status = some .ok ∨
      (call input room k).status = some .bufError)
    (hall : TakesAll input room k) :
    Fed (given ++ input) (taken ++ (call input room k).output)
      (decide ((call input room k).output.length < room)) (call input room k).next := by
  have h := hfed.step hroom hstatus
  rwa [hall.took_eq, List.take_length] at h

/-- A compressor's call with work to do either fills its room and has less to do afterwards, or
leaves room unused and has done everything. -/
theorem Flushes.call_cases {meaning : List β → List α} {IsStart : List β → Prop}
    {backlog : List α → κ → ℕ} (henc : Flushes κ meaning IsStart backlog)
    {given : List α} {taken : List β} {settled : Bool} {k : κ}
    (hfed : Fed given taken settled k) {input : List α} {room : ℕ} (hroom : 0 < room)
    (hwork : input ≠ [] ∨ settled = false) {result : Call κ β} (hcall : call input room k = result) :
    result.status = some .ok ∧
      ((result.output.length = room ∧ ∃ n, n ≤ input.length ∧
          totalIn result.next = totalIn k + n ∧
          Fed (given ++ input.take n) (taken ++ result.output) false result.next ∧
          backlog (input.drop n) result.next < backlog input k) ∨
        (result.output.length < room ∧ totalIn result.next = totalIn k + input.length ∧
          Fed (given ++ input) (taken ++ result.output) true result.next ∧
          meaning (taken ++ result.output) = given ++ input)) := by
  subst hcall
  have hok := henc.works hfed hroom hwork
  have hbounded := henc.bounded hfed input hroom
  refine ⟨hok, ?_⟩
  rcases hbounded.fits.eq_or_lt with hfull | hspare
  · have hstep := hfed.step hroom (.inl hok)
    rw [hfull, decide_eq_false (lt_irrefl _)] at hstep
    exact .inl ⟨hfull, took input room k, hbounded.took_le, hbounded.totalIn_next, hstep,
      henc.drains hfed hroom hfull⟩
  · obtain ⟨hall, hmeaning⟩ := henc.complete hfed hroom hspare
    have hstep := hfed.step_all hroom (.inl hok) hall
    rw [decide_eq_true hspare] at hstep
    exact .inr ⟨hspare, hall, hstep, hmeaning⟩

/-- A decompressor's call on the start of a stream either makes progress or has nothing left to
do, and then it has written all that its input means. -/
theorem Inflates.call_cases [Coder δ β α] {meaning : List β → List α} {IsStart : List β → Prop}
    (hdec : Inflates δ meaning IsStart) {given : List β} {taken : List α} {settled : Bool} {k : δ}
    (hfed : Fed given taken settled k) {input : List β} (hstart : IsStart (given ++ input))
    {room : ℕ} (hroom : 0 < room) {result : Call δ α} (hcall : call input room k = result) :
    (result.status = some .ok ∧ ∃ n, n ≤ input.length ∧
        totalIn result.next = totalIn k + n ∧ 0 < n + result.output.length ∧
        taken ++ result.output <+: meaning (given ++ input) ∧
        Fed (given ++ input.take n) (taken ++ result.output)
          (decide (result.output.length < room)) result.next) ∨
      (result.status = some .bufError ∧ result.output = [] ∧
        totalIn result.next = totalIn k + input.length ∧
        taken = meaning (given ++ input) ∧ Fed (given ++ input) taken true result.next) := by
  subst hcall
  have hbounded := hdec.bounded hfed hstart hroom
  have hstatus := hdec.status_eq hfed hstart hroom
  by_cases hidle : took input room k = 0 ∧ (call input room k).output = []
  · rw [if_pos hidle] at hstatus
    have hspare : (call input room k).output.length < room := by rwa [hidle.2]
    obtain ⟨hall, hmeaning⟩ := hdec.complete hfed hstart hroom hspare
    have hstep := hfed.step_all hroom (.inr hstatus) hall
    rw [decide_eq_true hspare] at hstep
    rw [hidle.2, List.append_nil] at hmeaning hstep
    exact .inr ⟨hstatus, hidle.2, hall, hmeaning, hstep⟩
  · rw [if_neg hidle] at hstatus
    have hprogress : 0 < took input room k + (call input room k).output.length := by
      rcases Nat.eq_zero_or_pos (took input room k) with hzero | hpos
      · have : (call input room k).output ≠ [] := fun h => hidle ⟨hzero, h⟩
        have := List.length_pos_iff.mpr this
        omega
      · omega
    exact .inl ⟨hstatus, took input room k, hbounded.took_le, hbounded.totalIn_next, hprogress,
      hdec.faithful hfed hstart hroom, hfed.step hroom (.inl hstatus)⟩

end StreamCoder
