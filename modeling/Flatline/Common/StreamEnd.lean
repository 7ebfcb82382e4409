import Flatline.Common.StreamCoder
import Flatline.Common.StoredBlocks

/-!
# Decompressors and the end of a stream

A compressed stream says itself where it ends, and it can be broken anywhere before that. `Driven`
says what a decompressor has been through when its input may be anything; `Unpacks` is what its
manual promises then, stated against a function `endOf`, how long the stream is that some octets
begin with. `StoredBlocks.Unpacker` is a decompressor for streams of stored blocks up to their end.
-/

namespace StreamCoder

open Coder

variable {κ α β : Type} [Coder κ α β]

/-- `Driven given taken last k`: a coder in state `k` has taken the input `given` and written
`taken`, and `last` is what its last call has said of itself. -/
inductive Driven : List α → List β → Option Status → κ → Prop
  | fresh : Driven [] [] (some .ok) fresh
  | step {given : List α} {taken : List β} {last : Option Status} {k : κ}
      (hdriven : Driven given taken last k) (input : List α) {room : ℕ} (hroom : 0 < room) :
      Driven (given ++ input.take (took input room k)) (taken ++ (call input room k).output)
        (call input room k).status (call input room k).next

/-- What a decompressor promises of any input. It writes at most `ratio` items for each one it
takes, a successful call does something, and it is idle only without input. The end of a stream and
a failure are final: from then on nothing is taken or written. Nothing after the end of a stream is
taken, and a stream that has an end does not fail before it. -/
structure Unpacks (κ : Type) [Coder κ α β] (endOf : List α → Option ℕ) (ratio : ℕ) : Prop where
  endOf_append {xs : List α} {n : ℕ} (hend : endOf xs = some n) (ys : List α) :
    endOf (xs ++ ys) = some n
  bounded {given : List α} {taken : List β} {last : Option Status} {k : κ}
    (hdriven : Driven given taken last k) (input : List α) {room : ℕ} (hroom : 0 < room) :
    Bounded input room k
  expands {given : List α} {taken : List β} {last : Option Status} {k : κ}
    (hdriven : Driven given taken last k) : taken.length ≤ ratio * given.length
  works {given : List α} {taken : List β} {last : Option Status} {k : κ}
    (hdriven : Driven given taken last k) (input : List α) {room : ℕ} (hroom : 0 < room)
    (hok : (call input room k).status = some .ok) :
    0 < took input room k + (call input room k).output.length
  idles {given : List α} {taken : List β} {last : Option Status} {k : κ}
    (hdriven : Driven given taken last k) (input : List α) {room : ℕ} (hroom : 0 < room)
    (hidle : (call input room k).status = some .bufError) : input = []
  ended {given : List α} {taken : List β} {k : κ} (hdriven : Driven given taken (some .streamEnd) k)
    (input : List α) {room : ℕ} (hroom : 0 < room) :
    (call input room k).status = some .streamEnd ∧ took input room k = 0
  failed {given : List α} {taken : List β} {k : κ} (hdriven : Driven given taken none k)
    (input : List α) {room : ℕ} (hroom : 0 < room) : (call input room k).status = none
  endOf_given {given : List α} {taken : List β} {k : κ}
    (hdriven : Driven given taken (some .streamEnd) k) : endOf given = some given.length
  within {given : List α} {taken : List β} {last : Option Status} {k : κ}
    (hdriven : Driven given taken last k) (hlast : last ≠ none) {input : List α} {n : ℕ}
    (hend : endOf (given ++ input) = some n) {room : ℕ} (hroom : 0 < room) :
    (call input room k).status ≠ none ∧ given.length + took input room k ≤ n

end StreamCoder

namespace StoredBlocks

open StreamCoder StreamCoder.Coder

/-! ## Streams up to their end -/

/-- Where in a stream with an end a reader stands; `final` tells whether this is its last block. -/
inductive Stage where
  | inside (final : Bool) (place : Place)
  /-- In the checksum, with one more than so many octets to come. -/
  | checksum (left : ℕ)
  | ended
deriving DecidableEq, Repr

/-- Read one octet; the checksum is read and not compared. -/
def Stage.read : Stage → UInt8 → Stage × List UInt8
  | .inside final place, b =>
    -- the lowest bit of a block's first octet marks the last block
    let final := if place = .block then b == 1 else final
    let next := place.read (if place = .block then (if b ≤ 1 then 0 else 0xff) else b)
    (if next.1 = .block ∧ final then .checksum 3 else .inside final next.1, next.2)
  | .checksum 0, _ => (.ended, [])
  | .checksum (left + 1), _ => (.checksum left, [])
  | .ended, _ => (.ended, [])

/-- A reader that cannot go on. -/
def Stage.IsBroken (s : Stage) : Prop :=
  ∃ final, s = .inside final .broken

instance (s : Stage) : Decidable s.IsBroken :=
  match s with
  | .inside final place => decidable_of_iff (place = .broken) (by simp [Stage.IsBroken])
  | .checksum _ => .isFalse (by simp [Stage.IsBroken])
  | .ended => .isFalse (by simp [Stage.IsBroken])

/-- The stage after some octets, and what they stand for. -/
def unpack : Stage → List UInt8 → Stage × List UInt8
  | s, [] => (s, [])
  | s, b :: bs => ((unpack (s.read b).1 bs).1, (s.read b).2 ++ (unpack (s.read b).1 bs).2)

/-- How many octets lead to the end of the stream. -/
def Stage.endOf : Stage → List UInt8 → Option ℕ
  | .ended, _ => some 0
  | _, [] => none
  | s, b :: bs => ((s.read b).1.endOf bs).map (· + 1)

/-- A decompressor that knows the end of its stream. -/
structure Unpacker where
  totalIn : ℕ
  stage : Stage
deriving DecidableEq, Repr

/-- Read until the stream ends or breaks, the input ends or the room is used up: how many octets,
the stage reached, and what was written. -/
def Stage.feed : Stage → List UInt8 → ℕ → ℕ × Stage × List UInt8
  | s, [], _ => (0, s, [])
  | s, b :: bs, room =>
    if room = 0 ∨ s = .ended ∨ s.IsBroken then (0, s, []) else
    let rest := (s.read b).1.feed bs (room - (s.read b).2.length)
    (rest.1 + 1, rest.2.1, (s.read b).2 ++ rest.2.2)

/-- What a call says that has read `n` octets up to a stage and written `output`. -/
def Stage.status (s : Stage) (n : ℕ) (output : List UInt8) : Option Status :=
  if s.IsBroken then none
  else if s = .ended then some .streamEnd
  else if n = 0 ∧ output = [] then some .bufError else some .ok

instance : Coder Unpacker UInt8 UInt8 where
  fresh := { totalIn := 0, stage := .inside false .cmf }
  totalIn k := k.totalIn
  call input room k :=
    let fed := k.stage.feed input room
    { status := fed.2.1.status fed.1 fed.2.2
      output := fed.2.2
      next := { totalIn := k.totalIn + fed.1, stage := fed.2.1 } }

theorem took_unpacker (input : List UInt8) (room : ℕ) (k : Unpacker) :
    took input room k = (k.stage.feed input room).1 :=
  Nat.add_sub_cancel_left _ _

theorem length_stage_read_le (s : Stage) (b : UInt8) : (s.read b).2.length ≤ 1 := by
  unfold Stage.read
  split
  · exact length_read_le _ _
  all_goals exact Nat.zero_le _

theorem unpack_append (s : Stage) (xs ys : List UInt8) :
    unpack s (xs ++ ys) =
      ((unpack (unpack s xs).1 ys).1, (unpack s xs).2 ++ (unpack (unpack s xs).1 ys).2) := by
  induction xs generalizing s with
  | nil => simp [unpack]
  | cons x xs ih => simp [unpack, ih]

theorem length_unpack_le (s : Stage) (bs : List UInt8) : (unpack s bs).2.length ≤ bs.length := by
  induction bs generalizing s with
  | nil => exact Nat.le_refl _
  | cons b bs ih =>
    have hread := length_stage_read_le s b
    have hrest := ih (s.read b).1
    simp only [unpack, List.length_append, List.length_cons]
    omega

theorem Stage.unpack_feed (s : Stage) (input : List UInt8) (room : ℕ) :
    unpack s (input.take (s.feed input room).1) = (s.feed input room).2 := by
  induction input generalizing s room with
  | nil => rfl
  | cons b bs ih =>
    rw [feed]
    split
    · rfl
    · simp only [List.take_succ_cons, unpack, ih]

theorem Stage.feed_le (s : Stage) (input : List UInt8) (room : ℕ) :
    (s.feed input room).1 ≤ input.length := by
  induction input generalizing s room with
  | nil => exact Nat.le_refl 0
  | cons b bs ih =>
    rw [feed]
    split
    · exact Nat.zero_le _
    · exact Nat.succ_le_succ (ih _ _)

theorem Stage.length_feed_le (s : Stage) (input : List UInt8) (room : ℕ) :
    (s.feed input room).2.2.length ≤ room := by
  induction input generalizing s room with
  | nil => exact Nat.zero_le _
  | cons b bs ih =>
    rw [feed]
    split
    · exact Nat.zero_le _
    · rename_i hgo
      have hrest := ih (s.read b).1 (room - (s.read b).2.length)
      have hread := length_stage_read_le s b
      have hroom : room ≠ 0 := fun h => hgo (.inl h)
      simp only [List.length_append]
      omega

/-- A reader that has stopped for good reads nothing. -/
theorem Stage.feed_of_stopped {s : Stage} (hstop : s = .ended ∨ s.IsBroken) (input : List UInt8)
    (room : ℕ) : s.feed input room = (0, s, []) := by
  cases input with
  | nil => rfl
  | cons b bs => exact if_pos (.inr hstop)

theorem Stage.endOf_ended (bs : List UInt8) : Stage.ended.endOf bs = some 0 := by
  cases bs <;> rfl

theorem Stage.endOf_cons {s : Stage} (hs : s ≠ .ended) (b : UInt8) (bs : List UInt8) :
    s.endOf (b :: bs) = ((s.read b).1.endOf bs).map (· + 1) := by
  cases s with
  | ended => exact absurd rfl hs
  | inside final place => rfl
  | checksum left => rfl

/-- A broken stream has no end. -/
theorem Stage.endOf_of_isBroken {s : Stage} (hs : s.IsBroken) (bs : List UInt8) :
    s.endOf bs = none := by
  induction bs generalizing s with
  | nil =>
    obtain ⟨final, rfl⟩ := hs
    rfl
  | cons b bs ih =>
    have hread : (s.read b).1.IsBroken := by
      obtain ⟨final, rfl⟩ := hs
      exact ⟨final, rfl⟩
    have hgoing : s ≠ .ended := by
      obtain ⟨final, rfl⟩ := hs
      simp
    rw [endOf_cons hgoing, ih hread]
    rfl

theorem Stage.endOf_append {s : Stage} {xs : List UInt8} {n : ℕ} (hend : s.endOf xs = some n)
    (ys : List UInt8) : s.endOf (xs ++ ys) = some n := by
  induction xs generalizing s n with
  | nil =>
    cases s with
    | ended => rwa [endOf_ended] at hend ⊢
    | inside final place => exact absurd hend (by simp [endOf])
    | checksum left => exact absurd hend (by simp [endOf])
  | cons x xs ih =>
    by_cases hs : s = .ended
    · subst hs
      rwa [endOf_ended] at hend ⊢
    · rw [endOf_cons hs, Option.map_eq_some_iff] at hend
      obtain ⟨m, hm, rfl⟩ := hend
      rw [List.cons_append, endOf_cons hs, ih hm]
      rfl

/-- A reader in front of a stream that has an end does not break, and stops at the end. -/
theorem Stage.feed_within {s : Stage} {input : List UInt8} {n : ℕ} (hend : s.endOf input = some n)
    (room : ℕ) : ¬(s.feed input room).2.1.IsBroken ∧ (s.feed input room).1 ≤ n := by
  induction input generalizing s n room with
  | nil =>
    refine ⟨fun (hbroken : s.IsBroken) => ?_, Nat.zero_le _⟩
    rw [endOf_of_isBroken hbroken] at hend
    cases hend
  | cons b bs ih =>
    rw [feed]
    split
    · refine ⟨fun hbroken => ?_, Nat.zero_le _⟩
      rw [endOf_of_isBroken hbroken] at hend
      cases hend
    · rename_i hgo
      rw [endOf_cons (fun h => hgo (.inr (.inl h))), Option.map_eq_some_iff] at hend
      obtain ⟨m, hm, rfl⟩ := hend
      obtain ⟨hbroken, hle⟩ := ih hm (room - (s.read b).2.length)
      exact ⟨hbroken, Nat.succ_le_succ hle⟩

/-- Where a reader has read up to the end, the end is there. -/
theorem Stage.endOf_of_feed {s : Stage} {input : List UInt8} {room : ℕ}
    (hended : (s.feed input room).2.1 = .ended) :
    s.endOf (input.take (s.feed input room).1) = some (s.feed input room).1 := by
  induction input generalizing s room with
  | nil =>
    obtain rfl : s = .ended := hended
    rfl
  | cons b bs ih =>
    rw [feed] at hended ⊢
    split at hended
    · obtain rfl : s = .ended := hended
      rw [if_pos (.inr (.inl rfl))]
      exact endOf_ended _
    · rename_i hgo
      rw [if_neg hgo]
      have hs : s ≠ .ended := fun h => hgo (.inr (.inl h))
      show s.endOf (b :: bs.take _) = some (_ + 1)
      rw [endOf_cons hs, ih hended]
      rfl

/-- What a reader has been through tells its stage, and the end is known where it has been
reached. -/
structure Unpacked (given taken : List UInt8) (last : Option Status) (k : Unpacker) : Prop where
  unpack_eq : unpack (.inside false .cmf) given = (k.stage, taken)
  broken : k.stage.IsBroken ↔ last = none
  ended : k.stage = .ended ↔ last = some .streamEnd
  endOf_given : k.stage = .ended → (Stage.inside false .cmf).endOf given = some given.length
  endOf_append : k.stage ≠ .ended → ∀ input, (Stage.inside false .cmf).endOf (given ++ input) =
    (k.stage.endOf input).map (given.length + ·)

theorem Stage.status_eq_none {s : Stage} {n : ℕ} {output : List UInt8} :
    s.status n output = none ↔ s.IsBroken := by
  unfold Stage.status
  split_ifs <;> simp_all

theorem Stage.status_eq_streamEnd {s : Stage} {n : ℕ} {output : List UInt8} :
    s.status n output = some .streamEnd ↔ s = .ended := by
  unfold Stage.status
  split_ifs with hbroken hended <;> simp_all
  rintro rfl
  obtain ⟨final, hfinal⟩ := hbroken
  cases hfinal

/-- Reading on after `feed` is reading on after the octets it has read. -/
theorem Stage.endOf_feed (s : Stage) (input : List UInt8) (room : ℕ) (rest : List UInt8)
    (hended : (s.feed input room).2.1 ≠ .ended) :
    s.endOf (input.take (s.feed input room).1 ++ rest) =
      ((s.feed input room).2.1.endOf rest).map ((s.feed input room).1 + ·) := by
  induction input generalizing s room with
  | nil =>
    show s.endOf rest = (s.endOf rest).map (0 + ·)
    cases s.endOf rest <;> simp
  | cons b bs ih =>
    rw [feed] at hended ⊢
    split
    · show s.endOf rest = (s.endOf rest).map (0 + ·)
      cases s.endOf rest <;> simp
    · rename_i hgo
      rw [if_neg hgo] at hended
      have hs : s ≠ .ended := fun h => hgo (.inr (.inl h))
      show s.endOf (b :: (bs.take _ ++ rest)) = _
      rw [endOf_cons hs, ih _ _ hended, Option.map_map]
      congr 1
      funext m
      show _ + m + 1 = _ + 1 + m
      omega

theorem unpacked_of_driven {given taken : List UInt8} {last : Option Status} {k : Unpacker}
    (hdriven : Driven given taken last k) : Unpacked given taken last k := by
  induction hdriven with
  | fresh =>
    refine ⟨rfl, ?_, ?_, ?_, ?_⟩
    · exact iff_of_false (by decide) (by simp)
    · exact iff_of_false (by decide) (by simp)
    · intro hended
      cases hended
    · intro _ input
      show (Stage.inside false .cmf).endOf input = ((Stage.inside false .cmf).endOf input).map (0 + ·)
      cases (Stage.inside false .cmf).endOf input <;> simp
  | @step given taken last k hdriven input room hroom ih =>
    have hfeed := Stage.unpack_feed k.stage input room
    rw [took_unpacker]
    refine ⟨?_, ?_, ?_, ?_, ?_⟩
    · rw [unpack_append, ih.unpack_eq, hfeed]
      rfl
    · exact Stage.status_eq_none.symm
    · exact Stage.status_eq_streamEnd.symm
    · intro hended
      by_cases hbefore : k.stage = .ended
      · have hstop : k.stage.feed input room = (0, k.stage, []) :=
          Stage.feed_of_stopped (.inl hbefore) input room
        rw [hstop, List.take_zero, List.append_nil]
        exact ih.endOf_given hbefore
      · rw [ih.endOf_append hbefore, Stage.endOf_of_feed hended, Option.map_some,
          List.length_append, List.length_take, Nat.min_eq_left (Stage.feed_le _ _ _)]
    · intro hended rest
      have hbefore : k.stage ≠ .ended := by
        intro hbefore
        apply hended
        show (k.stage.feed input room).2.1 = .ended
        rw [Stage.feed_of_stopped (.inl hbefore), hbefore]
      rw [List.append_assoc, ih.endOf_append hbefore, Stage.endOf_feed _ _ _ _ hended,
        Option.map_map, List.length_append, List.length_take,
        Nat.min_eq_left (Stage.feed_le _ _ _)]
      congr 1
      funext m
      exact (Nat.add_assoc _ _ _).symm

/-- The decompressor keeps the promises of one. -/
theorem unpacks : Unpacks Unpacker (Stage.inside false .cmf).endOf 1 where
  endOf_append hend ys := Stage.endOf_append hend ys
  bounded := by
    intro given taken last k hdriven input room hroom
    exact ⟨Nat.le_add_right _ _, Nat.add_le_add_left (Stage.feed_le _ _ _) _,
      Stage.length_feed_le _ _ _⟩
  expands := by
    intro given taken last k hdriven
    have hlength := length_unpack_le (.inside false .cmf) given
    rw [(unpacked_of_driven hdriven).unpack_eq] at hlength
    rwa [Nat.one_mul]
  works := by
    intro given taken last k hdriven input room hroom hok
    rw [took_unpacker]
    show 0 < _ + (k.stage.feed input room).2.2.length
    -- a call that takes and gives nothing is no `Ok`
    by_contra hzero
    have hn : (k.stage.feed input room).1 = 0 := by omega
    have hnil : (k.stage.feed input room).2.2 = [] := List.length_eq_zero_iff.mp (by omega)
    have hstatus : (k.stage.feed input room).2.1.status (k.stage.feed input room).1
        (k.stage.feed input room).2.2 = some .ok := hok
    rw [hn, hnil] at hstatus
    unfold Stage.status at hstatus
    split_ifs at hstatus <;> simp_all
  idles := by
    intro given taken last k hdriven input room hroom hidle
    have hstatus : (k.stage.feed input room).2.1.status (k.stage.feed input room).1
        (k.stage.feed input room).2.2 = some .bufError := hidle
    cases input with
    | nil => rfl
    | cons b bs =>
      rw [Stage.feed] at hstatus
      split_ifs at hstatus with hstop
      · rcases hstop with hzero | hended | hbroken
        · omega
        · rw [hended] at hstatus
          exact absurd hstatus (by decide)
        · rw [Stage.status_eq_none.mpr hbroken] at hstatus
          cases hstatus
      · unfold Stage.status at hstatus
        split_ifs at hstatus <;> simp_all
  ended := by
    intro given taken k hdriven input room hroom
    have hended := (unpacked_of_driven hdriven).ended.mpr rfl
    have hstop : k.stage.feed input room = (0, k.stage, []) :=
      Stage.feed_of_stopped (.inl hended) input room
    refine ⟨?_, ?_⟩
    · apply Stage.status_eq_streamEnd.mpr
      rw [hstop, hended]
    · rw [took_unpacker, hstop]
  failed := by
    intro given taken k hdriven input room hroom
    have hbroken := (unpacked_of_driven hdriven).broken.mpr rfl
    apply Stage.status_eq_none.mpr
    rw [Stage.feed_of_stopped (.inr hbroken)]
    exact hbroken
  endOf_given := by
    intro given taken k hdriven
    exact (unpacked_of_driven hdriven).endOf_given ((unpacked_of_driven hdriven).ended.mpr rfl)
  within := by
    intro given taken last k hdriven hlast input n hend room hroom
    have hpast := unpacked_of_driven hdriven
    rw [took_unpacker]
    -- an ended stream takes nothing more; another one has its end ahead
    by_cases hended : k.stage = .ended
    · have hstop : k.stage.feed input room = (0, k.stage, []) :=
        Stage.feed_of_stopped (.inl hended) input room
      have hn := Stage.endOf_append (hpast.endOf_given hended) input
      obtain rfl : given.length = n := Option.some.inj (hn.symm.trans hend)
      refine ⟨fun hnone => ?_, by rw [hstop]; exact Nat.le_refl _⟩
      rw [show (call input room k).status = (k.stage.feed input room).2.1.status _ _ from rfl,
        Stage.status_eq_none, hstop] at hnone
      exact hlast (hpast.broken.mp hnone)
    · rw [hpast.endOf_append hended, Option.map_eq_some_iff] at hend
      obtain ⟨m, hm, rfl⟩ := hend
      obtain ⟨hbroken, hle⟩ := Stage.feed_within hm room
      exact ⟨fun hnone => hbroken (Stage.status_eq_none.mp hnone), Nat.add_le_add_left hle _⟩

end StoredBlocks
