import Flatline.Common.StreamCoder

/-!
# Stored blocks

A compressor and a decompressor for zlib streams made of stored blocks, the blocks in which data
stands as it is. The compressor takes everything at once and keeps what finds no room; the
decompressor reads octet by octet until its room is used up. They keep the promises of a pair of
streaming coders (`flushes`, `inflates`).
-/

namespace StoredBlocks

open StreamCoder StreamCoder.Coder

/-! ## Reading -/

/-- Where in a stream a reader stands. -/
inductive Place where
  | cmf
  | flg
  /-- Before a block. -/
  | block
  | len
  | lenHigh (low : UInt8)
  | nlen (low high : UInt8)
  | nlenHigh (low high : UInt8)
  /-- In a block, with one more than so many octets to come. -/
  | data (left : ℕ)
  | broken
deriving DecidableEq, Repr

/-- Read one octet. `0x02` is the empty block that ends a partial flush. -/
def Place.read : Place → UInt8 → Place × List UInt8
  | .cmf, b => (if b = 0x78 then .flg else .broken, [])
  | .flg, b => (if b = 0x9c then .block else .broken, [])
  | .block, b => (if b = 0 then .len else if b = 2 then .block else .broken, [])
  | .len, b => (.lenHigh b, [])
  | .lenHigh low, b => (.nlen low b, [])
  | .nlen low high, b => (if b = 255 - low then .nlenHigh low high else .broken, [])
  | .nlenHigh low high, b =>
    (if b = 255 - high then
      match low.toNat + 256 * high.toNat with
      | 0 => .block
      | left + 1 => .data left
     else .broken, [])
  | .data 0, b => (.block, [b])
  | .data (left + 1), b => (.data left, [b])
  | .broken, _ => (.broken, [])

/-- Read octets one after the other. -/
def scan : Place → List UInt8 → Place × List UInt8
  | p, [] => (p, [])
  | p, b :: bs => ((scan (p.read b).1 bs).1, (p.read b).2 ++ (scan (p.read b).1 bs).2)

/-- What the start of a stream stands for. -/
def meaning (bs : List UInt8) : List UInt8 :=
  (scan .cmf bs).2

/-- Some octets are the start of a stream. -/
def IsStart (bs : List UInt8) : Prop :=
  (scan .cmf bs).1 ≠ .broken

theorem scan_append (p : Place) (xs ys : List UInt8) :
    scan p (xs ++ ys) = ((scan (scan p xs).1 ys).1, (scan p xs).2 ++ (scan (scan p xs).1 ys).2) := by
  induction xs generalizing p with
  | nil => simp [scan]
  | cons x xs ih => simp [scan, ih]

theorem scan_broken (bs : List UInt8) : (scan .broken bs).1 = .broken := by
  induction bs with
  | nil => rfl
  | cons b bs ih => exact ih

theorem IsStart.of_append {xs ys : List UInt8} (h : IsStart (xs ++ ys)) : IsStart xs := by
  intro hbroken
  apply h
  rw [scan_append, hbroken, scan_broken]

/-! ## Decompression -/

/-- The decompressor. -/
structure Decompress where
  totalIn : ℕ
  place : Place
deriving DecidableEq, Repr

/-- Read while there is room: how many octets, the place reached, and what was written. -/
def feed : Place → List UInt8 → ℕ → ℕ × Place × List UInt8
  | p, [], _ => (0, p, [])
  | p, b :: bs, room =>
    if room = 0 then (0, p, []) else
    let rest := feed (p.read b).1 bs (room - (p.read b).2.length)
    (rest.1 + 1, rest.2.1, (p.read b).2 ++ rest.2.2)

instance : Coder Decompress UInt8 UInt8 where
  fresh := { totalIn := 0, place := .cmf }
  totalIn k := k.totalIn
  call input room k :=
    let fed := feed k.place input room
    { status :=
        if fed.2.1 = .broken then none
        else if fed.1 = 0 ∧ fed.2.2 = [] then some .bufError else some .ok
      output := fed.2.2
      next := { totalIn := k.totalIn + fed.1, place := fed.2.1 } }

theorem length_read_le (p : Place) (b : UInt8) : (p.read b).2.length ≤ 1 := by
  unfold Place.read
  split <;> simp

theorem scan_feed (p : Place) (input : List UInt8) (room : ℕ) :
    scan p (input.take (feed p input room).1) = (feed p input room).2 := by
  induction input generalizing p room with
  | nil => rfl
  | cons b bs ih =>
    rw [feed]
    split
    · rfl
    · simp only [List.take_succ_cons, scan, ih]

theorem feed_le (p : Place) (input : List UInt8) (room : ℕ) :
    (feed p input room).1 ≤ input.length := by
  induction input generalizing p room with
  | nil => exact Nat.le_refl 0
  | cons b bs ih =>
    rw [feed]
    split
    · exact Nat.zero_le _
    · exact Nat.succ_le_succ (ih _ _)

theorem length_feed_le (p : Place) (input : List UInt8) (room : ℕ) :
    (feed p input room).2.2.length ≤ room := by
  induction input generalizing p room with
  | nil => exact Nat.zero_le _
  | cons b bs ih =>
    rw [feed]
    split
    · exact Nat.zero_le _
    · have hrest := ih (p.read b).1 (room - (p.read b).2.length)
      have hread := length_read_le p b
      simp only [List.length_append]
      omega

/-- Reading stops early only when the room is used up. -/
theorem feed_eq_length {p : Place} {input : List UInt8} {room : ℕ}
    (hspare : (feed p input room).2.2.length < room) : (feed p input room).1 = input.length := by
  induction input generalizing p room with
  | nil => rfl
  | cons b bs ih =>
    rw [feed] at hspare ⊢
    split at hspare
    · exact absurd hspare (by simp_all)
    · rename_i hroom
      have hread := length_read_le p b
      rw [if_neg hroom]
      simp only [List.length_append] at hspare
      exact congrArg (· + 1) (ih (by omega))

/-- A decompressor has written what the input it has taken means. -/
theorem scan_of_fed {given taken : List UInt8} {settled : Bool} {k : Decompress}
    (hfed : Fed given taken settled k) : scan .cmf given = (k.place, taken) := by
  induction hfed with
  | fresh => rfl
  | @step given taken settled k hfed input room hroom hstatus ih =>
    have htook : took input room k = (feed k.place input room).1 := Nat.add_sub_cancel_left _ _
    rw [scan_append, ih, htook, scan_feed]
    rfl

theorem meaning_of_fed {given taken : List UInt8} {settled : Bool} {k : Decompress}
    (hfed : Fed given taken settled k) (input : List UInt8) :
    meaning (given ++ input) = taken ++ (scan k.place input).2 := by
  rw [meaning, scan_append, scan_of_fed hfed]

/-- The decompressor keeps the promises of one. -/
theorem inflates : Inflates Decompress meaning IsStart where
  bounded _ input _ room _ :=
    ⟨Nat.le_add_right _ _, Nat.add_le_add_left (feed_le _ _ _) _, length_feed_le _ _ _⟩
  status_eq := by
    intro given taken settled k hfed input hstart room hroom
    have htook : took input room k = (feed k.place input room).1 := Nat.add_sub_cancel_left _ _
    have hplace : (feed k.place input room).2.1 ≠ .broken := by
      have hread : IsStart (given ++ input.take (feed k.place input room).1) := by
        rw [← List.take_append_drop (feed k.place input room).1 input, ← List.append_assoc] at hstart
        exact hstart.of_append
      rwa [IsStart, scan_append, scan_of_fed hfed, scan_feed] at hread
    rw [htook]
    show (if _ then _ else if _ then _ else _) = _
    rw [if_neg hplace]
    split <;> simp_all [call]
  faithful := by
    intro given taken settled k hfed input hstart room hroom
    rw [meaning_of_fed hfed, List.prefix_append_right_inj,
      ← List.take_append_drop (feed k.place input room).1 input, scan_append, scan_feed,
      List.take_append_drop]
    exact List.prefix_append _ _
  complete := by
    intro given taken settled k hfed input hstart room hroom hspare
    have hall := feed_eq_length hspare
    have hscan := scan_feed k.place input room
    rw [hall, List.take_length] at hscan
    refine ⟨congrArg (k.totalIn + ·) hall, ?_⟩
    rw [meaning_of_fed hfed, hscan]
    rfl

/-! ## Compression -/

/-- The compressor; `pending` is what has been compressed and found no room yet. -/
structure Compress where
  totalIn : ℕ
  opened : Bool
  settled : Bool
  pending : List UInt8
deriving DecidableEq, Repr

/-- A block for at most 65535 octets. -/
def block (chunk : List UInt8) : List UInt8 :=
  let low := UInt8.ofNat chunk.length
  let high := UInt8.ofNat (chunk.length / 256)
  0 :: low :: high :: (255 - low) :: (255 - high) :: chunk

/-- Blocks for some data, so many at most. -/
def blocks : ℕ → List UInt8 → List UInt8
  | 0, _ => []
  | n + 1, data => if data = [] then [] else block (data.take 65535) ++ blocks n (data.drop 65535)

/-- What a call that is not idle has to write: what is pending, the blocks of the new input, and
the end of the flush. -/
def queue (input : List UInt8) (k : Compress) : List UInt8 :=
  k.pending ++ (if input = [] ∧ k.opened then [] else blocks input.length input ++ [2])

instance : Coder Compress UInt8 UInt8 where
  fresh := { totalIn := 0, opened := false, settled := false, pending := [0x78, 0x9c] }
  totalIn k := k.totalIn
  call input room k :=
    if input = [] ∧ k.settled then { status := some .bufError, output := [], next := k } else
    { status := some .ok
      output := (queue input k).take room
      next :=
        { totalIn := k.totalIn + input.length
          opened := true
          settled := decide ((queue input k).length < room)
          pending := (queue input k).drop room } }

example : (call [0x90, 0x91, 0x92] 1024 (fresh : Compress)).output =
    [0x78, 0x9c, 0x00, 0x03, 0x00, 0xfc, 0xff, 0x90, 0x91, 0x92, 0x02] := by decide

theorem scan_data (left : ℕ) (chunk : List UInt8) (hlength : chunk.length = left + 1) :
    scan (.data left) chunk = (.block, chunk) := by
  induction left generalizing chunk with
  | zero =>
    obtain ⟨b, rfl⟩ := List.length_eq_one_iff.mp hlength
    rfl
  | succ left ih =>
    obtain ⟨b, chunk, rfl⟩ := List.exists_cons_of_length_eq_add_one hlength
    rw [scan, Place.read, ih chunk (by simpa using hlength)]
    rfl

theorem scan_block {chunk : List UInt8} (hlength : chunk.length ≤ 65535) :
    scan .block (block chunk) = (.block, chunk) := by
  have hvalue : (UInt8.ofNat chunk.length).toNat + 256 * (UInt8.ofNat (chunk.length / 256)).toNat =
      chunk.length := by
    simp only [UInt8.toNat_ofNat']
    omega
  simp only [block, scan, Place.read, if_true, List.nil_append, hvalue]
  cases hchunk : chunk.length with
  | zero => rw [List.length_eq_zero_iff.mp hchunk, scan]
  | succ left => rw [scan_data left chunk hchunk]

theorem scan_blocks {n : ℕ} {data : List UInt8} (hn : data.length ≤ n) :
    scan .block (blocks n data) = (.block, data) := by
  induction n generalizing data with
  | zero =>
    rw [List.length_eq_zero_iff.mp (Nat.le_zero.mp hn)]
    rfl
  | succ n ih =>
    rw [blocks]
    split
    · rename_i hnil
      rw [hnil, scan]
    · rename_i hdata
      have hpos := List.length_pos_iff.mpr hdata
      rw [scan_append, scan_block (List.length_take_le _ _),
        ih (by rw [List.length_drop]; omega), List.take_append_drop]

theorem scan_queue (input : List UInt8) (k : Compress) {given written : List UInt8}
    (hscan : scan .cmf (written ++ k.pending) = (.block, given)) :
    scan .cmf (written ++ queue input k) = (.block, given ++ input) := by
  rw [queue, ← List.append_assoc, scan_append, hscan]
  split
  · rename_i hidle
    rw [hidle.1, scan]
  · rw [scan_append, scan_blocks (Nat.le_refl _)]
    simp [scan, Place.read]

/-- The result of a call with nothing to do. -/
theorem call_idle {k : Compress} (room : ℕ) (hsettled : k.settled = true) :
    call [] room k = { status := some .bufError, output := [], next := k } :=
  if_pos ⟨rfl, hsettled⟩

/-- The result of a call with something to do. -/
theorem call_busy {input : List UInt8} {k : Compress} (room : ℕ)
    (hwork : ¬(input = [] ∧ k.settled = true)) :
    call input room k =
      { status := some .ok
        output := (queue input k).take room
        next :=
          { totalIn := k.totalIn + input.length
            opened := true
            settled := decide ((queue input k).length < room)
            pending := (queue input k).drop room } } :=
  if_neg hwork

/-- A compressor always takes all of its input. -/
theorem takesAll (input : List UInt8) (room : ℕ) (k : Compress) : TakesAll input room k := by
  by_cases hwork : input = [] ∧ k.settled = true
  · rw [TakesAll, hwork.1, call_idle room hwork.2]
    rfl
  · rw [TakesAll, call_busy room hwork]
    rfl

/-- What a compressor has written and what is pending mean what it has taken, and nothing is
pending when its last call left room unused. -/
theorem scan_of_fed_compress {given taken : List UInt8} {settled : Bool} {k : Compress}
    (hfed : Fed given taken settled k) :
    scan .cmf (taken ++ k.pending) = (.block, given) ∧ k.settled = settled ∧
      (settled = true → k.pending = []) := by
  induction hfed with
  | fresh => exact ⟨rfl, rfl, nofun⟩
  | @step given taken settled k hfed input room hroom hstatus ih =>
    obtain ⟨hscan, hsettled, hpending⟩ := ih
    rw [(takesAll input room k).took_eq, List.take_length]
    by_cases hwork : input = [] ∧ k.settled = true
    · obtain ⟨rfl, hsettled'⟩ := hwork
      rw [call_idle room hsettled', List.append_nil, List.append_nil]
      exact ⟨hscan, by rw [hsettled']; exact (decide_eq_true hroom).symm,
        fun _ => hpending (hsettled ▸ hsettled')⟩
    · rw [call_busy room hwork]
      have hlength : ((queue input k).take room).length < room ↔ (queue input k).length < room := by
        rw [List.length_take]
        omega
      refine ⟨?_, by simp only [hlength], fun hspare => ?_⟩
      · rw [List.append_assoc, List.take_append_drop]
        exact scan_queue input k hscan
      · exact List.drop_eq_nil_of_le (Nat.le_of_lt (hlength.mp (of_decide_eq_true hspare)))

/-- The compressor keeps the promises of one. -/
theorem flushes :
    Flushes Compress meaning IsStart fun input k => (queue input k).length where
  isStart := by
    intro given taken settled k hfed
    have hall : IsStart (taken ++ k.pending) := by
      rw [IsStart, (scan_of_fed_compress hfed).1]
      exact Place.noConfusion
    exact hall.of_append
  bounded := by
    intro given taken settled k hfed input room hroom
    have hall := takesAll input room k
    refine ⟨?_, Nat.le_of_eq hall, ?_⟩
    · rw [show totalIn (call input room k).next = _ from hall]
      exact Nat.le_add_right _ _
    -- a call with nothing to do is idle; any other queues a block and gives what fits
    · by_cases hwork : input = [] ∧ k.settled = true
      · rw [hwork.1, call_idle room hwork.2]
        exact Nat.zero_le _
      · rw [call_busy room hwork]
        exact List.length_take_le _ _
  works := by
    intro given taken settled k hfed input room hroom hwork
    have hsettled := (scan_of_fed_compress hfed).2.1
    rw [call_busy room]
    rintro ⟨hnil, hidle⟩
    rcases hwork with hinput | hfalse
    · exact hinput hnil
    · rw [← hsettled, hidle] at hfalse
      cases hfalse
  idles := by
    intro given taken k hfed room hroom
    rw [call_idle room (scan_of_fed_compress hfed).2.1]
  complete := by
    intro given taken settled k hfed input room hroom hspare
    obtain ⟨hscan, hsettled, hpending⟩ := scan_of_fed_compress hfed
    refine ⟨takesAll input room k, ?_⟩
    by_cases hwork : input = [] ∧ k.settled = true
    · obtain ⟨rfl, hidle⟩ := hwork
      rw [hpending (hsettled ▸ hidle)] at hscan
      rw [call_idle room hidle, meaning, hscan, List.append_nil]
    · rw [call_busy room hwork] at hspare ⊢
      rw [List.length_take] at hspare
      rw [meaning, List.take_of_length_le (by omega), scan_queue input k hscan]
  drains := by
    intro given taken settled k hfed input room hroom hfull
    rw [(takesAll input room k).took_eq, List.drop_length]
    by_cases hwork : input = [] ∧ k.settled = true
    · rw [hwork.1, call_idle room hwork.2] at hfull
      exact absurd hfull.symm (Nat.ne_of_gt hroom)
    · rw [call_busy room hwork] at hfull ⊢
      rw [List.length_take] at hfull
      simp only [queue, and_self, if_true, List.append_nil]
      rw [← queue, List.length_drop]
      omega

end StoredBlocks
