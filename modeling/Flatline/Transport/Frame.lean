import Flatline.Transport.Suspension

/-!
# What reading leaves alone

Everything that reading a packet does before it takes the packet off the buffer concerns the
algorithms and the stored state only. Sequence numbers and switches change in `finish` alone.
-/

namespace Flatline

open Triple

namespace CipherStream

variable {δ μ ζ : Type} {α β : Type}

/-- The part of a stream that the algorithms do not touch. -/
structure Frame where
  buffer : Bytes
  client : NormalEndpoint
  server : NormalEndpoint
  authenticated : Bool

/-- The frame of a stream. -/
def frame (s : CipherStream δ μ ζ) : Frame :=
  ⟨s.buffer, s.client, s.server, s.authenticated⟩

/-- `m` leaves the frame alone. -/
def Keeps (m : Read δ μ ζ α) : Prop :=
  ∀ c, Holds (fun s => s.frame = c) m (fun _ s => s.frame = c) (fun _ s => s.frame = c)

variable {m : Read δ μ ζ α} {f : α → Read δ μ ζ β}

theorem Keeps.pure (a : α) : Keeps (Pure.pure a : Read δ μ ζ α) :=
  fun _ => Holds.pure fun _ hs => hs

theorem Keeps.throw (e : Stop) : Keeps (MonadExcept.throw e : Read δ μ ζ α) :=
  fun _ => Holds.throw fun _ hs => hs

theorem Keeps.bind (hm : Keeps m) (hf : ∀ a, Keeps (f a)) : Keeps (m >>= f) :=
  fun c => (hm c).bind fun a => hf a c

theorem Keeps.get_bind {g : CipherStream δ μ ζ → Read δ μ ζ β} (hg : ∀ s, Keeps (g s)) :
    Keeps (get >>= g) :=
  fun c s hs => hg s c s hs

theorem Keeps.forM {γ : Type} {g : γ → Read δ μ ζ PUnit} (hg : ∀ c, Keeps (g c)) (l : List γ) :
    Keeps (l.forM g) :=
  fun c => Holds.forM (fun x => hg x c) l

/-! ## The operations of the stream -/

theorem assert_keeps (p : Prop) [Decidable p] : Keeps (assert p : Read δ μ ζ Unit) := by
  unfold assert
  split
  · exact .pure _
  · exact .throw _

theorem slice_keeps (data : Bytes) (start stop : ℕ) :
    Keeps (slice data start stop : Read δ μ ζ Bytes) := by
  unfold slice
  split
  · exact .pure _
  · exact .throw _

theorem sub_keeps (a b : ℕ) : Keeps (sub a b : Read δ μ ζ ℕ) := by
  unfold sub
  split
  · exact .pure _
  · exact .throw _

theorem toHeader_keeps (data : Bytes) : Keeps (toHeader data : Read δ μ ζ Header) := by
  unfold toHeader
  split
  · exact .pure _
  · exact .throw _

theorem ensure_keeps (p : Prop) [Decidable p] (e : Error) :
    Keeps (ensure p e : Read δ μ ζ Unit) := by
  unfold ensure
  split
  · exact .pure _
  · exact .throw _

theorem consuming_keeps (m : Consumer α) (data : Bytes) :
    Keeps (consuming m data : Read δ μ ζ (α × Bytes)) := by
  unfold consuming
  split
  · exact .pure _
  · exact .throw _

theorem fill_keeps (env : ReadEnv) (n : ℕ) : Keeps (fill env n : Read δ μ ζ Bytes) := by
  intro c s hs
  unfold fill
  by_cases hn : n ≤ s.buffer.length
  · rw [if_pos hn]
    exact hs
  · rw [if_neg hn]
    cases env.readFails <;> exact hs

theorem decrypting_keeps (f : δ → Except Error α × δ) :
    Keeps (decrypting f : Read δ μ ζ α) := by
  intro c s hs
  unfold decrypting
  rcases f s.decrypt with ⟨_ | a, d⟩ <;> exact hs

theorem decryptingTo_keeps (f : δ → (Except Error Unit × Bytes) × δ) :
    Keeps (decryptingTo f : Read δ μ ζ Bytes) :=
  decrypting_keeps _

theorem decryptingStored_keeps (f : δ → (Except Error Unit × Bytes) × δ) :
    Keeps (decryptingStored f : Read δ μ ζ Unit) := by
  intro c s hs
  unfold decryptingStored
  rcases f s.decrypt with ⟨⟨_ | _, out⟩, d⟩ <;> exact hs

theorem verifying_keeps (f : μ → Except Error α × μ) :
    Keeps (verifying f : Read δ μ ζ α) := by
  intro c s hs
  unfold verifying
  rcases f s.verify with ⟨_ | a, m⟩ <;> exact hs

theorem decoding_keeps (f : ζ → Except Error α × ζ) :
    Keeps (decoding f : Read δ μ ζ α) := by
  intro c s hs
  unfold decoding
  rcases f s.decode with ⟨_ | a, z⟩ <;> exact hs

theorem feeding_keeps (f : ζ → Option (Except Error Unit × ζ)) :
    Keeps (feeding f : Read δ μ ζ Unit) := by
  intro c s hs
  unfold feeding
  cases f s.decode with
  | some result => exact decoding_keeps (fun _ => result) c s hs
  | none => exact hs

theorem modifyReady_keeps (f : Ready → Ready) : Keeps (modifyReady f : Read δ μ ζ Unit) :=
  fun _ => Holds.modify fun _ hs => hs

theorem lengthOr_keeps {read : Read δ μ ζ UInt32} (hread : Keeps read) :
    Keeps (lengthOr read) := by
  intro c s hs
  unfold lengthOr
  cases s.ready.length with
  | some length => exact hs
  | none => exact hread c s hs

theorem decompress_keeps [PacketDecode ζ] (content : Bytes) :
    Keeps (decompress content : Read δ μ ζ Bytes) := by
  unfold decompress
  refine .get_bind fun s => ?_
  split
  · exact (feeding_keeps _).bind fun _ => decoding_keeps _
  · exact .pure _

theorem openPacket_keeps [PacketDecode ζ] (length : UInt32) (data : Bytes) :
    Keeps (openPacket length data : Read δ μ ζ Packet) := by
  refine (consuming_keeps _ _).bind fun _ => (ensure_keeps _ _).bind fun _ => ?_
  refine (sub_keeps _ _).bind fun _ => (sub_keeps _ _).bind fun _ => ?_
  refine (consuming_keeps _ _).bind fun _ => (decompress_keeps _).bind fun _ => ?_
  exact .pure _

theorem verifyTag_keeps [PacketMac μ] (parts : List Bytes) (tag : Bytes) :
    Keeps (verifyTag parts tag : Read δ μ ζ Unit) := by
  refine .get_bind fun s => (verifying_keeps _).bind fun _ => ?_
  refine (Keeps.forM (fun _ => verifying_keeps _) _).bind fun _ => ?_
  exact (verifying_keeps _).bind fun _ => ensure_keeps _ _

variable [PacketDecrypt δ]

theorem decryptAll_keeps (data : Bytes) : Keeps (decryptAll data : Read δ μ ζ Unit) :=
  (decryptingStored_keeps _).bind fun _ => decryptingStored_keeps _

/-! ## The three modes -/

variable [PacketMac μ]

theorem Mode.readLength_keeps (env : ReadEnv) (mode : Mode) :
    Keeps (mode.readLength env : Read δ μ ζ UInt32) := by
  cases mode with
  | galoisCounter =>
    refine (fill_keeps _ _).bind fun _ => (toHeader_keeps _).bind fun _ => ?_
    refine (decrypting_keeps _).bind fun _ => .get_bind fun _ => ?_
    exact (ensure_keeps _ _).bind fun _ => (modifyReady_keeps _).bind fun _ => .pure _
  | encryptThenMac =>
    refine (fill_keeps _ _).bind fun _ => (toHeader_keeps _).bind fun _ => ?_
    exact .get_bind fun _ => (ensure_keeps _ _).bind fun _ => .pure _
  | macThenEncrypt =>
    refine .get_bind fun _ => (assert_keeps _).bind fun _ => .get_bind fun _ => ?_
    refine (fill_keeps _ _).bind fun _ => (decryptingStored_keeps _).bind fun _ => ?_
    refine .get_bind fun _ => (assert_keeps _).bind fun _ => .get_bind fun _ => ?_
    refine (slice_keeps _ _ _).bind fun _ => (toHeader_keeps _).bind fun _ => .get_bind fun _ => ?_
    exact (ensure_keeps _ _).bind fun _ => (modifyReady_keeps _).bind fun _ => .pure _

omit [PacketMac μ] in
theorem start_keeps : Keeps (start : Read δ μ ζ Unit) := by
  intro c s hs
  unfold start
  cases s.state with
  | some r => exact hs
  | none => exact ((decrypting_keeps _).bind fun _ => modifyReady_keeps _) c s hs

variable [PacketDecode ζ]

/-- A packet is taken off the buffer when nothing can fail any more. -/
def TakesLast (m : Read δ μ ζ Packet) : Prop :=
  ∀ c, Holds (fun s => s.frame = c) m
    (fun _ s => ∃ n, 4 ≤ n ∧ s.frame = { c with buffer := c.buffer.drop n } ∧ n ≤ c.buffer.length)
    (fun _ s => s.frame = c)

omit [PacketDecrypt δ] [PacketMac μ] [PacketDecode ζ] in
theorem Keeps.bind_takesLast {f : α → Read δ μ ζ Packet} (hm : Keeps m)
    (hf : ∀ a, TakesLast (f a)) : TakesLast (m >>= f) :=
  fun c => (hm c).bind fun a => hf a c

omit [PacketDecrypt δ] [PacketMac μ] [PacketDecode ζ] in
theorem TakesLast.get_bind {g : CipherStream δ μ ζ → Read δ μ ζ Packet} (hg : ∀ s, TakesLast (g s)) :
    TakesLast (get >>= g) :=
  fun c s hs => hg s c s hs

omit [PacketDecrypt δ] [PacketMac μ] in
theorem openAndConsume_takesLast {length : UInt32} {data : Bytes} {n : ℕ} (hn : 4 ≤ n) :
    TakesLast (do
      let packet ← openPacket length data
      consumeReadBuffer n
      return packet : Read δ μ ζ Packet) := by
  refine (openPacket_keeps _ _).bind_takesLast fun packet c => ?_
  have hconsume : Holds (fun s : CipherStream δ μ ζ => s.frame = c) (consumeReadBuffer n)
      (fun _ s => ∃ n, 4 ≤ n ∧ s.frame = { c with buffer := c.buffer.drop n } ∧
        n ≤ c.buffer.length)
      (fun _ s => s.frame = c) := by
    rintro s rfl
    unfold consumeReadBuffer
    by_cases hle : n ≤ s.buffer.length
    · rw [if_pos hle]
      exact ⟨n, hn, rfl, hle⟩
    · rw [if_neg hle]
  exact hconsume.bind fun _ => Holds.pure fun _ hs => hs

theorem Mode.readRest_takesLast (env : ReadEnv) (mode : Mode) (length : UInt32) :
    TakesLast (mode.readRest env length : Read δ μ ζ Packet) := by
  cases mode with
  | galoisCounter =>
    refine .get_bind fun _ => (fill_keeps _ _).bind_takesLast fun _ => ?_
    refine (slice_keeps _ _ _).bind_takesLast fun _ => (slice_keeps _ _ _).bind_takesLast fun _ => ?_
    refine (decryptingTo_keeps _).bind_takesLast fun _ => ?_
    refine (slice_keeps _ _ _).bind_takesLast fun _ => ?_
    refine (decrypting_keeps _).bind_takesLast fun _ => ?_
    refine (decryptingTo_keeps _).bind_takesLast fun _ => ?_
    exact openAndConsume_takesLast (by omega)
  | encryptThenMac =>
    refine .get_bind fun _ => (assert_keeps _).bind_takesLast fun _ => .get_bind fun _ => ?_
    refine (fill_keeps _ _).bind_takesLast fun _ => (slice_keeps _ _ _).bind_takesLast fun _ => ?_
    refine (slice_keeps _ _ _).bind_takesLast fun _ => (verifyTag_keeps _ _).bind_takesLast fun _ => ?_
    refine (decryptAll_keeps _).bind_takesLast fun _ => .get_bind fun _ => ?_
    exact openAndConsume_takesLast (by omega)
  | macThenEncrypt =>
    refine .get_bind fun _ => (fill_keeps _ _).bind_takesLast fun _ => .get_bind fun _ => ?_
    refine (slice_keeps _ _ _).bind_takesLast fun _ => (decryptAll_keeps _).bind_takesLast fun _ => ?_
    refine .get_bind fun _ => (slice_keeps _ _ _).bind_takesLast fun _ => ?_
    refine (verifyTag_keeps _ _).bind_takesLast fun _ => (slice_keeps _ _ _).bind_takesLast fun _ => ?_
    exact openAndConsume_takesLast (by omega)

/-- Reading a packet leaves everything but the algorithms alone until it takes the packet off. -/
theorem readReady_takesLast (env : ReadEnv) :
    TakesLast (readReady env : Read δ μ ζ Packet) := by
  intro c s hs
  rw [readReady_eq]
  refine ((lengthOr_keeps (Mode.readLength_keeps env s.mode)).bind_takesLast fun length => ?_) c s hs
  exact Mode.readRest_takesLast env s.mode length

end CipherStream

end Flatline
