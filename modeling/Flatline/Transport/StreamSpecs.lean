import Flatline.Common.Triple
import Flatline.Transport.CipherStream

/-!
# Specifications of the stream operations

Triples for the operations that `read_packet` is made of: what each leaves unchanged, and when it
cannot panic.
-/

namespace Flatline

open Triple

/-! ## Assumptions on algorithms -/

/-- The constants of a cipher. -/
def PacketDecrypt.flags {δ : Type} [PacketDecrypt δ] (decrypt : δ) : Bool × ℕ × ℕ :=
  (PacketDecrypt.isGaloisCounterMode decrypt, PacketDecrypt.blockSize decrypt, PacketDecrypt.tagLen decrypt)

/-- The constants of a MAC. -/
def PacketMac.flags {μ : Type} [PacketMac μ] (mac : μ) : Bool × ℕ :=
  (PacketMac.encryptThenMac mac, PacketMac.macLen mac)

/-- What reading a packet relies on: the constants of a cipher do not change, a whole block is
decrypted at once, and a packet that is decrypted to its end gives as many octets as it had. -/
class LawfulDecrypt (δ : Type) [PacketDecrypt δ] : Prop where
  eight_le_blockSize (d : δ) : 8 ≤ PacketDecrypt.blockSize d
  flags_updateSequenceNumber (n : UInt32) (d : δ) :
    PacketDecrypt.flags (PacketDecrypt.updateSequenceNumber n d).2 = PacketDecrypt.flags d
  flags_additionalAuthenticatedData (header : Header) (d : δ) :
    PacketDecrypt.flags (PacketDecrypt.additionalAuthenticatedData header d).2 = PacketDecrypt.flags d
  flags_update (data : Bytes) (d : δ) : PacketDecrypt.flags (PacketDecrypt.update data d).2 = PacketDecrypt.flags d
  flags_authenticationTag (tag : Bytes) (d : δ) :
    PacketDecrypt.flags (PacketDecrypt.authenticationTag tag d).2 = PacketDecrypt.flags d
  flags_finalize (d : δ) : PacketDecrypt.flags (PacketDecrypt.finalize d).2 = PacketDecrypt.flags d
  length_update_block (data : Bytes) (d : δ) :
    data.length = PacketDecrypt.blockSize d → (PacketDecrypt.update data d).1.1 = .ok () →
      (PacketDecrypt.update data d).1.2.length = data.length
  length_update_finalize (data : Bytes) (d : δ) :
    let updated := PacketDecrypt.update data d
    let finalized := PacketDecrypt.finalize updated.2
    updated.1.1 = .ok () → finalized.1.1 = .ok () →
      data.length ≤ updated.1.2.length + finalized.1.2.length

/-- The constants of a MAC do not change. -/
class LawfulMac (μ : Type) [PacketMac μ] : Prop where
  flags_update (data : Bytes) (m : μ) : PacketMac.flags (PacketMac.update data m).2 = PacketMac.flags m
  flags_finalize (m : μ) : PacketMac.flags (PacketMac.finalize m).2 = PacketMac.flags m

/-! ## Operations that may panic -/

namespace CipherStream

variable {δ μ ζ : Type} {P : CipherStream δ μ ζ → Prop} {E : Stop → CipherStream δ μ ζ → Prop}

/-- The program stops without a panic. -/
def Halts (P : CipherStream δ μ ζ → Prop) (stop : Stop) (stream : CipherStream δ μ ζ) : Prop :=
  stop ≠ .panicked ∧ P stream

theorem assert_spec {p : Prop} [Decidable p] (hp : p) : Holds P (assert p) (fun _ => P) E := by
  unfold assert
  rw [if_pos hp]
  exact Holds.pure fun s hs => hs

theorem slice_spec {data : Bytes} {start stop : ℕ} (h : start ≤ stop ∧ stop ≤ data.length) :
    Holds P (slice data start stop)
      (fun a s => (a = (data.take stop).drop start ∧ a.length = stop - start) ∧ P s) E := by
  unfold slice
  rw [if_pos h]
  refine Holds.pure fun s hs => ⟨⟨rfl, ?_⟩, hs⟩
  rw [List.length_drop, List.length_take]
  omega

theorem sub_spec {m n : ℕ} (h : n ≤ m) : Holds P (sub m n) (fun a s => a = m - n ∧ P s) E := by
  unfold sub
  rw [if_pos h]
  exact Holds.pure fun s hs => ⟨rfl, hs⟩

theorem toHeader_spec {data : Bytes} (h : data.length = 4) :
    Holds P (toHeader data) (fun a s => data = [a.1, a.2.1, a.2.2.1, a.2.2.2] ∧ P s) E := by
  match data, h with
  | [w, x, y, z], _ => exact Holds.pure fun s hs => ⟨rfl, hs⟩

theorem ensure_spec {p : Prop} [Decidable p] {e : Error} :
    Holds P (ensure p e) (fun _ s => p ∧ P s) (Halts fun s => ¬ p ∧ P s) := by
  unfold ensure
  by_cases hp : p
  · rw [if_pos hp]
    exact Holds.pure fun s hs => ⟨hp, hs⟩
  · rw [if_neg hp]
    exact Holds.throw fun s hs => ⟨by simp, hp, hs⟩

theorem consuming_spec {α : Type} {m : Consumer α} {data : Bytes} :
    Holds P (consuming m data) (fun _ => P) (Halts P) := by
  unfold consuming
  split
  · exact Holds.pure fun s hs => hs
  · exact Holds.throw fun s hs => ⟨by simp, hs⟩

/-- Weaken what holds after a stop. -/
theorem Halts.weaken {α : Type} {m : Read δ μ ζ α} {Q : α → CipherStream δ μ ζ → Prop}
    {P' R : CipherStream δ μ ζ → Prop} (h : Holds P m Q (Halts P')) (hR : ∀ s, P' s → R s) :
    Holds P m Q (Halts R) :=
  h.error fun _ s hs => ⟨hs.1, hR s hs.2⟩

/-- The postcondition of a program that can stop by a panic only. -/
def OnlyPanics (stop : Stop) (_ : CipherStream δ μ ζ) : Prop :=
  stop = .panicked

theorem assert_fails {p : Prop} [Decidable p] {Q : Unit → CipherStream δ μ ζ → Prop} (hp : ¬ p) :
    Holds P (assert p) Q OnlyPanics := by
  unfold assert
  rw [if_neg hp]
  exact Holds.throw fun s _ => rfl

theorem slice_fails {data : Bytes} {start stop : ℕ} {Q : Bytes → CipherStream δ μ ζ → Prop}
    (h : stop < start) : Holds P (slice data start stop) Q OnlyPanics := by
  unfold slice
  rw [if_neg (by omega)]
  exact Holds.throw fun s _ => rfl

theorem fill_spec {env : ReadEnv} {n : ℕ} {b : Bytes} (hbuffer : ∀ s, P s → s.buffer = b) :
    Holds P (fill env n)
      (fun a s => (a = b.take n ∧ n ≤ b.length) ∧ P s)
      (Halts fun s => ¬ n ≤ b.length ∧ P s) := by
  intro s hs
  unfold fill
  by_cases hn : n ≤ s.buffer.length
  · rw [if_pos hn]
    rw [hbuffer s hs] at hn ⊢
    exact ⟨⟨rfl, hn⟩, hs⟩
  · rw [if_neg hn]
    rw [hbuffer s hs] at hn
    by_cases hfails : env.readFails = true
    · rw [if_pos hfails]
      exact ⟨by simp, hn, hs⟩
    · rw [if_neg hfails]
      exact ⟨by simp, hn, hs⟩

theorem finish_spec {env : ReadEnv} {packet : Packet} :
    Holds P (finish env packet) (fun _ s => s.state = none)
      (Halts fun s => s.state = none) := by
  unfold finish
  have hnone : Holds P (modify fun stream : CipherStream δ μ ζ => { stream with
      state := none
      server.sequenceNumber := stream.server.sequenceNumber + 1 })
      (fun _ s => s.state = none) (Halts fun s => s.state = none) :=
    Holds.modify fun s _ => rfl
  refine hnone.bind fun _ => ?_
  split
  · exact Holds.throw fun s hs => ⟨by simp, hs⟩
  · refine (Halts.weaken ensure_spec fun s hs => hs.2).bind fun _ => Holds.of_and fun _ => ?_
    refine Holds.bind (Q := fun _ s => s.state = none) (Holds.modify fun s hs => ?_) fun _ => ?_
    · unfold resetSequenceNumber
      split <;> exact hs
    · exact Holds.pure fun s hs => hs

/-! ## Assertions on the stream -/

variable [PacketDecrypt δ] [PacketMac μ]

/-- The constants of the algorithms that a stream reads with. -/
structure Flags where
  decrypt : Bool × ℕ × ℕ
  verify : Bool × ℕ

/-- The constants in use. -/
def flags (stream : CipherStream δ μ ζ) : Flags where
  decrypt := PacketDecrypt.flags stream.decrypt
  verify := PacketMac.flags stream.verify

/-- What reading a packet does not change until it is done: the constants `c` and the buffer `b`;
and the state. -/
structure At (c : Flags) (b : Bytes) (state : Option Ready) (stream : CipherStream δ μ ζ) :
    Prop where
  flags : stream.flags = c
  buffer : stream.buffer = b
  state : stream.state = state

variable {c : Flags} {b : Bytes} {r : Ready} {state : Option Ready}

theorem At.ready {stream : CipherStream δ μ ζ} (h : At c b (some r) stream) :
    stream.ready = r := by
  rw [CipherStream.ready, h.state]
  rfl

theorem decrypting_spec {α : Type} {f : δ → Except Error α × δ}
    (hf : ∀ d, PacketDecrypt.flags (f d).2 = PacketDecrypt.flags d) :
    Holds (At c b state) (decrypting (μ := μ) (ζ := ζ) f) (fun _ => At c b state)
      (Halts (At c b state)) := by
  intro s hs
  have hflags := hf s.decrypt
  have hat : At c b state { s with decrypt := (f s.decrypt).2 } :=
    ⟨by rw [← hs.flags, CipherStream.flags, CipherStream.flags, hflags], hs.buffer, hs.state⟩
  unfold decrypting
  rcases hres : f s.decrypt with ⟨result, d⟩
  rw [hres] at hat
  cases result with
  | ok a => exact hat
  | error e => exact ⟨by simp, hat⟩

theorem decryptingTo_spec {f : δ → (Except Error Unit × Bytes) × δ}
    (hf : ∀ d, PacketDecrypt.flags (f d).2 = PacketDecrypt.flags d) :
    Holds (At c b state) (decryptingTo (μ := μ) (ζ := ζ) f) (fun _ => At c b state)
      (Halts (At c b state)) :=
  decrypting_spec hf

theorem verifying_spec {α : Type} {f : μ → Except Error α × μ}
    (hf : ∀ m, PacketMac.flags (f m).2 = PacketMac.flags m) :
    Holds (At c b state) (verifying (δ := δ) (ζ := ζ) f) (fun _ => At c b state)
      (Halts (At c b state)) := by
  intro s hs
  have hflags := hf s.verify
  have hat : At c b state { s with verify := (f s.verify).2 } :=
    ⟨by rw [← hs.flags, CipherStream.flags, CipherStream.flags, hflags], hs.buffer, hs.state⟩
  unfold verifying
  rcases hres : f s.verify with ⟨result, m⟩
  rw [hres] at hat
  cases result with
  | ok a => exact hat
  | error e => exact ⟨by simp, hat⟩

theorem decoding_spec {α : Type} {f : ζ → Except Error α × ζ} :
    Holds (At c b state) (decoding (δ := δ) (μ := μ) f) (fun _ => At c b state)
      (Halts (At c b state)) := by
  intro s hs
  unfold decoding
  rcases hres : f s.decode with ⟨result, z⟩
  cases result with
  | ok a => exact ⟨hs.flags, hs.buffer, hs.state⟩
  | error e => exact ⟨by simp, hs.flags, hs.buffer, hs.state⟩

theorem feeding_spec {f : ζ → Option (Except Error Unit × ζ)} :
    Holds (At c b state) (feeding (δ := δ) (μ := μ) f) (fun _ => At c b state)
      (Halts (At c b state)) := by
  intro s hs
  unfold feeding
  cases f s.decode with
  | some result => exact decoding_spec s hs
  | none => exact ⟨by simp, hs⟩

theorem modifyReady_spec {f : Ready → Ready} :
    Holds (At c b (some r)) (modifyReady (δ := δ) (μ := μ) (ζ := ζ) f)
      (fun _ => At c b (some (f r))) E :=
  Holds.modify fun s hs => ⟨hs.flags, hs.buffer, by rw [hs.ready]⟩

/-- Decrypting into the stored buffer appends to it, also when it fails. -/
theorem decryptingStored_run {f : δ → (Except Error Unit × Bytes) × δ}
    (hf : ∀ d, PacketDecrypt.flags (f d).2 = PacketDecrypt.flags d) {s : CipherStream δ μ ζ}
    (hs : At c b (some r) s) :
    ∃ s', At c b (some (r.append (f s.decrypt).1.2)) s' ∧ s'.decrypt = (f s.decrypt).2 ∧
      decryptingStored f s = match (f s.decrypt).1.1 with
        | .ok () => .ok () s'
        | .error e => .error (.failed e) s' := by
  refine ⟨{ s with
    decrypt := (f s.decrypt).2
    state := some (s.ready.append (f s.decrypt).1.2) }, ⟨?_, hs.buffer, ?_⟩, rfl, rfl⟩
  · rw [← hs.flags, CipherStream.flags, CipherStream.flags, hf]
  · rw [hs.ready]

section Lawful

variable [LawfulDecrypt δ]

/-- Decrypting a packet to its end gives at least as many octets as it had. -/
theorem decryptAll_spec {data : Bytes} :
    Holds (At c b (some r)) (decryptAll (δ := δ) (μ := μ) (ζ := ζ) data)
      (fun _ s => ∃ output, data.length ≤ output.length ∧ At c b (some (r.append output)) s)
      (Halts fun s => ∃ output, At c b (some (r.append output)) s) := by
  intro s hs
  obtain ⟨s₁, hat₁, hd, hrun₁⟩ :=
    decryptingStored_run (LawfulDecrypt.flags_update data) hs
  obtain ⟨s₂, hat₂, -, hrun₂⟩ := decryptingStored_run LawfulDecrypt.flags_finalize hat₁
  rw [hd] at hat₂ hrun₂
  have hlen := LawfulDecrypt.length_update_finalize data s.decrypt
  unfold decryptAll
  simp only [bind, EStateM.bind]
  rw [hrun₁]
  cases hupdate : (PacketDecrypt.update data s.decrypt).1.1 with
  | error e => exact ⟨by simp, _, hat₁⟩
  | ok _ =>
    simp only
    rw [hrun₂]
    have happend : ∀ out out' : Bytes, (r.append out).append out' = r.append (out ++ out') := by
      intro out out'
      simp [Ready.append]
    rw [happend] at hat₂
    cases hfinalize : (PacketDecrypt.finalize (PacketDecrypt.update data s.decrypt).2).1.1 with
    | error e => exact ⟨by simp, _, hat₂⟩
    | ok _ =>
      refine ⟨_, ?_, hat₂⟩
      rw [List.length_append]
      exact hlen hupdate hfinalize

end Lawful

theorem verifyTag_spec [LawfulMac μ] {parts : List Bytes} {tag : Bytes} :
    Holds (At c b state) (verifyTag (δ := δ) (μ := μ) (ζ := ζ) parts tag) (fun _ => At c b state)
      (Halts (At c b state)) := by
  unfold verifyTag
  refine Holds.get.bind fun stream => ?_
  refine ((verifying_spec (LawfulMac.flags_update _)).pre fun s hs => hs.2).bind fun _ => ?_
  refine (Holds.forM (fun part => verifying_spec (LawfulMac.flags_update part)) parts).bind
    fun _ => ?_
  refine (verifying_spec LawfulMac.flags_finalize).bind fun mac => ?_
  exact (Halts.weaken ensure_spec fun s hs => hs.2).post fun _ s hs => hs.2

/-- The stored length is used, or the length is read. -/
theorem lengthOr_spec {read : Read δ μ ζ UInt32} {Q : UInt32 → CipherStream δ μ ζ → Prop}
    (hstored : ∀ length s, r.length = some length → At c b (some r) s → Q length s)
    (hread : r.length = none → Holds (At c b (some r)) read Q E) :
    Holds (At c b (some r)) (lengthOr read) Q E := by
  intro s hs
  unfold lengthOr
  rw [hs.ready]
  cases hlength : r.length with
  | some length => exact hstored length s hlength hs
  | none => exact hread hlength s hs

theorem consumeReadBuffer_spec {size : ℕ} (hsize : size ≤ b.length) :
    Holds (At c b state) (consumeReadBuffer (δ := δ) (μ := μ) (ζ := ζ) size)
      (fun _ s => s.flags = c) E := by
  intro s hs
  unfold consumeReadBuffer
  rw [if_pos (hs.buffer ▸ hsize)]
  exact hs.flags

variable [PacketDecode ζ]

theorem decompress_spec {content : Bytes} :
    Holds (At c b state) (decompress (δ := δ) (μ := μ) (ζ := ζ) content) (fun _ => At c b state)
      (Halts (At c b state)) := by
  unfold decompress
  refine Holds.get.bind fun stream => ?_
  split
  · refine (feeding_spec.pre fun s hs => hs.2).bind fun _ => ?_
    exact decoding_spec
  · exact Holds.pure fun s hs => hs.2

theorem openPacket_spec {length : UInt32} {data : Bytes} :
    Holds (At c b state) (openPacket (δ := δ) (μ := μ) (ζ := ζ) length data)
      (fun _ => At c b state) (Halts (At c b state)) := by
  unfold openPacket
  refine consuming_spec.bind fun ⟨paddingLen, rest⟩ => ?_
  refine (Halts.weaken ensure_spec fun s hs => hs.2).bind fun _ => Holds.of_and fun hlen => ?_
  -- the padding length has been compared with the length, so neither difference underflows
  refine (sub_spec (by omega)).bind fun n => Holds.of_and fun hn => ?_
  refine (sub_spec (by omega)).bind fun contentLen => Holds.of_and fun _ => ?_
  refine consuming_spec.bind fun ⟨content, padding⟩ => ?_
  refine decompress_spec.bind fun payload => ?_
  exact Holds.pure fun s hs => hs

end CipherStream

end Flatline
