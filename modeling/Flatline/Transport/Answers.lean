import Flatline.Transport.Coders
import Flatline.Transport.StreamEnds
import Flatline.Transport.StreamSafety

/-!
# Calls of `read_packet` that answer

A call waits, returns a packet or returns an error, unless it panics or its decompressor never comes
back. `StreamSafety` says when a call panics. It hangs when it has decrypted a packet whose content
the decompressor works on for ever: of all that `read_packet` calls, only the decompressor may not
return. For the `zlib` decoder these are the contents with octets after the end of its stream.
-/

namespace Flatline

open Triple

variable {δ μ ζ : Type}

namespace CipherStream

theorem decoding_ne_stuck {α : Type} {f : ζ → Except Error α × ζ} {s s' : CipherStream δ μ ζ} :
    (decoding f : Read δ μ ζ α) s ≠ .error .stuck s' := by
  unfold decoding
  rcases f s.decode with ⟨_ | a, z⟩
  · simp
  · simp

section Hanging

variable [PacketDecode ζ]

/-- Decompressing does not come back when compression is on and `update` does not. -/
theorem decompress_stuck_iff {content : Bytes} {s : CipherStream δ μ ζ} :
    (∃ s', decompress content s = .error .stuck s') ↔
      (s.authenticated || PacketDecode.compressInAuthentication s.decode) = true ∧
        PacketDecode.update content s.decode = none := by
  unfold decompress
  simp only [get_bind]
  by_cases hon : (s.authenticated || PacketDecode.compressInAuthentication s.decode) = true
  · rw [if_pos hon]
    cases hupdate : PacketDecode.update content s.decode with
    | none =>
      have hfeeding : feeding (PacketDecode.update content) s = .error .stuck s := by
        unfold feeding
        rw [hupdate]
      exact iff_of_true ⟨s, bind_of_error hfeeding⟩ ⟨hon, rfl⟩
    | some result =>
      refine iff_of_false ?_ (fun h => Option.some_ne_none _ h.2)
      rintro ⟨s', h⟩
      have hfeeding : feeding (PacketDecode.update content) s = decoding (fun _ => result) s := by
        unfold feeding
        rw [hupdate]
      cases hrun : decoding (fun _ => result) s with
      | ok a s₁ =>
        rw [bind_of_ok (hfeeding.trans hrun)] at h
        exact decoding_ne_stuck h
      | error e s₁ =>
        rw [bind_of_error (hfeeding.trans hrun)] at h
        cases h
        exact decoding_ne_stuck hrun
  · rw [if_neg hon]
    exact iff_of_false (by rintro ⟨s', h⟩; cases h) (fun h => hon h.1)

theorem openPacket_stuck_iff {length : UInt32} {data : Bytes} {s s' : CipherStream δ μ ζ} :
    openPacket length data s = .error .stuck s' ↔ ∃ content padding,
      Unpads length data content padding ∧ content ≠ [] ∧
        decompress content s = .error .stuck s' := by
  have hne : ¬ Stop.stuck ≠ Stop.stuck := by simp
  have hmake : ∀ (padding payload : Bytes),
      Leaves decoder (pure { payload, padding } : Read δ μ ζ Packet) := fun _ _ => .pure _
  rw [openPacket_eq, (unpad_outside length data).bind_eq_error_iff hne]
  constructor
  · rintro ⟨⟨content, padding⟩, s₁, hunpad, h⟩
    obtain ⟨hunpads, hcontent, rfl⟩ := unpad_eq_ok_iff.mp hunpad
    exact ⟨content, padding, hunpads, hcontent,
      (KeepsRaising.bind_eq_error_iff_left (hmake padding) hne).mp h⟩
  · rintro ⟨content, padding, hunpads, hcontent, h⟩
    exact ⟨(content, padding), s, unpad_eq_ok_iff.mpr ⟨hunpads, hcontent, rfl⟩,
      (KeepsRaising.bind_eq_error_iff_left (hmake padding) hne).mpr h⟩

variable [PacketDecrypt δ] [PacketMac μ]

/-- A call of `read_packet` does not come back. -/
def Hangs (env : ReadEnv) (stream : CipherStream δ μ ζ) : Prop :=
  ∃ stream', readPacket env stream = .error .stuck stream'

/-- The packet that has arrived decrypts to a content that is decompressed, and on which the
decompressor does not return. -/
def Endless (env : ReadEnv) (stream : CipherStream δ μ ζ) : Prop :=
  ∃ length data size stream' content padding,
    decryptPacket env stream = .ok (length, data, size) stream' ∧
    Unpads length data content padding ∧ content ≠ [] ∧
    (stream.authenticated || PacketDecode.compressInAuthentication stream.decode) = true ∧
    PacketDecode.update content stream.decode = none

/-- Nothing but the decompressor keeps a call from coming back. -/
theorem hangs_iff {env : ReadEnv} {stream : CipherStream δ μ ζ} :
    stream.Hangs env ↔ stream.Endless env := by
  have hne : ¬ Stop.stuck ≠ Stop.stuck := by simp
  have hconsume : ∀ (size : ℕ) (packet : Packet),
      Leaves decoder (consumeReadBuffer size >>= fun _ => pure packet : Read δ μ ζ Packet) := fun _ _ =>
    (consumeReadBuffer_decoder _).bind fun _ => .pure _
  have hrest : ∀ {length data size} {s s' : CipherStream δ μ ζ},
      (takePacket length data size >>= finish env) s = .error .stuck s' ↔
        openPacket length data s = .error .stuck s' := by
    intro length data size s s'
    rw [KeepsRaising.bind_eq_error_iff_left (finish_decoder env) hne, takePacket,
      KeepsRaising.bind_eq_error_iff_left (hconsume size) hne]
  unfold Hangs Endless
  rw [readPacket_eq]
  simp only [(decryptPacket_decoder env).bind_eq_error_iff hne]
  constructor
  · rintro ⟨s', ⟨length, data, size⟩, s₁, hdecrypt, h⟩
    obtain ⟨content, padding, hunpads, hcontent, hstuck⟩ := openPacket_stuck_iff.mp (hrest.mp h)
    obtain ⟨hon, hupdate⟩ := decompress_stuck_iff.mp ⟨s', hstuck⟩
    obtain ⟨hswitch, hdecode⟩ := Prod.mk.inj ((decryptPacket_decoder env).keeps.of_ok hdecrypt)
    rw [hswitch, hdecode] at hon
    rw [hdecode] at hupdate
    exact ⟨length, data, size, s₁, content, padding, hdecrypt, hunpads, hcontent, hon, hupdate⟩
  · rintro ⟨length, data, size, s₁, content, padding, hdecrypt, hunpads, hcontent, hon, hupdate⟩
    obtain ⟨hswitch, hdecode⟩ := Prod.mk.inj ((decryptPacket_decoder env).keeps.of_ok hdecrypt)
    rw [← hswitch, ← hdecode] at hon
    rw [← hdecode] at hupdate
    obtain ⟨s', hstuck⟩ := decompress_stuck_iff.mpr ⟨hon, hupdate⟩
    have hopen := openPacket_stuck_iff.mpr ⟨content, padding, hunpads, hcontent, hstuck⟩
    exact ⟨s', (length, data, size), s₁, hdecrypt, hrest.mpr hopen⟩

/-- A call waits for more octets, returns a packet, or returns an error. -/
def Answers (env : ReadEnv) (stream : CipherStream δ μ ζ) : Prop :=
  (∃ stream', readPacket env stream = .error .pending stream') ∨
    (∃ packet stream', readPacket env stream = .ok packet stream') ∨
    ∃ e stream', readPacket env stream = .error (.failed e) stream'

theorem answers_iff {env : ReadEnv} {stream : CipherStream δ μ ζ} :
    stream.Answers env ↔ ¬ stream.Panics env ∧ ¬ stream.Hangs env := by
  unfold Answers Panics Hangs
  cases readPacket env stream with
  | ok packet s => simp
  | error e s => cases e <;> simp

/-- In every state that a run reaches, a call waits, returns a packet or returns an error exactly
when nothing is left over from a failed call, the packet is not shorter than a block, and the
decompressor returns on its content. -/
theorem readPacket_answers_iff [LawfulDecrypt δ] [LawfulMac μ] {stream : CipherStream δ μ ζ}
    (hstream : stream.Reachable) (env : ReadEnv) :
    stream.Answers env ↔ ¬ stream.Leftover ∧ ¬ stream.Short ∧ ¬ stream.Endless env := by
  rw [answers_iff, panics_iff hstream.wellFormed, hangs_iff, not_or, and_assoc]

end Hanging

/-- A whole packet in MAC-then-encrypt mode is read. -/
theorem readPacket_answers_whole_packet :
    (transparent false false [0, 0, 0, 12, 4, 94, 0, 0, 0, 0, 0, 0, 0, 0, 0, 0]).Answers
      { readFails := false, strictFeature := false } := by
  refine (readPacket_answers_iff (transparent_reachable _ _ _) _).mpr ⟨?_, ?_, ?_⟩
  · rintro ⟨-, r, hr, -⟩
    cases hr
  · rintro ⟨stream', hstart, -, -, length, hannounced, hlt, -⟩
    injection hstart with _ hstream
    subst hstream
    have hlength : some (12 : UInt32) = some length := hannounced
    injection hlength with hlength
    subst hlength
    exact absurd hlt (by decide)
  · rintro ⟨length, data, size, s₁, content, padding, -, -, -, -, hupdate⟩
    cases hupdate

end CipherStream

/-! ## The `zlib` decoder -/

namespace ZDecoder

open StreamCoder StreamCoder.Coder

/-- What a loop that has come to its end returns. -/
def ended : Except Halt Unit × ZDecoder δ → Option (Except Error Unit × ZDecoder δ)
  | (.ok (), z) => some (.ok (), z)
  | (.error (.failed e), z) => some (.error e, z)
  | (.error _, _) => none

theorem ended_isSome_iff {run : Except Halt Unit × ZDecoder δ} :
    (∃ result, ended run = some result) ↔ run.1 = .ok () ∨ ∃ e, run.1 = .error (.failed e) := by
  obtain ⟨_ | _, z⟩ := run
  · next halt => cases halt <;> simp [ended]
  · simp [ended]

variable [Coder δ UInt8 UInt8]

/-- `update` without a bound on its turns: what it returns, if it ever does. -/
noncomputable def answer (data : Bytes) (z : ZDecoder δ) : Option (Except Error Unit × ZDecoder δ) :=
  open Classical in
  if h : ∃ result fuel, ended (z.update fuel data) = some result then some h.choose else none

noncomputable instance : PacketDecode (ZDecoder δ) where
  compressInAuthentication := compressInAuth
  update := answer
  finalize z := (.ok z.finalize.1, z.finalize.2)

theorem answer_eq_none_iff {data : Bytes} {z : ZDecoder δ} :
    PacketDecode.update data z = none ↔ ¬ z.Returns data := by
  have hreturns : (∃ result fuel, ended (z.update fuel data) = some result) ↔ z.Returns data := by
    rw [exists_comm]
    exact exists_congr fun fuel => ended_isSome_iff
  change answer data z = none ↔ _
  unfold answer
  rw [← hreturns]
  by_cases h : ∃ result fuel, ended (z.update fuel data) = some result
  · rw [dif_pos h]
    simp [h]
  · rw [dif_neg h]
    simp [h]

variable {endOf : Bytes → Option ℕ} {ratio : ℕ}

/-- The decoder does not return exactly when no earlier update has failed and it is given octets
after the end of its stream. -/
theorem answer_eq_none_iff_beyond_end (hdec : Unpacks δ endOf ratio) {given : Bytes} {failed : Bool}
    {z : ZDecoder δ} (hz : After given failed z) (data : Bytes) :
    PacketDecode.update data z = none ↔ failed = false ∧
      ∃ n, endOf (given ++ data) = some n ∧ n < given.length + data.length := by
  rw [answer_eq_none_iff, returns_iff hdec hz]
  simp only [not_or, not_forall, not_le, Bool.not_eq_true, exists_prop]

end ZDecoder

namespace CipherStream

/-- A fresh stream with transparent algorithms and the `zlib` decoder. -/
noncomputable def transparentZlib (buffer : Bytes) :
    CipherStream TransparentCipher EmptyMac (ZDecoder StoredBlocks.Unpacker) where
  buffer
  decrypt := { galois := true }
  decode := .new (ascii "zlib") true
  verify := { etm := false }
  authenticated := true
  client := default
  server := default
  state := none

/-- Three streams that do not answer: in encrypt-then-MAC mode on the call after an unexpected
padding length, in MAC-then-encrypt mode on an announced length of zero, and with compression on a
packet that goes on after the end of the `zlib` stream. -/
theorem readPacket_does_not_answer :
    let env : ReadEnv := { readFails := false, strictFeature := false }
    (∃ stream : CipherStream TransparentCipher EmptyMac NoCompression,
      stream.flags.verify.1 = true ∧ stream.Reachable ∧ ¬ stream.Answers env) ∧
    (∃ stream : CipherStream TransparentCipher EmptyMac NoCompression,
      stream.flags.verify.1 = false ∧ stream.Reachable ∧ ¬ stream.Answers env) ∧
    ∃ stream : CipherStream TransparentCipher EmptyMac (ZDecoder StoredBlocks.Unpacker),
      stream.Reachable ∧ ¬ stream.Answers env := by
  intro env
  refine ⟨?_, ⟨transparent false false [0, 0, 0, 0, 0, 0, 0, 0], rfl, transparent_reachable _ _ _,
    fun h => (answers_iff.mp h).1 ⟨_, rfl⟩⟩, ?_⟩
  · let stream := transparent false true [0, 0, 0, 8, 200, 94, 0, 0, 0, 0, 0, 0]
    let ready : Ready :=
      { length := none, encrypted := [], decrypted := [200, 94, 0, 0, 0, 0, 0, 0] }
    have hstep : stream.Step (.poll env) { stream with state := some ready } := ⟨by simp, rfl⟩
    exact ⟨{ stream with state := some ready }, rfl,
      .next (transparent_reachable _ _ _) trivial hstep, fun h => (answers_iff.mp h).1 ⟨_, rfl⟩⟩
  · -- 13 octets of content, one of them after the end, and ten octets of padding
    let content := ZDecoder.storedStream ++ [0x00]
    let stream := transparentZlib ([0, 0, 0, 24, 10] ++ content ++ List.replicate 10 0)
    have hendless : stream.Endless env :=
      ⟨24, _, _, _, content, List.replicate 10 0, rfl, ⟨10, rfl, rfl⟩, by simp [content], rfl,
        ZDecoder.answer_eq_none_iff.mpr ZDecoder.never_returns_after_end⟩
    exact ⟨stream, .start rfl, fun h => (answers_iff.mp h).2 (hangs_iff.mpr hendless)⟩

end CipherStream

end Flatline
