import Flatline.Common.Keeping
import Flatline.Transport.Connection
import Flatline.Transport.Sealing

/-!
# The coders of a stream

The registries of `compress` know two kinds of coder: a `zlib` stream, which works from the start or
only for authenticated clients, and `Never`. `Passes` says what a coder makes of a payload;
`sendPayload_passes` and `readPacket_passes` say that the stream passes the payload of a packet
through its coder, once, and that nothing else it does concerns the coders.

Source: `src/cipher/compress.rs`, `src/ssh/stream.rs` (`CipherStream`).
-/

namespace Flatline

open Triple

/-! ## Registries -/

/-- `update` and `finalize` of a `zlib` coder, and whether an `update` returns: that of a decoder
does not if octets are left behind the end of its stream. -/
class ZlibCoder (κ : Type) where
  fresh : κ
  returns : Bytes → κ → Bool
  update : Bytes → κ → Except Error Unit × κ
  finalize : κ → Except Error Bytes × κ

/-- An object of `encode_all` or of `decode_all`: both registries have the same entries. -/
inductive PayloadCoder (κ : Type) where
  /-- `ZEncoder` or `ZDecoder`. -/
  | zlib (name : Text) (compressInAuthentication : Bool) (coder : κ)
  /-- `Never`. -/
  | never (buf : Bytes)

namespace PayloadCoder

variable {κ : Type} [ZlibCoder κ]

/-- `new_encode_by_name` and `new_decode_by_name`. -/
def newByName (name : Text) : Option (PayloadCoder κ) :=
  if name = ascii "zlib" then some (.zlib (ascii "zlib") true ZlibCoder.fresh)
  else if name = ascii "zlib@openssh.com" then
    some (.zlib (ascii "zlib@openssh.com") false ZlibCoder.fresh)
  else if name = ascii "none" then some (.never [])
  else none

/-- `name`. -/
def name : PayloadCoder κ → Text
  | zlib name _ _ => name
  | never _ => ascii "none"

/-- `compress_in_authentication`. -/
def compressInAuthentication : PayloadCoder κ → Bool
  | zlib _ early _ => early
  | never _ => false

/-- `update` returns. -/
def returns (data : Bytes) : PayloadCoder κ → Bool
  | zlib _ _ coder => ZlibCoder.returns data coder
  | never _ => true

/-- `update`. -/
def update (data : Bytes) : PayloadCoder κ → Except Error Unit × PayloadCoder κ
  | zlib name early coder =>
    let (result, coder) := ZlibCoder.update data coder
    (result, zlib name early coder)
  | never buf => (.ok (), never (buf ++ data))

/-- `finalize`. -/
def finalize : PayloadCoder κ → Except Error Bytes × PayloadCoder κ
  | zlib name early coder =>
    let (result, coder) := ZlibCoder.finalize coder
    (result, zlib name early coder)
  | never buf => (.ok buf, never [])

instance : PacketEncode (PayloadCoder κ) where
  compressInAuthentication := compressInAuthentication
  update := update
  finalize := finalize

instance : PacketDecode (PayloadCoder κ) where
  compressInAuthentication := compressInAuthentication
  update data coder := if coder.returns data then some (coder.update data) else none
  finalize := finalize

/-- A coder of the registry between two packets: its name tells whether it waits for the
authentication, and `Never` holds nothing back. -/
inductive IsAtRest : PayloadCoder κ → Prop
  | zlib (coder : κ) : IsAtRest (.zlib (ascii "zlib") true coder)
  | delayed (coder : κ) : IsAtRest (.zlib (ascii "zlib@openssh.com") false coder)
  | none : IsAtRest (.never [])

theorem isAtRest_of_newByName {name : Text} {coder : PayloadCoder κ}
    (h : newByName name = some coder) : coder.IsAtRest := by
  unfold newByName at h
  split at h
  · obtain rfl := Option.some.inj h
    exact .zlib _
  · split at h
    · obtain rfl := Option.some.inj h
      exact .delayed _
    · split at h
      · obtain rfl := Option.some.inj h
        exact .none
      · cases h

/-- What a coder makes of a payload. `zlib` always works on it, `zlib@openssh.com` does once the
client is authenticated, and otherwise nothing is changed. -/
inductive Passes (authenticated : Bool) :
    PayloadCoder κ → Bytes → Bytes → PayloadCoder κ → Prop
  | zlib {coder coder₁ coder₂ : κ} {input output : Bytes}
      (hupdate : ZlibCoder.update input coder = (.ok (), coder₁))
      (hfinalize : ZlibCoder.finalize coder₁ = (.ok output, coder₂)) :
    Passes authenticated (.zlib (ascii "zlib") true coder) input output
      (.zlib (ascii "zlib") true coder₂)
  | delayed {coder coder₁ coder₂ : κ} {input output : Bytes} (hconfirmed : authenticated = true)
      (hupdate : ZlibCoder.update input coder = (.ok (), coder₁))
      (hfinalize : ZlibCoder.finalize coder₁ = (.ok output, coder₂)) :
    Passes authenticated (.zlib (ascii "zlib@openssh.com") false coder) input output
      (.zlib (ascii "zlib@openssh.com") false coder₂)
  | early (coder : κ) (input : Bytes) (hconfirmed : authenticated = false) :
    Passes authenticated (.zlib (ascii "zlib@openssh.com") false coder) input input
      (.zlib (ascii "zlib@openssh.com") false coder)
  | none (input : Bytes) : Passes authenticated (.never []) input input (.never [])

variable {coder coder₁ coder₂ : PayloadCoder κ} {input output : Bytes} {authenticated : Bool}

/-- Compression is off. -/
theorem passes_of_off (h : coder.IsAtRest)
    (hoff : (authenticated || coder.compressInAuthentication) = false) :
    Passes authenticated coder input input coder := by
  obtain ⟨hauthenticated, hearly⟩ := Bool.or_eq_false_iff.mp hoff
  cases h with
  | zlib coder => cases hearly
  | delayed coder => exact .early coder input hauthenticated
  | none => exact .none input

/-- Compression is on. -/
theorem passes_of_on (h : coder.IsAtRest)
    (hon : (authenticated || coder.compressInAuthentication) = true)
    (hupdate : coder.update input = (.ok (), coder₁))
    (hfinalize : coder₁.finalize = (.ok output, coder₂)) :
    Passes authenticated coder input output coder₂ := by
  cases h with
  | zlib k =>
    rcases hrun : ZlibCoder.update input k with ⟨result, k₁⟩
    rw [update, hrun] at hupdate
    obtain ⟨rfl, rfl⟩ := Prod.mk.inj hupdate
    rcases hrun' : ZlibCoder.finalize k₁ with ⟨result', k₂⟩
    rw [finalize, hrun'] at hfinalize
    obtain ⟨rfl, rfl⟩ := Prod.mk.inj hfinalize
    exact .zlib hrun hrun'
  | delayed k =>
    have hauthenticated : authenticated = true := by
      rw [compressInAuthentication, Bool.or_false] at hon
      exact hon
    rcases hrun : ZlibCoder.update input k with ⟨result, k₁⟩
    rw [update, hrun] at hupdate
    obtain ⟨rfl, rfl⟩ := Prod.mk.inj hupdate
    rcases hrun' : ZlibCoder.finalize k₁ with ⟨result', k₂⟩
    rw [finalize, hrun'] at hfinalize
    obtain ⟨rfl, rfl⟩ := Prod.mk.inj hfinalize
    exact .delayed hauthenticated hrun hrun'
  | none =>
    obtain ⟨-, rfl⟩ := Prod.mk.inj hupdate
    obtain ⟨houtput, rfl⟩ := Prod.mk.inj hfinalize
    obtain rfl : [] ++ input = output := Except.ok.inj houtput
    exact .none input

/-- The switch of a stream and a coder that is at rest. -/
def RestsWith (authenticated : Bool) (coder : Bool × PayloadCoder κ) : Prop :=
  coder.1 = authenticated ∧ coder.2.IsAtRest

/-- The switch of a stream and a coder that has taken in a payload. -/
def Updated (authenticated : Bool) (input : Bytes) (coder : Bool × PayloadCoder κ) : Prop :=
  coder.1 = authenticated ∧ ∃ before : PayloadCoder κ, before.IsAtRest ∧
    before.update input = (.ok (), coder.2)

/-- A failing `update` leaves a coder at rest, since the one of `Never` does not fail. -/
theorem IsAtRest.update_error (h : coder.IsAtRest) {e : Error}
    (hupdate : coder.update input = (.error e, coder₁)) : coder₁.IsAtRest := by
  cases h with
  | zlib k =>
    obtain ⟨-, rfl⟩ := Prod.mk.inj hupdate
    exact .zlib _
  | delayed k =>
    obtain ⟨-, rfl⟩ := Prod.mk.inj hupdate
    exact .delayed _
  | none => cases (Prod.mk.inj hupdate).1

/-- A `finalize` that follows an `update` leaves a coder at rest. -/
theorem IsAtRest.finalize (h : coder.IsAtRest) {result : Except Error Bytes}
    (hupdate : coder.update input = (.ok (), coder₁))
    (hfinalize : coder₁.finalize = (result, coder₂)) : coder₂.IsAtRest := by
  cases h with
  | zlib k =>
    obtain ⟨-, rfl⟩ := Prod.mk.inj hupdate
    obtain ⟨-, rfl⟩ := Prod.mk.inj hfinalize
    exact .zlib _
  | delayed k =>
    obtain ⟨-, rfl⟩ := Prod.mk.inj hupdate
    obtain ⟨-, rfl⟩ := Prod.mk.inj hfinalize
    exact .delayed _
  | none =>
    obtain ⟨-, rfl⟩ := Prod.mk.inj hupdate
    obtain ⟨-, rfl⟩ := Prod.mk.inj hfinalize
    exact .none

end PayloadCoder

/-! ## Reading -/

variable {ε η δ μ ζ κ : Type} {α : Type}

namespace CipherStream

/-- The switch of the stream and its decoder. -/
def decoder (s : CipherStream δ μ ζ) : Bool × ζ :=
  (s.authenticated, s.decode)

/-- All of the stream but the cipher and the packet under way. -/
def outside (s : CipherStream δ μ ζ) : Frame × μ × ζ :=
  (s.frame, s.verify, s.decode)

/-- `m` leaves alone what `view` shows, and returns or stops with an answer. -/
abbrev Leaves {γ : Type} (view : CipherStream δ μ ζ → γ) (m : Read δ μ ζ α) : Prop :=
  KeepsRaising view (· ≠ .stuck) m

theorem Leaves.decoder {m : Read δ μ ζ α} (hm : Leaves outside m) : Leaves decoder m :=
  KeepsRaising.mono hm fun h => by
    obtain ⟨hframe, hrest⟩ := Prod.mk.inj h
    exact Prod.ext (congrArg Frame.authenticated hframe) (Prod.mk.inj hrest).2

theorem assert_outside (p : Prop) [Decidable p] :
    Leaves outside (assert p : Read δ μ ζ Unit) := by
  unfold assert
  split
  · exact .pure _
  · exact .throw (by simp)

theorem slice_outside (data : Bytes) (start stop : ℕ) :
    Leaves outside (slice data start stop : Read δ μ ζ Bytes) := by
  unfold slice
  split
  · exact .pure _
  · exact .throw (by simp)

theorem sub_outside (a b : ℕ) : Leaves outside (sub a b : Read δ μ ζ ℕ) := by
  unfold sub
  split
  · exact .pure _
  · exact .throw (by simp)

theorem toHeader_outside (data : Bytes) :
    Leaves outside (toHeader data : Read δ μ ζ Header) := by
  unfold toHeader
  split
  · exact .pure _
  · exact .throw (by simp)

theorem ensure_outside (p : Prop) [Decidable p] (e : Error) :
    Leaves outside (ensure p e : Read δ μ ζ Unit) := by
  unfold ensure
  split
  · exact .pure _
  · exact .throw (by simp)

theorem consuming_outside (m : Consumer α) (data : Bytes) :
    Leaves outside (consuming m data : Read δ μ ζ (α × Bytes)) := by
  unfold consuming
  split
  · exact .pure _
  · exact .throw (by simp)

theorem fill_outside (env : ReadEnv) (n : ℕ) :
    Leaves outside (fill env n : Read δ μ ζ Bytes) := by
  intro c s hs
  unfold fill
  by_cases hn : n ≤ s.buffer.length
  · rw [if_pos hn]
    exact hs
  · rw [if_neg hn]
    cases env.readFails <;> exact ⟨by simp, hs⟩

theorem consumeReadBuffer_decoder (n : ℕ) :
    Leaves decoder (consumeReadBuffer n : Read δ μ ζ Unit) := by
  intro c s hs
  unfold consumeReadBuffer
  by_cases hn : n ≤ s.buffer.length
  · rw [if_pos hn]
    exact hs
  · rw [if_neg hn]
    exact ⟨by simp, hs⟩

theorem decrypting_outside (f : δ → Except Error α × δ) :
    Leaves outside (decrypting f : Read δ μ ζ α) := by
  intro c s hs
  unfold decrypting
  rcases f s.decrypt with ⟨_ | a, d⟩
  · exact ⟨by simp, hs⟩
  · exact hs

theorem decryptingStored_outside (f : δ → (Except Error Unit × Bytes) × δ) :
    Leaves outside (decryptingStored f : Read δ μ ζ Unit) := by
  intro c s hs
  unfold decryptingStored
  rcases f s.decrypt with ⟨⟨_ | _, out⟩, d⟩
  · exact ⟨by simp, hs⟩
  · exact hs

theorem verifying_decoder (f : μ → Except Error α × μ) :
    Leaves decoder (verifying f : Read δ μ ζ α) := by
  intro c s hs
  unfold verifying
  rcases f s.verify with ⟨_ | a, m⟩
  · exact ⟨by simp, hs⟩
  · exact hs

theorem modifyReady_outside (f : Ready → Ready) :
    Leaves outside (modifyReady f : Read δ μ ζ Unit) :=
  .modify fun _ => rfl

theorem lengthOr_outside {read : Read δ μ ζ UInt32} (hread : Leaves outside read) :
    Leaves outside (lengthOr read) := by
  intro c s hs
  unfold lengthOr
  cases s.ready.length with
  | some length => exact hs
  | none => exact hread c s hs

theorem verifyTag_decoder [PacketMac μ] (parts : List Bytes) (tag : Bytes) :
    Leaves decoder (verifyTag parts tag : Read δ μ ζ Unit) := by
  refine .get_bind fun s => (verifying_decoder _).bind fun _ => ?_
  refine (KeepsRaising.forM (fun _ => verifying_decoder _) _).bind fun _ => ?_
  exact (verifying_decoder _).bind fun _ => (ensure_outside _ _).decoder

theorem finish_decoder (env : ReadEnv) (packet : Packet) :
    Leaves decoder (finish env packet : Read δ μ ζ Packet) := by
  have hmodify : ∀ (code : UInt8) (s : CipherStream δ μ ζ),
      (resetSequenceNumber code s).decoder = s.decoder := by
    intro code s
    unfold resetSequenceNumber
    split <;> rfl
  unfold finish
  refine KeepsRaising.bind (.modify fun _ => rfl) fun _ => ?_
  split
  · exact .throw (by simp)
  · exact (ensure_outside _ _).decoder.bind fun _ =>
      KeepsRaising.bind (.modify (hmodify _)) fun _ => .pure _

variable [PacketDecrypt δ]

theorem decryptAll_outside (data : Bytes) :
    Leaves outside (decryptAll data : Read δ μ ζ Unit) :=
  (decryptingStored_outside _).bind fun _ => decryptingStored_outside _

theorem start_outside : Leaves outside (start : Read δ μ ζ Unit) := by
  intro c s hs
  unfold start
  cases s.state with
  | some r => exact hs
  | none => exact ((decrypting_outside _).bind fun _ => modifyReady_outside _) c s hs

variable [PacketMac μ]

theorem Mode.readLength_outside (env : ReadEnv) (mode : Mode) :
    Leaves outside (mode.readLength env : Read δ μ ζ UInt32) := by
  cases mode with
  | galoisCounter =>
    refine (fill_outside _ _).bind fun _ => (toHeader_outside _).bind fun _ => ?_
    refine (decrypting_outside _).bind fun _ => .get_bind fun _ => ?_
    exact (ensure_outside _ _).bind fun _ => (modifyReady_outside _).bind fun _ => .pure _
  | encryptThenMac =>
    refine (fill_outside _ _).bind fun _ => (toHeader_outside _).bind fun _ => ?_
    exact .get_bind fun _ => (ensure_outside _ _).bind fun _ => .pure _
  | macThenEncrypt =>
    refine .get_bind fun _ => (assert_outside _).bind fun _ => .get_bind fun _ => ?_
    refine (fill_outside _ _).bind fun _ => (decryptingStored_outside _).bind fun _ => ?_
    refine .get_bind fun _ => (assert_outside _).bind fun _ => .get_bind fun _ => ?_
    refine (slice_outside _ _ _).bind fun _ => (toHeader_outside _).bind fun _ => ?_
    exact .get_bind fun _ => (ensure_outside _ _).bind fun _ => (modifyReady_outside _).bind
      fun _ => .pure _

/-- What a mode does up to the moment when the packet is decrypted: the octets behind the length
field, and how many octets the packet takes in the buffer. -/
def Mode.decryptRest (env : ReadEnv) (length : UInt32) : Mode → Read δ μ ζ (Bytes × ℕ)
  | .galoisCounter => do
    let tagLen := PacketDecrypt.tagLen (← get).decrypt
    let bytes ← fill env (4 + length.toNat + tagLen)
    let bytes ← slice bytes 4 bytes.length
    let updated ← decryptingTo (PacketDecrypt.update (← slice bytes 0 length.toNat))
    decrypting (PacketDecrypt.authenticationTag (← slice bytes length.toNat bytes.length))
    let finalized ← decryptingTo PacketDecrypt.finalize
    return (updated ++ finalized, 4 + length.toNat + tagLen)
  | .encryptThenMac => do
    assert ((← get).ready.decrypted = [])
    let macLen := PacketMac.macLen (← get).verify
    let packet ← fill env (4 + length.toNat + macLen)
    let body ← slice packet 4 (length.toNat + 4)
    let tag ← slice packet (length.toNat + 4) packet.length
    verifyTag [toBeBytes length, body] tag
    decryptAll body
    return ((← get).ready.decrypted, 4 + length.toNat + macLen)
  | .macThenEncrypt => do
    let macLen := PacketMac.macLen (← get).verify
    let packet ← fill env (length.toNat + 4 + macLen)
    decryptAll (← slice packet (← get).ready.encrypted.length (length.toNat + 4))
    let decrypted := (← get).ready.decrypted
    verifyTag [decrypted] (← slice packet (length.toNat + 4) packet.length)
    return (← slice decrypted 4 (length.toNat + 4), length.toNat + 4 + macLen)

theorem Mode.decryptRest_decoder (env : ReadEnv) (length : UInt32) (mode : Mode) :
    Leaves decoder (mode.decryptRest env length : Read δ μ ζ (Bytes × ℕ)) := by
  cases mode with
  | galoisCounter =>
    refine Leaves.decoder (.get_bind fun _ => (fill_outside _ _).bind fun _ => ?_)
    refine (slice_outside _ _ _).bind fun _ => (slice_outside _ _ _).bind fun _ => ?_
    refine (decrypting_outside _).bind fun _ => (slice_outside _ _ _).bind fun _ => ?_
    exact (decrypting_outside _).bind fun _ => (decrypting_outside _).bind fun _ => .pure _
  | encryptThenMac =>
    refine .get_bind fun _ => (assert_outside _).decoder.bind fun _ => .get_bind fun _ => ?_
    refine (fill_outside _ _).decoder.bind fun _ => (slice_outside _ _ _).decoder.bind fun _ => ?_
    refine (slice_outside _ _ _).decoder.bind fun _ => (verifyTag_decoder _ _).bind fun _ => ?_
    exact (decryptAll_outside _).decoder.bind fun _ => .get_bind fun _ => .pure _
  | macThenEncrypt =>
    refine .get_bind fun _ => (fill_outside _ _).decoder.bind fun _ => .get_bind fun _ => ?_
    refine (slice_outside _ _ _).decoder.bind fun _ => (decryptAll_outside _).decoder.bind fun _ => ?_
    refine .get_bind fun _ => (slice_outside _ _ _).decoder.bind fun _ => ?_
    exact (verifyTag_decoder _ _).bind fun _ => (slice_outside _ _ _).decoder.bind fun _ => .pure _

/-- `read_packet` up to the moment when the packet is decrypted: its length, the octets behind the
length field, and how many octets it takes in the buffer. -/
def decryptPacket (env : ReadEnv) : Read δ μ ζ (UInt32 × Bytes × ℕ) := do
  start
  let mode := (← get).mode
  let length ← lengthOr (mode.readLength env)
  let (data, size) ← mode.decryptRest env length
  return (length, data, size)

theorem decryptPacket_decoder (env : ReadEnv) :
    Leaves decoder (decryptPacket env : Read δ μ ζ (UInt32 × Bytes × ℕ)) := by
  refine start_outside.decoder.bind fun _ => .get_bind fun s => ?_
  refine (lengthOr_outside (Mode.readLength_outside env s.mode)).decoder.bind fun length => ?_
  exact (Mode.decryptRest_decoder env length s.mode).bind fun _ => .pure _

variable [PacketDecode ζ]

/-- What all modes do with a decrypted packet. -/
def takePacket (length : UInt32) (data : Bytes) (size : ℕ) : Read δ μ ζ Packet := do
  let packet ← openPacket length data
  consumeReadBuffer size
  return packet

theorem Mode.readRest_eq (env : ReadEnv) (length : UInt32) (mode : Mode) :
    (mode.readRest env length : Read δ μ ζ Packet) = (do
      let (data, size) ← mode.decryptRest env length
      takePacket length data size) := by
  cases mode with
  | galoisCounter | encryptThenMac | macThenEncrypt =>
    simp only [Mode.readRest, Mode.decryptRest, takePacket, bind_assoc, pure_bind]

/-- A packet is decrypted first and then opened. -/
theorem readPacket_eq (env : ReadEnv) : (readPacket env : Read δ μ ζ Packet) = (do
    let (length, data, size) ← decryptPacket env
    let packet ← takePacket length data size
    finish env packet) := by
  have hready : (readReady env : Read δ μ ζ Packet) = (do
      let mode := (← get).mode
      let length ← lengthOr (mode.readLength env)
      let (data, size) ← mode.decryptRest env length
      takePacket length data size) := by
    funext s
    rw [readReady_eq, get_bind]
    simp only [Mode.readRest_eq]
  simp only [readPacket, hready, decryptPacket, bind_assoc, pure_bind]

/-- The octets behind the length field of a packet: the padding length, the content, the padding. -/
def Unpads (length : UInt32) (data content padding : Bytes) : Prop :=
  ∃ paddingLen : UInt8, data = paddingLen :: (content ++ padding) ∧
    content.length + paddingLen.toNat + 1 = length.toNat

/-- What `openPacket` does before it decompresses: content and padding. -/
def unpad (length : UInt32) (data : Bytes) : Read δ μ ζ (Bytes × Bytes) := do
  let (paddingLen, rest) ← consuming Consumer.consumeU8 data
  ensure (paddingLen.toNat + 1 < length.toNat) (.transport .unexpectedPaddingLength)
  let contentLen ← sub (← sub length.toNat paddingLen.toNat) 1
  consuming (Consumer.consumeBytes contentLen) rest

omit [PacketDecrypt δ] [PacketMac μ] [PacketDecode ζ] in
theorem ensure_eq_ok {p : Prop} [Decidable p] {e : Error} {s s' : CipherStream δ μ ζ} {u : Unit}
    (h : ensure p e s = .ok u s') : p ∧ s' = s := by
  unfold ensure at h
  split at h
  · next hp =>
    injection h with _ hs
    exact ⟨hp, hs.symm⟩
  · cases h

omit [PacketDecrypt δ] [PacketMac μ] [PacketDecode ζ] in
theorem sub_eq_ok {a b c : ℕ} {s s' : CipherStream δ μ ζ} (h : sub a b s = .ok c s') :
    b ≤ a ∧ c = a - b ∧ s' = s := by
  unfold sub at h
  split at h
  · next hle =>
    injection h with hc hs
    exact ⟨hle, hc.symm, hs.symm⟩
  · cases h

omit [PacketDecrypt δ] [PacketMac μ] [PacketDecode ζ] in
theorem consuming_eq_ok {m : Consumer α} {data rest : Bytes} {a : α} {s s' : CipherStream δ μ ζ}
    (h : consuming m data s = .ok (a, rest) s') : m data = .ok a rest ∧ s' = s := by
  unfold consuming at h
  cases hrun : m data with
  | ok a' rest' =>
    rw [hrun] at h
    injection h with ha hs
    obtain ⟨rfl, rfl⟩ := Prod.mk.inj ha
    exact ⟨rfl, hs.symm⟩
  | error e rest' =>
    rw [hrun] at h
    cases h

omit [PacketDecrypt δ] [PacketMac μ] [PacketDecode ζ] in
theorem unpad_outside (length : UInt32) (data : Bytes) :
    Leaves outside (unpad length data : Read δ μ ζ (Bytes × Bytes)) := by
  refine (consuming_outside _ _).bind fun _ => (ensure_outside _ _).bind fun _ => ?_
  exact (sub_outside _ _).bind fun _ => (sub_outside _ _).bind fun _ => consuming_outside _ _

omit [PacketDecrypt δ] [PacketMac μ] [PacketDecode ζ] in
theorem unpad_eq_ok_iff {length : UInt32} {data content padding : Bytes}
    {s s' : CipherStream δ μ ζ} :
    unpad length data s = .ok (content, padding) s' ↔
      Unpads length data content padding ∧ content ≠ [] ∧ s' = s := by
  constructor
  · intro h
    unfold unpad at h
    obtain ⟨⟨paddingLen, rest⟩, s₁, hpadding, h₁⟩ := bind_eq_ok_iff.mp h
    obtain ⟨_, s₂, hensure, h₂⟩ := bind_eq_ok_iff.mp h₁
    obtain ⟨n, s₃, hsub, h₃⟩ := bind_eq_ok_iff.mp h₂
    obtain ⟨m, s₄, hsub', h₄⟩ := bind_eq_ok_iff.mp h₃
    obtain ⟨hfirst, rfl⟩ := consuming_eq_ok hpadding
    obtain ⟨hlength, rfl⟩ := ensure_eq_ok hensure
    obtain ⟨hle, rfl, rfl⟩ := sub_eq_ok hsub
    obtain ⟨hle', rfl, rfl⟩ := sub_eq_ok hsub'
    obtain ⟨hbytes, rfl⟩ := consuming_eq_ok h₄
    -- `consume_bytes` cuts the content off; what is behind it is the padding
    have hsplit : rest.take (length.toNat - paddingLen.toNat - 1) = content ∧
        rest.drop (length.toNat - paddingLen.toNat - 1) = padding ∧
        length.toNat - paddingLen.toNat - 1 ≤ rest.length := by
      unfold Consumer.consumeBytes at hbytes
      split at hbytes
      · cases hbytes
      · next hlong =>
        injection hbytes with hcontent hpadding
        exact ⟨hcontent, hpadding, Nat.le_of_not_lt hlong⟩
    have hcontent : content.length = length.toNat - paddingLen.toNat - 1 := by
      rw [← hsplit.1, List.length_take]
      exact Nat.min_eq_left hsplit.2.2
    refine ⟨⟨paddingLen, ?_, by omega⟩, List.ne_nil_of_length_pos (by omega), rfl⟩
    cases data with
    | nil => cases hfirst
    | cons b octets =>
      obtain ⟨rfl, rfl⟩ : b = paddingLen ∧ octets = rest := by
        injection hfirst with hb hrest
        exact ⟨hb, hrest⟩
      rw [← hsplit.1, ← hsplit.2.1, List.take_append_drop]
  · rintro ⟨⟨paddingLen, rfl, hlength⟩, hcontent, rfl⟩
    have hpos := List.length_pos_of_ne_nil hcontent
    have hlen : length.toNat - paddingLen.toNat - 1 = content.length := by omega
    have hensure : ensure (paddingLen.toNat + 1 < length.toNat)
        (.transport .unexpectedPaddingLength) s' = .ok () s' := by
      rw [ensure, if_pos (by omega)]
      rfl
    have hsub : sub length.toNat paddingLen.toNat s' =
        .ok (length.toNat - paddingLen.toNat) s' := by
      rw [sub, if_pos (by omega)]
      rfl
    have hsub' : sub (length.toNat - paddingLen.toNat) 1 s' = .ok content.length s' := by
      rw [sub, if_pos (by omega), hlen]
      rfl
    have hbytes : consuming (Consumer.consumeBytes content.length) (content ++ padding) s' =
        .ok (content, padding) s' := by
      unfold consuming Consumer.consumeBytes
      rw [if_neg (by simp), List.take_left, List.drop_left]
      rfl
    exact bind_eq_ok_iff.mpr ⟨(paddingLen, content ++ padding), s', rfl,
      bind_eq_ok_iff.mpr ⟨(), s', hensure, bind_eq_ok_iff.mpr ⟨_, s', hsub,
        bind_eq_ok_iff.mpr ⟨_, s', hsub', hbytes⟩⟩⟩⟩

omit [PacketDecrypt δ] [PacketMac μ] in
/-- A packet is freed of its padding first and then decompressed. -/
theorem openPacket_eq (length : UInt32) (data : Bytes) :
    (openPacket length data : Read δ μ ζ Packet) = (do
      let (content, padding) ← unpad length data
      let payload ← decompress content
      return { payload, padding }) := by
  simp only [openPacket, unpad, bind_assoc]

omit [PacketDecrypt δ] [PacketMac μ] in
/-- Opening a packet comes to decompressing its content. -/
theorem openPacket_eq_ok {length : UInt32} {data : Bytes} {packet : Packet}
    {s s' : CipherStream δ μ ζ} (h : openPacket length data s = .ok packet s') :
    ∃ content, Unpads length data content packet.padding ∧
      decompress content s = .ok packet.payload s' := by
  rw [openPacket_eq] at h
  obtain ⟨⟨content, padding⟩, s₁, hunpad, h₁⟩ := bind_eq_ok_iff.mp h
  obtain ⟨payload, s₂, hdecompress, h₂⟩ := bind_eq_ok_iff.mp h₁
  injection h₂ with hpacket hs
  subst hpacket hs
  obtain ⟨hunpads, -, rfl⟩ := unpad_eq_ok_iff.mp hunpad
  exact ⟨content, hunpads, hdecompress⟩

omit [PacketDecrypt δ] [PacketMac μ] [PacketDecode ζ] in
theorem consumeReadBuffer_eq_ok {n : ℕ} {s s' : CipherStream δ μ ζ} {u : Unit}
    (h : consumeReadBuffer n s = .ok u s') : s'.decoder = s.decoder :=
  (consumeReadBuffer_decoder n).keeps.of_ok h

omit [PacketDecrypt δ] [PacketMac μ] [PacketDecode ζ] in
theorem finish_eq_ok {env : ReadEnv} {packet packet' : Packet} {s s' : CipherStream δ μ ζ}
    (h : finish env packet s = .ok packet' s') : packet' = packet := by
  unfold finish at h
  obtain ⟨_, s₁, -, h⟩ := bind_eq_ok_iff.mp h
  cases hpayload : packet.payload with
  | nil =>
    rw [hpayload] at h
    cases h
  | cons code rest =>
    rw [hpayload] at h
    obtain ⟨_, s₂, -, h⟩ := bind_eq_ok_iff.mp h
    obtain ⟨_, s₃, -, h⟩ := bind_eq_ok_iff.mp h
    injection h with h
    exact h.symm

end CipherStream

/-! ### The decoder of a packet -/

variable [ZlibCoder κ]

open PayloadCoder (RestsWith Updated)

namespace CipherStream

/-- What `read_packet` has done when it returns a packet: it has decrypted `content`, and its decoder
has made the payload of that. -/
structure Received [PacketDecrypt δ] [PacketMac μ] (env : ReadEnv) (packet : Packet)
    (content : Bytes) (s s' : CipherStream δ μ (PayloadCoder κ)) : Prop where
  decrypted : ∃ length data size s₁, decryptPacket env s = .ok (length, data, size) s₁ ∧
    Unpads length data content packet.padding
  passed : s.decode.Passes s.authenticated content packet.payload s'.decode
  authenticated : s'.authenticated = s.authenticated

variable {s s' : CipherStream δ μ (PayloadCoder κ)}

theorem decoding_eq_ok {f : ζ → Except Error α × ζ} {s s' : CipherStream δ μ ζ} {a : α}
    (h : decoding f s = .ok a s') :
    f s.decode = (.ok a, s'.decode) ∧ s' = { s with decode := s'.decode } := by
  unfold decoding at h
  split at h
  · next a' z hres =>
    injection h with ha hs
    subst ha hs
    exact ⟨hres, rfl⟩
  · cases h

theorem feeding_eq_ok {f : ζ → Option (Except Error Unit × ζ)} {s s' : CipherStream δ μ ζ}
    (h : feeding f s = .ok () s') :
    f s.decode = some (.ok (), s'.decode) ∧ s' = { s with decode := s'.decode } := by
  unfold feeding at h
  cases hres : f s.decode with
  | none =>
    rw [hres] at h
    cases h
  | some result =>
    rw [hres] at h
    obtain ⟨hresult, hs⟩ := decoding_eq_ok h
    exact ⟨congrArg some hresult, hs⟩

theorem update_of_packetDecode {content : Bytes} {coder : PayloadCoder κ}
    {result : Except Error Unit × PayloadCoder κ}
    (h : PacketDecode.update content coder = some result) : coder.update content = result := by
  change (if coder.returns content then some (coder.update content) else none) = some result at h
  split at h
  · exact Option.some.inj h
  · cases h

theorem decompress_passes {content payload : Bytes} (hrest : s.decode.IsAtRest)
    (h : decompress content s = .ok payload s') :
    s.decode.Passes s.authenticated content payload s'.decode ∧
      s' = { s with decode := s'.decode } := by
  unfold decompress at h
  rw [get_bind] at h
  split at h
  · next hon =>
    obtain ⟨_, s₁, hupdate, hfinalize⟩ := bind_eq_ok_iff.mp h
    obtain ⟨hupdate, hs₁⟩ := feeding_eq_ok hupdate
    obtain ⟨hfinalize, hs'⟩ := decoding_eq_ok hfinalize
    refine ⟨PayloadCoder.passes_of_on hrest hon (update_of_packetDecode hupdate) hfinalize, ?_⟩
    rw [hs', hs₁]
  · next hoff =>
    injection h with hpayload hs
    subst hpayload hs
    exact ⟨PayloadCoder.passes_of_off hrest (Bool.eq_false_iff.mpr hoff), rfl⟩

/-- Decompressing leaves the switch and a decoder at rest, even when it fails. -/
theorem decompress_rests (authenticated : Bool) (content : Bytes) :
    Holds (fun s => RestsWith authenticated s.decoder)
      (decompress content : Read δ μ (PayloadCoder κ) Bytes)
      (fun _ s => RestsWith authenticated s.decoder)
      (fun _ s => RestsWith authenticated s.decoder) := by
  have hupdate : Holds (fun s => RestsWith authenticated s.decoder)
      (feeding (PacketDecode.update content) : Read δ μ (PayloadCoder κ) Unit)
      (fun _ s => Updated authenticated content s.decoder)
      (fun _ s => RestsWith authenticated s.decoder) := by
    rintro s ⟨hswitch, hrest⟩
    unfold feeding
    cases hrun : PacketDecode.update content s.decode with
    | none => exact ⟨hswitch, hrest⟩
    | some result =>
      have hupdate := update_of_packetDecode hrun
      obtain ⟨_ | _, z⟩ := result
      · exact ⟨hswitch, hrest.update_error hupdate⟩
      · exact ⟨hswitch, s.decode, hrest, hupdate⟩
  have hfinalize : ∀ _ : Unit, Holds (fun s => Updated authenticated content s.decoder)
      (decoding PacketDecode.finalize : Read δ μ (PayloadCoder κ) Bytes)
      (fun _ s => RestsWith authenticated s.decoder)
      (fun _ s => RestsWith authenticated s.decoder) := by
    rintro u s ⟨hswitch, before, hrest, hrun⟩
    unfold decoding
    rcases hrun' : (PacketDecode.finalize s.decode : _ × PayloadCoder κ) with ⟨_ | _, z⟩
    · exact ⟨hswitch, hrest.finalize hrun hrun'⟩
    · exact ⟨hswitch, hrest.finalize hrun hrun'⟩
  intro s hs
  unfold decompress
  rw [get_bind]
  by_cases hon : (s.authenticated || PacketDecode.compressInAuthentication s.decode) = true
  · rw [if_pos hon]
    exact hupdate.bind hfinalize s hs
  · rw [if_neg hon]
    exact hs

variable [PacketDecrypt δ] [PacketMac μ]

/-- `read_packet` leaves the switch and a decoder at rest, whatever comes of it. -/
theorem readPacket_rests (authenticated : Bool) (env : ReadEnv) :
    Holds (fun s => RestsWith authenticated s.decoder)
      (readPacket env : Read δ μ (PayloadCoder κ) Packet)
      (fun _ s => RestsWith authenticated s.decoder)
      (fun _ s => RestsWith authenticated s.decoder) := by
  have hkeeps : ∀ {α : Type} {m : Read δ μ (PayloadCoder κ) α}, Leaves decoder m →
      Holds (fun s => RestsWith authenticated s.decoder) m
        (fun _ s => RestsWith authenticated s.decoder)
        (fun _ s => RestsWith authenticated s.decoder) := fun h => h.keeps.holds _
  have hopen : ∀ length data, Holds (fun s => RestsWith authenticated s.decoder)
      (openPacket length data : Read δ μ (PayloadCoder κ) Packet)
      (fun _ s => RestsWith authenticated s.decoder)
      (fun _ s => RestsWith authenticated s.decoder) := by
    intro length data
    rw [openPacket_eq]
    refine (hkeeps (unpad_outside _ _).decoder).bind fun _ => ?_
    exact (decompress_rests authenticated _).bind fun _ => Holds.pure fun _ h => h
  rw [readPacket_eq]
  refine (hkeeps (decryptPacket_decoder env)).bind fun _ => ?_
  refine Holds.bind ((hopen _ _).bind fun _ => ?_) fun packet => hkeeps (finish_decoder env packet)
  exact (hkeeps (consumeReadBuffer_decoder _)).bind fun _ => Holds.pure fun _ h => h

/-- A packet that `read_packet` returns has passed through the decoder. -/
theorem readPacket_received {env : ReadEnv} {packet : Packet} (hrest : s.decode.IsAtRest)
    (h : readPacket env s = .ok packet s') : ∃ content, Received env packet content s s' := by
  rw [readPacket_eq] at h
  obtain ⟨⟨length, data, size⟩, s₁, hdecrypt, h₁⟩ := bind_eq_ok_iff.mp h
  obtain ⟨packet₁, s₂, htake, hfinish⟩ := bind_eq_ok_iff.mp h₁
  obtain ⟨packet₂, s₃, hopen, h₂⟩ := bind_eq_ok_iff.mp htake
  obtain ⟨_, s₄, hconsume, h₃⟩ := bind_eq_ok_iff.mp h₂
  injection h₃ with hpacket hs
  have hsame : packet = packet₂ := (finish_eq_ok hfinish).trans hpacket.symm
  subst hsame hs
  obtain ⟨content, hunpads, hdecompress⟩ := openPacket_eq_ok hopen
  have hfirst : (s₁.authenticated, s₁.decode) = (s.authenticated, s.decode) :=
    (decryptPacket_decoder env).keeps.of_ok hdecrypt
  obtain ⟨hswitch, hdecode⟩ := Prod.mk.inj hfirst
  have hlast : (s'.authenticated, s'.decode) = (s₃.authenticated, s₃.decode) :=
    ((finish_decoder env packet₁).keeps.of_ok hfinish).trans (consumeReadBuffer_eq_ok hconsume)
  obtain ⟨hswitch', hdecode'⟩ := Prod.mk.inj hlast
  obtain ⟨hpasses, hs₃⟩ := decompress_passes (hdecode.symm ▸ hrest) hdecompress
  refine ⟨content, ⟨length, data, size, s₁, hdecrypt, hunpads⟩, ?_, ?_⟩
  · rw [hswitch, hdecode] at hpasses
    rwa [hdecode']
  · rw [hswitch', hs₃]
    exact hswitch

end CipherStream

/-! ## Sending -/

namespace DuplexStream

/-- The switch of the stream and its encoder. -/
def encoder (s : DuplexStream ε η δ μ ζ) : Bool × η :=
  (s.authenticated, s.encode)

/-- All that a stream has to do with compression. -/
def coders (s : DuplexStream ε η δ μ ζ) : (Bool × η) × ζ :=
  (s.encoder, s.decode)

theorem encrypting_coders (f : ε → Except Error α × ε) :
    Triple.Keeps coders (encrypting f : Send ε η δ μ ζ α) := by
  intro c s hs
  unfold encrypting
  rcases f s.encrypt with ⟨_ | a, e⟩ <;> exact hs

theorem calculating_coders (f : μ → Except Error α × μ) :
    Triple.Keeps coders (calculating f : Send ε η δ μ ζ α) := by
  intro c s hs
  unfold calculating
  rcases f s.calculator with ⟨_ | a, m⟩ <;> exact hs

theorem flush_coders (env : SendEnv) : Triple.Keeps coders (flush env : Send ε η δ μ ζ Unit) := by
  intro c s hs
  unfold flush
  cases env.flushError <;> exact hs

section Sealing

variable [PacketEncrypt ε] [PacketMac μ]

theorem sealPacket_coders (env : SendEnv) (payload : Bytes) :
    Triple.Keeps coders (sealPacket env payload : Send ε η δ μ ζ Bytes) := by
  have hall : ∀ data, Triple.Keeps coders (encryptAll data : Send ε η δ μ ζ Bytes) := fun data =>
    (encrypting_coders _).bind fun _ => (encrypting_coders _).bind fun _ => .pure _
  have htag : ∀ parts, Triple.Keeps coders (calculateTag parts : Send ε η δ μ ζ Bytes) := by
    refine fun parts => .get_bind fun _ => (calculating_coders _).bind fun _ => ?_
    exact (Triple.Keeps.forM (fun _ => calculating_coders _) _).bind fun _ => calculating_coders _
  have hgalois : Triple.Keeps coders (sealGaloisCounterMode env payload : Send ε η δ μ ζ Bytes) := by
    refine .get_bind fun _ => .get_bind fun _ => (encrypting_coders _).bind fun _ => ?_
    refine (encrypting_coders _).bind fun _ => (hall _).bind fun _ => ?_
    exact (encrypting_coders _).bind fun _ => .pure _
  have hetm : Triple.Keeps coders (sealEncryptThenMac env payload : Send ε η δ μ ζ Bytes) := by
    refine .get_bind fun _ => (hall _).bind fun _ => ?_
    split
    · exact (htag _).bind fun _ => .pure _
    · exact .throw _
  intro c s hs
  unfold sealPacket
  by_cases hmode : PacketEncrypt.isGaloisCounterMode s.encrypt = true
  · rw [if_pos hmode]
    exact hgalois c s hs
  · rw [if_neg hmode]
    by_cases hmac : PacketMac.encryptThenMac s.calculator = true
    · rw [if_pos hmac]
      exact hetm c s hs
    · rw [if_neg hmac]
      have hmte : Triple.Keeps coders (sealMacThenEncrypt env payload : Send ε η δ μ ζ Bytes) :=
        .get_bind fun _ => (htag _).bind fun _ => (hall _).bind fun _ => .pure _
      exact hmte c s hs

end Sealing

variable {s s' : DuplexStream ε (PayloadCoder κ) δ μ (PayloadCoder κ)}

/-- The stream is between two packets: both coders are at rest. -/
structure IsAtRest (authenticated : Bool)
    (s : DuplexStream ε (PayloadCoder κ) δ μ (PayloadCoder κ)) : Prop where
  switch : s.authenticated = authenticated
  encode : s.encode.IsAtRest
  decode : s.decode.IsAtRest

omit [ZlibCoder κ] in
theorem isAtRest_of_coders {authenticated : Bool} (hs : s.IsAtRest authenticated)
    (h : s'.coders = s.coders) : s'.IsAtRest authenticated := by
  obtain ⟨hencoder, hdecode⟩ := Prod.mk.inj h
  obtain ⟨hswitch, hencode⟩ := Prod.mk.inj hencoder
  exact ⟨hswitch.trans hs.switch, hencode ▸ hs.encode, hdecode ▸ hs.decode⟩

theorem compress_passes {payload content : Bytes} (hrest : s.encode.IsAtRest)
    (h : compress payload s = .ok content s') :
    s.encode.Passes s.authenticated payload content s'.encode := by
  have hencoding : ∀ {α : Type} {f : PayloadCoder κ → Except Error α × PayloadCoder κ}
      {s s' : DuplexStream ε (PayloadCoder κ) δ μ (PayloadCoder κ)} {a : α},
      encoding f s = .ok a s' → f s.encode = (.ok a, s'.encode) := by
    intro α f s s' a h
    unfold encoding at h
    split at h
    · next a' z hres =>
      injection h with ha hs
      subst ha hs
      exact hres
    · cases h
  unfold compress at h
  rw [get_bind] at h
  split at h
  · next hon =>
    obtain ⟨_, s₁, hupdate, hfinalize⟩ := bind_eq_ok_iff.mp h
    exact PayloadCoder.passes_of_on hrest hon (hencoding hupdate) (hencoding hfinalize)
  · next hoff =>
    injection h with hpayload hs
    subst hpayload hs
    exact PayloadCoder.passes_of_off hrest (Bool.eq_false_iff.mpr hoff)

/-- Compressing leaves the coders at rest, even when it fails. -/
theorem compress_rests (authenticated : Bool) (payload : Bytes) :
    Holds (fun s => s.IsAtRest authenticated)
      (compress payload : Send ε (PayloadCoder κ) δ μ (PayloadCoder κ) Bytes)
      (fun _ s => s.IsAtRest authenticated) (fun _ s => s.IsAtRest authenticated) := by
  have hupdate : Holds (fun s => s.IsAtRest authenticated)
      (encoding (PacketEncode.update payload) : Send ε (PayloadCoder κ) δ μ (PayloadCoder κ) Unit)
      (fun _ s => Updated authenticated payload s.encoder ∧ s.decode.IsAtRest)
      (fun _ s => s.IsAtRest authenticated) := by
    intro s hs
    unfold encoding
    rcases hrun : (PacketEncode.update payload s.encode : _ × PayloadCoder κ) with ⟨_ | _, z⟩
    · exact ⟨hs.switch, hs.encode.update_error hrun, hs.decode⟩
    · exact ⟨⟨hs.switch, s.encode, hs.encode, hrun⟩, hs.decode⟩
  have hfinalize : ∀ _ : Unit, Holds
      (fun s => Updated authenticated payload s.encoder ∧ s.decode.IsAtRest)
      (encoding PacketEncode.finalize : Send ε (PayloadCoder κ) δ μ (PayloadCoder κ) Bytes)
      (fun _ s => s.IsAtRest authenticated) (fun _ s => s.IsAtRest authenticated) := by
    rintro u s ⟨⟨hswitch, before, hrest, hrun⟩, hdecode⟩
    unfold encoding
    rcases hrun' : (PacketEncode.finalize s.encode : _ × PayloadCoder κ) with ⟨_ | _, z⟩
    · exact ⟨hswitch, hrest.finalize hrun hrun', hdecode⟩
    · exact ⟨hswitch, hrest.finalize hrun hrun', hdecode⟩
  intro s hs
  unfold compress
  rw [get_bind]
  by_cases hon : (s.authenticated || PacketEncode.compressInAuthentication s.encode) = true
  · rw [if_pos hon]
    exact hupdate.bind hfinalize s hs
  · rw [if_neg hon]
    exact hs

variable [PacketEncrypt ε] [PacketMac μ]

/-- `send_payload` leaves the switch and the coders at rest, whatever comes of it. -/
theorem sendPayload_rests (authenticated : Bool) (env : SendEnv) (payload : Bytes) :
    Holds (fun s => s.IsAtRest authenticated)
      (sendPayload env payload : Send ε (PayloadCoder κ) δ μ (PayloadCoder κ) Unit)
      (fun _ s => s.IsAtRest authenticated) (fun _ s => s.IsAtRest authenticated) := by
  have hkeeps : ∀ {α : Type} {m : Send ε (PayloadCoder κ) δ μ (PayloadCoder κ) α},
      Triple.Keeps coders m → Holds (fun s => s.IsAtRest authenticated) m
        (fun _ s => s.IsAtRest authenticated) (fun _ s => s.IsAtRest authenticated) := by
    intro α m hm s hs
    exact (hm s.coders).mono (fun _ h => h) (fun _ _ h => isAtRest_of_coders hs h)
      (fun _ _ h => isAtRest_of_coders hs h) s rfl
  unfold sendPayload
  split
  · exact Holds.throw fun _ hs => hs
  · split
    · exact Holds.throw fun _ hs => hs
    · refine (compress_rests authenticated payload).bind fun content => ?_
      refine (hkeeps (sealPacket_coders env content)).bind fun octets => ?_
      refine Holds.bind (hkeeps (.modify fun _ => rfl)) fun _ => ?_
      exact Holds.bind (hkeeps (flush_coders env)) fun _ => hkeeps (.modify fun _ => rfl)

/-- What `send_payload` puts on the wire has passed through the encoder. -/
theorem sendPayload_passes {env : SendEnv} {payload : Bytes} (hrest : s.encode.IsAtRest)
    (h : sendPayload env payload s = .ok () s') :
    ∃ content octets, Sent env payload content octets s s' ∧
      s.encode.Passes s.authenticated payload content s'.encode := by
  obtain ⟨content, octets, hsent⟩ := sendPayload_eq_ok h
  have hpasses := compress_passes hrest hsent.compressed
  exact ⟨content, octets, hsent, hpasses⟩

end DuplexStream

end Flatline
