import Flatline.Transport.Sealing
import Flatline.Transport.StreamSafety

/-!
# Opening sealed packets

What `read_packet` needs of its cipher to read a packet that the other side has sealed, and how each
of the three modes then reads it.
-/

namespace Flatline

open Triple

variable {ε δ μ : Type}

/-! ## Matching algorithms -/

/-- `R` relates an encrypting cipher to a decrypting one that inverts it: on whole blocks, also when
the first block is decrypted before the rest, and on whole packets of the ciphers with a tag of their
own. -/
structure Inverts [PacketEncrypt ε] [PacketDecrypt δ] (R : ε → δ → Prop) : Prop where
  isGaloisCounterMode {e : ε} {d : δ} : R e d →
    PacketDecrypt.isGaloisCounterMode d = PacketEncrypt.isGaloisCounterMode e
  blockSize {e : ε} {d : δ} : R e d → PacketDecrypt.blockSize d = PacketEncrypt.blockSize e
  /-- The blocks leave room for the padding length in one octet. -/
  blockSize_le {e : ε} {d : δ} : R e d → PacketEncrypt.blockSize e ≤ 252
  tagLen_le {e : ε} {d : δ} : R e d → PacketDecrypt.tagLen d ≤ 1024
  number {e : ε} {d : δ} (n : UInt32) : R e d → PacketEncrypt.isGaloisCounterMode e = false →
    ∃ d', PacketDecrypt.updateSequenceNumber n d = (.ok (), d') ∧ R e d'
  whole {e e' : ε} {d : δ} {data out : Bytes} : R e d →
    PacketEncrypt.isGaloisCounterMode e = false →
    PacketEncrypt.blockSize e ∣ data.length → PacketEncrypt.whole data e = (.ok out, e') →
    out.length = data.length ∧ ∃ p d₁ q d', PacketDecrypt.update out d = ((.ok (), p), d₁) ∧
      PacketDecrypt.finalize d₁ = ((.ok (), q), d') ∧ p ++ q = data ∧ R e' d'
  split {e e' : ε} {d : δ} {data out : Bytes} : R e d →
    PacketEncrypt.isGaloisCounterMode e = false →
    PacketEncrypt.blockSize e ∣ data.length → PacketEncrypt.blockSize e ≤ data.length →
    PacketEncrypt.whole data e = (.ok out, e') →
    ∃ first d₁ p d₂ q d',
      PacketDecrypt.update (out.take (PacketEncrypt.blockSize e)) d = ((.ok (), first), d₁) ∧
      PacketDecrypt.update (out.drop (PacketEncrypt.blockSize e)) d₁ = ((.ok (), p), d₂) ∧
      PacketDecrypt.finalize d₂ = ((.ok (), q), d') ∧
      first.length = PacketEncrypt.blockSize e ∧ first ++ (p ++ q) = data ∧ R e' d'
  tagged {e e₁ e₂ e₃ e₄ : ε} {d : δ} {n : UInt32} {header header' : Header} {data out tag : Bytes} :
    R e d → PacketEncrypt.isGaloisCounterMode e = true →
    PacketEncrypt.updateSequenceNumber n e = (.ok (), e₁) →
    PacketEncrypt.additionalAuthenticatedData header e₁ = (.ok header', e₂) →
    PacketEncrypt.whole data e₂ = (.ok out, e₃) →
    PacketEncrypt.authenticationTag e₃ = (.ok tag, e₄) →
    out.length = data.length ∧ tag.length = PacketDecrypt.tagLen d ∧ ∃ d₁ d₂ p d₃ d₄ q d',
      PacketDecrypt.updateSequenceNumber n d = (.ok (), d₁) ∧
      PacketDecrypt.additionalAuthenticatedData header' d₁ = (.ok header, d₂) ∧
      PacketDecrypt.update out d₂ = ((.ok (), p), d₃) ∧
      PacketDecrypt.authenticationTag tag d₃ = (.ok (), d₄) ∧
      PacketDecrypt.finalize d₄ = ((.ok (), q), d') ∧ p ++ q = data ∧ R e₄ d'

/-- Tags have the length that the MAC announces. -/
class TagLength (μ : Type) [PacketMac μ] : Prop where
  macLen_le (m : μ) : PacketMac.macLen m ≤ 1024
  length_finalize {m m' : μ} {tag : Bytes} : PacketMac.finalize m = (.ok tag, m') →
    tag.length = PacketMac.macLen m

/-! ## Length fields -/

/-- A length field read as its value. -/
@[simp] theorem Header.value_ofLength (n : UInt32) : (Header.ofLength n).value = n :=
  fromBeBytes_toBeBytes n

@[simp] theorem Header.octets_ofLength (n : UInt32) : (Header.ofLength n).octets = toBeBytes n :=
  rfl

@[simp] theorem Header.length_octets (header : Header) : header.octets.length = 4 := rfl

/-- The octets after the length field. -/
theorem Packet.length_build (packet : Packet) :
    packet.build.length = 1 + packet.payload.length + packet.padding.length := by
  simp only [Packet.build, List.length_cons, List.length_append]
  omega

/-- A packet that `send_payload` may make: its payload fits, and its padding length fits into an
octet. -/
structure Packet.Fits (packet : Packet) : Prop where
  nonempty : packet.payload ≠ []
  payload_le : packet.payload.length ≤ maxPacketPayloadLength
  padding_le : packet.padding.length ≤ 255

theorem Packet.Fits.toNat_length {packet : Packet} (h : packet.Fits) :
    packet.length.toNat = 1 + packet.payload.length + packet.padding.length := by
  have hpayload := h.payload_le
  have hpadding := h.padding_le
  simp only [maxPacketPayloadLength] at hpayload
  unfold Packet.length
  refine UInt32.toNat_ofNat_of_lt ?_
  simp only [UInt32.size]
  omega

/-! ## Runs of the stream's operations -/

namespace CipherStream

variable {ζ α : Type}

theorem fill_run {env : ReadEnv} {n : ℕ} {s : CipherStream δ μ ζ} (h : n ≤ s.buffer.length) :
    fill env n s = .ok (s.buffer.take n) s :=
  if_pos h

theorem toHeader_run (header : Header) (s : CipherStream δ μ ζ) :
    toHeader header.octets s = .ok header s := rfl

theorem slice_run {data : Bytes} {start stop : ℕ} {s : CipherStream δ μ ζ}
    (h : start ≤ stop ∧ stop ≤ data.length) :
    slice data start stop s = .ok ((data.take stop).drop start) s := by
  unfold slice
  rw [if_pos h]
  rfl

theorem assert_run {p : Prop} [Decidable p] {s : CipherStream δ μ ζ} (h : p) :
    assert p s = .ok () s := by
  unfold assert
  rw [if_pos h]
  rfl

theorem ensure_run {p : Prop} [Decidable p] {e : Error} {s : CipherStream δ μ ζ} (h : p) :
    ensure p e s = .ok () s := by
  unfold ensure
  rw [if_pos h]
  rfl

theorem sub_run {a b : ℕ} {s : CipherStream δ μ ζ} (h : b ≤ a) : sub a b s = .ok (a - b) s := by
  unfold sub
  rw [if_pos h]
  rfl

theorem consuming_run {m : Consumer α} {data rest : Bytes} {a : α} {s : CipherStream δ μ ζ}
    (h : m data = .ok a rest) : consuming m data s = .ok (a, rest) s := by
  unfold consuming
  rw [h]
  rfl

theorem decrypting_run {f : δ → Except Error α × δ} {s : CipherStream δ μ ζ} {a : α} {d : δ}
    (h : f s.decrypt = (.ok a, d)) : decrypting f s = .ok a { s with decrypt := d } := by
  unfold decrypting
  rw [h]

theorem decryptingTo_run {f : δ → (Except Error Unit × Bytes) × δ} {s : CipherStream δ μ ζ}
    {out : Bytes} {d : δ} (h : f s.decrypt = ((.ok (), out), d)) :
    decryptingTo f s = .ok out { s with decrypt := d } := by
  unfold decryptingTo decrypting
  simp only [h]
  rfl

theorem verifying_run {f : μ → Except Error α × μ} {s : CipherStream δ μ ζ} {a : α} {m : μ}
    (h : f s.verify = (.ok a, m)) : verifying f s = .ok a { s with verify := m } := by
  unfold verifying
  rw [h]

theorem consumeReadBuffer_run {n : ℕ} {s : CipherStream δ μ ζ} (h : n ≤ s.buffer.length) :
    consumeReadBuffer n s = .ok () { s with buffer := s.buffer.drop n } :=
  if_pos h

/-- Feeding the parts is one call of the MAC. -/
theorem forM_verifying [PacketMac μ] (parts : List Bytes) :
    (parts.forM fun part => verifying (PacketMac.update part) : Read δ μ ζ PUnit) =
      verifying (PacketMac.feed parts) := by
  induction parts with
  | nil => rfl
  | cons part rest ih =>
    funext s
    change (verifying (PacketMac.update part) >>= fun _ =>
      (rest.forM fun part => verifying (PacketMac.update part))) s = _
    rw [ih]
    simp only [bind, EStateM.bind, verifying, PacketMac.feed]
    rcases PacketMac.update part s.verify with ⟨_ | _, m⟩ <;> rfl

/-- Checking a tag is one call of the MAC and a comparison. -/
theorem verifyTag_eq [PacketMac μ] (parts : List Bytes) (tag : Bytes) (s : CipherStream δ μ ζ) :
    verifyTag parts tag s =
      (verifying (PacketMac.tagOver s.server.sequenceNumber parts) >>= fun mac =>
        ensure (mac = tag) (.transport .macVerificationFailed) : Read δ μ ζ Unit) s := by
  have hrun : verifyTag parts tag s =
      (verifying (PacketMac.update (toBeBytes s.server.sequenceNumber)) >>= fun _ =>
        (parts.forM fun part => verifying (PacketMac.update part)) >>= fun _ =>
          verifying PacketMac.finalize >>= fun mac =>
            ensure (mac = tag) (.transport .macVerificationFailed) : Read δ μ ζ Unit) s := rfl
  rw [hrun, forM_verifying]
  unfold PacketMac.tagOver
  simp only [bind, EStateM.bind, verifying, PacketMac.feed]
  rcases PacketMac.update (toBeBytes s.server.sequenceNumber) s.verify with ⟨_ | _, m₁⟩
  · rfl
  · dsimp only
    rcases PacketMac.feed parts m₁ with ⟨_ | _, m₂⟩
    · rfl
    · dsimp only

theorem verifyTag_run [PacketMac μ] {parts : List Bytes} {tag : Bytes} {s : CipherStream δ μ ζ}
    {m : μ} (h : PacketMac.tagOver s.server.sequenceNumber parts s.verify = (.ok tag, m)) :
    verifyTag parts tag s = .ok () { s with verify := m } := by
  rw [verifyTag_eq, bind_of_ok (verifying_run h)]
  exact ensure_run rfl

/-- A packet is taken out of its octets as it was put in. -/
theorem openPacket_run {s : CipherStream δ μ NoCompression} {packet : Packet} (hpacket : packet.Fits)
    (hdecode : s.decode.payload = []) : openPacket packet.length packet.build s = .ok packet s := by
  have hlen := hpacket.toNat_length
  have hpadding : (UInt8.ofNat packet.padding.length).toNat = packet.padding.length := by
    have := hpacket.padding_le
    rw [UInt8.toNat_ofNat']
    omega
  have hpos : 0 < packet.payload.length := List.length_pos_iff.mpr hpacket.nonempty
  unfold openPacket
  rw [bind_of_ok (consuming_run (by rw [Packet.build]; exact Consumer.consumeU8_cons _ _))]
  dsimp only
  rw [bind_of_ok (ensure_run (by omega)), bind_of_ok (sub_run (by omega)),
    bind_of_ok (sub_run (by omega))]
  have hcontent : packet.length.toNat - (UInt8.ofNat packet.padding.length).toNat - 1 =
      packet.payload.length := by omega
  rw [hcontent, bind_of_ok (consuming_run (Consumer.consumeBytes_append _ _))]
  dsimp only
  have hdecompress : decompress packet.payload s = .ok packet.payload s := by
    unfold decompress
    rw [get_bind]
    split
    · have hsame : ({ payload := [] } : NoCompression) = s.decode := by
        cases hz : s.decode with
        | mk payload =>
          rw [hz] at hdecode
          exact congrArg NoCompression.mk hdecode.symm
      simp only [bind, EStateM.bind, feeding, decoding, PacketDecode.update, PacketDecode.finalize, hdecode,
        List.nil_append]
      rw [hsame]
    · rfl
  rw [bind_of_ok hdecompress]
  rfl

/-! ## The three modes -/

theorem start_run [PacketDecrypt δ] {s : CipherStream δ μ ζ} {d : δ} (hstate : s.state = none)
    (hnumber : PacketDecrypt.updateSequenceNumber s.server.sequenceNumber s.decrypt = (.ok (), d)) :
    start s = .ok () { s with
      decrypt := d
      state := some { length := none, encrypted := [], decrypted := [] } } := by
  unfold start
  rw [hstate]
  dsimp only
  rw [bind_of_ok (decrypting_run hnumber)]
  rfl

theorem lengthOr_run {read : Read δ μ ζ UInt32} {s : CipherStream δ μ ζ}
    (h : s.ready.length = none) : lengthOr read s = read s := by
  unfold lengthOr
  rw [h]

theorem checkLength_run {length : UInt32} {tagLen : ℕ} {s : CipherStream δ μ ζ}
    (h : length.toNat + 4 + tagLen ≤ maxPacketLength) : checkLength length tagLen s = .ok () s :=
  ensure_run h

/-- What is in front of `rest`. -/
theorem take_of_append {a rest : Bytes} {n : ℕ} (h : a.length = n) : (a ++ rest).take n = a := by
  rw [← h, List.take_left]

theorem drop_of_append {a rest : Bytes} {n : ℕ} (h : a.length = n) : (a ++ rest).drop n = rest := by
  rw [← h, List.drop_left]

/-- The end of all three modes. -/
theorem openAndConsume_run {s : CipherStream δ μ NoCompression} {packet : Packet} {data : Bytes}
    {n : ℕ} (hpacket : packet.Fits) (hdecode : s.decode.payload = []) (hdata : data = packet.build)
    (hn : n ≤ s.buffer.length) :
    (do
      let packet ← openPacket packet.length data
      consumeReadBuffer n
      return packet : Read δ μ NoCompression Packet) s =
      .ok packet { s with buffer := s.buffer.drop n } := by
  rw [hdata, bind_of_ok (openPacket_run hpacket hdecode), bind_of_ok (consumeReadBuffer_run hn)]
  rfl

variable [PacketDecrypt δ] [PacketMac μ] {s : CipherStream δ μ NoCompression} (env : ReadEnv)
  {packet : Packet} {out tag rest : Bytes}

omit [PacketMac μ] in
theorem readGaloisCounterMode_run {header : Header} {d₂ d₃ d₄ d₅ : δ} {p q : Bytes}
    (hpacket : packet.Fits) (hdecode : s.decode.payload = []) (hready : s.ready.length = none)
    (hbuffer : s.buffer = header.octets ++ out ++ tag ++ rest)
    (hout : out.length = packet.build.length) (htag : tag.length = PacketDecrypt.tagLen d₂)
    (htagLen : PacketDecrypt.tagLen d₂ ≤ 1024)
    (hheader : PacketDecrypt.additionalAuthenticatedData header s.decrypt =
      (.ok (.ofLength packet.length), d₂))
    (hupdate : PacketDecrypt.update out d₂ = ((.ok (), p), d₃))
    (hauth : PacketDecrypt.authenticationTag tag d₃ = (.ok (), d₄))
    (hfinalize : PacketDecrypt.finalize d₄ = ((.ok (), q), d₅)) (hdata : p ++ q = packet.build) :
    readGaloisCounterMode env s = .ok packet { s with
      buffer := rest
      decrypt := d₅
      state := some { s.ready with length := some packet.length } } := by
  have hlen := hpacket.toNat_length
  have hbuild := packet.length_build
  have hpayload := hpacket.payload_le
  have hpadding := hpacket.padding_le
  simp only [maxPacketPayloadLength] at hpayload
  -- the header is enciphered but not sealed: the length is known before the tag is checked
  have hlength : readGcmLength env s = .ok packet.length { s with
      decrypt := d₂
      state := some { s.ready with length := some packet.length } } := by
    have hfour : s.buffer.take 4 = header.octets := by
      rw [hbuffer, List.append_assoc, List.append_assoc]
      exact take_of_append rfl
    unfold readGcmLength
    rw [bind_of_ok (fill_run (by rw [hbuffer]; simp)), hfour,
      bind_of_ok (toHeader_run header s), bind_of_ok (decrypting_run hheader), get_bind,
      Header.value_ofLength]
    rw [bind_of_ok (checkLength_run (by simp only [maxPacketLength]; omega))]
    rfl
  unfold readGaloisCounterMode
  rw [bind_of_ok ((lengthOr_run hready).trans hlength), get_bind]
  have hall : (header.octets ++ out ++ tag).length =
      4 + packet.length.toNat + PacketDecrypt.tagLen d₂ := by
    rw [List.length_append, List.length_append, Header.length_octets]
    omega
  have hbytes : s.buffer.take (4 + packet.length.toNat + PacketDecrypt.tagLen d₂) =
      header.octets ++ out ++ tag := by
    rw [hbuffer]
    exact take_of_append hall
  rw [bind_of_ok (fill_run (by dsimp only; rw [hbuffer, List.length_append]; omega))]
  dsimp only
  rw [hbytes, bind_of_ok (slice_run ⟨by omega, Nat.le_refl _⟩), List.take_length,
    List.append_assoc, drop_of_append (Header.length_octets header)]
  -- what has been filled is header, body and tag; `slice` takes them apart
  have hsplit : out.length = packet.length.toNat := by omega
  rw [bind_of_ok (slice_run ⟨by omega, by rw [List.length_append]; omega⟩), List.drop_zero,
    take_of_append hsplit, bind_of_ok (decryptingTo_run hupdate),
    bind_of_ok (slice_run ⟨by rw [List.length_append]; omega, Nat.le_refl _⟩), List.take_length,
    drop_of_append hsplit, bind_of_ok (decrypting_run hauth),
    bind_of_ok (decryptingTo_run hfinalize)]
  have hconsumed : s.buffer.drop (4 + packet.length.toNat + PacketDecrypt.tagLen d₂) = rest := by
    rw [hbuffer]
    exact drop_of_append hall
  -- the packet is parsed and leaves the buffer as a whole
  have hend := openAndConsume_run (s := { s with
    decrypt := d₅
    state := some { s.ready with length := some packet.length } })
    (n := 4 + packet.length.toNat + PacketDecrypt.tagLen d₂) hpacket hdecode hdata
    (by dsimp only; rw [hbuffer, List.length_append]; omega)
  dsimp only at hend
  rw [hconsumed] at hend
  exact hend

omit [PacketDecrypt δ] [PacketMac μ] in
/-- Decrypting into the stored buffer. -/
theorem decryptingStored_ok {f : δ → (Except Error Unit × Bytes) × δ} {s : CipherStream δ μ ζ}
    {p : Bytes} {d : δ} (h : f s.decrypt = ((.ok (), p), d)) :
    decryptingStored f s = .ok () { s with
      decrypt := d
      state := some (s.ready.append p) } := by
  unfold decryptingStored
  rw [h]

omit [PacketMac μ] in
theorem decryptAll_run {data p q : Bytes} {d₁ d₂ : δ} {s : CipherStream δ μ ζ}
    (hupdate : PacketDecrypt.update data s.decrypt = ((.ok (), p), d₁))
    (hfinalize : PacketDecrypt.finalize d₁ = ((.ok (), q), d₂)) :
    decryptAll data s = .ok () { s with
      decrypt := d₂
      state := some (s.ready.append (p ++ q)) } := by
  unfold decryptAll
  rw [bind_of_ok (decryptingStored_ok hupdate), decryptingStored_ok hfinalize]
  simp [ready, Ready.append]

theorem readEncryptThenMac_run {d₁ d₂ : δ} {m : μ} {p q : Bytes} (hpacket : packet.Fits)
    (hdecode : s.decode.payload = []) (hlength : s.ready.length = none)
    (hdecrypted : s.ready.decrypted = [])
    (hbuffer : s.buffer = toBeBytes packet.length ++ out ++ tag ++ rest)
    (hout : out.length = packet.build.length) (htag : tag.length = PacketMac.macLen s.verify)
    (hmacLen : PacketMac.macLen s.verify ≤ 1024)
    (hmac : PacketMac.tagOver s.server.sequenceNumber [toBeBytes packet.length, out] s.verify =
      (.ok tag, m))
    (hupdate : PacketDecrypt.update out s.decrypt = ((.ok (), p), d₁))
    (hfinalize : PacketDecrypt.finalize d₁ = ((.ok (), q), d₂)) (hdata : p ++ q = packet.build) :
    readEncryptThenMac env s = .ok packet { s with
      buffer := rest
      decrypt := d₂
      verify := m
      state := some { s.ready with decrypted := packet.build } } := by
  have hlen := hpacket.toNat_length
  have hbuild := packet.length_build
  have hpayload := hpacket.payload_le
  have hpadding := hpacket.padding_le
  simp only [maxPacketPayloadLength] at hpayload
  -- the length field is in the clear
  have hread : readEtmLength env s = .ok packet.length s := by
    have hfour : s.buffer.take 4 = (Header.ofLength packet.length).octets := by
      rw [hbuffer, List.append_assoc, List.append_assoc]
      exact take_of_append rfl
    unfold readEtmLength
    rw [bind_of_ok (fill_run (by rw [hbuffer]; simp)), hfour,
      bind_of_ok (toHeader_run (.ofLength packet.length) s), get_bind, Header.value_ofLength]
    rw [bind_of_ok (checkLength_run (by simp only [maxPacketLength]; omega))]
    rfl
  have hall : (toBeBytes packet.length ++ out ++ tag).length =
      4 + packet.length.toNat + PacketMac.macLen s.verify := by
    rw [List.length_append, List.length_append, length_toBeBytes]
    omega
  have hbytes : s.buffer.take (4 + packet.length.toNat + PacketMac.macLen s.verify) =
      toBeBytes packet.length ++ out ++ tag := by
    rw [hbuffer]
    exact take_of_append hall
  have hhead : (toBeBytes packet.length ++ out).length = packet.length.toNat + 4 := by
    rw [List.length_append, length_toBeBytes]
    omega
  have hbody : ((toBeBytes packet.length ++ out ++ tag).take (packet.length.toNat + 4)).drop 4 =
      out := by
    rw [take_of_append hhead]
    exact drop_of_append (length_toBeBytes _)
  unfold readEncryptThenMac
  rw [bind_of_ok ((lengthOr_run hlength).trans hread), get_bind, bind_of_ok (assert_run hdecrypted),
    get_bind, bind_of_ok (fill_run (by rw [hbuffer, List.length_append]; omega)), hbytes,
    bind_of_ok (slice_run ⟨by omega, by omega⟩), hbody,
    bind_of_ok (slice_run ⟨by omega, Nat.le_refl _⟩), List.take_length, drop_of_append hhead,
    bind_of_ok (verifyTag_run hmac),
    bind_of_ok (decryptAll_run (s := { s with verify := m }) hupdate hfinalize), get_bind]
  have hconsumed : s.buffer.drop (4 + packet.length.toNat + PacketMac.macLen s.verify) = rest := by
    rw [hbuffer]
    exact drop_of_append hall
  -- nothing was stored before, so that the decrypted octets are the packet
  have happend : s.ready.append (p ++ q) = { s.ready with decrypted := packet.build } := by
    rw [Ready.append, hdecrypted, hdata, List.nil_append]
  have hstored : ∀ (d : δ) (v : μ), ({ s with
      decrypt := d
      verify := v
      state := some (s.ready.append (p ++ q)) } : CipherStream δ μ NoCompression).ready.decrypted =
        packet.build := by
    intro d v
    rw [happend]
    rfl
  have hend := openAndConsume_run (s := { s with
    decrypt := d₂
    verify := m
    state := some (s.ready.append (p ++ q)) })
    (n := 4 + packet.length.toNat + PacketMac.macLen s.verify) hpacket hdecode (hstored d₂ m)
    (by dsimp only; rw [hbuffer, List.length_append]; omega)
  dsimp only at hend
  rw [hconsumed, happend] at hend
  rw [← happend] at hend ⊢
  exact hend

theorem readFirstBlock_run {d₁ : δ} {first : Bytes} {blockSize : ℕ} (hpacket : packet.Fits)
    (hready : s.ready = { length := none, encrypted := [], decrypted := [] })
    (hblock : PacketDecrypt.blockSize s.decrypt = blockSize) (height : 8 ≤ blockSize)
    (hbuffer : s.buffer = out ++ tag ++ rest) (hout : blockSize ≤ out.length)
    (hmacLen : PacketMac.macLen s.verify ≤ 1024)
    (hupdate : PacketDecrypt.update (out.take blockSize) s.decrypt = ((.ok (), first), d₁))
    (hfirst : first.length = blockSize) (hfour : first.take 4 = toBeBytes packet.length) :
    readFirstBlock env s = .ok packet.length { s with
      decrypt := d₁
      state := some { length := some packet.length, encrypted := out.take blockSize,
                      decrypted := first } } := by
  have hlen := hpacket.toNat_length
  have hpayload := hpacket.payload_le
  have hpadding := hpacket.padding_le
  simp only [maxPacketPayloadLength] at hpayload
  have htake : s.buffer.take blockSize = out.take blockSize := by
    rw [hbuffer, List.append_assoc, List.take_append_of_le_length hout]
  have happend : s.ready.append first =
      { length := none, encrypted := [], decrypted := first } := by
    rw [hready, Ready.append, List.nil_append]
  have hupdated := decryptingStored_ok (s := s) (f := PacketDecrypt.update (out.take blockSize))
    hupdate
  rw [happend] at hupdated
  have hlength : (out.take blockSize).length = first.length := by
    rw [List.length_take, hfirst]
    omega
  unfold readFirstBlock
  rw [get_bind, bind_of_ok (assert_run (by rw [hready]; rfl)), get_bind, hblock,
    bind_of_ok (fill_run (by rw [hbuffer, List.length_append, List.length_append]; omega)), htake,
    bind_of_ok hupdated, get_bind]
  let s₁ : CipherStream δ μ NoCompression := { s with
    decrypt := d₁
    state := some { length := none, encrypted := [], decrypted := first } }
  change (assert ((out.take blockSize).length = first.length) >>= _) s₁ = _
  rw [bind_of_ok (assert_run hlength), get_bind]
  change (slice first 0 4 >>= _) s₁ = _
  rw [bind_of_ok (slice_run ⟨by omega, by omega⟩), List.drop_zero, hfour,
    ← Header.octets_ofLength, bind_of_ok (toHeader_run (.ofLength packet.length) s₁), get_bind,
    Header.value_ofLength,
    bind_of_ok (checkLength_run (by change _ + _ + PacketMac.macLen s.verify ≤ _; simp only [maxPacketLength]; omega))]
  rfl

theorem readMacThenEncrypt_run {d₁ d₂ d₃ : δ} {m : μ} {first p q : Bytes} {blockSize : ℕ}
    (hpacket : packet.Fits) (hdecode : s.decode.payload = [])
    (hready : s.ready = { length := none, encrypted := [], decrypted := [] })
    (hblock : PacketDecrypt.blockSize s.decrypt = blockSize) (height : 8 ≤ blockSize)
    (hbuffer : s.buffer = out ++ tag ++ rest)
    (hout : out.length = (toBeBytes packet.length ++ packet.build).length)
    (hfits : blockSize ≤ out.length) (htag : tag.length = PacketMac.macLen s.verify)
    (hmacLen : PacketMac.macLen s.verify ≤ 1024)
    (hupdate : PacketDecrypt.update (out.take blockSize) s.decrypt = ((.ok (), first), d₁))
    (hrest : PacketDecrypt.update (out.drop blockSize) d₁ = ((.ok (), p), d₂))
    (hfinalize : PacketDecrypt.finalize d₂ = ((.ok (), q), d₃))
    (hfirst : first.length = blockSize)
    (hdata : first ++ (p ++ q) = toBeBytes packet.length ++ packet.build)
    (hmac : PacketMac.tagOver s.server.sequenceNumber [toBeBytes packet.length ++ packet.build]
      s.verify = (.ok tag, m)) :
    ∃ ready, readMacThenEncrypt env s = .ok packet { s with
      buffer := rest
      decrypt := d₃
      verify := m
      state := some ready } := by
  have hlen := hpacket.toNat_length
  have hbuild := packet.length_build
  rw [List.length_append, length_toBeBytes] at hout
  -- the first block begins with the length field
  have hfour : first.take 4 = toBeBytes packet.length := by
    have htake : (first ++ (p ++ q)).take 4 = first.take 4 :=
      List.take_append_of_le_length (by omega)
    rw [← htake, hdata]
    exact take_of_append (length_toBeBytes _)
  have hread := readFirstBlock_run env hpacket hready hblock height hbuffer hfits hmacLen
    hupdate hfirst hfour
  have hnone : s.ready.length = none := by rw [hready]
  have hall : (out ++ tag).length = packet.length.toNat + 4 + PacketMac.macLen s.verify := by
    rw [List.length_append]
    omega
  have hbytes : s.buffer.take (packet.length.toNat + 4 + PacketMac.macLen s.verify) =
      out ++ tag := by
    rw [hbuffer]
    exact take_of_append hall
  have hhead : out.length = packet.length.toNat + 4 := by omega
  have henc : (out.take blockSize).length = blockSize := by
    rw [List.length_take]
    omega
  let ready₁ : Ready :=
    { length := some packet.length, encrypted := out.take blockSize, decrypted := first }
  let s₁ : CipherStream δ μ NoCompression := { s with decrypt := d₁, state := some ready₁ }
  -- the rest goes behind the first block, which has been stored with the length
  have happend : ready₁.append (p ++ q) = { ready₁ with
      decrypted := toBeBytes packet.length ++ packet.build } := by
    rw [Ready.append, hdata]
  have hall' := decryptAll_run (s := s₁) hrest hfinalize
  change decryptAll (out.drop blockSize) s₁ = .ok () { s₁ with
    decrypt := d₃, state := some (ready₁.append (p ++ q)) } at hall'
  rw [happend] at hall'
  let ready₂ : Ready := { ready₁ with decrypted := toBeBytes packet.length ++ packet.build }
  let s₂ : CipherStream δ μ NoCompression := { s with decrypt := d₃, state := some ready₂ }
  refine ⟨ready₂, ?_⟩
  unfold readMacThenEncrypt
  rw [bind_of_ok ((lengthOr_run hnone).trans hread), get_bind]
  change (fill env (packet.length.toNat + 4 + PacketMac.macLen s.verify) >>= _) s₁ = _
  rw [bind_of_ok (fill_run (by change _ ≤ s.buffer.length; rw [hbuffer, List.length_append]; omega))]
  change ((do
    let stream ← get
    decryptAll (← slice (s.buffer.take (packet.length.toNat + 4 + PacketMac.macLen s.verify))
      stream.ready.encrypted.length (packet.length.toNat + 4))
    _ : Read δ μ NoCompression Packet)) s₁ = _
  rw [hbytes, get_bind]
  change (slice (out ++ tag) (out.take blockSize).length (packet.length.toNat + 4) >>= _) s₁ = _
  rw [henc, bind_of_ok (slice_run ⟨by omega, by omega⟩), take_of_append hhead, bind_of_ok hall',
    get_bind]
  let data := toBeBytes packet.length ++ packet.build
  change (slice (out ++ tag) (packet.length.toNat + 4) (out ++ tag).length >>= fun tag =>
    verifyTag [data] tag >>= fun _ => slice data 4 (packet.length.toNat + 4) >>= _) s₂ = _
  have hmac' := verifyTag_run (s := s₂) hmac
  rw [bind_of_ok (slice_run ⟨by omega, Nat.le_refl _⟩), List.take_length, drop_of_append hhead,
    bind_of_ok hmac']
  have hdatalen : data.length = packet.length.toNat + 4 := by
    change (toBeBytes packet.length ++ packet.build).length = _
    rw [List.length_append, length_toBeBytes]
    omega
  -- the length field stays in front of what has been decrypted
  have hbody : (data.take (packet.length.toNat + 4)).drop 4 = packet.build := by
    rw [← hdatalen, List.take_length]
    exact drop_of_append (length_toBeBytes _)
  rw [bind_of_ok (slice_run ⟨by omega, by omega⟩), hbody]
  have hconsumed : s.buffer.drop (packet.length.toNat + 4 + PacketMac.macLen s.verify) = rest := by
    rw [hbuffer]
    exact drop_of_append hall
  have hend := openAndConsume_run (s := { s₂ with verify := m })
    (n := packet.length.toNat + 4 + PacketMac.macLen s.verify) hpacket hdecode rfl
    (by change _ ≤ s.buffer.length; rw [hbuffer, List.length_append]; omega)
  refine hend.trans (congrArg (EStateM.Result.ok packet) ?_)
  change { s with
    buffer := s.buffer.drop (packet.length.toNat + 4 + PacketMac.macLen s.verify)
    decrypt := d₃
    verify := m
    state := some ready₂ } = _
  rw [hconsumed]

end CipherStream

end Flatline
