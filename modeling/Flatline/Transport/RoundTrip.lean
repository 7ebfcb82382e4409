import Flatline.Transport.Opening
import Flatline.Transport.Suspension

/-!
# What is sent is read

A stream whose receiving half matches the sending half of another reads the payloads that the other
sends, one for each call, and nothing is left over.

Source: `src/ssh/stream.rs` (`CipherStream::send_payload`, `CipherStream::read_packet`).
-/

namespace Flatline

open Triple

/-! ## Padding -/

/-- The padding is long enough, fits into an octet with room to spare, and fills the last block. -/
theorem paddingLength_spec (blockSize : ℕ) (h : 4 ≤ blockSize) (covered : ℕ) :
    minPaddingLength ≤ paddingLength blockSize covered ∧
      paddingLength blockSize covered ≤ blockSize + 3 ∧
        blockSize ∣ covered + paddingLength blockSize covered := by
  have hmod : covered % blockSize < blockSize := Nat.mod_lt _ (by omega)
  have hdiv := Nat.div_add_mod covered blockSize
  have hfill : blockSize ∣ covered + (blockSize - covered % blockSize) := by
    refine ⟨covered / blockSize + 1, ?_⟩
    rw [Nat.mul_add, Nat.mul_one]
    omega
  have hmin : minPaddingLength = 4 := rfl
  unfold paddingLength
  dsimp only
  by_cases hshort : blockSize - covered % blockSize < minPaddingLength
  · rw [if_pos hshort, ← Nat.add_assoc]
    exact ⟨by omega, by omega, Nat.dvd_add hfill (Nat.dvd_refl _)⟩
  · rw [if_neg hshort]
    exact ⟨by omega, by omega, hfill⟩

@[simp] theorem SendEnv.length_fill (env : SendEnv) (n : ℕ) : (env.fill n).length = n := by
  simp [SendEnv.fill]

/-! ## Matching streams -/

variable {ε δ δ' μ ζ : Type}

/-- Encryption and MAC never fail on whole blocks. -/
structure NeverFails [PacketEncrypt ε] (μ : Type) [PacketMac μ] (R : ε → δ → Prop) : Prop where
  whole {e : ε} {d : δ} {data : Bytes} : R e d → PacketEncrypt.isGaloisCounterMode e = false →
    PacketEncrypt.blockSize e ∣ data.length → ∃ out e', PacketEncrypt.whole data e = (.ok out, e')
  tagged {e : ε} {d : δ} {data : Bytes} (n : UInt32) (header : Header) : R e d →
    PacketEncrypt.isGaloisCounterMode e = true → PacketEncrypt.blockSize e ∣ data.length →
    ∃ e₁ header' e₂ out e₃ tag e₄, PacketEncrypt.updateSequenceNumber n e = (.ok (), e₁) ∧
      PacketEncrypt.additionalAuthenticatedData header e₁ = (.ok header', e₂) ∧
      PacketEncrypt.whole data e₂ = (.ok out, e₃) ∧
      PacketEncrypt.authenticationTag e₃ = (.ok tag, e₄)
  tag (n : UInt32) (parts : List Bytes) (m : μ) : ∃ tag m', PacketMac.tagOver n parts m = (.ok tag, m')

instance : PacketEncode NoCompression where
  compressInAuthentication _ := false
  update data z := (.ok (), { payload := z.payload ++ data })
  finalize z := (.ok z.payload, { payload := [] })

/-- The two switches of strict key exchange. -/
def CipherStream.strict (stream : CipherStream δ μ ζ) : Bool :=
  stream.client.kexStrict && stream.server.kexStrict

/-- `receiver` holds the decrypting and verifying state that belongs to the sending half of
`sender`, neither compresses, and nothing is under way between them. -/
structure Matches (R : ε → δ → Prop) (sender : DuplexStream ε NoCompression δ' μ ζ)
    (receiver : CipherStream δ μ NoCompression) : Prop where
  cipher : R sender.encrypt receiver.decrypt
  mac : receiver.verify = sender.calculator
  number : receiver.server.sequenceNumber = sender.client.sequenceNumber
  strict : receiver.strict = sender.strict
  encode : sender.encode.payload = []
  decode : receiver.decode.payload = []
  state : receiver.state = none
  buffer : receiver.buffer = []
  writeBuffer : sender.writeBuffer = []

/-- What is sent: the circumstances, and the payload. -/
structure Sending where
  env : SendEnv
  payload : Bytes

/-- The socket takes everything, and the payload has an admissible length. -/
structure Sending.Admissible (sending : Sending) : Prop where
  flushed : sending.env.flushError = none
  nonempty : sending.payload ≠ []
  length_le : sending.payload.length ≤ maxPacketPayloadLength

/-- Successive calls of `send_payload`. -/
def DuplexStream.sendAll {η : Type} [PacketEncrypt ε] [PacketEncode η] [PacketMac μ] :
    List Sending → Send ε η δ' μ ζ Unit
  | [] => pure ()
  | sending :: rest => do
    sendPayload sending.env sending.payload
    sendAll rest

/-! ## Sending succeeds -/

namespace DuplexStream

variable {η : Type}

theorem encrypting_run {α : Type} {f : ε → Except Error α × ε} {s : DuplexStream ε η δ' μ ζ} {a : α}
    {e : ε} (h : f s.encrypt = (.ok a, e)) : encrypting f s = .ok a { s with encrypt := e } := by
  unfold encrypting
  rw [h]

theorem calculating_run {α : Type} {f : μ → Except Error α × μ} {s : DuplexStream ε η δ' μ ζ} {a : α}
    {m : μ} (h : f s.calculator = (.ok a, m)) :
    calculating f s = .ok a { s with calculator := m } := by
  unfold calculating
  rw [h]

/-- Without compression a payload stays as it is. -/
theorem compress_run {payload : Bytes} {s : DuplexStream ε NoCompression δ' μ ζ}
    (h : s.encode.payload = []) : compress payload s = .ok payload s := by
  unfold compress
  rw [get_bind]
  split
  · have hsame : ({ payload := [] } : NoCompression) = s.encode := by
      cases hz : s.encode with
      | mk payload =>
        rw [hz] at h
        exact congrArg NoCompression.mk h.symm
    simp only [bind, EStateM.bind, encoding, PacketEncode.update, PacketEncode.finalize, h,
      List.nil_append]
    rw [hsame]
  · rfl

variable [PacketEncrypt ε] [PacketMac μ]

/-- The packet around a payload has room for it and for its padding. -/
theorem packetOf_fits {blockSize : ℕ} (env : SendEnv) {payload : Bytes} (s : DuplexStream ε η δ' μ ζ)
    (hblock : PacketEncrypt.blockSize s.encrypt = blockSize) (hlow : 8 ≤ blockSize)
    (hhigh : blockSize ≤ 252) (hnonempty : payload ≠ [])
    (hlength : payload.length ≤ maxPacketPayloadLength) :
    let packet := packetOf env payload s
    packet.Fits ∧ minPaddingLength ≤ packet.padding.length ∧
      blockSize ∣ coveredLength s.encrypt s.calculator + packet.payload.length +
        packet.padding.length := by
  obtain ⟨hmin, hmax, hdvd⟩ := paddingLength_spec blockSize (by omega)
    (coveredLength s.encrypt s.calculator + payload.length)
  have hpadding : (packetOf env payload s).padding.length =
      paddingLength blockSize (coveredLength s.encrypt s.calculator + payload.length) := by
    rw [← hblock]
    exact SendEnv.length_fill _ _
  refine ⟨⟨hnonempty, hlength, by omega⟩, by omega, ?_⟩
  rw [hpadding]
  exact hdvd

/-- Sealing never fails with a cipher and a MAC that never fail. -/
theorem sealPacket_succeeds [PacketDecrypt δ] {R : ε → δ → Prop} (hR : Inverts R)
    (hnever : NeverFails μ R) {d : δ} {env : SendEnv} {payload : Bytes}
    {s : DuplexStream ε η δ' μ ζ} (hcipher : R s.encrypt d)
    (haligned : PacketEncrypt.blockSize s.encrypt ∣ coveredLength s.encrypt s.calculator +
      (packetOf env payload s).payload.length + (packetOf env payload s).padding.length) :
    ∃ octets s', sealPacket env payload s = .ok octets s' := by
  have hbuild := (packetOf env payload s).length_build
  unfold sealPacket
  by_cases hgalois : PacketEncrypt.isGaloisCounterMode s.encrypt = true
  · have hcovered : coveredLength s.encrypt s.calculator = 1 := if_pos (Or.inl hgalois)
    rw [hcovered, ← hbuild] at haligned
    unfold packetOf at haligned
    rw [hcovered] at haligned
    obtain ⟨e₁, header, e₂, out, e₃, tag, e₄, hnumber, hheader, hout, htag⟩ :=
      hnever.tagged s.client.sequenceNumber (.ofLength (makePacket env
        (PacketEncrypt.blockSize s.encrypt) 1 payload).length) hcipher hgalois haligned
    rw [if_pos hgalois]
    unfold sealGaloisCounterMode
    rw [get_bind, get_bind, bind_of_ok (encrypting_run hnumber), bind_of_ok (encrypting_run hheader),
      encryptAll_eq, bind_of_ok (encrypting_run hout), bind_of_ok (encrypting_run htag)]
    exact ⟨_, _, rfl⟩
  · have hgalois' := Bool.eq_false_iff.mpr hgalois
    rw [if_neg hgalois]
    by_cases hetm : PacketMac.encryptThenMac s.calculator = true
    · have hcovered : coveredLength s.encrypt s.calculator = 1 := if_pos (Or.inr hetm)
      rw [hcovered, ← hbuild] at haligned
      unfold packetOf at haligned
      rw [hcovered] at haligned
      obtain ⟨out, e', hout⟩ := hnever.whole hcipher hgalois' haligned
      obtain ⟨hlen, -⟩ := hR.whole hcipher hgalois' haligned hout
      obtain ⟨tag, m', htag⟩ := hnever.tag s.client.sequenceNumber [toBeBytes (makePacket env
        (PacketEncrypt.blockSize s.encrypt) 1 payload).length, out] s.calculator
      rw [if_pos hetm]
      unfold sealEncryptThenMac
      rw [get_bind, encryptAll_eq, bind_of_ok (encrypting_run hout), if_pos hlen]
      have hmac := calculateTag_eq [toBeBytes (makePacket env
        (PacketEncrypt.blockSize s.encrypt) 1 payload).length, out] { s with encrypt := e' }
      rw [bind_of_ok (hmac.trans (calculating_run htag))]
      exact ⟨_, _, rfl⟩
    · have hcovered : coveredLength s.encrypt s.calculator = 4 + 1 :=
        if_neg (not_or.mpr ⟨hgalois, hetm⟩)
      rw [hcovered, Nat.add_assoc 4, Nat.add_assoc 4, ← hbuild] at haligned
      unfold packetOf at haligned
      rw [hcovered] at haligned
      rw [if_neg hetm]
      unfold sealMacThenEncrypt
      rw [get_bind]
      let packet := makePacket env (PacketEncrypt.blockSize s.encrypt) (4 + 1) payload
      have hwhole : PacketEncrypt.blockSize s.encrypt ∣
          (toBeBytes packet.length ++ packet.build).length := by
        rw [List.length_append, length_toBeBytes]
        exact haligned
      obtain ⟨out, e', hout⟩ := hnever.whole hcipher hgalois' hwhole
      obtain ⟨tag, m', htag⟩ := hnever.tag s.client.sequenceNumber
        [toBeBytes packet.length ++ packet.build] s.calculator
      have hmac := calculateTag_eq [toBeBytes packet.length ++ packet.build] s
      rw [bind_of_ok (hmac.trans (calculating_run htag)), encryptAll_eq,
        bind_of_ok (encrypting_run (s := { s with calculator := m' }) hout)]
      exact ⟨_, _, rfl⟩

/-- Sending never fails either, if the socket takes everything. -/
theorem sendPayload_succeeds [PacketDecrypt δ] [LawfulDecrypt δ] {R : ε → δ → Prop}
    (hR : Inverts R) (hnever : NeverFails μ R) {d : δ} {sending : Sending}
    {s : DuplexStream ε NoCompression δ' μ ζ} (hcipher : R s.encrypt d)
    (hencode : s.encode.payload = []) (hsending : sending.Admissible) :
    ∃ s', sendPayload sending.env sending.payload s = .ok () s' := by
  have hblock := hR.blockSize hcipher
  have height := LawfulDecrypt.eight_le_blockSize d
  obtain ⟨-, -, haligned⟩ := packetOf_fits sending.env s rfl (hblock ▸ height)
    (hR.blockSize_le hcipher) hsending.nonempty hsending.length_le
  obtain ⟨octets, s', hseal⟩ := sealPacket_succeeds hR hnever hcipher haligned
  have hlength := hsending.length_le
  unfold sendPayload
  rw [if_neg hsending.nonempty, if_neg (by omega), bind_of_ok (compress_run hencode),
    bind_of_ok hseal]
  have hflush {s : DuplexStream ε NoCompression δ' μ ζ} : flush sending.env s = .ok () { s with
      written := s.written ++ s.writeBuffer
      writeBuffer := [] } := by
    unfold flush
    rw [hsending.flushed]
  let s₁ := { s' with writeBuffer := s'.writeBuffer ++ octets }
  change ∃ s', (flush sending.env >>= fun _ => _) s₁ = _
  rw [bind_of_ok hflush]
  exact ⟨_, rfl⟩

end DuplexStream

/-! ## One packet -/

/-- Feeding a MAC does not change its constants. -/
theorem PacketMac.flags_feed [PacketMac μ] [LawfulMac μ] (parts : List Bytes) (m : μ) :
    PacketMac.flags (PacketMac.feed parts m).2 = PacketMac.flags m := by
  induction parts generalizing m with
  | nil => rfl
  | cons part rest ih =>
    have hupdate := LawfulMac.flags_update part m
    unfold PacketMac.feed
    rcases hres : PacketMac.update part m with ⟨_ | _, m₁⟩
    · rwa [hres] at hupdate
    · rw [hres] at hupdate
      exact (ih m₁).trans hupdate

theorem PacketMac.length_tagOver [PacketMac μ] [LawfulMac μ] [TagLength μ] {n : UInt32}
    {parts : List Bytes} {m m' : μ} {tag : Bytes} (h : PacketMac.tagOver n parts m = (.ok tag, m')) :
    tag.length = PacketMac.macLen m := by
  have hfeed := PacketMac.flags_feed (toBeBytes n :: parts) m
  unfold PacketMac.tagOver at h
  rcases hres : PacketMac.feed (toBeBytes n :: parts) m with ⟨_ | _, m₁⟩
  · rw [hres] at h
    cases h
  · rw [hres] at h hfeed
    exact (TagLength.length_finalize h).trans (congrArg (·.2) hfeed)

namespace CipherStream

theorem finish_run {env : ReadEnv} {packet : Packet} {s : CipherStream δ μ ζ}
    (hpacket : packet.Fits) :
    finish env packet s = .ok packet { s with
      state := none
      server.sequenceNumber :=
        DuplexStream.nextNumber s.strict packet.payload s.server.sequenceNumber } := by
  obtain ⟨code, rest, hpayload⟩ := List.exists_cons_of_ne_nil hpacket.nonempty
  have hlen := hpacket.payload_le
  let s₁ : CipherStream δ μ ζ := { s with
    state := none
    server.sequenceNumber := s.server.sequenceNumber + 1 }
  have hrun : finish env packet s = (do
      ensure (packet.payload.length ≤ maxPacketPayloadLength ∨ env.strictFeature = false)
        (.transport (.payloadTooLong maxPacketPayloadLength packet.payload.length))
      modify (resetSequenceNumber code)
      return packet : Read δ μ ζ Packet) s₁ := by
    unfold finish
    rw [hpayload]
    rfl
  rw [hrun, bind_of_ok (ensure_run (Or.inl hlen))]
  have hstrict : s.strict = true ↔ s.client.kexStrict = true ∧ s.server.kexStrict = true :=
    Bool.and_eq_true_iff
  have hreset : resetSequenceNumber code s₁ = { s with
      state := none
      server.sequenceNumber :=
        DuplexStream.nextNumber s.strict packet.payload s.server.sequenceNumber } := by
    unfold resetSequenceNumber DuplexStream.nextNumber
    rw [hpayload]
    by_cases hcode : code = sshMsgNewkeys ∧ s.strict = true
    · rw [if_pos ⟨hcode.1, hstrict.mp hcode.2⟩, if_pos ⟨congrArg some hcode.1, hcode.2⟩]
    · rw [if_neg fun h => hcode ⟨h.1, hstrict.mpr h.2⟩,
        if_neg fun h => hcode ⟨Option.some_inj.mp h.1, h.2⟩]
  exact congrArg (EStateM.Result.ok packet) hreset

/-- A packet that the mode has read is returned. -/
theorem readPacket_run [PacketDecrypt δ] [PacketMac μ] {env : ReadEnv} {packet : Packet}
    {s s' : CipherStream δ μ NoCompression} {d : δ} (hpacket : packet.Fits) (hstate : s.state = none)
    (hstart : PacketDecrypt.updateSequenceNumber s.server.sequenceNumber s.decrypt = (.ok (), d))
    (hready : readReady env { s with
      decrypt := d
      state := some { length := none, encrypted := [], decrypted := [] } } = .ok packet s') :
    readPacket env s = .ok packet { s' with
      state := none
      server.sequenceNumber :=
        DuplexStream.nextNumber s'.strict packet.payload s'.server.sequenceNumber } := by
  unfold readPacket
  rw [bind_of_ok (start_run hstate hstart), bind_of_ok hready]
  exact finish_run hpacket

/-- A call that does not change the constants of a cipher has not changed them. -/
theorem flags_of_call {ρ : Type} [PacketDecrypt δ] {f : δ → ρ × δ} {d d' : δ} {result : ρ}
    (hconst : ∀ d, PacketDecrypt.flags (f d).2 = PacketDecrypt.flags d)
    (hcall : f d = (result, d')) : PacketDecrypt.flags d' = PacketDecrypt.flags d := by
  rw [← hconst d, hcall]

variable [PacketEncrypt ε] [PacketDecrypt δ] [PacketMac μ] [LawfulDecrypt δ] [LawfulMac μ]
  [TagLength μ] {R : ε → δ → Prop}

/-- A sealed packet at the front of the buffer is read as it was made, and the cipher that is left
matches the one that has sealed it. -/
theorem readPacket_of_sealed (hR : Inverts R) {packet : Packet} {e e' : ε} {m m' : μ}
    {octets : Bytes} {s : CipherStream δ μ NoCompression}
    (hsealed : Sealed s.server.sequenceNumber packet e m octets e' m') (hcipher : R e s.decrypt)
    (hmac : s.verify = m) (hstate : s.state = none) (hdecode : s.decode.payload = [])
    (hpacket : packet.Fits) (haligned : PacketEncrypt.blockSize e ∣
      coveredLength e m + packet.payload.length + packet.padding.length) :
    ∃ d', R e' d' ∧ PacketDecrypt.flags d' = PacketDecrypt.flags s.decrypt ∧
      ∀ env rest, readPacket env { s with buffer := octets ++ rest } = .ok packet { s with
        buffer := rest
        decrypt := d'
        verify := m'
        state := none
        server.sequenceNumber :=
          DuplexStream.nextNumber s.strict packet.payload s.server.sequenceNumber } := by
  have hbuild := packet.length_build
  have hblock := hR.blockSize hcipher
  have height := LawfulDecrypt.eight_le_blockSize s.decrypt
  have hflags := hR.isGaloisCounterMode hcipher
  subst hmac
  have htaglen {parts : List Bytes} {tag : Bytes} :
      PacketMac.tagOver s.server.sequenceNumber parts s.verify = (.ok tag, m') →
        tag.length = PacketMac.macLen s.verify := PacketMac.length_tagOver
  -- one run of `read_packet` for each way in which packets are sealed
  cases hsealed with
  | galoisCounter hmode hnumber hheader hout htag =>
    rename_i e₁ e₂ e₃ header out tag
    have hdvd : PacketEncrypt.blockSize e ∣ packet.build.length := by
      rw [coveredLength, if_pos (Or.inl hmode)] at haligned
      rwa [hbuild]
    obtain ⟨hlen, htaglen, d₁, d₂, p, d₃, d₄, q, d', hstart, haad, hupdate, hauth, hfinalize, hdata,
      hmatch⟩ := hR.tagged hcipher hmode hnumber hheader hout htag
    have hconst₁ : PacketDecrypt.flags d₁ = PacketDecrypt.flags s.decrypt :=
      flags_of_call (LawfulDecrypt.flags_updateSequenceNumber _) hstart
    have hconst₂ : PacketDecrypt.flags d₂ = PacketDecrypt.flags s.decrypt :=
      (flags_of_call (LawfulDecrypt.flags_additionalAuthenticatedData _) haad).trans hconst₁
    have hconst : PacketDecrypt.flags d' = PacketDecrypt.flags s.decrypt :=
      calc PacketDecrypt.flags d'
        _ = PacketDecrypt.flags d₄ := flags_of_call LawfulDecrypt.flags_finalize hfinalize
        _ = PacketDecrypt.flags d₃ := flags_of_call (LawfulDecrypt.flags_authenticationTag _) hauth
        _ = PacketDecrypt.flags d₂ := flags_of_call (LawfulDecrypt.flags_update _) hupdate
        _ = PacketDecrypt.flags s.decrypt := hconst₂
    have htagLen : PacketDecrypt.tagLen d₂ = PacketDecrypt.tagLen s.decrypt :=
      congrArg (·.2.2) hconst₂
    have hgalois : PacketDecrypt.isGaloisCounterMode d₁ = true := by
      rw [show PacketDecrypt.isGaloisCounterMode d₁ = _ from congrArg (·.1) hconst₁]
      exact hflags.trans hmode
    refine ⟨d', hmatch, hconst, fun env rest => ?_⟩
    let s₁ : CipherStream δ μ NoCompression := { s with
      buffer := header.octets ++ out ++ tag ++ rest
      decrypt := d₁
      state := some { length := none, encrypted := [], decrypted := [] } }
    have hread := readGaloisCounterMode_run env (s := s₁) hpacket hdecode rfl rfl hlen
      (htaglen.trans htagLen.symm) (htagLen ▸ hR.tagLen_le hcipher) haad hupdate hauth hfinalize
      hdata
    exact readPacket_run (s := { s with buffer := header.octets ++ out ++ tag ++ rest }) hpacket
      hstate hstart ((if_pos hgalois).trans hread)
  | encryptThenMac hmode hetm hout htag =>
    rename_i out tag
    have hdvd : PacketEncrypt.blockSize e ∣ packet.build.length := by
      rw [coveredLength, if_pos (Or.inr hetm)] at haligned
      rwa [hbuild]
    obtain ⟨d₀, hstart, hcipher₀⟩ := hR.number s.server.sequenceNumber hcipher hmode
    obtain ⟨hlen, p, d₁, q, d', hupdate, hfinalize, hdata, hmatch⟩ :=
      hR.whole hcipher₀ hmode hdvd hout
    have hgalois : ¬ PacketDecrypt.isGaloisCounterMode d₀ = true := by
      rw [hR.isGaloisCounterMode hcipher₀, hmode]
      exact Bool.false_ne_true
    have hconst : PacketDecrypt.flags d' = PacketDecrypt.flags s.decrypt :=
      calc PacketDecrypt.flags d'
        _ = PacketDecrypt.flags d₁ := flags_of_call LawfulDecrypt.flags_finalize hfinalize
        _ = PacketDecrypt.flags d₀ := flags_of_call (LawfulDecrypt.flags_update _) hupdate
        _ = PacketDecrypt.flags s.decrypt :=
          flags_of_call (LawfulDecrypt.flags_updateSequenceNumber _) hstart
    refine ⟨d', hmatch, hconst, fun env rest => ?_⟩
    let s₁ : CipherStream δ μ NoCompression := { s with
      buffer := toBeBytes packet.length ++ out ++ tag ++ rest
      decrypt := d₀
      state := some { length := none, encrypted := [], decrypted := [] } }
    have hread := readEncryptThenMac_run env (s := s₁) hpacket hdecode rfl rfl rfl hlen
      (htaglen htag) (TagLength.macLen_le s.verify) htag hupdate hfinalize hdata
    exact readPacket_run (s := { s with buffer := toBeBytes packet.length ++ out ++ tag ++ rest })
      hpacket hstate hstart
      ((if_neg hgalois).trans ((if_pos hetm).trans hread))
  | macThenEncrypt hmode hetm htag hout =>
    rename_i out tag
    have hdvd : PacketEncrypt.blockSize e ∣ (toBeBytes packet.length ++ packet.build).length := by
      rw [coveredLength, if_neg (by simp [hmode, hetm])] at haligned
      rw [List.length_append, length_toBeBytes, hbuild]
      rwa [show 4 + (1 + packet.payload.length + packet.padding.length) =
        4 + 1 + packet.payload.length + packet.padding.length by omega]
    -- the first block is decrypted before the rest has arrived
    have hfits : PacketEncrypt.blockSize e ≤ (toBeBytes packet.length ++ packet.build).length :=
      Nat.le_of_dvd (by rw [List.length_append, length_toBeBytes]; omega) hdvd
    obtain ⟨d₀, hstart, hcipher₀⟩ := hR.number s.server.sequenceNumber hcipher hmode
    obtain ⟨hlen, -⟩ := hR.whole hcipher₀ hmode hdvd hout
    obtain ⟨first, d₁, p, d₂, q, d', hupdate, hrest, hfinalize, hfirst, hdata, hmatch⟩ :=
      hR.split hcipher₀ hmode hdvd hfits hout
    have hgalois : ¬ PacketDecrypt.isGaloisCounterMode d₀ = true := by
      rw [hR.isGaloisCounterMode hcipher₀, hmode]
      exact Bool.false_ne_true
    have hconst : PacketDecrypt.flags d' = PacketDecrypt.flags s.decrypt :=
      calc PacketDecrypt.flags d'
        _ = PacketDecrypt.flags d₂ := flags_of_call LawfulDecrypt.flags_finalize hfinalize
        _ = PacketDecrypt.flags d₁ := flags_of_call (LawfulDecrypt.flags_update _) hrest
        _ = PacketDecrypt.flags d₀ := flags_of_call (LawfulDecrypt.flags_update _) hupdate
        _ = PacketDecrypt.flags s.decrypt :=
          flags_of_call (LawfulDecrypt.flags_updateSequenceNumber _) hstart
    refine ⟨d', hmatch, hconst, fun env rest => ?_⟩
    let s₁ : CipherStream δ μ NoCompression := { s with
      buffer := out ++ tag ++ rest
      decrypt := d₀
      state := some { length := none, encrypted := [], decrypted := [] } }
    obtain ⟨ready, hread⟩ := readMacThenEncrypt_run env (s := s₁) hpacket hdecode rfl
      (hR.blockSize hcipher₀) (hblock ▸ height) rfl hlen (hlen ▸ hfits) (htaglen htag)
      (TagLength.macLen_le s.verify) hupdate hrest hfinalize hfirst hdata htag
    have hetm' : ¬ PacketMac.encryptThenMac s.verify = true := by simp [hetm]
    exact readPacket_run (s := { s with buffer := out ++ tag ++ rest }) hpacket hstate hstart
      ((if_neg hgalois).trans ((if_neg hetm').trans hread))

end CipherStream

/-! ## A sequence of packets -/

section Sequence

variable [PacketEncrypt ε] [PacketDecrypt δ] [PacketMac μ] {R : ε → δ → Prop}
  {sender sender' : DuplexStream ε NoCompression δ' μ ζ} {receiver : CipherStream δ μ NoCompression}

/-- What `read_packet` returns for a payload: the payload, and a padding that fits into its octet and
fills the last of the blocks that have been encrypted. -/
structure Carries (blockSize covered : ℕ) (payload : Bytes) (packet : Packet) : Prop where
  payload : packet.payload = payload
  padding_ge : 4 ≤ packet.padding.length
  padding_le : packet.padding.length ≤ 255
  aligned : blockSize ∣ covered + packet.payload.length + packet.padding.length

variable [LawfulDecrypt δ] [LawfulMac μ] [TagLength μ]

omit [LawfulDecrypt δ] [LawfulMac μ] [TagLength μ] in
/-- What the blocks of a packet hold besides payload and padding depends on constants only. -/
theorem coveredLength_of_flags {e e' : ε} {m m' : μ} {d d' : δ} (hR : Inverts R) (h : R e d)
    (h' : R e' d') (hd : PacketDecrypt.flags d' = PacketDecrypt.flags d)
    (hm : PacketMac.flags m' = PacketMac.flags m) :
    PacketEncrypt.blockSize e' = PacketEncrypt.blockSize e ∧
      coveredLength e' m' = coveredLength e m := by
  have hmode : PacketEncrypt.isGaloisCounterMode e' = PacketEncrypt.isGaloisCounterMode e := by
    rw [← hR.isGaloisCounterMode h, ← hR.isGaloisCounterMode h']
    exact congrArg (·.1) hd
  have hetm : PacketMac.encryptThenMac m' = PacketMac.encryptThenMac m := congrArg (·.1) hm
  refine ⟨?_, by simp only [coveredLength, hmode, hetm]⟩
  rw [← hR.blockSize h, ← hR.blockSize h']
  exact congrArg (·.2.1) hd

omit [PacketDecrypt δ] [LawfulDecrypt δ] [TagLength μ] in
/-- Sealing a packet does not change the constants of the MAC. -/
theorem Sealed.flags_mac {n : UInt32} {packet : Packet} {e e' : ε} {m m' : μ} {octets : Bytes}
    (h : Sealed n packet e m octets e' m') : PacketMac.flags m' = PacketMac.flags m := by
  have htagOver {parts : List Bytes} {tag : Bytes}
      (htag : PacketMac.tagOver n parts m = (.ok tag, m')) :
      PacketMac.flags m' = PacketMac.flags m := by
    have hfeed := PacketMac.flags_feed (toBeBytes n :: parts) m
    unfold PacketMac.tagOver at htag
    rcases hres : PacketMac.feed (toBeBytes n :: parts) m with ⟨_ | _, m₁⟩
    · rw [hres] at htag
      cases htag
    · rw [hres] at htag hfeed
      have hfinalize := LawfulMac.flags_finalize m₁
      rw [show PacketMac.finalize m₁ = (.ok tag, m') from htag] at hfinalize
      exact hfinalize.trans hfeed
  cases h with
  | galoisCounter => rfl
  | encryptThenMac _ _ _ htag => exact htagOver htag
  | macThenEncrypt _ _ htag _ => exact htagOver htag

/-- One packet is sent and read, and the streams match again, with the constants they had. -/
theorem Matches.step (hR : Inverts R) (h : Matches R sender receiver) {sending : Sending}
    (hsending : sending.Admissible)
    (hsend : DuplexStream.sendPayload sending.env sending.payload sender = .ok () sender') :
    ∃ octets packet receiver', sender'.written = sender.written ++ octets ∧
      (∀ env more, CipherStream.readPacket env (receiver.receive (octets ++ more)) =
        .ok packet (receiver'.receive more)) ∧
      Carries (PacketEncrypt.blockSize sender.encrypt)
        (coveredLength sender.encrypt sender.calculator) sending.payload packet ∧
      Matches R sender' receiver' ∧
      PacketEncrypt.blockSize sender'.encrypt = PacketEncrypt.blockSize sender.encrypt ∧
      coveredLength sender'.encrypt sender'.calculator =
        coveredLength sender.encrypt sender.calculator := by
  obtain ⟨content, octets, hsent⟩ := DuplexStream.sendPayload_eq_ok hsend
  -- without compression the content is the payload
  have hcontent : content = sending.payload ∧ sender'.encode = sender.encode := by
    have hcompressed := hsent.compressed
    rw [DuplexStream.compress_run h.encode] at hcompressed
    injection hcompressed with hcontent hencode
    exact ⟨hcontent.symm, (congrArg DuplexStream.encode hencode).symm⟩
  obtain ⟨rfl, hencode⟩ := hcontent
  have hblock := hR.blockSize h.cipher
  have height := LawfulDecrypt.eight_le_blockSize receiver.decrypt
  obtain ⟨hfits, hmin, haligned⟩ := DuplexStream.packetOf_fits sending.env sender rfl
    (hblock ▸ height) (hR.blockSize_le h.cipher) hsending.nonempty hsending.length_le
  let packet := DuplexStream.packetOf sending.env sending.payload sender
  have hsealed := hsent.sealed
  rw [← h.number] at hsealed
  obtain ⟨d', hcipher, hflags, hread⟩ := CipherStream.readPacket_of_sealed hR hsealed h.cipher
    h.mac h.state h.decode hfits haligned
  have hconst := coveredLength_of_flags hR h.cipher hcipher hflags hsealed.flags_mac
  have hafter := hsent.after
  have hwritten : sender'.written = sender.written ++ octets := by
    rw [hafter, h.writeBuffer]
    rfl
  refine ⟨octets, packet, { receiver with
    decrypt := d'
    verify := sender'.calculator
    server.sequenceNumber := DuplexStream.nextNumber receiver.strict sending.payload
      receiver.server.sequenceNumber }, hwritten, ?_, ⟨rfl, hmin, hfits.padding_le, haligned⟩, ?_,
    hconst⟩
  · intro env more
    rw [CipherStream.receive, h.buffer, List.nil_append, hread]
    refine congrArg (EStateM.Result.ok packet) ?_
    rw [CipherStream.receive, h.state]
    rfl
  · refine ⟨hcipher, rfl, ?_, ?_, hencode ▸ h.encode, h.decode, h.state, h.buffer, ?_⟩
    · rw [hafter, h.strict, h.number]
    · rw [hafter]
      exact h.strict
    · rw [hafter]

/-- A sequence of payloads is sent and read. -/
theorem Matches.run (hR : Inverts R) (hnever : NeverFails μ R) (env : ReadEnv)
    {sendings : List Sending} (hsendings : ∀ sending ∈ sendings, sending.Admissible)
    (h : Matches R sender receiver) :
    ∃ sender' octets packets receiver',
      DuplexStream.sendAll sendings sender = .ok () sender' ∧
      sender'.written = sender.written ++ octets ∧
      (∀ more, CipherStream.readAll env .keep sendings.length (receiver.receive (octets ++ more)) =
        (packets, .inr (receiver'.receive more))) ∧
      List.Forall₂ (Carries (PacketEncrypt.blockSize sender.encrypt)
        (coveredLength sender.encrypt sender.calculator)) (sendings.map Sending.payload) packets ∧
      Matches R sender' receiver' := by
  induction sendings generalizing sender receiver with
  | nil => exact ⟨sender, [], [], receiver, rfl, by simp, fun more => rfl, .nil, h⟩
  | cons sending rest ih =>
    have hsending := hsendings sending List.mem_cons_self
    obtain ⟨sender₁, hsend⟩ := DuplexStream.sendPayload_succeeds hR hnever h.cipher h.encode hsending
    obtain ⟨octets₁, packet, receiver₁, hwritten₁, hread₁, hcarries, h₁, hblock, hcovered⟩ :=
      h.step hR hsending hsend
    obtain ⟨sender₂, octets₂, packets, receiver₂, hrest, hwritten₂, hread₂, hall, h₂⟩ :=
      ih (fun s hs => hsendings s (List.mem_cons_of_mem sending hs)) h₁
    rw [hblock, hcovered] at hall
    refine ⟨sender₂, octets₁ ++ octets₂, packet :: packets, receiver₂, ?_, ?_, ?_,
      .cons hcarries hall, h₂⟩
    · unfold DuplexStream.sendAll
      rw [bind_of_ok hsend, hrest]
    · rw [hwritten₂, hwritten₁, List.append_assoc]
    · intro more
      rw [List.append_assoc, List.length_cons, CipherStream.readAll, hread₁]
      change (packet :: (CipherStream.readAll env .keep rest.length
          (receiver₁.receive (octets₂ ++ more))).1,
        (CipherStream.readAll env .keep rest.length (receiver₁.receive (octets₂ ++ more))).2) = _
      rw [hread₂]

end Sequence

end Flatline
