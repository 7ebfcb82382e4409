import Flatline.Common.Triple
import Flatline.Transport.Duplex

/-!
# Sealed packets

`Sealed` says what cipher and MAC have done to a packet that `send_payload` has put on the wire, one
constructor for each mode.
-/

namespace Flatline

open Triple

/-! ## Cipher and MAC as functions of their states -/

variable {ε η δ μ ζ : Type}

/-- Encrypt `data` to its end. -/
def PacketEncrypt.whole [PacketEncrypt ε] (data : Bytes) (e : ε) : Except Error Bytes × ε :=
  match PacketEncrypt.update data e with
  | (.error error, e) => (.error error, e)
  | (.ok updated, e) =>
    match PacketEncrypt.finalize e with
    | (.error error, e) => (.error error, e)
    | (.ok finalized, e) => (.ok (updated ++ finalized), e)

/-- Feed a MAC with one part after the other. -/
def PacketMac.feed [PacketMac μ] : List Bytes → μ → Except Error Unit × μ
  | [], m => (.ok (), m)
  | part :: rest, m =>
    match PacketMac.update part m with
    | (.ok (), m) => PacketMac.feed rest m
    | (.error error, m) => (.error error, m)

/-- The tag over a sequence number and what follows it. -/
def PacketMac.tagOver [PacketMac μ] (number : UInt32) (parts : List Bytes) (m : μ) :
    Except Error Bytes × μ :=
  match PacketMac.feed (toBeBytes number :: parts) m with
  | (.ok (), m) => PacketMac.finalize m
  | (.error error, m) => (.error error, m)

/-- What has been done to a packet: the cipher and the MAC before, the octets on the wire, the cipher
and the MAC after. -/
inductive Sealed [PacketEncrypt ε] [PacketMac μ] (number : UInt32) (packet : Packet) :
    ε → μ → Bytes → ε → μ → Prop
  | galoisCounter {e e₁ e₂ e₃ e₄ : ε} {m : μ} {header : Header} {out tag : Bytes}
      (hmode : PacketEncrypt.isGaloisCounterMode e = true)
      (hnumber : PacketEncrypt.updateSequenceNumber number e = (.ok (), e₁))
      (hheader : PacketEncrypt.additionalAuthenticatedData (.ofLength packet.length) e₁ =
        (.ok header, e₂))
      (hout : PacketEncrypt.whole packet.build e₂ = (.ok out, e₃))
      (htag : PacketEncrypt.authenticationTag e₃ = (.ok tag, e₄)) :
      Sealed number packet e m (header.octets ++ out ++ tag) e₄ m
  | encryptThenMac {e e' : ε} {m m' : μ} {out tag : Bytes}
      (hmode : PacketEncrypt.isGaloisCounterMode e = false)
      (hmac : PacketMac.encryptThenMac m = true)
      (hout : PacketEncrypt.whole packet.build e = (.ok out, e'))
      (htag : PacketMac.tagOver number [toBeBytes packet.length, out] m = (.ok tag, m')) :
      Sealed number packet e m (toBeBytes packet.length ++ out ++ tag) e' m'
  | macThenEncrypt {e e' : ε} {m m' : μ} {out tag : Bytes}
      (hmode : PacketEncrypt.isGaloisCounterMode e = false)
      (hmac : PacketMac.encryptThenMac m = false)
      (htag : PacketMac.tagOver number [toBeBytes packet.length ++ packet.build] m = (.ok tag, m'))
      (hout : PacketEncrypt.whole (toBeBytes packet.length ++ packet.build) e = (.ok out, e')) :
      Sealed number packet e m (out ++ tag) e' m'

/-- How many octets the blocks of a packet hold besides its payload and its padding: in the modes
that do not encrypt the length field, only the padding length. -/
def coveredLength [PacketEncrypt ε] [PacketMac μ] (e : ε) (m : μ) : ℕ :=
  if PacketEncrypt.isGaloisCounterMode e = true ∨ PacketMac.encryptThenMac m = true then 1
  else 4 + 1

/-! ## `send_payload` -/

namespace DuplexStream

theorem encrypting_eq_ok {α : Type} {f : ε → Except Error α × ε} {s s' : DuplexStream ε η δ μ ζ}
    {a : α} (h : encrypting f s = .ok a s') :
    f s.encrypt = (.ok a, s'.encrypt) ∧ s' = { s with encrypt := s'.encrypt } := by
  unfold encrypting at h
  split at h
  · next a' e hres =>
      injection h with ha hs
      subst ha hs
      exact ⟨hres, rfl⟩
  · cases h

theorem calculating_eq_ok {α : Type} {f : μ → Except Error α × μ} {s s' : DuplexStream ε η δ μ ζ}
    {a : α} (h : calculating f s = .ok a s') :
    f s.calculator = (.ok a, s'.calculator) ∧ s' = { s with calculator := s'.calculator } := by
  unfold calculating at h
  split at h
  · next a' m hres =>
      injection h with ha hs
      subst ha hs
      exact ⟨hres, rfl⟩
  · cases h

/-- Encrypting to the end is one call of the cipher. -/
theorem encryptAll_eq [PacketEncrypt ε] (data : Bytes) :
    (encryptAll data : Send ε η δ μ ζ Bytes) = encrypting (PacketEncrypt.whole data) := by
  funext s
  unfold encryptAll PacketEncrypt.whole
  simp only [bind, EStateM.bind, encrypting]
  rcases PacketEncrypt.update data s.encrypt with ⟨_ | updated, e⟩
  · rfl
  · dsimp only
    rcases PacketEncrypt.finalize e with ⟨_ | finalized, e⟩ <;> rfl

/-- Feeding the parts is one call of the MAC. -/
theorem forM_calculating [PacketMac μ] (parts : List Bytes) :
    (parts.forM fun part => calculating (PacketMac.update part) : Send ε η δ μ ζ PUnit) =
      calculating (PacketMac.feed parts) := by
  induction parts with
  | nil => rfl
  | cons part rest ih =>
    funext s
    change (calculating (PacketMac.update part) >>= fun _ =>
      (rest.forM fun part => calculating (PacketMac.update part))) s = _
    rw [ih]
    simp only [bind, EStateM.bind, calculating, PacketMac.feed]
    rcases PacketMac.update part s.calculator with ⟨_ | _, m⟩ <;> rfl

theorem calculateTag_eq [PacketMac μ] (parts : List Bytes) (s : DuplexStream ε η δ μ ζ) :
    calculateTag parts s = calculating (PacketMac.tagOver s.client.sequenceNumber parts) s := by
  have hrun : calculateTag parts s =
      ((calculating (PacketMac.update (toBeBytes s.client.sequenceNumber)) >>= fun _ =>
        (parts.forM fun part => calculating (PacketMac.update part)) >>= fun _ =>
          calculating PacketMac.finalize) : Send ε η δ μ ζ Bytes) s := rfl
  rw [hrun, forM_calculating]
  unfold PacketMac.tagOver
  simp only [bind, EStateM.bind, calculating, PacketMac.feed]
  rcases PacketMac.update (toBeBytes s.client.sequenceNumber) s.calculator with ⟨_ | _, m⟩
  · rfl
  · dsimp only
    rcases PacketMac.feed parts m with ⟨_ | _, m⟩
    · rfl
    · dsimp only

/-- The packet `send_payload` makes of a payload. -/
def packetOf [PacketEncrypt ε] [PacketMac μ] (env : SendEnv) (payload : Bytes)
    (s : DuplexStream ε η δ μ ζ) : Packet :=
  makePacket env (PacketEncrypt.blockSize s.encrypt) (coveredLength s.encrypt s.calculator) payload

/-- What sealing a packet comes to. -/
theorem sealPacket_eq_ok [PacketEncrypt ε] [PacketMac μ] {env : SendEnv} {payload octets : Bytes}
    {s s' : DuplexStream ε η δ μ ζ} (h : sealPacket env payload s = .ok octets s') :
    Sealed s.client.sequenceNumber (packetOf env payload s) s.encrypt s.calculator octets
        s'.encrypt s'.calculator ∧
      s' = { s with encrypt := s'.encrypt, calculator := s'.calculator } := by
  unfold sealPacket at h
  by_cases hgalois : PacketEncrypt.isGaloisCounterMode s.encrypt = true
  · rw [if_pos hgalois] at h
    have hpacket : packetOf env payload s =
        makePacket env (PacketEncrypt.blockSize s.encrypt) 1 payload := by
      unfold packetOf coveredLength
      rw [if_pos (Or.inl hgalois)]
    rw [hpacket]
    unfold sealGaloisCounterMode at h
    rw [get_bind, get_bind] at h
    obtain ⟨_, s₁, hnumber, h⟩ := bind_eq_ok_iff.mp h
    obtain ⟨header, s₂, hheader, h⟩ := bind_eq_ok_iff.mp h
    obtain ⟨out, s₃, hout, h⟩ := bind_eq_ok_iff.mp h
    obtain ⟨tag, s₄, htag, h⟩ := bind_eq_ok_iff.mp h
    obtain ⟨hnumber, hs₁⟩ := encrypting_eq_ok hnumber
    obtain ⟨hheader, hs₂⟩ := encrypting_eq_ok hheader
    rw [encryptAll_eq] at hout
    obtain ⟨hout, hs₃⟩ := encrypting_eq_ok hout
    obtain ⟨htag, hs₄⟩ := encrypting_eq_ok htag
    injection h with ho hs
    subst ho hs
    have hsame : s₄ = { s with encrypt := s₄.encrypt } := by
      rw [hs₄, hs₃, hs₂, hs₁]
    have hmac : s₄.calculator = s.calculator := by rw [hsame]
    rw [hmac]
    exact ⟨.galoisCounter hgalois hnumber hheader hout htag, hsame⟩
  · rw [if_neg hgalois] at h
    have hgalois' := Bool.eq_false_iff.mpr hgalois
    by_cases hetm : PacketMac.encryptThenMac s.calculator = true
    · rw [if_pos hetm] at h
      have hpacket : packetOf env payload s =
          makePacket env (PacketEncrypt.blockSize s.encrypt) 1 payload := by
        unfold packetOf coveredLength
        rw [if_pos (Or.inr hetm)]
      rw [hpacket]
      unfold sealEncryptThenMac at h
      rw [get_bind] at h
      obtain ⟨out, s₁, hout, h⟩ := bind_eq_ok_iff.mp h
      rw [encryptAll_eq] at hout
      obtain ⟨hout, hs₁⟩ := encrypting_eq_ok hout
      -- the source asserts that the cipher has changed no length
      split at h
      · obtain ⟨tag, s₂, htag, h⟩ := bind_eq_ok_iff.mp h
        rw [calculateTag_eq] at htag
        obtain ⟨htag, hs₂⟩ := calculating_eq_ok htag
        injection h with ho hs
        subst ho hs
        have hnumber : s₁.client = s.client := by rw [hs₁]
        have hmac : s₁.calculator = s.calculator := by rw [hs₁]
        have hcipher : s₂.encrypt = s₁.encrypt := by rw [hs₂]
        rw [hnumber, hmac] at htag
        rw [hcipher]
        exact ⟨.encryptThenMac hgalois' hetm hout htag, by rw [hs₂, hs₁]⟩
      · cases h
    · rw [if_neg hetm] at h
      have hpacket : packetOf env payload s =
          makePacket env (PacketEncrypt.blockSize s.encrypt) (4 + 1) payload := by
        unfold packetOf coveredLength
        rw [if_neg (not_or.mpr ⟨hgalois, hetm⟩)]
      rw [hpacket]
      unfold sealMacThenEncrypt at h
      rw [get_bind] at h
      obtain ⟨tag, s₁, htag, h⟩ := bind_eq_ok_iff.mp h
      rw [calculateTag_eq] at htag
      obtain ⟨htag, hs₁⟩ := calculating_eq_ok htag
      obtain ⟨out, s₂, hout, h⟩ := bind_eq_ok_iff.mp h
      rw [encryptAll_eq] at hout
      obtain ⟨hout, hs₂⟩ := encrypting_eq_ok hout
      injection h with ho hs
      subst ho hs
      have hcipher : s₁.encrypt = s.encrypt := by rw [hs₁]
      have hmac : s₂.calculator = s₁.calculator := by rw [hs₂]
      rw [hcipher] at hout
      rw [hmac]
      exact ⟨.macThenEncrypt hgalois' (Bool.eq_false_iff.mpr hetm) htag hout, by rw [hs₂, hs₁]⟩

/-- What `send_payload` comes to when it returns: the payload, perhaps compressed to `content`, has
been sealed under the sequence number the stream had, and the socket has taken everything. -/
structure Sent [PacketEncrypt ε] [PacketEncode η] [PacketMac μ] (env : SendEnv) (payload : Bytes)
    (content octets : Bytes) (s s' : DuplexStream ε η δ μ ζ) : Prop where
  nonempty : payload ≠ []
  length_le : payload.length ≤ maxPacketPayloadLength
  compressed : compress payload s = .ok content { s with encode := s'.encode }
  sealed : Sealed s.client.sequenceNumber (packetOf env content s) s.encrypt s.calculator octets
    s'.encrypt s'.calculator
  flushed : env.flushError = none
  after : s' = { s with
    encrypt := s'.encrypt
    encode := s'.encode
    calculator := s'.calculator
    client.sequenceNumber := nextNumber s.strict payload s.client.sequenceNumber
    writeBuffer := []
    written := s.written ++ (s.writeBuffer ++ octets) }

theorem compress_eq_ok [PacketEncode η] {payload content : Bytes} {s s' : DuplexStream ε η δ μ ζ}
    (h : compress payload s = .ok content s') : s' = { s with encode := s'.encode } := by
  have hencoding : ∀ {α : Type} {f : η → Except Error α × η} {s s' : DuplexStream ε η δ μ ζ} {a : α},
      encoding f s = .ok a s' → s' = { s with encode := s'.encode } := by
    intro α f s s' a h
    unfold encoding at h
    split at h
    · injection h with _ hs
      rw [← hs]
    · cases h
  unfold compress at h
  rw [get_bind] at h
  split at h
  · obtain ⟨_, s₁, hupdate, hfinalize⟩ := bind_eq_ok_iff.mp h
    rw [hencoding hfinalize, hencoding hupdate]
  · injection h with _ hs
    rw [hs]

theorem sendPayload_eq_ok [PacketEncrypt ε] [PacketEncode η] [PacketMac μ] {env : SendEnv}
    {payload : Bytes} {s s' : DuplexStream ε η δ μ ζ} (h : sendPayload env payload s = .ok () s') :
    ∃ content octets, Sent env payload content octets s s' := by
  unfold sendPayload at h
  by_cases hne : payload = []
  · rw [if_pos hne] at h
    cases h
  · rw [if_neg hne] at h
    by_cases hlen : payload.length > maxPacketPayloadLength
    · rw [if_pos hlen] at h
      cases h
    · rw [if_neg hlen] at h
      obtain ⟨content, s₁, hcompress, h⟩ := bind_eq_ok_iff.mp h
      obtain ⟨octets, s₂, hseal, h⟩ := bind_eq_ok_iff.mp h
      obtain ⟨_, s₃, hput, h⟩ := bind_eq_ok_iff.mp h
      obtain ⟨_, s₄, hflush, h⟩ := bind_eq_ok_iff.mp h
      have hs₁ := compress_eq_ok hcompress
      obtain ⟨hsealed, hs₂⟩ := sealPacket_eq_ok hseal
      injection hput with _ hput
      injection h with _ h
      unfold flush at hflush
      cases hfails : env.flushError with
      | some n =>
        rw [hfails] at hflush
        cases hflush
      | none =>
        rw [hfails] at hflush
        injection hflush with _ hflush
        have hencode : s'.encode = s₁.encode := by rw [← h, ← hflush, ← hput, hs₂]
        have hencrypt : s'.encrypt = s₂.encrypt := by rw [← h, ← hflush, ← hput]
        have hcalculator : s'.calculator = s₂.calculator := by rw [← h, ← hflush, ← hput]
        have hclient : s₁.client = s.client := by rw [hs₁]
        have hcipher : s₁.encrypt = s.encrypt := by rw [hs₁]
        have hmac : s₁.calculator = s.calculator := by rw [hs₁]
        refine ⟨content, octets, hne, by omega, ?_, ?_, hfails, ?_⟩
        · rw [hencode, ← hs₁]
          exact hcompress
        · have hpacket : packetOf env content s₁ = packetOf env content s := by
            unfold packetOf
            rw [hcipher, hmac]
          rw [hencrypt, hcalculator, ← hpacket, ← hclient, ← hcipher, ← hmac]
          exact hsealed
        · rw [hencode, hencrypt, hcalculator, ← h, ← hflush, ← hput, hs₂, hs₁]
          rfl

end DuplexStream

end Flatline
