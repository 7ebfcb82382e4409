import Flatline.Cipher.ChachaPoly
import Flatline.Cipher.GaloisCounterPackets
import Flatline.Transport.Connection
import Flatline.Transport.Embedding

/-!
# Cipher suites

The trait objects of the cipher registries, and what a connection carries with them. Keys are put in
use again and again, with any cipher and any MAC of the registries each time; what the one side has
sent by then, the other has read.

Source: `src/cipher/crypt.rs` (the registries), `src/ssh/stream.rs` (`upgrade_client`,
`upgrade_server`).
-/

namespace Flatline

open Triple

/-! ## Trait objects -/

/-- What the ciphers and the MACs call. -/
structure CipherLibrary where
  evp : Evp
  chacha : ChachaCalls
  gcm : GcmCalls
  hmac : SignCalls

variable {o : CipherLibrary}

/-- `dyn Encrypt`. -/
inductive DynEncrypt (o : CipherLibrary) where
  | chacha (e : ChachaEncrypt o.chacha)
  | gcm (e : GcmEncrypt o.gcm)
  | block (e : CounterModeOrCipherBlockChaining o.evp)

/-- `dyn Decrypt`. -/
inductive DynDecrypt (o : CipherLibrary) where
  | chacha (d : ChachaDecrypt o.chacha)
  | gcm (d : GcmDecrypt o.gcm)
  | block (d : BlockDecrypt o.evp)

instance : PacketEncrypt (DynEncrypt o) where
  blockSize
    | .chacha e => PacketEncrypt.blockSize e
    | .gcm e => PacketEncrypt.blockSize e
    | .block e => PacketEncrypt.blockSize e
  isGaloisCounterMode
    | .chacha e => PacketEncrypt.isGaloisCounterMode e
    | .gcm e => PacketEncrypt.isGaloisCounterMode e
    | .block e => PacketEncrypt.isGaloisCounterMode e
  updateSequenceNumber n
    | .chacha e => (PacketEncrypt.updateSequenceNumber n e).map id .chacha
    | .gcm e => (PacketEncrypt.updateSequenceNumber n e).map id .gcm
    | .block e => (PacketEncrypt.updateSequenceNumber n e).map id .block
  additionalAuthenticatedData header
    | .chacha e => (PacketEncrypt.additionalAuthenticatedData header e).map id .chacha
    | .gcm e => (PacketEncrypt.additionalAuthenticatedData header e).map id .gcm
    | .block e => (PacketEncrypt.additionalAuthenticatedData header e).map id .block
  update data
    | .chacha e => (PacketEncrypt.update data e).map id .chacha
    | .gcm e => (PacketEncrypt.update data e).map id .gcm
    | .block e => (PacketEncrypt.update data e).map id .block
  finalize
    | .chacha e => (PacketEncrypt.finalize e).map id .chacha
    | .gcm e => (PacketEncrypt.finalize e).map id .gcm
    | .block e => (PacketEncrypt.finalize e).map id .block
  authenticationTag
    | .chacha e => (PacketEncrypt.authenticationTag e).map id .chacha
    | .gcm e => (PacketEncrypt.authenticationTag e).map id .gcm
    | .block e => (PacketEncrypt.authenticationTag e).map id .block

instance : PacketDecrypt (DynDecrypt o) where
  blockSize
    | .chacha d => PacketDecrypt.blockSize d
    | .gcm d => PacketDecrypt.blockSize d
    | .block d => PacketDecrypt.blockSize d
  isGaloisCounterMode
    | .chacha d => PacketDecrypt.isGaloisCounterMode d
    | .gcm d => PacketDecrypt.isGaloisCounterMode d
    | .block d => PacketDecrypt.isGaloisCounterMode d
  tagLen
    | .chacha d => PacketDecrypt.tagLen d
    | .gcm d => PacketDecrypt.tagLen d
    | .block d => PacketDecrypt.tagLen d
  updateSequenceNumber n
    | .chacha d => (PacketDecrypt.updateSequenceNumber n d).map id .chacha
    | .gcm d => (PacketDecrypt.updateSequenceNumber n d).map id .gcm
    | .block d => (PacketDecrypt.updateSequenceNumber n d).map id .block
  additionalAuthenticatedData header
    | .chacha d => (PacketDecrypt.additionalAuthenticatedData header d).map id .chacha
    | .gcm d => (PacketDecrypt.additionalAuthenticatedData header d).map id .gcm
    | .block d => (PacketDecrypt.additionalAuthenticatedData header d).map id .block
  update data
    | .chacha d => (PacketDecrypt.update data d).map id .chacha
    | .gcm d => (PacketDecrypt.update data d).map id .gcm
    | .block d => (PacketDecrypt.update data d).map id .block
  authenticationTag tag
    | .chacha d => (PacketDecrypt.authenticationTag tag d).map id .chacha
    | .gcm d => (PacketDecrypt.authenticationTag tag d).map id .gcm
    | .block d => (PacketDecrypt.authenticationTag tag d).map id .block
  finalize
    | .chacha d => (PacketDecrypt.finalize d).map id .chacha
    | .gcm d => (PacketDecrypt.finalize d).map id .gcm
    | .block d => (PacketDecrypt.finalize d).map id .block

theorem embedding_chacha :
    EncryptEmbedding (@DynEncrypt.chacha o) ∧ DecryptEmbedding (@DynDecrypt.chacha o) := by
  constructor <;> constructor <;> intros <;> rfl

theorem embedding_gcm :
    EncryptEmbedding (@DynEncrypt.gcm o) ∧ DecryptEmbedding (@DynDecrypt.gcm o) := by
  constructor <;> constructor <;> intros <;> rfl

theorem embedding_block :
    EncryptEmbedding (@DynEncrypt.block o) ∧ DecryptEmbedding (@DynDecrypt.block o) := by
  constructor <;> constructor <;> intros <;> rfl

instance : LawfulDecrypt (DynDecrypt o) where
  eight_le_blockSize
    | .chacha d => LawfulDecrypt.eight_le_blockSize d
    | .gcm d => LawfulDecrypt.eight_le_blockSize d
    | .block d => LawfulDecrypt.eight_le_blockSize d
  flags_updateSequenceNumber n
    | .chacha d => LawfulDecrypt.flags_updateSequenceNumber n d
    | .gcm d => LawfulDecrypt.flags_updateSequenceNumber n d
    | .block d => LawfulDecrypt.flags_updateSequenceNumber n d
  flags_additionalAuthenticatedData header
    | .chacha d => LawfulDecrypt.flags_additionalAuthenticatedData header d
    | .gcm d => LawfulDecrypt.flags_additionalAuthenticatedData header d
    | .block d => LawfulDecrypt.flags_additionalAuthenticatedData header d
  flags_update data
    | .chacha d => LawfulDecrypt.flags_update data d
    | .gcm d => LawfulDecrypt.flags_update data d
    | .block d => LawfulDecrypt.flags_update data d
  flags_authenticationTag tag
    | .chacha d => LawfulDecrypt.flags_authenticationTag tag d
    | .gcm d => LawfulDecrypt.flags_authenticationTag tag d
    | .block d => LawfulDecrypt.flags_authenticationTag tag d
  flags_finalize
    | .chacha d => LawfulDecrypt.flags_finalize d
    | .gcm d => LawfulDecrypt.flags_finalize d
    | .block d => LawfulDecrypt.flags_finalize d
  length_update_block data
    | .chacha d => LawfulDecrypt.length_update_block data d
    | .gcm d => LawfulDecrypt.length_update_block data d
    | .block d => LawfulDecrypt.length_update_block data d
  length_update_finalize data
    | .chacha d => LawfulDecrypt.length_update_finalize data d
    | .gcm d => LawfulDecrypt.length_update_finalize data d
    | .block d => LawfulDecrypt.length_update_finalize data d

/-! ## Both ends of a direction -/

/-- The three families of ciphers. -/
inductive CipherFamily where
  | chacha
  | gcm
  | block

/-- What holds between the two ends of a direction under a cipher of the family. -/
def CipherFamily.Relates (o : CipherLibrary) : CipherFamily → DynEncrypt o → DynDecrypt o → Prop
  | chacha => Related .chacha .chacha ChachaEncrypt.Corresponds
  | gcm => Related .gcm .gcm GcmEncrypt.Corresponds
  | block => Related .block .block BlockDecrypt.Corresponds

/-- Both ends of a direction. -/
def DynEncrypt.Corresponds (e : DynEncrypt o) (d : DynDecrypt o) : Prop :=
  ∃ family : CipherFamily, family.Relates o e d

theorem inverts_dyn : Inverts (@DynEncrypt.Corresponds o) :=
  Inverts.choice fun
    | .chacha => ChachaEncrypt.inverts_corresponds.related embedding_chacha.1 embedding_chacha.2
    | .gcm => GcmEncrypt.inverts_corresponds.related embedding_gcm.1 embedding_gcm.2
    | .block => BlockDecrypt.inverts_corresponds.related embedding_block.1 embedding_block.2

theorem encrypts_chacha : Encrypts (@ChachaEncrypt.Corresponds o.chacha) where
  whole _ hmode := absurd hmode Bool.noConfusion
  tagged n header h _ _ := ChachaEncrypt.seals_always h n header _

theorem encrypts_gcm : Encrypts (@GcmEncrypt.Corresponds o.gcm) where
  whole _ hmode := absurd hmode Bool.noConfusion
  tagged n header h _ _ := GcmEncrypt.seals_always h n header _

theorem encrypts_block : Encrypts (@BlockDecrypt.Corresponds o.evp) where
  whole h _ hdata := by
    obtain ⟨out, e', hwhole, -⟩ := h.whole hdata
    exact ⟨out, e', hwhole⟩
  tagged _ _ _ hmode := absurd hmode Bool.noConfusion

theorem neverFails_dyn : NeverFails (KeyedHMac o.hmac) (@DynEncrypt.Corresponds o) :=
  (Encrypts.choice fun
    | .chacha => encrypts_chacha.related embedding_chacha.1
    | .gcm => encrypts_gcm.related embedding_gcm.1
    | .block => encrypts_block.related embedding_block.1).neverFails KeyedHMac.tagOver_succeeds

/-! ## The registries -/

/-- The entries of `encrypt_all`. -/
def encryptAll (o : CipherLibrary) : List (Text × DynEncrypt o) :=
  [ (ascii "chacha20-poly1305@openssh.com", .chacha ⟨.new⟩),
    (ascii "aes256-gcm@openssh.com", .gcm ⟨.aes256GcmOpenssh, rfl, rfl⟩),
    (ascii "aes128-gcm@openssh.com", .gcm ⟨.aes128GcmOpenssh, rfl, rfl⟩),
    (ascii "aes256-ctr", .block .aes256Ctr),
    (ascii "aes128-cbc", .block .aes128Cbc),
    (ascii "aes192-cbc", .block .aes192Cbc),
    (ascii "aes256-cbc", .block .aes256Cbc),
    (ascii "aes128-ctr", .block .aes128Ctr),
    (ascii "aes192-ctr", .block .aes192Ctr),
    (ascii "rijndael-cbc@lysator.liu.se", .block .aes256Cbc),
    (ascii "3des-cbc", .block .desEde3Cbc) ]

/-- The entries of `decrypt_all`. -/
def decryptAll (o : CipherLibrary) : List (Text × DynDecrypt o) :=
  [ (ascii "chacha20-poly1305@openssh.com", .chacha ⟨.new⟩),
    (ascii "aes256-gcm@openssh.com", .gcm ⟨.aes256GcmOpenssh, rfl, rfl⟩),
    (ascii "aes128-gcm@openssh.com", .gcm ⟨.aes128GcmOpenssh, rfl, rfl⟩),
    (ascii "aes256-ctr", .block (.ofNew .aes256Ctr rfl)),
    (ascii "aes128-cbc", .block (.ofNew .aes128Cbc rfl)),
    (ascii "aes192-cbc", .block (.ofNew .aes192Cbc rfl)),
    (ascii "aes256-cbc", .block (.ofNew .aes256Cbc rfl)),
    (ascii "aes128-ctr", .block (.ofNew .aes128Ctr rfl)),
    (ascii "aes192-ctr", .block (.ofNew .aes192Ctr rfl)),
    (ascii "rijndael-cbc@lysator.liu.se", .block (.ofNew .aes256Cbc rfl)),
    (ascii "3des-cbc", .block (.ofNew .desEde3Cbc rfl)) ]

/-- `new_encrypt_by_name`, and a call of the factory. -/
def newEncryptByName (o : CipherLibrary) (name : Text) : Option (DynEncrypt o) :=
  (encryptAll o).lookup name

/-- `new_decrypt_by_name`, and a call of the factory. -/
def newDecryptByName (o : CipherLibrary) (name : Text) : Option (DynDecrypt o) :=
  (decryptAll o).lookup name

/-- `new_mac_by_name`, and a call of the factory. -/
def newMacByName (o : CipherLibrary) (name : Text) : Option (HMac o.hmac) :=
  HMac.all.find? (·.name = name)

namespace DynEncrypt

/-- `iv_len`. -/
def ivLen : DynEncrypt o → ℕ
  | chacha _ => Chacha20Poly1205.ivLen
  | gcm e => e.cipher.ivLen
  | block e => e.ivLen

/-- `key_len`. -/
def keyLen : DynEncrypt o → ℕ
  | chacha _ => Chacha20Poly1205.keyLen
  | gcm e => e.cipher.keyLen
  | block e => e.keyLen

/-- `initialize`. -/
def initializeCipher (iv key : Bytes) : DynEncrypt o → Except Abort (DynEncrypt o)
  | chacha e => return .chacha ⟨← e.cipher.initializeKey .encrypt key⟩
  | gcm e => return .gcm (← e.initializeCipher iv key)
  | block e => return .block (← e.initializeCtx .encrypt iv key)

end DynEncrypt

/-- `initialize`. -/
def DynDecrypt.initializeCipher (iv key : Bytes) : DynDecrypt o → Except Abort (DynDecrypt o)
  | chacha d => return .chacha ⟨← d.cipher.initializeKey .decrypt key⟩
  | gcm d => return .gcm (← d.initializeCipher iv key)
  | block d => return .block (← d.initializeCipher iv key)

/-- Instances of the two directions of one cipher, before they are initialized. -/
inductive SameCipher : DynEncrypt o → DynDecrypt o → Prop
  | chacha (e : ChachaEncrypt o.chacha) (d : ChachaDecrypt o.chacha) :
    SameCipher (.chacha e) (.chacha d)
  | gcm {e : GcmEncrypt o.gcm} {d : GcmDecrypt o.gcm} (hiv : e.cipher.ivLen = 12)
      (hkey : d.cipher.keyLen = e.cipher.keyLen) : SameCipher (.gcm e) (.gcm d)
  | block {e : CounterModeOrCipherBlockChaining o.evp} {d : BlockDecrypt o.evp} (h : d.cipher = e) :
    SameCipher (.block e) (.block d)

/-- With an IV and a key of the lengths that it asks for, a cipher is initialized, and its two ends
fit together. -/
theorem SameCipher.corresponds {e : DynEncrypt o} {d : DynDecrypt o} (h : SameCipher e d)
    {iv key : Bytes} (hiv : iv.length = e.ivLen) (hkey : key.length = e.keyLen) :
    ∃ e' d', e.initializeCipher iv key = .ok e' ∧ d.initializeCipher iv key = .ok d' ∧
      e'.Corresponds d' := by
  cases h with
  | chacha e d =>
    obtain ⟨e', d', he, hd, h⟩ := ChachaEncrypt.corresponds_of_initialize (e := e) (d := d) hkey
    refine ⟨.chacha ⟨e'⟩, .chacha ⟨d'⟩, ?_, ?_, .chacha, .intro h⟩
    · exact Except.bind_eq_ok_iff.mpr ⟨e', he, rfl⟩
    · exact Except.bind_eq_ok_iff.mpr ⟨d', hd, rfl⟩
  | gcm hlength hsame =>
    obtain ⟨e', d', he, hd, h⟩ :=
      GcmEncrypt.corresponds_of_initialize (hiv.trans hlength) hkey hsame
    refine ⟨.gcm e', .gcm d', ?_, ?_, .gcm, .intro h⟩
    · exact Except.bind_eq_ok_iff.mpr ⟨e', he, rfl⟩
    · exact Except.bind_eq_ok_iff.mpr ⟨d', hd, rfl⟩
  | block hsame =>
    subst hsame
    rename_i d
    obtain ⟨e', he⟩ := d.cipher.initializeCtx_succeeds .encrypt hiv hkey
    obtain ⟨s, hs⟩ := d.cipher.initializeCtx_succeeds .decrypt hiv hkey
    have h := CounterModeOrCipherBlockChaining.corresponds_of_initialize he hs
    obtain ⟨d', hd, rfl⟩ := BlockDecrypt.initializeCipher_of_cipher hs
    refine ⟨.block e', .block d', ?_, ?_, .block, .intro h⟩
    · exact Except.bind_eq_ok_iff.mpr ⟨e', he, rfl⟩
    · exact Except.bind_eq_ok_iff.mpr ⟨d', hd, rfl⟩

/-- What is looked up in two lists that match entry by entry matches. -/
theorem of_lookups {κ α β : Type} [BEq κ] {P : α → β → Prop} {l : List (κ × α)} {l' : List (κ × β)}
    (h : List.Forall₂ (fun a b => a.1 = b.1 ∧ P a.2 b.2) l l') {k : κ} {a : α} {b : β}
    (ha : l.lookup k = some a) (hb : l'.lookup k = some b) : P a b := by
  induction h with
  | nil => cases ha
  | cons hhead _ ih =>
    rename_i x y xs ys htail
    obtain ⟨hname, hP⟩ := hhead
    rw [List.lookup_cons] at ha hb
    rw [← hname] at hb
    cases hfound : k == x.1 with
    | true =>
      rw [hfound] at ha hb
      cases ha
      cases hb
      exact hP
    | false =>
      rw [hfound] at ha hb
      exact ih ha hb

/-- Both registries have the same ciphers under the same names. -/
theorem registries_match (o : CipherLibrary) :
    List.Forall₂ (fun a b => a.1 = b.1 ∧ SameCipher a.2 b.2) (encryptAll o) (decryptAll o) :=
  .cons ⟨rfl, .chacha _ _⟩ <| .cons ⟨rfl, .gcm rfl rfl⟩ <| .cons ⟨rfl, .gcm rfl rfl⟩ <|
  .cons ⟨rfl, .block rfl⟩ <| .cons ⟨rfl, .block rfl⟩ <| .cons ⟨rfl, .block rfl⟩ <|
  .cons ⟨rfl, .block rfl⟩ <| .cons ⟨rfl, .block rfl⟩ <| .cons ⟨rfl, .block rfl⟩ <|
  .cons ⟨rfl, .block rfl⟩ <| .cons ⟨rfl, .block rfl⟩ .nil

/-! ## A connection -/

section Connection

variable {ε η δ μ ζ : Type}

/-- `upgrade_server` of the receiving half. -/
def CipherStream.upgradeServer (stream : CipherStream δ μ ζ) (keys : ReceivingKeys δ μ ζ) :
    CipherStream δ μ ζ :=
  { stream with decrypt := keys.decrypt, decode := keys.decode, verify := keys.verify }

@[simp] theorem DuplexStream.toCipherStream_upgradeServer (stream : DuplexStream ε η δ μ ζ)
    (keys : ReceivingKeys δ μ ζ) :
    (stream.upgradeServer keys).toCipherStream = stream.toCipherStream.upgradeServer keys := rfl

/-- One set of keys, and what is sent under it. -/
structure KeyPhase (o : CipherLibrary) where
  encrypt : DynEncrypt o
  decrypt : DynDecrypt o
  mac : KeyedHMac o.hmac
  sendings : List Sending

/-- What is put in use on the sending side. -/
def KeyPhase.sending (phase : KeyPhase o) :
    SendingKeys (DynEncrypt o) NoCompression (KeyedHMac o.hmac) where
  encrypt := phase.encrypt
  encode := { payload := [] }
  calculator := phase.mac

/-- What is put in use on the receiving side. -/
def KeyPhase.receiving (phase : KeyPhase o) :
    ReceivingKeys (DynDecrypt o) (KeyedHMac o.hmac) NoCompression where
  decrypt := phase.decrypt
  decode := { payload := [] }
  verify := phase.mac

/-- Both ends of the cipher come from the registries under one name, and are initialized with the same
IV and the same key, of the lengths that they ask for; what is sent can be sent. -/
structure KeyPhase.Installed (phase : KeyPhase o) : Prop where
  cipher : ∃ name e d iv key, newEncryptByName o name = some e ∧ newDecryptByName o name = some d ∧
    iv.length = e.ivLen ∧ key.length = e.keyLen ∧ e.initializeCipher iv key = .ok phase.encrypt ∧
    d.initializeCipher iv key = .ok phase.decrypt
  sendings : ∀ sending ∈ phase.sendings, sending.Admissible

/-- Put one set of keys in use after the other, and send under it. -/
def sendPhases : List (KeyPhase o) → Send (DynEncrypt o) NoCompression δ (KeyedHMac o.hmac) ζ Unit
  | [] => pure ()
  | phase :: rest => do
    modify fun stream => stream.upgradeClient phase.sending
    DuplexStream.sendAll phase.sendings
    sendPhases rest

/-- Put one set of keys in use after the other, and read what was sent under it. -/
def readPhases (env : ReadEnv) : List (KeyPhase o) →
    CipherStream (DynDecrypt o) (KeyedHMac o.hmac) NoCompression →
      List Packet × (Stop ⊕ CipherStream (DynDecrypt o) (KeyedHMac o.hmac) NoCompression)
  | [], stream => ([], .inr stream)
  | phase :: rest, stream =>
    match CipherStream.readAll env .keep phase.sendings.length
        (stream.upgradeServer phase.receiving) with
    | (packets, .inl stop) => (packets, .inl stop)
    | (packets, .inr stream) =>
      let (more, result) := readPhases env rest stream
      (packets ++ more, result)

/-- Nothing is under way between the sending half of the one side and the receiving half of the
other. -/
structure BetweenPackets (sender : DuplexStream ε η δ μ ζ) {δ' μ' ζ' : Type}
    (receiver : CipherStream δ' μ' ζ') : Prop where
  number : receiver.server.sequenceNumber = sender.client.sequenceNumber
  strict : receiver.strict = sender.strict
  state : receiver.state = none
  buffer : receiver.buffer = []
  writeBuffer : sender.writeBuffer = []

theorem KeyPhase.Installed.corresponds {phase : KeyPhase o} (h : phase.Installed) :
    phase.encrypt.Corresponds phase.decrypt := by
  obtain ⟨name, e, d, iv, key, he, hd, hiv, hkey, hencrypt, hdecrypt⟩ := h.cipher
  obtain ⟨e', d', hencrypt', hdecrypt', hcorresponds⟩ :=
    (of_lookups (registries_match o) he hd).corresponds hiv hkey
  cases hencrypt.symm.trans hencrypt'
  cases hdecrypt.symm.trans hdecrypt'
  exact hcorresponds

/-- A cipher of the registries is installed with any keys of the lengths that it asks for. -/
theorem KeyPhase.exists_installed {name : Text} {e : DynEncrypt o} {d : DynDecrypt o}
    (he : newEncryptByName o name = some e) (hd : newDecryptByName o name = some d) {iv key : Bytes}
    (hiv : iv.length = e.ivLen) (hkey : key.length = e.keyLen) (mac : KeyedHMac o.hmac)
    {sendings : List Sending} (hsendings : ∀ sending ∈ sendings, sending.Admissible) :
    ∃ phase : KeyPhase o, phase.Installed ∧ phase.mac = mac ∧ phase.sendings = sendings := by
  obtain ⟨encrypt, decrypt, hencrypt, hdecrypt, -⟩ :=
    (of_lookups (registries_match o) he hd).corresponds hiv hkey
  exact ⟨{ encrypt, decrypt, mac, sendings },
    ⟨⟨name, e, d, iv, key, he, hd, hiv, hkey, hencrypt, hdecrypt⟩, hsendings⟩, rfl, rfl⟩

/-- Whatever ciphers and MACs of the registries the two sides use one after the other, what the one
sends the other reads, packet by packet, and nothing is left over. -/
theorem phases_carried {phases : List (KeyPhase o)} (hphases : ∀ phase ∈ phases, phase.Installed)
    {sender : DuplexStream (DynEncrypt o) NoCompression δ (KeyedHMac o.hmac) ζ}
    {receiver : CipherStream (DynDecrypt o) (KeyedHMac o.hmac) NoCompression}
    (hidle : BetweenPackets sender receiver) (env : ReadEnv) :
    ∃ sender' octets packets receiver', sendPhases phases sender = .ok () sender' ∧
      sender'.written = sender.written ++ octets ∧
      (∀ more, readPhases env phases (receiver.receive (octets ++ more)) =
        (packets, .inr (receiver'.receive more))) ∧
      packets.map Packet.payload =
        phases.flatMap (fun phase => phase.sendings.map Sending.payload) ∧
      BetweenPackets sender' receiver' := by
  induction phases generalizing sender receiver with
  | nil => exact ⟨sender, [], [], receiver, rfl, by simp, fun more => rfl, rfl, hidle⟩
  | cons phase rest ih =>
    have hphase := hphases phase List.mem_cons_self
    have hmatch : Matches DynEncrypt.Corresponds
        (sender.upgradeClient phase.sending) (receiver.upgradeServer phase.receiving) :=
      { cipher := hphase.corresponds
        mac := rfl
        number := hidle.number
        strict := hidle.strict
        encode := rfl
        decode := rfl
        state := hidle.state
        buffer := hidle.buffer
        writeBuffer := hidle.writeBuffer }
    obtain ⟨sender₁, octets₁, packets₁, receiver₁, hsend, hwritten, hread, hall, hafter⟩ :=
      hmatch.run inverts_dyn neverFails_dyn env hphase.sendings
    obtain ⟨sender₂, octets₂, packets₂, receiver₂, hsends, hwrittens, hreads, hpayloads, hend⟩ :=
      ih (fun p hp => hphases p (List.mem_cons_of_mem _ hp))
        ⟨hafter.number, hafter.strict, hafter.state, hafter.buffer, hafter.writeBuffer⟩
    refine ⟨sender₂, octets₁ ++ octets₂, packets₁ ++ packets₂, receiver₂, ?_, ?_, fun more => ?_, ?_,
      hend⟩
    · unfold sendPhases
      exact (bind_of_ok hsend).trans hsends
    · rw [hwrittens, hwritten, List.append_assoc]
      rfl
    · unfold readPhases
      rw [List.append_assoc]
      have hcomm (data : Bytes) : (receiver.receive data).upgradeServer phase.receiving =
          (receiver.upgradeServer phase.receiving).receive data := rfl
      rw [hcomm, hread]
      dsimp only
      rw [hreads]
    · have hfirst : packets₁.map Packet.payload = phase.sendings.map Sending.payload := by
        have hsame : List.Forall₂ (· = ·) (phase.sendings.map Sending.payload)
            (packets₁.map Packet.payload) :=
          List.forall₂_map_right_iff.mpr (hall.imp fun _ _ h => h.payload.symm)
        rw [List.forall₂_eq_eq_eq] at hsame
        exact hsame.symm
      rw [List.map_append, hfirst, hpayloads, List.flatMap_cons]

end Connection

/-! ## A concrete connection -/

/-- AES with a key of 16 octets, on the first two counter blocks under it. -/
def recordedCounters (key : Bytes) : List (Block 16 × Block 16) :=
  if key = List.replicate 16 2 then
    [ (⟨BigEndian.fixed 16 0x01010101010101010101010101010101, by decide +kernel⟩,
        ⟨BigEndian.fixed 16 0x8f42c24bee6e63472b165aa941312f7c, by decide +kernel⟩),
      (⟨BigEndian.fixed 16 0x01010101010101010101010101010102, by decide +kernel⟩,
        ⟨BigEndian.fixed 16 0xd8d55c91279d217ef35529a89cfda047, by decide +kernel⟩) ]
  else []

/-- What the ciphers and the MACs make of three packets. -/
def CipherLibrary.recorded : CipherLibrary where
  evp := .recorded recordedCounters
  chacha := .recorded [] []
  gcm := .recorded
    [((List.replicate 16 4, List.replicate 12 3), BigEndian.fixed 16 0xcc88a0eb58bfdb1e682ace7e2631f5ba)]
    [((List.replicate 16 4, List.replicate 12 3, [0, 0, 0, 16],
      BigEndian.fixed 16 0xc7d6a7ec5fbfdb1e682ace7e2631f5ba),
      BigEndian.fixed 16 0x1a43664dc76f956017df3146214207ff)]
  hmac := .recorded
    [ ((.hmac .md5, BigEndian.fixed 16 0x0102030405060708090a0b0c0d0e0f10,
        BigEndian.fixed 24 0x00000000000000108247c34bee6e63472b165aa941312f7c),
        BigEndian.fixed 16 0x2eb955d24f5fc86604b769c00f6f528b),
      ((.hmac .md5, BigEndian.fixed 16 0x0102030405060708090a0b0c0d0e0f10,
        BigEndian.fixed 24 0x0000000100000010d6c05c91279d217ef35529a89cfda047),
        BigEndian.fixed 16 0xaec73dc596ac0d42c5ac152fed375453) ]

/-- Keys of AES in counter mode, and those of AES-GCM after them. -/
theorem phases_carried_twice :
    ∃ (phases : List (KeyPhase .recorded))
      (sender sender' : DuplexStream (DynEncrypt .recorded) NoCompression Unit
        (KeyedHMac CipherLibrary.recorded.hmac) Unit)
      (receiver receiver' : CipherStream (DynDecrypt .recorded)
        (KeyedHMac CipherLibrary.recorded.hmac) NoCompression)
      (octets : Bytes) (packets : List Packet),
      phases.length = 2 ∧ sendPhases phases sender = .ok () sender' ∧
      sender'.written = sender.written ++ octets ∧
      (∀ more, readPhases ⟨false, false⟩ phases (receiver.receive (octets ++ more)) =
        (packets, .inr (receiver'.receive more))) ∧
      packets.map Packet.payload = [[5, 1], [sshMsgNewkeys], [94, 7, 7, 7]] := by
  let lib : CipherLibrary := .recorded
  let unkeyed : HMac lib.hmac :=
    HMac.new (ascii "hmac-md5-96-etm@openssh.com") 12 16 true .md5 (by decide)
  obtain ⟨pkey, ctx, hinit, -⟩ := unkeyed.initializeKey_succeeds
    (by decide +kernel :
      (BigEndian.fixed 16 0x0102030405060708090a0b0c0d0e0f10).length < 2 ^ 31)
  let mac : KeyedHMac lib.hmac := ⟨_, HMac.hasKey_of_initializeKey hinit⟩
  let sending (payload : Bytes) : Sending := ⟨⟨fun _ => 0, none⟩, payload⟩
  have hsending : ∀ payload : Bytes, payload ≠ [] → payload.length ≤ 4 →
      (sending payload).Admissible := fun payload hne hle =>
    ⟨rfl, hne, Nat.le_trans hle (by decide)⟩
  obtain ⟨first, hfirst, -, hsendings⟩ := KeyPhase.exists_installed (o := lib)
    (rfl : newEncryptByName lib (ascii "aes128-ctr") = some (.block .aes128Ctr)) rfl
    (rfl : (List.replicate 16 1 : Bytes).length = 16)
    (rfl : (List.replicate 16 2 : Bytes).length = 16) mac
    (List.forall_mem_cons.mpr ⟨hsending [5, 1] (by decide) (by decide),
      List.forall_mem_singleton.mpr (hsending [sshMsgNewkeys] (by decide) (by decide))⟩)
  obtain ⟨second, hsecond, -, hsendings'⟩ := KeyPhase.exists_installed (o := lib)
    (rfl : newEncryptByName lib (ascii "aes128-gcm@openssh.com") =
      some (.gcm ⟨.aes128GcmOpenssh, rfl, rfl⟩)) rfl
    (rfl : (List.replicate 12 3 : Bytes).length = 12)
    (rfl : (List.replicate 16 4 : Bytes).length = 16) mac
    (List.forall_mem_singleton.mpr (hsending [94, 7, 7, 7] (by decide) (by decide)))
  let receiver : CipherStream (DynDecrypt lib) (KeyedHMac lib.hmac) NoCompression := {
    buffer := []
    decrypt := .chacha ⟨.new⟩
    decode := { payload := [] }
    verify := mac
    authenticated := false
    client := default
    server := default
    state := none }
  let sender : DuplexStream (DynEncrypt lib) NoCompression Unit (KeyedHMac lib.hmac) Unit := {
    receiver with
    decrypt := ()
    decode := ()
    encrypt := .chacha ⟨.new⟩
    encode := { payload := [] }
    calculator := mac
    writeBuffer := []
    written := [] }
  obtain ⟨sender', octets, packets, receiver', hsend, hwritten, hread, hpayloads, -⟩ :=
    phases_carried (List.forall_mem_cons.mpr ⟨hfirst, List.forall_mem_singleton.mpr hsecond⟩)
      (⟨rfl, rfl, rfl, rfl, rfl⟩ : BetweenPackets sender receiver) ⟨false, false⟩
  refine ⟨[first, second], sender, sender', receiver, receiver', octets, packets, rfl, hsend,
    hwritten, hread, hpayloads.trans ?_⟩
  rw [List.flatMap_cons, List.flatMap_cons, hsendings, hsendings']
  rfl

end Flatline
