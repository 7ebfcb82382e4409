import Flatline.Transport.StreamSpecs

/-!
# The three modes of the encrypted stream

For each mode: on which stored state a poll does not panic, what it leaves behind when it stops, and
on which state it panics.
-/

namespace Flatline

open Triple

namespace CipherStream

variable {δ μ ζ : Type} [PacketDecrypt δ] [PacketMac μ] {c : Flags} {b : Bytes} {r : Ready}
  {state : Option Ready}

/-- Some state is stored. -/
def Stored (c : Flags) (b : Bytes) (P : Ready → Prop) (stream : CipherStream δ μ ζ) : Prop :=
  ∃ r, P r ∧ At c b (some r) stream

/-- What is left to do once a packet is decrypted and authenticated. -/
theorem take_spec [PacketDecode ζ] {length : UInt32} {data : Bytes} {size : ℕ} {Q : Ready → Prop} (hQ : Q r)
    (hsize : size ≤ b.length) :
    Holds (At c b (some r))
      (do
        let packet ← openPacket (δ := δ) (μ := μ) (ζ := ζ) length data
        consumeReadBuffer size
        return packet)
      (fun _ s => s.flags = c) (Halts (Stored c b Q)) := by
  refine (Halts.weaken openPacket_spec fun s hs => ⟨r, hQ, hs⟩).bind fun packet => ?_
  refine (consumeReadBuffer_spec hsize).bind fun _ => ?_
  exact Holds.pure fun s hs => hs

/-! ## Galois/counter mode -/

/-- The length of a packet in Galois/counter mode is stored as soon as it is known. -/
theorem readGcmLength_spec [LawfulDecrypt δ] {env : ReadEnv} :
    Holds (At c b (some r)) (readGcmLength (δ := δ) (μ := μ) (ζ := ζ) env)
      (fun length s => ∃ r', r'.length = some length ∧ At c b (some r') s)
      (Halts (At c b (some r))) := by
  unfold readGcmLength
  refine (Halts.weaken (fill_spec fun _ => At.buffer) fun s hs => hs.2).bind fun octets =>
    Holds.of_and fun hoctets => ?_
  refine (toHeader_spec (by rw [hoctets.1, List.length_take]; omega)).bind fun header =>
    Holds.of_and fun _ => ?_
  refine (decrypting_spec (LawfulDecrypt.flags_additionalAuthenticatedData header)).bind
    fun header => ?_
  refine Holds.get.bind fun stream => Holds.of_and fun _ => ?_
  refine (Halts.weaken ensure_spec fun s hs => hs.2).bind fun _ => Holds.of_and fun _ => ?_
  refine modifyReady_spec.bind fun _ => ?_
  exact Holds.pure fun s hs => ⟨_, rfl, hs⟩

/-- Galois/counter mode never panics. -/
theorem readGaloisCounterMode_spec [PacketDecode ζ] [LawfulDecrypt δ] {env : ReadEnv} :
    Holds (At c b (some r)) (readGaloisCounterMode (δ := δ) (μ := μ) (ζ := ζ) env)
      (fun _ s => s.flags = c) (Halts (Stored c b fun _ => True)) := by
  have hany : ∀ (r : Ready) (s : CipherStream δ μ ζ), At c b (some r) s →
      Stored c b (fun _ => True) s := fun r s hs => ⟨r, trivial, hs⟩
  have hlength : Holds (At c b (some r)) (lengthOr (readGcmLength (δ := δ) (μ := μ) (ζ := ζ) env))
      (fun _ => Stored c b fun _ => True) (Halts (Stored c b fun _ => True)) := by
    refine lengthOr_spec (fun _ s _ hs => hany r s hs) fun _ => ?_
    exact (Halts.weaken readGcmLength_spec (hany r)).post fun _ s ⟨r', _, hs⟩ => hany r' s hs
  unfold readGaloisCounterMode
  refine hlength.bind fun length => Holds.of_exists fun r => Holds.of_and fun _ => ?_
  refine Holds.get.bind fun stream => Holds.of_and fun _ => ?_
  refine (Halts.weaken (fill_spec fun _ => At.buffer) fun s hs => hany r s hs.2).bind fun octets =>
    Holds.of_and fun hoctets => ?_
  have hlen : octets.length = 4 + length.toNat + PacketDecrypt.tagLen stream.decrypt := by
    rw [hoctets.1, List.length_take]
    omega
  refine (slice_spec ⟨by omega, Nat.le_refl _⟩).bind fun bytes => Holds.of_and fun hbytes => ?_
  refine (slice_spec ⟨by omega, by omega⟩).bind fun body => Holds.of_and fun _ => ?_
  refine (Halts.weaken (decryptingTo_spec (LawfulDecrypt.flags_update body)) (hany r)).bind
    fun updated => ?_
  refine (slice_spec ⟨by omega, Nat.le_refl _⟩).bind fun tag => Holds.of_and fun _ => ?_
  refine (Halts.weaken (decrypting_spec (LawfulDecrypt.flags_authenticationTag tag)) (hany r)).bind
    fun _ => ?_
  refine (Halts.weaken (decryptingTo_spec LawfulDecrypt.flags_finalize) (hany r)).bind
    fun finalized => ?_
  exact take_spec trivial hoctets.2

/-! ## Encrypt-then-MAC mode -/

/-- A length field has arrived whose packet is not too long. -/
def HeaderAccepted (c : Flags) (b : Bytes) : Prop :=
  ∃ header : Header, b.take 4 = [header.1, header.2.1, header.2.2.1, header.2.2.2] ∧
    header.value.toNat + 4 + c.verify.2 ≤ maxPacketLength

/-- What encrypt-then-MAC mode leaves behind. -/
def LeftByEtm (c : Flags) (b : Bytes) (r : Ready) : Prop :=
  r.length = none ∧ (r.decrypted ≠ [] → HeaderAccepted c b)

/-- Encrypt-then-MAC mode does not panic unless something decrypted is left over. -/
theorem readEncryptThenMac_spec [PacketDecode ζ] [LawfulDecrypt δ] [LawfulMac μ] {env : ReadEnv}
    (hlength : r.length = none)
    (hdecrypted : r.decrypted = []) :
    Holds (At c b (some r)) (readEncryptThenMac (δ := δ) (μ := μ) (ζ := ζ) env)
      (fun _ s => s.flags = c) (Halts (Stored c b (LeftByEtm c b))) := by
  have hclean : ∀ s : CipherStream δ μ ζ, At c b (some r) s → Stored c b (LeftByEtm c b) s :=
    fun s hs => ⟨r, ⟨hlength, fun h => absurd hdecrypted h⟩, hs⟩
  have hread : Holds (At c b (some r)) (lengthOr (readEtmLength (δ := δ) (μ := μ) (ζ := ζ) env))
      (fun _ s => HeaderAccepted c b ∧ At c b (some r) s) (Halts (Stored c b (LeftByEtm c b))) := by
    refine lengthOr_spec (fun length s h _ => absurd (hlength.symm.trans h) (by simp)) fun _ => ?_
    unfold readEtmLength
    refine (Halts.weaken (fill_spec fun _ => At.buffer) fun s hs => hclean s hs.2).bind fun octets => Holds.of_and fun hoctets => ?_
    refine (toHeader_spec (by rw [hoctets.1, List.length_take]; omega)).bind fun header =>
      Holds.of_and fun hheader => ?_
    refine Holds.get.bind fun stream => Holds.of_and fun hstream => ?_
    refine (Halts.weaken ensure_spec fun s hs => hclean s hs.2).bind fun _ => Holds.of_and fun haccepted => ?_
    refine Holds.pure fun s hs => ⟨⟨header, hoctets.1 ▸ hheader, ?_⟩, hs⟩
    rw [← hstream.flags]
    exact haccepted
  unfold readEncryptThenMac
  refine hread.bind fun length => Holds.of_and fun haccepted => ?_
  have hleft : ∀ s : CipherStream δ μ ζ, (∃ output, At c b (some (r.append output)) s) →
      Stored c b (LeftByEtm c b) s :=
    fun s ⟨output, hs⟩ => ⟨r.append output, ⟨hlength, fun _ => haccepted⟩, hs⟩
  refine Holds.get.bind fun stream => Holds.of_and fun hstream => ?_
  refine (assert_spec (by rw [hstream.ready, hdecrypted])).bind fun _ => ?_
  refine Holds.get.bind fun stream => Holds.of_and fun _ => ?_
  refine (Halts.weaken (fill_spec fun _ => At.buffer) fun s hs => hclean s hs.2).bind fun packet => Holds.of_and fun hpacket => ?_
  have hlen : packet.length = 4 + length.toNat + PacketMac.macLen stream.verify := by
    rw [hpacket.1, List.length_take]
    omega
  refine (slice_spec ⟨by omega, by omega⟩).bind fun body => Holds.of_and fun _ => ?_
  refine (slice_spec ⟨by omega, Nat.le_refl _⟩).bind fun tag => Holds.of_and fun _ => ?_
  refine (Halts.weaken verifyTag_spec hclean).bind fun _ => ?_
  refine (Halts.weaken decryptAll_spec hleft).bind fun _ => Holds.of_exists fun output =>
    Holds.of_and fun _ => ?_
  refine Holds.get.bind fun stream => Holds.of_and fun _ => ?_
  exact take_spec (Q := LeftByEtm c b) ⟨hlength, fun _ => haccepted⟩ hpacket.2

/-- With an accepted header in the buffer, encrypt-then-MAC mode comes to its assertion. -/
theorem readEncryptThenMac_fails [PacketDecode ζ] {env : ReadEnv} (hlength : r.length = none)
    (hne : r.decrypted ≠ []) (hheader : HeaderAccepted c b) :
    Holds (At c b (some r)) (readEncryptThenMac (δ := δ) (μ := μ) (ζ := ζ) env)
      (fun _ _ => False) OnlyPanics := by
  obtain ⟨header, htake, haccepted⟩ := hheader
  have hfour : 4 ≤ b.length := by
    have := congrArg List.length htake
    rw [List.length_take] at this
    simp only [List.length_cons, List.length_nil] at this
    omega
  have hread : Holds (At c b (some r)) (lengthOr (readEtmLength (δ := δ) (μ := μ) (ζ := ζ) env))
      (fun _ => At c b (some r)) OnlyPanics := by
    refine lengthOr_spec (fun length s h _ => absurd (hlength.symm.trans h) (by simp)) fun _ => ?_
    unfold readEtmLength
    refine ((fill_spec fun _ => At.buffer).error fun _ s hs => absurd hfour hs.2.1).bind
      fun octets => Holds.of_and fun hoctets => ?_
    refine (toHeader_spec (by rw [hoctets.1, List.length_take]; omega)).bind fun field =>
      Holds.of_and fun hfield => ?_
    have hsame : field = header := by
      rw [hoctets.1, htake] at hfield
      simp only [List.cons.injEq, and_true] at hfield
      obtain ⟨h₁, h₂, h₃, h₄⟩ := hfield
      exact Prod.ext h₁.symm (Prod.ext h₂.symm (Prod.ext h₃.symm h₄.symm))
    refine Holds.get.bind fun stream => Holds.of_and fun hstream => ?_
    have hmac : PacketMac.macLen stream.verify = c.verify.2 := by
      rw [← hstream.flags]
      rfl
    rw [hmac]
    refine (ensure_spec.error fun _ s hs => absurd (hsame ▸ haccepted) hs.2.1).bind fun _ =>
      Holds.of_and fun _ => ?_
    exact Holds.pure fun s hs => hs
  unfold readEncryptThenMac
  refine hread.bind fun length => ?_
  refine Holds.get.bind fun stream => Holds.of_and fun hstream => ?_
  exact (assert_fails (Q := fun _ _ => False) (by rw [hstream.ready]; exact hne)).bind
    fun _ s h => h.elim

/-! ## MAC-then-encrypt mode -/

/-- The length that the first block of a packet announces, if the block has arrived, is decrypted
without an error and announces no more than a packet may have. -/
def firstLength (stream : CipherStream δ μ ζ) : Option UInt32 :=
  let blockSize := PacketDecrypt.blockSize stream.decrypt
  if stream.buffer.length < blockSize then none
  else match PacketDecrypt.update (stream.buffer.take blockSize) stream.decrypt with
    | ((.ok (), w :: x :: y :: z :: _), _) =>
      let length := fromBeBytes w x y z
      if length.toNat + 4 + PacketMac.macLen stream.verify ≤ maxPacketLength then some length else none
    | _ => none

/-- What MAC-then-encrypt mode leaves behind. -/
def LeftByMte (c : Flags) (r : Ready) : Prop :=
  ∀ length, r.length = some length →
    r.encrypted.length = c.decrypt.2.1 ∧ c.decrypt.2.1 ≤ r.decrypted.length

/-- The first block of a packet announces the length that `firstLength` says, and reading it stops
only where `firstLength` says nothing. -/
theorem readFirstBlock_spec [LawfulDecrypt δ] {env : ReadEnv} (hlength : r.length = none)
    (hdecrypted : r.decrypted = []) {stream : CipherStream δ μ ζ}
    (hstream : At c b (some r) stream) :
    Holds (· = stream) (readFirstBlock (δ := δ) (μ := μ) (ζ := ζ) env)
      (fun length s => stream.firstLength = some length ∧
        ∃ r', (r'.length = some length ∧ LeftByMte c r') ∧ At c b (some r') s)
      (Halts fun s => stream.firstLength = none ∧ Stored c b (LeftByMte c) s) := by
  have hleft : ∀ output, LeftByMte c (r.append output) := fun output length h =>
    absurd (hlength.symm.trans h) (by simp)
  unfold readFirstBlock
  refine Holds.get.bind fun stream₁ => Holds.of_and fun h₁ => ?_
  subst h₁
  refine (assert_spec (by rw [hstream.ready, hdecrypted]; rfl)).bind fun _ => ?_
  refine Holds.get.bind fun stream => Holds.of_and fun h₂ => ?_
  subst h₂
  -- `firstLength`, step by step
  have hbuffer : stream.buffer = b := hstream.buffer
  have hfew : ¬ PacketDecrypt.blockSize stream.decrypt ≤ b.length → stream.firstLength = none := by
    intro h
    unfold firstLength
    rw [hbuffer, if_pos (by omega)]
  refine (Halts.weaken (fill_spec fun s hs => hs ▸ hbuffer) fun s hs => ⟨hfew hs.1, r,
    fun length h => absurd (hlength.symm.trans h) (by simp), hs.2 ▸ hstream⟩).bind fun header =>
    Holds.of_and fun hheader => ?_
  have hlen : header.length = PacketDecrypt.blockSize stream.decrypt := by
    rw [hheader.1, List.length_take]
    omega
  let updated := PacketDecrypt.update header stream.decrypt
  have hfirst : stream.firstLength = match updated with
      | ((.ok (), w :: x :: y :: z :: _), _) =>
        if (fromBeBytes w x y z).toNat + 4 + PacketMac.macLen stream.verify ≤ maxPacketLength then
          some (fromBeBytes w x y z)
        else none
      | _ => none := by
    unfold firstLength
    rw [hbuffer, if_neg (by omega), ← hheader.1]
  have hupdate : Holds (· = stream)
      (decryptingStored (δ := δ) (μ := μ) (ζ := ζ) (PacketDecrypt.update header))
      (fun _ s => updated.1.1 = .ok () ∧ At c b (some (r.append updated.1.2)) s)
      (Halts fun s => stream.firstLength = none ∧ Stored c b (LeftByMte c) s) := by
    rintro s rfl
    obtain ⟨s', hat, -, hrun⟩ := decryptingStored_run (LawfulDecrypt.flags_update header) hstream
    rw [hrun]
    cases hres : (PacketDecrypt.update header s.decrypt).1.1 with
    | ok _ => exact ⟨rfl, hat⟩
    | error e =>
      refine ⟨by simp, ?_, _, hleft updated.1.2, hat⟩
      have hupdated : updated = ((.error e, updated.1.2), updated.2) := by rw [← hres]
      rw [hfirst, hupdated]
  refine hupdate.bind fun _ => Holds.of_and fun hok => ?_
  have hout : updated.1.2.length = header.length :=
    LawfulDecrypt.length_update_block header stream.decrypt hlen hok
  have hdecrypted' : (r.append updated.1.2).decrypted = updated.1.2 := by
    rw [Ready.append, hdecrypted, List.nil_append]
  refine Holds.get.bind fun stream₃ => Holds.of_and fun h₃ => ?_
  refine (assert_spec (by rw [h₃.ready, hdecrypted', hout])).bind fun _ => ?_
  refine Holds.get.bind fun stream₄ => Holds.of_and fun h₄ => ?_
  rw [h₄.ready, hdecrypted']
  have height := LawfulDecrypt.eight_le_blockSize stream.decrypt
  refine (slice_spec ⟨by omega, by omega⟩).bind fun octets => Holds.of_and fun hoctets => ?_
  refine (toHeader_spec hoctets.2).bind fun field => Holds.of_and fun hfield => ?_
  -- the four octets just read are those that `firstLength` looks at
  have hfirst' : stream.firstLength =
      if field.value.toNat + 4 + PacketMac.macLen stream.verify ≤ maxPacketLength then some field.value
      else none := by
    have htake : updated.1.2.take 4 = [field.1, field.2.1, field.2.2.1, field.2.2.2] := by
      rw [← hfield, hoctets.1, List.drop_zero]
    have hrest : updated.1.2 =
        field.1 :: field.2.1 :: field.2.2.1 :: field.2.2.2 :: updated.1.2.drop 4 := by
      rw [← List.take_append_drop 4 updated.1.2, htake]
      simp
    have hupdated : updated = ((.ok (), updated.1.2), updated.2) := by rw [← hok]
    rw [hfirst, hupdated, hrest]
    rfl
  refine Holds.get.bind fun stream₅ => Holds.of_and fun h₅ => ?_
  have hmac : PacketMac.macLen stream₅.verify = PacketMac.macLen stream.verify :=
    congrArg (·.verify.2) (h₅.flags.trans hstream.flags.symm)
  rw [hmac]
  refine (Halts.weaken ensure_spec fun s hs => ⟨by rw [hfirst', if_neg hs.1], _,
    hleft updated.1.2, hs.2⟩).bind fun _ => Holds.of_and fun haccepted => ?_
  refine modifyReady_spec.bind fun _ => ?_
  refine Holds.pure fun s hs => ⟨by rw [hfirst', if_pos haccepted], _, ⟨rfl, ?_⟩, hs⟩
  rintro length -
  have hblock : c.decrypt.2.1 = PacketDecrypt.blockSize stream.decrypt := by
    rw [← hstream.flags]
    rfl
  rw [hblock]
  exact ⟨hlen, Nat.le_of_eq (by rw [hdecrypted', hout, hlen])⟩

/-- The first block is not read while something decrypted is left over. -/
theorem readFirstBlock_fails {env : ReadEnv} (hne : r.decrypted ≠ []) :
    Holds (At c b (some r)) (readFirstBlock (δ := δ) (μ := μ) (ζ := ζ) env)
      (fun _ _ => False) OnlyPanics := by
  unfold readFirstBlock
  refine Holds.get.bind fun stream => Holds.of_and fun hstream => ?_
  refine (assert_fails (Q := fun _ _ => False) ?_).bind fun _ s h => h.elim
  rw [hstream.ready]
  exact fun hzero => hne (List.length_eq_zero_iff.mp hzero)

variable [PacketDecode ζ]

/-- MAC-then-encrypt mode does not panic on a clean state unless the announced length is less than
a block. -/
theorem readMacThenEncrypt_spec [LawfulDecrypt δ] [LawfulMac μ] {env : ReadEnv}
    (hleft : LeftByMte c r)
    (hclean : r.length = none → r.decrypted = []) {stream : CipherStream δ μ ζ}
    (hstream : At c b (some r) stream)
    (hlong : ∀ length, (r.length <|> stream.firstLength) = some length →
      length.toNat + 4 + c.verify.2 ≤ b.length → c.decrypt.2.1 ≤ length.toNat + 4) :
    Holds (· = stream) (readMacThenEncrypt (δ := δ) (μ := μ) (ζ := ζ) env)
      (fun _ s => s.flags = c) (Halts (Stored c b (LeftByMte c))) := by
  have hread : Holds (· = stream)
      (lengthOr (readFirstBlock (δ := δ) (μ := μ) (ζ := ζ) env))
      (fun length s => (r.length <|> stream.firstLength) = some length ∧
        ∃ r', (r'.length = some length ∧ LeftByMte c r') ∧ At c b (some r') s)
      (Halts (Stored c b (LeftByMte c))) := by
    rintro s rfl
    unfold lengthOr
    rw [hstream.ready]
    cases hlength : r.length with
    | some length => exact ⟨rfl, r, ⟨hlength, hleft⟩, hstream⟩
    | none =>
      dsimp only
      exact (Halts.weaken (readFirstBlock_spec hlength (hclean hlength) hstream)
        fun s hs => hs.2) s rfl
  unfold readMacThenEncrypt
  refine hread.bind fun length => Holds.of_and fun hannounced => Holds.of_exists fun r' =>
    Holds.of_and fun hr' => ?_
  -- whatever is appended to the decrypted octets, the state stays what this mode leaves behind
  have happend : ∀ output, LeftByMte c (r'.append output) := by
    intro output length h
    obtain ⟨hencrypted, hdecrypted⟩ := hr'.2 length h
    refine ⟨hencrypted, ?_⟩
    rw [Ready.append, List.length_append]
    omega
  have hhalt : ∀ s : CipherStream δ μ ζ, At c b (some r') s → Stored c b (LeftByMte c) s :=
    fun s hs => ⟨r', hr'.2, hs⟩
  refine Holds.get.bind fun stream₁ => Holds.of_and fun h₁ => ?_
  have hmac : PacketMac.macLen stream₁.verify = c.verify.2 := by
    rw [← h₁.flags]
    rfl
  rw [hmac]
  refine (Halts.weaken (fill_spec fun _ => At.buffer) fun s hs => hhalt s hs.2).bind fun packet =>
    Holds.of_and fun hpacket => ?_
  have hlen : packet.length = length.toNat + 4 + c.verify.2 := by
    rw [hpacket.1, List.length_take]
    omega
  obtain ⟨hencrypted, hdecrypted⟩ := hr'.2 length hr'.1
  have hblock : c.decrypt.2.1 ≤ length.toNat + 4 := hlong length hannounced hpacket.2
  refine Holds.get.bind fun stream₂ => Holds.of_and fun h₂ => ?_
  rw [h₂.ready]
  refine (slice_spec ⟨by omega, by omega⟩).bind fun rest => Holds.of_and fun hrest => ?_
  have hall : ∀ s : CipherStream δ μ ζ, (∃ output, At c b (some (r'.append output)) s) →
      Stored c b (LeftByMte c) s :=
    fun s hs => hs.elim fun output hs => ⟨r'.append output, happend output, hs⟩
  refine (Halts.weaken decryptAll_spec hall).bind fun _ => Holds.of_exists fun output =>
    Holds.of_and fun houtput => ?_
  refine Holds.get.bind fun stream₃ => Holds.of_and fun h₃ => ?_
  rw [h₃.ready]
  refine (slice_spec ⟨by omega, Nat.le_refl _⟩).bind fun tag => Holds.of_and fun _ => ?_
  refine (Halts.weaken verifyTag_spec fun s hs => hall s ⟨output, hs⟩).bind fun _ => ?_
  have hdecrypted' : length.toNat + 4 ≤ (r'.append output).decrypted.length := by
    rw [Ready.append, List.length_append]
    omega
  refine (slice_spec ⟨by omega, hdecrypted'⟩).bind fun data => Holds.of_and fun _ => ?_
  exact take_spec (Q := LeftByMte c) (happend output) hpacket.2

/-- With something decrypted left over, MAC-then-encrypt mode fails its assertion. -/
theorem readMacThenEncrypt_fails_of_leftover {env : ReadEnv} (hlength : r.length = none)
    (hne : r.decrypted ≠ []) :
    Holds (At c b (some r)) (readMacThenEncrypt (δ := δ) (μ := μ) (ζ := ζ) env)
      (fun _ _ => False) OnlyPanics := by
  have hread : Holds (At c b (some r)) (lengthOr (readFirstBlock (δ := δ) (μ := μ) (ζ := ζ) env))
      (fun _ _ => False) OnlyPanics :=
    lengthOr_spec (fun length s h _ => absurd (hlength.symm.trans h) (by simp)) fun _ =>
      readFirstBlock_fails hne
  exact hread.bind fun _ s h => h.elim

/-- A length below a block makes MAC-then-encrypt mode slice the packet backwards. -/
theorem readMacThenEncrypt_fails_of_short [LawfulDecrypt δ] {env : ReadEnv} (hleft : LeftByMte c r)
    (hclean : r.length = none → r.decrypted = []) {stream : CipherStream δ μ ζ}
    (hstream : At c b (some r) stream) {length : UInt32}
    (hannounced : (r.length <|> stream.firstLength) = some length)
    (hlt : length.toNat + 4 < c.decrypt.2.1) (harrived : length.toNat + 4 + c.verify.2 ≤ b.length) :
    Holds (· = stream) (readMacThenEncrypt (δ := δ) (μ := μ) (ζ := ζ) env)
      (fun _ _ => False) OnlyPanics := by
  have hread : Holds (· = stream)
      (lengthOr (readFirstBlock (δ := δ) (μ := μ) (ζ := ζ) env))
      (fun l s => l = length ∧
        ∃ r', (r'.length = some length ∧ LeftByMte c r') ∧ At c b (some r') s) OnlyPanics := by
    rintro s rfl
    unfold lengthOr
    rw [hstream.ready]
    cases hlength : r.length with
    | some l =>
      rw [hlength] at hannounced
      injection hannounced with hl
      subst hl
      exact ⟨rfl, r, ⟨hlength, hleft⟩, hstream⟩
    | none =>
      rw [hlength] at hannounced
      have hfirst : s.firstLength = some length := hannounced
      dsimp only
      refine (readFirstBlock_spec hlength (hclean hlength) hstream).mono (fun _ h => h) ?_ ?_ s rfl
      · rintro l s' ⟨hl, r', hr', hat⟩
        rw [hfirst] at hl
        injection hl with hl
        subst hl
        exact ⟨rfl, r', hr', hat⟩
      · rintro e s' ⟨-, hnone, -⟩
        rw [hfirst] at hnone
        cases hnone
  unfold readMacThenEncrypt
  refine hread.bind fun l => Holds.of_and fun hl => Holds.of_exists fun r' => Holds.of_and
    fun hr' => ?_
  subst hl
  refine Holds.get.bind fun stream₁ => Holds.of_and fun h₁ => ?_
  have hmac : PacketMac.macLen stream₁.verify = c.verify.2 := by
    rw [← h₁.flags]
    rfl
  rw [hmac]
  refine ((fill_spec fun _ => At.buffer).error fun _ s hs => absurd harrived hs.2.1).bind
    fun packet => Holds.of_and fun _ => ?_
  refine Holds.get.bind fun stream₂ => Holds.of_and fun h₂ => ?_
  rw [h₂.ready]
  refine (slice_fails (Q := fun _ _ => False) ?_).bind fun _ s h => h.elim
  rw [(hr'.2 l hr'.1).1]
  exact hlt

end CipherStream

end Flatline
