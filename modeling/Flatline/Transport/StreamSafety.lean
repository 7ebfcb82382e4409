import Flatline.Common.Machine
import Flatline.Transport.StreamModes

/-!
# Panics of the encrypted stream

`read_packet` keeps the octets it has decrypted across errors. In the two modes with a separate MAC
a later call asserts that there are none of them as long as no length is stored, and in MAC-then-encrypt
mode the first block is cut off the packet before the announced length is compared with it. These are
the only two ways for a call to panic.
-/

namespace Flatline

open Triple

/-! ## Runs -/

namespace CipherStream

variable {δ μ ζ : Type}

/-- What happens to a stream. -/
inductive Input (δ μ ζ : Type) where
  | receive (octets : Bytes)
  | poll (env : ReadEnv)
  | authenticate
  | upgradeServer (decrypt : δ) (decode : ζ) (verify : μ)

/-- `PlainStream::upgrade`. -/
def Initial (stream : CipherStream δ μ ζ) : Prop :=
  stream.state = none

variable [PacketDecrypt δ] [PacketMac μ]

/-- A call of `read_packet` panics. -/
def Panics [PacketDecode ζ] (env : ReadEnv) (stream : CipherStream δ μ ζ) : Prop :=
  ∃ stream', readPacket env stream = .error .panicked stream'

/-- One step of a stream. A call that panics or does not return is the last one. The keys are
exchanged right after a packet has been returned. -/
def Step [PacketDecode ζ] (stream : CipherStream δ μ ζ) : Input δ μ ζ → CipherStream δ μ ζ → Prop
  | .receive octets, stream' => stream' = { stream with buffer := stream.buffer ++ octets }
  | .poll env, stream' =>
    match readPacket env stream with
    | .ok _ s => stream' = s
    | .error e s => (e ≠ .panicked ∧ e ≠ .stuck) ∧ stream' = s
  | .authenticate, stream' => stream' = { stream with authenticated := true }
  | .upgradeServer decrypt decode verify, stream' =>
    stream.state = none ∧ stream' = { stream with decrypt, decode, verify }

/-- The states of a stream that any run reaches. -/
def Reachable [PacketDecode ζ] : CipherStream δ μ ζ → Prop :=
  Machine.Reachable Initial Step

/-! ## What makes a call panic -/

/-- An earlier call has failed after it had decrypted something, and before a length was stored. -/
def Leftover (stream : CipherStream δ μ ζ) : Prop :=
  PacketDecrypt.isGaloisCounterMode stream.decrypt = false ∧
    ∃ ready, stream.state = some ready ∧ ready.length = none ∧ ready.decrypted ≠ []

/-- In MAC-then-encrypt mode a packet has arrived whose announced length is less than what the first
block holds behind the length field. -/
def ShortReady (stream : CipherStream δ μ ζ) : Prop :=
  PacketDecrypt.isGaloisCounterMode stream.decrypt = false ∧ PacketMac.encryptThenMac stream.verify = false ∧
    ∃ length, (stream.ready.length <|> stream.firstLength) = some length ∧
      length.toNat + 4 < PacketDecrypt.blockSize stream.decrypt ∧
      length.toNat + 4 + PacketMac.macLen stream.verify ≤ stream.buffer.length

/-- `ShortReady`, also for a stream at the start of a packet. -/
def Short (stream : CipherStream δ μ ζ) : Prop :=
  ∃ stream', start stream = .ok () stream' ∧ stream'.ShortReady

/-! ## The invariant -/

variable {c : Flags} {b : Bytes} {r : Ready}

/-- What `read_packet` leaves behind in the selected mode. -/
def Left (c : Flags) (b : Bytes) (r : Ready) : Prop :=
  c.decrypt.1 = false →
    (c.verify.1 = true → LeftByEtm c b r) ∧ (c.verify.1 = false → LeftByMte c r)

/-- The invariant of a stream: its state is one that `read_packet` leaves behind. -/
def WellFormed (stream : CipherStream δ μ ζ) : Prop :=
  ∀ r, stream.state = some r → Left stream.flags stream.buffer r

theorem Stored.wellFormed {stream : CipherStream δ μ ζ} (h : Stored c b (Left c b) stream) :
    stream.WellFormed := by
  obtain ⟨r, hr, hat⟩ := h
  intro r' hr'
  rw [hat.state] at hr'
  injection hr' with hr'
  rw [hat.flags, hat.buffer, ← hr']
  exact hr

/-- A packet is started, or one is in progress already. -/
theorem start_spec [LawfulDecrypt δ] {stream : CipherStream δ μ ζ} (hwf : stream.WellFormed) :
    Holds (· = stream) start
      (fun _ s => s.WellFormed ∧ s.flags = stream.flags ∧ s.buffer = stream.buffer ∧
        start stream = .ok () s ∧ ∃ r, s.state = some r ∧
          (stream.state = some r ∨ r = { length := none, encrypted := [], decrypted := [] }))
      (Halts fun s => s.WellFormed) := by
  rintro s rfl
  cases hstate : s.state with
  | some r =>
    have hrun : start s = .ok () s := by
      unfold start
      rw [hstate]
    rw [hrun]
    exact ⟨hwf, rfl, rfl, rfl, r, hstate, Or.inl rfl⟩
  | none =>
    have hflags := LawfulDecrypt.flags_updateSequenceNumber s.server.sequenceNumber s.decrypt
    have hfresh : ∀ d : δ, PacketDecrypt.flags d = PacketDecrypt.flags s.decrypt →
        ({ s with decrypt := d } : CipherStream δ μ ζ).flags = s.flags := by
      intro d hd
      rw [CipherStream.flags, CipherStream.flags, hd]
    rcases hres : PacketDecrypt.updateSequenceNumber s.server.sequenceNumber s.decrypt with ⟨result, d⟩
    rw [hres] at hflags
    cases result with
    | error e =>
      have hrun : start s = .error (.failed e) { s with decrypt := d } := by
        unfold start
        rw [hstate]
        simp [bind, EStateM.bind, decrypting, hres, hstate]
      rw [hrun]
      refine ⟨by simp, fun r hr => ?_⟩
      rw [show ({ s with decrypt := d } : CipherStream δ μ ζ).state = s.state from rfl, hstate] at hr
      cases hr
    | ok _ =>
      let ready : Ready := { length := none, encrypted := [], decrypted := [] }
      have hrun : start s = .ok () { s with decrypt := d, state := some ready } := by
        unfold start
        rw [hstate]
        simp [bind, EStateM.bind, decrypting, hres, modifyReady, modify, modifyGet,
          MonadStateOf.modifyGet, EStateM.modifyGet, ready]
      rw [hrun]
      refine ⟨fun r hr => ?_, hfresh d hflags, rfl, rfl, ready, rfl, Or.inr rfl⟩
      injection hr with hr
      subst hr
      exact fun _ => ⟨fun _ => ⟨rfl, fun h => absurd rfl h⟩, fun _ length h => by cases h⟩

variable [PacketDecode ζ] [LawfulDecrypt δ] [LawfulMac μ]

/-- The three modes, on a state that makes none of them panic. -/
theorem readReady_spec {env : ReadEnv} {stream : CipherStream δ μ ζ}
    (hstream : At c b (some r) stream) (hleft : Left c b r) (hleftover : ¬ stream.Leftover)
    (hshort : ¬ stream.ShortReady) :
    Holds (· = stream) (readReady env) (fun _ s => s.flags = c)
      (Halts fun s => s.WellFormed) := by
  have hflags : stream.flags = c := hstream.flags
  rintro s rfl
  unfold readReady
  by_cases hgalois : PacketDecrypt.isGaloisCounterMode s.decrypt = true
  · rw [if_pos hgalois]
    have hc : c.decrypt.1 = true := by
      rw [← hflags]
      exact hgalois
    refine (Halts.weaken readGaloisCounterMode_spec fun s hs => ?_) s hstream
    obtain ⟨r, -, hat⟩ := hs
    exact Stored.wellFormed ⟨r, fun h => absurd (hc.symm.trans h) (by simp), hat⟩
  · rw [if_neg hgalois]
    have hc : c.decrypt.1 = false := by
      rw [← hflags]
      exact Bool.eq_false_iff.mpr hgalois
    -- no octets are left over from a failed call, or the state would be `Leftover`
    have hclean : r.length = none → r.decrypted = [] := by
      intro hlength
      by_contra hne
      exact hleftover ⟨Bool.eq_false_iff.mpr hgalois, r, hstream.state, hlength, hne⟩
    by_cases hetm : PacketMac.encryptThenMac s.verify = true
    · rw [if_pos hetm]
      have hc' : c.verify.1 = true := by
        rw [← hflags]
        exact hetm
      have hlength := ((hleft hc).1 hc').1
      refine (Halts.weaken (readEncryptThenMac_spec hlength (hclean hlength)) fun s hs => ?_) s
        hstream
      obtain ⟨r, hr, hat⟩ := hs
      exact Stored.wellFormed
        ⟨r, fun _ => ⟨fun _ => hr, fun h => absurd (hc'.symm.trans h) (by simp)⟩, hat⟩
    · rw [if_neg hetm]
      have hc' : c.verify.1 = false := by
        rw [← hflags]
        exact Bool.eq_false_iff.mpr hetm
      refine (Halts.weaken (readMacThenEncrypt_spec ((hleft hc).2 hc') hclean hstream ?_)
        fun s hs => ?_) s rfl
      · intro length hannounced harrived
        -- a packet that ends in its first block would be `ShortReady`
        by_contra hlt
        refine hshort ⟨Bool.eq_false_iff.mpr hgalois, Bool.eq_false_iff.mpr hetm, length, ?_, ?_, ?_⟩
        · rw [hstream.ready]
          exact hannounced
        · have hblock : c.decrypt.2.1 = PacketDecrypt.blockSize s.decrypt := by
            rw [← hflags]
            rfl
          omega
        · have hmac : c.verify.2 = PacketMac.macLen s.verify := by
            rw [← hflags]
            rfl
          rw [hstream.buffer]
          omega
      · obtain ⟨r, hr, hat⟩ := hs
        exact Stored.wellFormed
          ⟨r, fun _ => ⟨fun h => absurd (hc'.symm.trans h) (by simp), fun _ => hr⟩, hat⟩

/-- A call on a state that makes no mode panic does not panic, and leaves a well-formed stream. -/
theorem readPacket_spec {env : ReadEnv} {stream : CipherStream δ μ ζ} (hwf : stream.WellFormed)
    (hleftover : ¬ stream.Leftover) (hshort : ¬ stream.Short) :
    Holds (· = stream) (readPacket env) (fun _ s => s.WellFormed) (Halts fun s => s.WellFormed) := by
  have hnone : ∀ s : CipherStream δ μ ζ, s.state = none → s.WellFormed := by
    intro s hs r hr
    rw [hs] at hr
    cases hr
  unfold readPacket
  refine (start_spec hwf).bind fun _ => ?_
  have hready : Holds (fun s : CipherStream δ μ ζ => s.WellFormed ∧ s.flags = stream.flags ∧
      s.buffer = stream.buffer ∧ start stream = .ok () s ∧ ∃ r, s.state = some r ∧
        (stream.state = some r ∨ r = { length := none, encrypted := [], decrypted := [] }))
      (readReady env) (fun _ _ => True) (Halts fun s => s.WellFormed) := by
    rintro s ⟨hwf', hflags, hbuffer, hstart, r, hr, horigin⟩
    refine ((readReady_spec ⟨rfl, rfl, hr⟩ (hwf' r hr) ?_ ?_).post fun _ _ _ => trivial) s rfl
    · rintro ⟨hgalois, r', hr', hlength, hne⟩
      rw [hr] at hr'
      injection hr' with hr'
      subst hr'
      obtain horigin | rfl := horigin
      · have hmode : PacketDecrypt.isGaloisCounterMode s.decrypt =
            PacketDecrypt.isGaloisCounterMode stream.decrypt := congrArg (·.decrypt.1) hflags
        exact hleftover ⟨hmode ▸ hgalois, r, horigin, hlength, hne⟩
      · exact hne rfl
    · exact fun h => hshort ⟨s, hstart, h⟩
  refine hready.bind fun packet => ?_
  exact (Halts.weaken finish_spec hnone).post fun _ s hs => hnone s hs

/-! ## The panics -/

omit [LawfulDecrypt δ] [LawfulMac μ] in
/-- A program that can only panic panics. -/
theorem panics_of_readReady {env : ReadEnv} {stream stream' : CipherStream δ μ ζ}
    (hstart : start stream = .ok () stream')
    (hfails : Holds (· = stream') (readReady env) (fun _ _ => False) OnlyPanics) :
    stream.Panics env := by
  have hpacket : readPacket env stream = (readReady env >>= finish env) stream' := by
    unfold readPacket
    simp only [bind, EStateM.bind, hstart]
  cases hrun : readReady env stream' with
  | ok packet s => exact (hfails.of_ok rfl hrun).elim
  | error e s =>
    have he : e = .panicked := hfails.of_error rfl hrun
    refine ⟨s, ?_⟩
    rw [hpacket, ← he]
    simp only [bind, EStateM.bind, hrun]

omit [LawfulDecrypt δ] [LawfulMac μ] in
/-- Octets left over by a failed call make the next call panic. -/
theorem panics_of_leftover {env : ReadEnv} {stream : CipherStream δ μ ζ} (hwf : stream.WellFormed)
    (hleftover : stream.Leftover) : stream.Panics env := by
  obtain ⟨hgalois, r, hr, hlength, hne⟩ := hleftover
  have hstart : start stream = .ok () stream := by
    unfold start
    rw [hr]
  refine panics_of_readReady hstart ?_
  have hat : At stream.flags stream.buffer (some r) stream := ⟨rfl, rfl, hr⟩
  rintro s rfl
  unfold readReady
  rw [if_neg (by simp [hgalois])]
  by_cases hetm : PacketMac.encryptThenMac s.verify = true
  · rw [if_pos hetm]
    exact readEncryptThenMac_fails hlength hne (((hwf r hr hgalois).1 hetm).2 hne) s hat
  · rw [if_neg hetm]
    exact readMacThenEncrypt_fails_of_leftover hlength hne s hat

omit [LawfulMac μ] in
/-- A packet shorter than a block makes the call panic. -/
theorem panics_of_short {env : ReadEnv} {stream : CipherStream δ μ ζ} (hwf : stream.WellFormed)
    (hshort : stream.Short) : stream.Panics env := by
  obtain ⟨stream', hstart, hgalois, hetm, length, hannounced, hlt, harrived⟩ := hshort
  obtain ⟨hwf', hflags, hbuffer, -, r, hr, horigin⟩ := (start_spec hwf).of_ok rfl hstart
  by_cases hleftover : stream.Leftover
  · exact panics_of_leftover hwf hleftover
  · refine panics_of_readReady hstart ?_
    have hat : At stream'.flags stream'.buffer (some r) stream' := ⟨rfl, rfl, hr⟩
    have hclean : r.length = none → r.decrypted = [] := by
      intro hlength
      by_contra hne
      obtain horigin | rfl := horigin
      · have hmode : PacketDecrypt.isGaloisCounterMode stream.decrypt =
            PacketDecrypt.isGaloisCounterMode stream'.decrypt := congrArg (·.decrypt.1) hflags.symm
        exact hleftover ⟨hmode.trans hgalois, r, horigin, hlength, hne⟩
      · exact hne rfl
    rw [hat.ready] at hannounced
    have hfails : Holds (· = stream') (readMacThenEncrypt env) (fun _ _ => False) OnlyPanics :=
      readMacThenEncrypt_fails_of_short ((hwf' r hr hgalois).2 hetm) hclean hat hannounced hlt
        harrived
    rintro s rfl
    unfold readReady
    rw [if_neg (by simp [hgalois]), if_neg (by simp [hetm])]
    exact hfails s rfl

/-- On a well-formed stream a call panics in these two cases only. -/
theorem panics_iff {env : ReadEnv} {stream : CipherStream δ μ ζ} (hwf : stream.WellFormed) :
    stream.Panics env ↔ stream.Leftover ∨ stream.Short := by
  constructor
  · rintro ⟨stream', hrun⟩
    by_contra hnot
    rw [not_or] at hnot
    exact ((readPacket_spec hwf hnot.1 hnot.2).of_error rfl hrun).1 rfl
  · rintro (hleftover | hshort)
    · exact panics_of_leftover hwf hleftover
    · exact panics_of_short hwf hshort

/-! ## Runs -/

/-- New octets do not change what is left behind. -/
theorem Left.append {c : Flags} {b : Bytes} {r : Ready} (h : Left c b r) (octets : Bytes) :
    Left c (b ++ octets) r := by
  refine fun hgalois => ⟨fun hetm => ?_, (h hgalois).2⟩
  obtain ⟨hlength, hheader⟩ := (h hgalois).1 hetm
  refine ⟨hlength, fun hne => ?_⟩
  obtain ⟨header, htake, haccepted⟩ := hheader hne
  refine ⟨header, ?_, haccepted⟩
  have hfour : 4 ≤ b.length := by
    have := congrArg List.length htake
    rw [List.length_take] at this
    simp only [List.length_cons, List.length_nil] at this
    omega
  rw [List.take_append_of_le_length hfour, htake]

/-- Every step keeps a stream well-formed. -/
theorem WellFormed.step {stream stream' : CipherStream δ μ ζ} {input : Input δ μ ζ}
    (hwf : stream.WellFormed) (hstep : stream.Step input stream') : stream'.WellFormed := by
  cases input with
  | receive octets =>
    rw [Step] at hstep
    subst hstep
    exact fun r hr => (hwf r hr).append octets
  | poll env =>
    have hpanics : ¬ stream.Panics env := by
      rintro ⟨s, hrun⟩
      rw [Step, hrun] at hstep
      exact hstep.1.1 rfl
    rw [panics_iff hwf, not_or] at hpanics
    have hspec : Holds (· = stream) (readPacket env) (fun _ s => s.WellFormed)
        (Halts fun s => s.WellFormed) := readPacket_spec hwf hpanics.1 hpanics.2
    rw [Step] at hstep
    split at hstep
    · next packet s hrun => exact hstep ▸ hspec.of_ok rfl hrun
    · next e s hrun => exact hstep.2 ▸ (hspec.of_error rfl hrun).2
  | authenticate =>
    rw [Step] at hstep
    subst hstep
    exact hwf
  | upgradeServer decrypt decode verify =>
    obtain ⟨hnone, rfl⟩ := hstep
    intro r hr
    exact absurd (hnone.symm.trans hr) (by simp)

/-- Every state of a run is well-formed. -/
theorem Reachable.wellFormed {stream : CipherStream δ μ ζ} (h : stream.Reachable) :
    stream.WellFormed := by
  refine Machine.ReachVia.invariant h ?_ fun s input s' hwf _ hstep => hwf.step hstep
  intro s hinit r hr
  exact absurd (Eq.trans (Eq.symm hinit) hr) (by simp)

end CipherStream

/-! ## Transparent algorithms -/

/-- A cipher that changes nothing. -/
structure TransparentCipher where
  galois : Bool

/-- A MAC with empty tags. -/
structure EmptyMac where
  etm : Bool

/-- No compression. -/
structure NoCompression where
  payload : Bytes

instance : PacketDecrypt TransparentCipher where
  blockSize _ := 8
  isGaloisCounterMode d := d.galois
  tagLen _ := 0
  updateSequenceNumber _ d := (.ok (), d)
  additionalAuthenticatedData header d := (.ok header, d)
  update data d := ((.ok (), data), d)
  authenticationTag _ d := (.ok (), d)
  finalize d := ((.ok (), []), d)

instance : PacketMac EmptyMac where
  encryptThenMac m := m.etm
  macLen _ := 0
  update _ m := (.ok (), m)
  finalize m := (.ok [], m)

instance : PacketDecode NoCompression where
  compressInAuthentication _ := false
  update data z := some (.ok (), { payload := z.payload ++ data })
  finalize z := (.ok z.payload, { payload := [] })

instance : LawfulDecrypt TransparentCipher where
  eight_le_blockSize _ := Nat.le_refl 8
  flags_updateSequenceNumber _ _ := rfl
  flags_additionalAuthenticatedData _ _ := rfl
  flags_update _ _ := rfl
  flags_authenticationTag _ _ := rfl
  flags_finalize _ := rfl
  length_update_block _ _ _ _ := rfl
  length_update_finalize _ _ _ _ := Nat.le_refl _

instance : LawfulMac EmptyMac where
  flags_update _ _ := rfl
  flags_finalize _ := rfl

namespace CipherStream

/-- A fresh stream with transparent algorithms. -/
def transparent (galois etm : Bool) (buffer : Bytes) :
    CipherStream TransparentCipher EmptyMac NoCompression where
  buffer
  decrypt := { galois }
  decode := { payload := [] }
  verify := { etm }
  authenticated := true
  client := default
  server := default
  state := none

theorem transparent_reachable (galois etm : Bool) (buffer : Bytes) :
    (transparent galois etm buffer).Reachable :=
  .start rfl

end CipherStream

end Flatline
