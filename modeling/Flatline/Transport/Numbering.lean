import Flatline.Transport.Coders
import Flatline.Transport.Opening

/-!
# The number of a received packet

`Sealed` names the number that `send_payload` has used for a packet. `Taken` does so for a packet that
`read_packet` takes off the receive buffer: the cipher was given the number when the packet was begun,
and the MAC is fed with it before the octets of the packet.
-/

namespace Flatline

open Triple

variable {δ μ ζ : Type} {α : Type}

namespace CipherStream

variable {s s' : CipherStream δ μ ζ}

/-! ## Operations that return -/

theorem get_eq_ok {a : CipherStream δ μ ζ} (h : (get : Read δ μ ζ _) s = .ok a s') :
    s = a ∧ s = s' := by
  injection h with ha hs
  exact ⟨ha, hs⟩

theorem assert_eq_ok {p : Prop} [Decidable p] {u : Unit} (h : assert p s = .ok u s') : s = s' := by
  unfold assert at h
  split at h
  · injection h
  · cases h

theorem slice_eq_ok {data out : Bytes} {start stop : ℕ} (h : slice data start stop s = .ok out s') :
    (start ≤ stop ∧ stop ≤ data.length) ∧ (data.take stop).drop start = out ∧ s = s' := by
  unfold slice at h
  split at h
  · next hbounds =>
    injection h with hout hs
    exact ⟨hbounds, hout, hs⟩
  · cases h

theorem fill_eq_ok {env : ReadEnv} {n : ℕ} {data : Bytes} (h : fill env n s = .ok data s') :
    n ≤ s.buffer.length ∧ s.buffer.take n = data ∧ s = s' := by
  unfold fill at h
  split at h
  · next hn =>
    injection h with hdata hs
    exact ⟨hn, hdata, hs⟩
  · split at h <;> cases h

theorem verifying_eq_ok {f : μ → Except Error α × μ} {a : α} (h : verifying f s = .ok a s') :
    f s.verify = (.ok a, s'.verify) ∧ s' = { s with verify := s'.verify } := by
  unfold verifying at h
  split at h
  · next a' m hres =>
    injection h with ha hs
    subst ha hs
    exact ⟨hres, rfl⟩
  · cases h

theorem verifyTag_eq_ok [PacketMac μ] {parts : List Bytes} {tag : Bytes} {u : Unit}
    (h : verifyTag parts tag s = .ok u s') :
    PacketMac.tagOver s.server.sequenceNumber parts s.verify = (.ok tag, s'.verify) ∧
      s' = { s with verify := s'.verify } := by
  rw [verifyTag_eq] at h
  obtain ⟨mac, s₁, hverify, hensure⟩ := bind_eq_ok_iff.mp h
  obtain ⟨htag, hs₁⟩ := verifying_eq_ok hverify
  obtain ⟨rfl, rfl⟩ := ensure_eq_ok hensure
  exact ⟨htag, hs₁⟩

/-! ## Packets -/

variable [PacketDecrypt δ]

/-- The stream with a packet under way of which nothing has been decrypted yet. -/
def begun (s : CipherStream δ μ ζ) (decrypt : δ) : CipherStream δ μ ζ :=
  { s with decrypt, state := some { length := none, encrypted := [], decrypted := [] } }

/-- A packet is under way in the second stream: in the first one it was so already, or the cipher has
been given `number` for it. -/
inductive Begun (number : UInt32) (s : CipherStream δ μ ζ) : CipherStream δ μ ζ → Prop
  | underWay (hstate : s.state ≠ none) : Begun number s s
  | fresh {d : δ} (hstate : s.state = none)
      (hnumber : PacketDecrypt.updateSequenceNumber number s.decrypt = (.ok (), d)) :
      Begun number s (s.begun d)

theorem start_eq_ok {u : Unit} (h : start s = .ok u s') : Begun s.server.sequenceNumber s s' := by
  unfold start at h
  cases hstate : s.state with
  | some r =>
    rw [hstate] at h
    injection h with _ hs
    subst hs
    exact .underWay (by simp [hstate])
  | none =>
    rw [hstate] at h
    simp only [bind, EStateM.bind, decrypting] at h
    rcases hres : PacketDecrypt.updateSequenceNumber s.server.sequenceNumber s.decrypt with ⟨_ | _, d⟩
    · rw [hres] at h
      cases h
    · rw [hres] at h
      injection h with _ hs
      subst hs
      exact .fresh hstate hres

variable [PacketMac μ]

/-- What has been done to a packet, the counterpart of `Sealed`: the MAC before, the octets on the
wire, what has been decrypted behind the length field, the MAC after. In Galois/counter mode the
cipher checks the tag. -/
inductive Opened (number : UInt32) (length : UInt32) : Mode → μ → Bytes → Bytes → μ → Prop
  | galoisCounter (m : μ) (octets data : Bytes) : Opened number length .galoisCounter m octets data m
  | encryptThenMac {m m' : μ} {header body tag data : Bytes} (hheader : header.length = 4)
      (hbody : body.length = length.toNat)
      (htag : PacketMac.tagOver number [toBeBytes length, body] m = (.ok tag, m')) :
      Opened number length .encryptThenMac m (header ++ body ++ tag) data m'
  | macThenEncrypt {m m' : μ} {encrypted decrypted tag : Bytes}
      (hencrypted : encrypted.length = length.toNat + 4)
      (htag : PacketMac.tagOver number [decrypted] m = (.ok tag, m')) :
      Opened number length .macThenEncrypt m (encrypted ++ tag)
        ((decrypted.take (length.toNat + 4)).drop 4) m'

theorem Mode.decryptRest_opened {env : ReadEnv} {length : UInt32} {mode : Mode} {data : Bytes}
    {size : ℕ} (hrun : mode.decryptRest env length s = .ok (data, size) s') :
    size ≤ s.buffer.length ∧ s'.frame = s.frame ∧
      Opened s.server.sequenceNumber length mode s.verify (s.buffer.take size) data s'.verify := by
  cases mode with
  | galoisCounter =>
    obtain ⟨_, _, hget, h⟩ := bind_eq_ok_iff.mp hrun
    obtain ⟨rfl, rfl⟩ := get_eq_ok hget
    obtain ⟨bytes, s₁, hfill, h⟩ := bind_eq_ok_iff.mp h
    obtain ⟨hsize, -, rfl⟩ := fill_eq_ok hfill
    obtain ⟨body, s₂, hslice, h⟩ := bind_eq_ok_iff.mp h
    obtain ⟨-, -, rfl⟩ := slice_eq_ok hslice
    obtain ⟨data', s₃, hslice, h⟩ := bind_eq_ok_iff.mp h
    obtain ⟨-, -, rfl⟩ := slice_eq_ok hslice
    obtain ⟨updated, s₄, hupdate, h⟩ := bind_eq_ok_iff.mp h
    have h₄ := (decrypting_outside _).keeps.of_ok hupdate
    obtain ⟨tag, s₅, hslice, h⟩ := bind_eq_ok_iff.mp h
    obtain ⟨-, -, rfl⟩ := slice_eq_ok hslice
    obtain ⟨_, s₆, htag, h⟩ := bind_eq_ok_iff.mp h
    have h₆ := (decrypting_outside _).keeps.of_ok htag
    obtain ⟨finalized, s₇, hfinalize, h⟩ := bind_eq_ok_iff.mp h
    have h₇ := (decrypting_outside _).keeps.of_ok hfinalize
    injection h with hdata hs
    obtain ⟨-, rfl⟩ := Prod.mk.inj hdata
    subst hs
    obtain ⟨hframe, hrest⟩ := Prod.mk.inj ((h₇.trans h₆).trans h₄)
    rw [(Prod.mk.inj hrest).1]
    exact ⟨hsize, hframe, .galoisCounter _ _ _⟩
  | encryptThenMac =>
    obtain ⟨_, _, hget, h⟩ := bind_eq_ok_iff.mp hrun
    obtain ⟨rfl, rfl⟩ := get_eq_ok hget
    obtain ⟨_, _, hassert, h⟩ := bind_eq_ok_iff.mp h
    obtain rfl := assert_eq_ok hassert
    obtain ⟨_, _, hget, h⟩ := bind_eq_ok_iff.mp h
    obtain ⟨rfl, rfl⟩ := get_eq_ok hget
    obtain ⟨packet, s₂, hfill, h⟩ := bind_eq_ok_iff.mp h
    obtain ⟨hsize, rfl, rfl⟩ := fill_eq_ok hfill
    obtain ⟨body, s₃, hbody, h⟩ := bind_eq_ok_iff.mp h
    obtain ⟨⟨-, hle⟩, rfl, rfl⟩ := slice_eq_ok hbody
    obtain ⟨tag, s₄, htag, h⟩ := bind_eq_ok_iff.mp h
    obtain ⟨-, rfl, rfl⟩ := slice_eq_ok htag
    obtain ⟨_, s₅, hverify, h⟩ := bind_eq_ok_iff.mp h
    obtain ⟨hmac, hs₅⟩ := verifyTag_eq_ok hverify
    obtain ⟨_, s₆, hdecrypt, h⟩ := bind_eq_ok_iff.mp h
    have h₆ := (decryptAll_outside _).keeps.of_ok hdecrypt
    injection h with hdata hs
    obtain ⟨rfl, rfl⟩ := Prod.mk.inj hdata
    subst hs
    obtain ⟨hframe, hrest⟩ := Prod.mk.inj h₆
    rw [(Prod.mk.inj hrest).1]
    refine ⟨hsize, hframe.trans ?_, ?_⟩
    · rw [hs₅]
      rfl
    · obtain ⟨packet, hpacket⟩ :
          ∃ packet, s.buffer.take (4 + length.toNat + PacketMac.macLen s.verify) = packet := ⟨_, rfl⟩
      rw [hpacket] at hmac hle ⊢
      -- the slices put together: header, body, tag
      have hsplit : packet = packet.take 4 ++ (packet.take (length.toNat + 4)).drop 4 ++
          (packet.take packet.length).drop (length.toNat + 4) := by
        have hhead : packet.take 4 = (packet.take (length.toNat + 4)).take 4 := by
          rw [List.take_take, Nat.min_eq_left (by omega)]
        rw [hhead, List.take_append_drop, List.take_length, List.take_append_drop]
      rw [hsplit]
      refine .encryptThenMac ?_ ?_ hmac
      · rw [List.length_take]
        omega
      · rw [List.length_drop, List.length_take]
        omega
  | macThenEncrypt =>
    obtain ⟨_, _, hget, h⟩ := bind_eq_ok_iff.mp hrun
    obtain ⟨rfl, rfl⟩ := get_eq_ok hget
    obtain ⟨packet, s₁, hfill, h⟩ := bind_eq_ok_iff.mp h
    obtain ⟨hsize, rfl, rfl⟩ := fill_eq_ok hfill
    obtain ⟨_, _, hget, h⟩ := bind_eq_ok_iff.mp h
    obtain ⟨rfl, rfl⟩ := get_eq_ok hget
    obtain ⟨body, s₂, hbody, h⟩ := bind_eq_ok_iff.mp h
    obtain ⟨⟨-, hle⟩, rfl, rfl⟩ := slice_eq_ok hbody
    obtain ⟨_, s₃, hdecrypt, h⟩ := bind_eq_ok_iff.mp h
    have h₃ := (decryptAll_outside _).keeps.of_ok hdecrypt
    obtain ⟨_, _, hget, h⟩ := bind_eq_ok_iff.mp h
    obtain ⟨rfl, rfl⟩ := get_eq_ok hget
    obtain ⟨tag, s₄, htag, h⟩ := bind_eq_ok_iff.mp h
    obtain ⟨-, rfl, rfl⟩ := slice_eq_ok htag
    obtain ⟨_, s₅, hverify, h⟩ := bind_eq_ok_iff.mp h
    obtain ⟨hmac, hs₅⟩ := verifyTag_eq_ok hverify
    obtain ⟨out, s₆, hout, h⟩ := bind_eq_ok_iff.mp h
    obtain ⟨-, rfl, rfl⟩ := slice_eq_ok hout
    injection h with hdata hs
    obtain ⟨rfl, rfl⟩ := Prod.mk.inj hdata
    subst hs
    obtain ⟨hframe, hrest⟩ := Prod.mk.inj h₃
    obtain ⟨hverify, -⟩ := Prod.mk.inj hrest
    have hserver : s₃.server = s.server := congrArg Frame.server hframe
    refine ⟨hsize, ?_, ?_⟩
    · rw [hs₅]
      exact hframe
    · obtain ⟨packet, hpacket⟩ :
          ∃ packet, s.buffer.take (length.toNat + 4 + PacketMac.macLen s.verify) = packet := ⟨_, rfl⟩
      rw [hpacket] at hmac hle ⊢
      rw [hserver, hverify] at hmac
      rw [← List.take_append_drop (length.toNat + 4) packet]
      rw [List.take_length] at hmac
      refine .macThenEncrypt ?_ hmac
      rw [List.length_take]
      omega

theorem decryptPacket_eq_ok {env : ReadEnv} {length : UInt32} {data : Bytes} {size : ℕ}
    (hrun : decryptPacket env s = .ok (length, data, size) s') :
    size ≤ s.buffer.length ∧ s'.frame = s.frame ∧ ∃ s₀, Begun s.server.sequenceNumber s s₀ ∧
      Opened s.server.sequenceNumber length s₀.mode s.verify (s.buffer.take size) data s'.verify := by
  obtain ⟨_, s₀, hstart, h⟩ := bind_eq_ok_iff.mp hrun
  have h₀ := start_outside.keeps.of_ok hstart
  obtain ⟨_, _, hget, h⟩ := bind_eq_ok_iff.mp h
  obtain ⟨rfl, rfl⟩ := get_eq_ok hget
  obtain ⟨length', s₁, hlength, h⟩ := bind_eq_ok_iff.mp h
  have h₁ := (lengthOr_outside (Mode.readLength_outside env s₀.mode)).keeps.of_ok hlength
  obtain ⟨⟨data', size'⟩, s₂, hrest, h⟩ := bind_eq_ok_iff.mp h
  injection h with hresult hs
  obtain ⟨rfl, hpair⟩ := Prod.mk.inj hresult
  obtain ⟨rfl, rfl⟩ := Prod.mk.inj hpair
  subst hs
  obtain ⟨hsize, hframe, hopened⟩ := Mode.decryptRest_opened hrest
  obtain ⟨hframe₁, houtside⟩ := Prod.mk.inj (h₁.trans h₀)
  have hbuffer : s₁.buffer = s.buffer := congrArg Frame.buffer hframe₁
  have hserver : s₁.server = s.server := congrArg Frame.server hframe₁
  rw [hbuffer] at hsize
  rw [hbuffer, hserver, (Prod.mk.inj houtside).1] at hopened
  exact ⟨hsize, hframe.trans hframe₁, s₀, start_eq_ok hstart, hopened⟩

theorem decryptPacket_keeps (env : ReadEnv) :
    Keeps (decryptPacket env : Read δ μ ζ (UInt32 × Bytes × ℕ)) := by
  have hrest : ∀ (length : UInt32) (mode : Mode),
      Keeps (mode.decryptRest env length : Read δ μ ζ (Bytes × ℕ)) := by
    intro length mode
    cases mode with
    | galoisCounter =>
      refine .get_bind fun _ => (fill_keeps _ _).bind fun _ => (slice_keeps _ _ _).bind fun _ => ?_
      refine (slice_keeps _ _ _).bind fun _ => (decrypting_keeps _).bind fun _ => ?_
      refine (slice_keeps _ _ _).bind fun _ => (decrypting_keeps _).bind fun _ => ?_
      exact (decrypting_keeps _).bind fun _ => .pure _
    | encryptThenMac =>
      refine .get_bind fun _ => (assert_keeps _).bind fun _ => .get_bind fun _ => ?_
      refine (fill_keeps _ _).bind fun _ => (slice_keeps _ _ _).bind fun _ => ?_
      refine (slice_keeps _ _ _).bind fun _ => (verifyTag_keeps _ _).bind fun _ => ?_
      exact (decryptAll_keeps _).bind fun _ => .get_bind fun _ => .pure _
    | macThenEncrypt =>
      refine .get_bind fun _ => (fill_keeps _ _).bind fun _ => .get_bind fun _ => ?_
      refine (slice_keeps _ _ _).bind fun _ => (decryptAll_keeps _).bind fun _ => ?_
      refine .get_bind fun _ => (slice_keeps _ _ _).bind fun _ => ?_
      exact (verifyTag_keeps _ _).bind fun _ => (slice_keeps _ _ _).bind fun _ => .pure _
  refine start_keeps.bind fun _ => .get_bind fun s => ?_
  refine (lengthOr_keeps (Mode.readLength_keeps env s.mode)).bind fun length => ?_
  exact (hrest length s.mode).bind fun _ => .pure _

/-! ## Calls that take a packet -/

/-- From `s` to `s'` a packet has been taken off the receive buffer, and `number` has been used for
it. -/
def Taken (number : UInt32) (s s' : CipherStream δ μ ζ) : Prop :=
  ∃ octets length data content padding s₀,
    s.buffer = octets ++ s'.buffer ∧ Unpads length data content padding ∧ Begun number s s₀ ∧
    Opened number length s₀.mode s.verify octets data s'.verify

omit [PacketDecrypt δ] [PacketMac μ] in
theorem finish_leaves (env : ReadEnv) (packet : Packet) :
    Triple.Keeps (fun s : CipherStream δ μ ζ => (s.buffer, s.verify)) (finish env packet) := by
  have hreset : ∀ (code : UInt8) (s : CipherStream δ μ ζ),
      ((resetSequenceNumber code s).buffer, (resetSequenceNumber code s).verify) =
        (s.buffer, s.verify) := by
    intro code s
    unfold resetSequenceNumber
    split <;> rfl
  unfold finish
  refine Triple.Keeps.bind (.modify fun _ => rfl) fun _ => ?_
  split
  · exact .throw _
  · have hensure : ∀ (p : Prop) [Decidable p] (e : Error), Triple.Keeps
        (fun s : CipherStream δ μ ζ => (s.buffer, s.verify)) (ensure p e) := by
      intro p _ e
      refine ((ensure_outside p e).mono fun h => ?_).keeps
      obtain ⟨hframe, hrest⟩ := Prod.mk.inj h
      exact Prod.ext (congrArg Frame.buffer hframe) (Prod.mk.inj hrest).1
    exact (hensure _ _).bind fun _ => Triple.Keeps.bind (.modify (hreset _)) fun _ => .pure _

variable [PacketDecode ζ]

/-- Between two packets, a call of `read_packet` gives `number` to the cipher and goes on as if the
packet were under way, if the cipher does not fail. -/
def Begins (number : UInt32) (s : CipherStream δ μ ζ) : Prop :=
  ∀ env, (∀ d, PacketDecrypt.updateSequenceNumber number s.decrypt = (.ok (), d) →
      readPacket env s = readPacket env (s.begun d)) ∧
    ∀ e d, PacketDecrypt.updateSequenceNumber number s.decrypt = (.error e, d) →
      readPacket env s = .error (.failed e) { s with decrypt := d }

theorem begins_of_state (hstate : s.state = none) : s.Begins s.server.sequenceNumber := by
  intro env
  unfold readPacket
  constructor
  · intro d hnumber
    have hstart : start s = .ok () (s.begun d) := by
      unfold start
      rw [hstate]
      simp only [bind, EStateM.bind, decrypting, hnumber]
      rfl
    rw [bind_of_ok hstart, bind_of_ok (show start (s.begun d) = .ok () (s.begun d) from rfl)]
  · intro e d hnumber
    have hstart : start s = .error (.failed e) { s with decrypt := d } := by
      unfold start
      rw [hstate]
      simp only [bind, EStateM.bind, decrypting, hnumber]
      rw [← hstate]
    exact bind_of_error hstart

omit [PacketDecrypt δ] [PacketMac μ] in
theorem decompress_leaves (content : Bytes) :
    Triple.Keeps (fun s : CipherStream δ μ ζ => (s.buffer, s.verify)) (decompress content) := by
  have hdecoding : ∀ {α : Type} (f : ζ → Except Error α × ζ),
      Triple.Keeps (fun s : CipherStream δ μ ζ => (s.buffer, s.verify)) (decoding f) := by
    intro α f c s hs
    unfold decoding
    rcases f s.decode with ⟨_ | a, z⟩ <;> exact hs
  have hfeeding : ∀ f : ζ → Option (Except Error Unit × ζ),
      Triple.Keeps (fun s : CipherStream δ μ ζ => (s.buffer, s.verify)) (feeding f) := by
    intro f c s hs
    unfold feeding
    cases f s.decode with
    | some result => exact hdecoding (fun _ => result) c s hs
    | none => exact hs
  refine .get_bind fun s => ?_
  split
  · exact (hfeeding _).bind fun _ => hdecoding _
  · exact .pure _

omit [PacketDecrypt δ] [PacketMac μ] in
theorem takePacket_eq_ok {length : UInt32} {data : Bytes} {size : ℕ} {packet : Packet}
    (hrun : takePacket length data size s = .ok packet s') :
    (∃ content, Unpads length data content packet.padding) ∧ size ≤ s.buffer.length ∧
      s'.buffer = s.buffer.drop size ∧ s'.verify = s.verify := by
  obtain ⟨packet', s₁, hopen, h⟩ := bind_eq_ok_iff.mp hrun
  obtain ⟨_, s₂, hconsume, h⟩ := bind_eq_ok_iff.mp h
  injection h with hpacket hs
  subst hpacket hs
  obtain ⟨content, hunpads, hdecompress⟩ := openPacket_eq_ok hopen
  obtain ⟨hbuffer, hverify⟩ := Prod.mk.inj ((decompress_leaves content).of_ok hdecompress)
  unfold consumeReadBuffer at hconsume
  split at hconsume
  · next hsize =>
    injection hconsume with _ hs
    subst hs
    rw [hbuffer] at hsize
    exact ⟨⟨content, hunpads⟩, hsize, by rw [← hbuffer], hverify⟩
  · cases hconsume

omit [PacketDecrypt δ] [PacketMac μ] in
theorem takePacket_eq_error {length : UInt32} {data : Bytes} {size : ℕ} {e : Stop}
    (hrun : takePacket length data size s = .error e s') : s'.buffer = s.buffer := by
  unfold takePacket at hrun
  cases hopen : openPacket length data s with
  | error e₁ s₁ =>
    rw [bind_of_error hopen] at hrun
    injection hrun with _ hs
    subst hs
    exact congrArg Frame.buffer ((openPacket_keeps length data s.frame).of_error rfl hopen)
  | ok packet s₁ =>
    rw [bind_of_ok hopen] at hrun
    have hbuffer : s₁.buffer = s.buffer :=
      congrArg Frame.buffer ((openPacket_keeps length data s.frame).of_ok rfl hopen)
    by_cases hsize : size ≤ s₁.buffer.length
    · have hconsume : consumeReadBuffer size s₁ =
          .ok () { s₁ with buffer := s₁.buffer.drop size } := if_pos hsize
      rw [bind_of_ok hconsume] at hrun
      cases hrun
    · have hconsume : consumeReadBuffer size s₁ = .error .panicked s₁ := if_neg hsize
      rw [bind_of_error hconsume] at hrun
      injection hrun with _ hs
      subst hs
      exact hbuffer

/-- A packet that `read_packet` takes off the buffer, to return it or to refuse it, has been opened
under the sequence number. -/
theorem readPacket_taken {env : ReadEnv}
    (h : (∃ packet, readPacket env s = .ok packet s') ∨
      ∃ e, readPacket env s = .error e s' ∧ s'.buffer.length < s.buffer.length) :
    Taken s.server.sequenceNumber s s' := by
  have hfinish : ∀ {length data size packet} {s₁ s₂ s₃ : CipherStream δ μ ζ},
      decryptPacket env s = .ok (length, data, size) s₁ →
      takePacket length data size s₁ = .ok packet s₂ →
      (s₃.buffer, s₃.verify) = (s₂.buffer, s₂.verify) → Taken s.server.sequenceNumber s s₃ := by
    intro length data size packet s₁ s₂ s₃ hdecrypt htake hsame
    obtain ⟨-, hframe, s₀, hbegun, hopened⟩ := decryptPacket_eq_ok hdecrypt
    obtain ⟨⟨content, hunpads⟩, -, hbuffer, hverify⟩ := takePacket_eq_ok htake
    obtain ⟨hbuffer', hverify'⟩ := Prod.mk.inj hsame
    have hbuffer₁ : s₁.buffer = s.buffer := congrArg Frame.buffer hframe
    refine ⟨s.buffer.take size, length, data, content, packet.padding, s₀, ?_, hunpads, hbegun, ?_⟩
    · rw [hbuffer', hbuffer, hbuffer₁, List.take_append_drop]
    · rw [hverify', hverify]
      exact hopened
  -- octets leave the buffer in `takePacket`; what comes after it may still refuse the packet
  rw [readPacket_eq] at h
  cases hdecrypt : decryptPacket env s with
  | error e₁ s₁ =>
    have hbuffer : s₁.buffer = s.buffer :=
      congrArg Frame.buffer ((decryptPacket_keeps env s.frame).of_error rfl hdecrypt)
    rw [bind_of_error hdecrypt] at h
    rcases h with ⟨packet, h⟩ | ⟨e, h, hshort⟩
    · cases h
    · injection h with _ hs
      rw [← hs, hbuffer] at hshort
      omega
  | ok result s₁ =>
    obtain ⟨length, data, size⟩ := result
    rw [bind_of_ok hdecrypt] at h
    cases htake : takePacket length data size s₁ with
    | error e₂ s₂ =>
      have hbuffer : s₁.buffer = s.buffer :=
        congrArg Frame.buffer ((decryptPacket_keeps env s.frame).of_ok rfl hdecrypt)
      have hbuffer' := takePacket_eq_error htake
      dsimp only at h
      rw [bind_of_error htake] at h
      rcases h with ⟨packet, h⟩ | ⟨e, h, hshort⟩
      · cases h
      · injection h with _ hs
        rw [← hs, hbuffer', hbuffer] at hshort
        omega
    | ok packet s₂ =>
      dsimp only at h
      rw [bind_of_ok htake] at h
      rcases h with ⟨packet', h⟩ | ⟨e, h, -⟩
      · exact hfinish hdecrypt htake ((finish_leaves env packet).of_ok h)
      · exact hfinish hdecrypt htake ((finish_leaves env packet).of_error h)

end CipherStream

end Flatline
