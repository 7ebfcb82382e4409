import Flatline.Transport.PlainWire
import Flatline.Transport.RoundTrip

/-!
# What is sent in the clear is read

The unencrypted stream on its socket takes exactly the frames that `PlainStream` takes, and reads
the payloads that another one sends. With the encrypted stream this makes the round trip of the
binary packet protocol, `packets_round_trip`.

Source: `src/ssh/stream.rs` (`PlainStream`), `src/ssh/msg.rs` (`Packet`).
-/

namespace Flatline

open Triple

/-! ## Packets and their octets -/

/-- A packet is parsed out of its octets as it was put in. -/
theorem Packet.parse_build {packet : Packet} (hpacket : packet.Fits) :
    Packet.parse packet.build = .ok packet := by
  have hpos : 0 < packet.payload.length := List.length_pos_iff.mpr hpacket.nonempty
  have hbuild := packet.length_build
  have hpadding : (UInt8.ofNat packet.padding.length).toNat = packet.padding.length := by
    have := hpacket.padding_le
    rw [UInt8.toNat_ofNat']
    omega
  have hbody : Packet.parseBody packet.build.length (UInt8.ofNat packet.padding.length)
      (packet.payload ++ packet.padding) = .ok packet [] := by
    have hpeek : Consumer.peek (packet.payload ++ packet.padding) =
      .ok (packet.payload ++ packet.padding) (packet.payload ++ packet.padding) := rfl
    have hcontent : (packet.payload ++ packet.padding).length - packet.padding.length =
        packet.payload.length := by
      rw [List.length_append]
      omega
    have hrest := Consumer.consumeBytes_append packet.padding []
    rw [List.append_nil] at hrest
    unfold Packet.parseBody
    rw [hpadding, if_neg (by omega)]
    change (Consumer.peek >>= _) (packet.payload ++ packet.padding) = _
    rw [bind_of_ok hpeek, hcontent, bind_of_ok (Consumer.consumeBytes_append _ _),
      bind_of_ok hrest]
    rfl
  unfold Packet.parse Consumer.run'
  have hrun : (do Packet.parseBody packet.build.length (← Consumer.consumeU8) : Consumer Packet)
      packet.build = .ok packet [] := by
    rw [bind_of_ok (show Consumer.consumeU8 packet.build = .ok (UInt8.ofNat packet.padding.length)
      (packet.payload ++ packet.padding) from rfl)]
    exact hbody
  rw [hrun]

namespace PlainWire

/-! ## Runs of the stream's operations -/

theorem fill_run {env : ReadEnv} {n : ℕ} {s : PlainWire} (h : n ≤ s.buffer.length) :
    fill env n s = .ok (s.buffer.take n) s :=
  if_pos h

theorem toSize_run (n : UInt32) (s : PlainWire) : toSize (toBeBytes n) s = .ok n s := by
  change EStateM.Result.ok (fromBeBytes _ _ _ _) s = _
  rw [fromBeBytes_toBeBytes]

theorem ensure_run {p : Prop} [Decidable p] {e : Error} {s : PlainWire} (h : p) :
    ensure p e s = .ok () s := by
  unfold ensure
  rw [if_pos h]
  rfl

theorem ensure_fails {p : Prop} [Decidable p] {e : Error} {s : PlainWire} (h : ¬ p) :
    ensure p e s = .error (.failed e) s := by
  unfold ensure
  rw [if_neg h]
  rfl

/-! ## Frames -/

/-- What is left to do with a frame of the size `n`. -/
theorem recvPacket_frame {env : ReadEnv} {s : PlainWire} {data rest : Bytes} {n : UInt32}
    (hn : n.toNat = data.length) (hbuffer : s.buffer = toBeBytes n ++ data ++ rest) :
    recvPacket env s = (do
      ensure (data.length + 4 ≤ maxPacketLength)
        (.transport (.packetTooLong maxPacketLength (data.length + 4)))
      finish env (4 + data.length) (← parse data) : Run Packet) s := by
  have hfour : s.buffer.take 4 = toBeBytes n := by
    rw [hbuffer, List.append_assoc]
    exact CipherStream.take_of_append (length_toBeBytes n)
  have hall : (toBeBytes n ++ data).length = 4 + data.length := by
    rw [List.length_append, length_toBeBytes]
  have hbytes : s.buffer.take (4 + data.length) = toBeBytes n ++ data := by
    rw [hbuffer]
    exact CipherStream.take_of_append hall
  unfold recvPacket
  rw [bind_of_ok (fill_run (by rw [hbuffer]; simp)), hfour, bind_of_ok (toSize_run n s), hn]
  by_cases hfits : data.length + 4 ≤ maxPacketLength
  · rw [bind_of_ok (ensure_run hfits), bind_of_ok (ensure_run hfits),
      bind_of_ok (fill_run (by rw [hbuffer, List.length_append]; omega)), hbytes,
      CipherStream.drop_of_append (length_toBeBytes n)]
  · simp only [bind, EStateM.bind, ensure_fails hfits]

theorem finish_run {env : ReadEnv} {s : PlainWire} {packet : Packet} {size : ℕ}
    (hlength : packet.payload.length ≤ maxPacketPayloadLength ∨ env.strictFeature = false)
    (hne : packet.payload ≠ []) :
    finish env size packet s = .ok packet { s with
      buffer := s.buffer.drop size
      server.sequenceNumber :=
        DuplexStream.nextNumber s.strict packet.payload s.server.sequenceNumber } := by
  obtain ⟨code, more, hpayload⟩ := List.exists_cons_of_ne_nil hne
  let s₁ : PlainWire := { s with
    buffer := s.buffer.drop size
    server.sequenceNumber := s.server.sequenceNumber + 1 }
  unfold finish
  rw [bind_of_ok (ensure_run hlength),
    bind_of_ok (show consumePacket size s = .ok ⟨⟩ s₁ from rfl), hpayload]
  refine congrArg (EStateM.Result.ok packet) ?_
  have hboth : s.strict = true ↔ s.client.kexStrict = true ∧ s.server.kexStrict = true :=
    Bool.and_eq_true_iff
  unfold resetSequenceNumber DuplexStream.nextNumber
  by_cases hcode : code = sshMsgNewkeys ∧ s.strict = true
  · rw [if_pos ⟨hcode.1, hboth.mp hcode.2⟩, if_pos ⟨congrArg some hcode.1, hcode.2⟩]
  · rw [if_neg fun h => hcode ⟨h.1, hboth.mpr h.2⟩,
      if_neg fun h => hcode ⟨Option.some_inj.mp h.1, h.2⟩]

/-- A frame that `PlainStream` takes is read, and the stream is left as `PlainStream` leaves it. -/
theorem recvPacket_of_frame {env : ReadEnv} {s : PlainWire} {data rest : Bytes} {n : UInt32}
    {packet : Packet} (hbuffer : s.buffer = toBeBytes n ++ data ++ rest)
    (hn : n.toNat = data.length) (hfits : data.length + 4 ≤ maxPacketLength) (hparse : Packet.parse data = .ok packet) (hne : packet.payload ≠ [])
    (hlength : packet.payload.length ≤ maxPacketPayloadLength ∨ env.strictFeature = false) :
    recvPacket env s = .ok packet { s with
      buffer := rest
      server.sequenceNumber :=
        DuplexStream.nextNumber s.strict packet.payload s.server.sequenceNumber } := by
  have hdrop : s.buffer.drop (4 + data.length) = rest := by
    rw [hbuffer]
    exact CipherStream.drop_of_append (by rw [List.length_append, length_toBeBytes])
  have hrun : parse data s = .ok packet s := by
    unfold parse
    rw [hparse]
    rfl
  rw [recvPacket_frame hn hbuffer, bind_of_ok (ensure_run hfits), bind_of_ok hrun,
    finish_run hlength hne, hdrop]

/-- `PlainStream` takes a frame exactly when it is read from the socket, if the crate does not
measure payloads. -/
theorem framePayload_eq_ok_iff {env : ReadEnv} {s : PlainWire} {data rest : Bytes} {n : UInt32}
    {payload : Bytes} {writable : Bool} (hstrict : env.strictFeature = false)
    (hn : n.toNat = data.length) (hbuffer : s.buffer = toBeBytes n ++ data ++ rest) :
    PlainStream.framePayload ⟨some data, writable⟩ = .ok payload ↔
      ∃ packet s', packet.payload = payload ∧ recvPacket env s = .ok packet s' := by
  unfold PlainStream.framePayload
  dsimp only
  rw [Except.ite_error_eq_ok_iff, Except.bind_eq_ok_iff]
  constructor
  · rintro ⟨hfits, packet, hparse, hpayload⟩
    rw [Except.ite_error_eq_ok_iff] at hpayload
    obtain ⟨hne, hpayload⟩ := hpayload
    injection hpayload with hpayload
    exact ⟨packet, _, hpayload, recvPacket_of_frame hbuffer hn (by omega) hparse hne (Or.inr hstrict)⟩
  · rintro ⟨packet, s', rfl, hrecv⟩
    rw [recvPacket_frame hn hbuffer] at hrecv
    obtain ⟨_, s₁, hensure, hrecv⟩ := bind_eq_ok_iff.mp hrecv
    obtain ⟨packet', s₂, hparse, hrecv⟩ := bind_eq_ok_iff.mp hrecv
    have hfits : data.length + 4 ≤ maxPacketLength := by
      by_contra h
      rw [ensure_fails h] at hensure
      cases hensure
    have hparsed : Packet.parse data = .ok packet' := by
      unfold parse at hparse
      cases hp : Packet.parse data with
      | error e =>
        rw [hp] at hparse
        cases hparse
      | ok packet₁ =>
        rw [hp] at hparse
        injection hparse with hpacket
        rw [hpacket]
    have hfinish : packet'.payload ≠ [] ∧ packet' = packet := by
      unfold finish at hrecv
      obtain ⟨_, s₃, -, hrecv⟩ := bind_eq_ok_iff.mp hrecv
      obtain ⟨_, s₄, -, hrecv⟩ := bind_eq_ok_iff.mp hrecv
      cases hpayload : packet'.payload with
      | nil =>
        rw [hpayload] at hrecv
        cases hrecv
      | cons code more =>
        rw [hpayload] at hrecv
        injection hrecv with hpacket
        exact ⟨List.cons_ne_nil code more, hpacket⟩
    obtain ⟨hne, rfl⟩ := hfinish
    refine ⟨by omega, packet', hparsed, ?_⟩
    rw [if_neg hne]
    rfl

/-! ## Sequences of packets -/

/-- The sending half of `sender` and the receiving half of `receiver` count alike, and nothing is
under way between them. -/
structure Matches (sender receiver : PlainWire) : Prop where
  number : receiver.server.sequenceNumber = sender.client.sequenceNumber
  strict : receiver.strict = sender.strict
  buffer : receiver.buffer = []
  writeBuffer : sender.writeBuffer = []

/-- Successive calls of `send_payload`. -/
def sendAll : List Sending → Run Unit
  | [] => pure ()
  | sending :: rest => do
    sendPayload sending.env sending.payload
    sendAll rest

/-- Successive calls of `recv_packet`, as many as `n`. -/
def recvAll (env : ReadEnv) : ℕ → Run (List Packet)
  | 0 => pure []
  | n + 1 => do
    let packet ← recvPacket env
    let packets ← recvAll env n
    return packet :: packets

/-- The packet around a payload has room for it and for its padding. -/
theorem packetOf_fits {sending : Sending} (h : sending.Admissible) :
    (packetOf sending.env sending.payload).Fits ∧
      Carries 8 (4 + 1) sending.payload (packetOf sending.env sending.payload) := by
  obtain ⟨hmin, hmax, hdvd⟩ := paddingLength_spec 8 (by omega)
    (4 + 1 + sending.payload.length)
  have hpadding : (packetOf sending.env sending.payload).padding.length =
      paddingLength 8 (4 + 1 + sending.payload.length) := SendEnv.length_fill _ _
  refine ⟨⟨h.nonempty, h.length_le, by omega⟩, rfl, hpadding ▸ hmin, by omega, ?_⟩
  rw [hpadding]
  exact hdvd

/-- The octets of a payload on the wire. -/
def wireOf (sending : Sending) : Bytes :=
  let packet := packetOf sending.env sending.payload
  toBeBytes packet.length ++ packet.build

theorem sendPayload_run {sending : Sending} {s : PlainWire} (h : sending.Admissible) :
    sendPayload sending.env sending.payload s = .ok () { s with
      client.sequenceNumber :=
        DuplexStream.nextNumber s.strict sending.payload s.client.sequenceNumber
      writeBuffer := []
      written := s.written ++ (s.writeBuffer ++ wireOf sending) } := by
  obtain ⟨hfits, -, -, -⟩ := packetOf_fits h
  have hpayload := h.length_le
  have hpadding := hfits.padding_le
  simp only [maxPacketPayloadLength] at hpayload
  have hwrite {octets : Bytes} : writeAll sending.env octets s = .ok () { s with
      written := s.written ++ (s.writeBuffer ++ octets)
      writeBuffer := [] } := by
    unfold writeAll
    rw [h.flushed]
  unfold sendPayload
  rw [if_neg h.nonempty, bind_of_ok (ensure_run h.length_le),
    bind_of_ok (ensure_run (by simp only [maxPacketLength]; omega)), bind_of_ok hwrite]
  rfl

theorem Matches.step {sender receiver : PlainWire} {sending : Sending} (h : Matches sender receiver)
    (hsending : sending.Admissible) :
    ∃ sender' receiver', sendPayload sending.env sending.payload sender = .ok () sender' ∧
      sender'.written = sender.written ++ wireOf sending ∧
      (∀ env more, recvPacket env (receiver.receive (wireOf sending ++ more)) =
        .ok (packetOf sending.env sending.payload) (receiver'.receive more)) ∧
      Matches sender' receiver' := by
  obtain ⟨hfits, -⟩ := packetOf_fits hsending
  have hpayload := hsending.length_le
  have hpadding := hfits.padding_le
  simp only [maxPacketPayloadLength] at hpayload
  have hbuild := (packetOf sending.env sending.payload).length_build
  have hcontent : (packetOf sending.env sending.payload).payload.length = sending.payload.length :=
    rfl
  refine ⟨_, { receiver with
    server.sequenceNumber :=
      DuplexStream.nextNumber receiver.strict sending.payload receiver.server.sequenceNumber },
    sendPayload_run hsending, by rw [h.writeBuffer]; rfl, ?_, ?_, h.strict, h.buffer, rfl⟩
  · intro env more
    have hbuffer : (receiver.receive (wireOf sending ++ more)).buffer =
        toBeBytes (packetOf sending.env sending.payload).length ++
          (packetOf sending.env sending.payload).build ++ more := by
      rw [receive, h.buffer]
      rfl
    rw [recvPacket_of_frame hbuffer (hfits.toNat_length.trans hbuild.symm)
      (by simp only [maxPacketLength]; omega) (Packet.parse_build hfits) hfits.nonempty
      (Or.inl hfits.payload_le), receive, h.buffer]
    rfl
  · dsimp only
    rw [h.number, h.strict]

/-- A sequence of payloads is sent and read. -/
theorem Matches.run (env : ReadEnv) {sender receiver : PlainWire} {sendings : List Sending}
    (hsendings : ∀ sending ∈ sendings, sending.Admissible) (h : Matches sender receiver) :
    ∃ sender' octets packets receiver', sendAll sendings sender = .ok () sender' ∧
      sender'.written = sender.written ++ octets ∧
      (∀ more, recvAll env sendings.length (receiver.receive (octets ++ more)) =
        .ok packets (receiver'.receive more)) ∧
      List.Forall₂ (Carries 8 (4 + 1)) (sendings.map Sending.payload) packets ∧
      Matches sender' receiver' := by
  induction sendings generalizing sender receiver with
  | nil => exact ⟨sender, [], [], receiver, rfl, by simp, fun more => rfl, .nil, h⟩
  | cons sending rest ih =>
    have hsending := hsendings sending List.mem_cons_self
    obtain ⟨sender₁, receiver₁, hsend, hwritten₁, hrecv₁, h₁⟩ := h.step hsending
    obtain ⟨sender₂, octets, packets, receiver₂, hrest, hwritten₂, hrecv₂, hall, h₂⟩ :=
      ih (fun s hs => hsendings s (List.mem_cons_of_mem sending hs)) h₁
    refine ⟨sender₂, wireOf sending ++ octets, _ :: packets, receiver₂, ?_, ?_, ?_,
      .cons (packetOf_fits hsending).2 hall, h₂⟩
    · unfold sendAll
      rw [bind_of_ok hsend, hrest]
    · rw [hwritten₂, hwritten₁, List.append_assoc]
    · intro more
      rw [List.append_assoc, List.length_cons, recvAll, bind_of_ok (hrecv₁ env (octets ++ more)),
        bind_of_ok (hrecv₂ more)]
      rfl

end PlainWire

/-! ## The binary packet protocol -/

variable {ε δ μ : Type} [PacketEncrypt ε] [PacketDecrypt δ] [PacketMac μ] [LawfulDecrypt δ]
  [LawfulMac μ] [TagLength μ] {R : ε → δ → Prop}

/-- The round trip of the binary packet protocol, in every mode and in the clear: what successive
calls of `send_payload` write makes successive calls of `read_packet` and `recv_packet` return
exactly the payloads, and everything is consumed. Each packet has between 4 and 255 octets of
padding, up to a multiple of the block size. -/
theorem packets_round_trip (hR : Inverts R) (hnever : NeverFails μ R) (env : ReadEnv)
    (sendings : List Sending) (hsendings : ∀ sending ∈ sendings, sending.Admissible) :
    (∀ {δ' ζ : Type} (sender : DuplexStream ε NoCompression δ' μ ζ)
        (receiver : CipherStream δ μ NoCompression),
      Matches R sender receiver → ∃ sender' octets packets receiver',
        DuplexStream.sendAll sendings sender = .ok () sender' ∧
        sender'.written = sender.written ++ octets ∧
        CipherStream.readAll env .keep sendings.length (receiver.receive octets) =
          (packets, .inr receiver') ∧
        List.Forall₂ (Carries (PacketEncrypt.blockSize sender.encrypt)
          (coveredLength sender.encrypt sender.calculator)) (sendings.map Sending.payload) packets ∧
        receiver'.buffer = [] ∧ Matches R sender' receiver') ∧
    ∀ sender receiver : PlainWire, PlainWire.Matches sender receiver →
      ∃ sender' octets packets receiver', PlainWire.sendAll sendings sender = .ok () sender' ∧
        sender'.written = sender.written ++ octets ∧
        PlainWire.recvAll env sendings.length (receiver.receive octets) = .ok packets receiver' ∧
        List.Forall₂ (Carries 8 (4 + 1)) (sendings.map Sending.payload) packets ∧
        receiver'.buffer = [] ∧ PlainWire.Matches sender' receiver' := by
  constructor
  · intro δ' ζ sender receiver h
    obtain ⟨sender', octets, packets, receiver', hsend, hwritten, hread, hall, h'⟩ :=
      h.run hR hnever env hsendings
    have hread := hread []
    rw [List.append_nil] at hread
    refine ⟨sender', octets, packets, _, hsend, hwritten, hread, hall, ?_⟩
    have hsame : receiver'.receive [] = receiver' := by
      rw [CipherStream.receive, List.append_nil]
    rw [hsame]
    exact ⟨h'.buffer, h'⟩
  · intro sender receiver h
    obtain ⟨sender', octets, packets, receiver', hsend, hwritten, hread, hall, h'⟩ :=
      h.run env hsendings
    have hread := hread []
    rw [List.append_nil] at hread
    refine ⟨sender', octets, packets, _, hsend, hwritten, hread, hall, ?_⟩
    have hsame : receiver'.receive [] = receiver' := by
      rw [PlainWire.receive, List.append_nil]
    rw [hsame]
    exact ⟨h'.buffer, h'⟩

/-! ## Transparent algorithms -/

instance : PacketEncrypt TransparentCipher where
  blockSize _ := 8
  isGaloisCounterMode e := e.galois
  updateSequenceNumber _ e := (.ok (), e)
  additionalAuthenticatedData header e := (.ok header, e)
  update data e := (.ok data, e)
  finalize e := (.ok [], e)
  authenticationTag e := (.ok [], e)

instance : TagLength EmptyMac where
  macLen_le _ := Nat.zero_le _
  length_finalize h := by
    injection h with htag
    injection htag with htag
    rw [← htag]
    rfl

theorem transparent_whole (data : Bytes) (e : TransparentCipher) :
    PacketEncrypt.whole data e = (.ok data, e) := by
  change (Except.ok (data ++ []), e) = _
  rw [List.append_nil]

/-- A transparent cipher inverts itself. -/
theorem transparent_inverts : Inverts (fun e d : TransparentCipher => d = e) where
  isGaloisCounterMode h := h ▸ rfl
  blockSize _ := rfl
  blockSize_le _ := by change 8 ≤ 252; omega
  tagLen_le _ := Nat.zero_le _
  number _ h _ := ⟨_, rfl, h⟩
  whole {e e' d data out} h _ _ hout := by
    rw [transparent_whole] at hout
    obtain ⟨hdata, rfl⟩ := Prod.mk.inj hout
    injection hdata with hdata
    subst hdata
    exact ⟨rfl, data, d, [], d, rfl, rfl, List.append_nil data, h⟩
  split {e e' d data out} h _ _ hfits hout := by
    rw [transparent_whole] at hout
    obtain ⟨hdata, rfl⟩ := Prod.mk.inj hout
    injection hdata with hdata
    subst hdata
    refine ⟨data.take 8, d, data.drop 8, d, [], d, rfl, rfl, rfl, ?_, ?_, h⟩
    · rw [List.length_take]
      exact Nat.min_eq_left hfits
    · rw [List.append_nil, List.take_append_drop]
  tagged {e e₁ e₂ e₃ e₄ d n header header' data out tag} h _ hnumber hheader hout htag := by
    obtain ⟨-, rfl⟩ := Prod.mk.inj hnumber
    obtain ⟨haad, rfl⟩ := Prod.mk.inj hheader
    rw [transparent_whole] at hout
    obtain ⟨hdata, rfl⟩ := Prod.mk.inj hout
    obtain ⟨hempty, rfl⟩ := Prod.mk.inj htag
    obtain rfl := Except.ok.inj haad
    obtain rfl := Except.ok.inj hdata
    obtain rfl := Except.ok.inj hempty
    exact ⟨rfl, rfl, d, d, data, d, d, [], d, rfl, rfl, rfl, rfl, rfl, List.append_nil data, h⟩

theorem transparent_neverFails :
    NeverFails EmptyMac (fun e d : TransparentCipher => d = e) where
  whole {e d data} _ _ _ := ⟨data, e, transparent_whole data e⟩
  tagged {e d data} n header _ _ _ :=
    ⟨e, header, e, data, e, [], e, rfl, rfl, transparent_whole data e, rfl⟩
  tag n parts m := by
    have hfeed : ∀ parts, PacketMac.feed parts m = (.ok (), m) := by
      intro parts
      induction parts with
      | nil => rfl
      | cons part rest ih => exact ih
    refine ⟨[], m, ?_⟩
    unfold PacketMac.tagOver
    rw [hfeed]
    rfl

/-- A fresh stream with transparent algorithms and both halves. -/
def transparentDuplex (galois etm : Bool) :
    DuplexStream TransparentCipher NoCompression TransparentCipher EmptyMac NoCompression :=
  { CipherStream.transparent galois etm [] with
    encrypt := { galois }
    encode := { payload := [] }
    calculator := { etm }
    writeBuffer := []
    written := [] }

/-- A payload that is sent over a connection that takes writes. -/
def Sending.ofPayload (payload : Bytes) : Sending where
  env := { random := fun _ => 7, flushError := none }
  payload

/-- Two payloads in each of the modes, and in the clear. -/
theorem packets_round_trip_of_two :
    let sendings := [Sending.ofPayload [94, 1, 2], Sending.ofPayload [21]]
    (∀ galois etm, ∃ sender' octets packets receiver',
      DuplexStream.sendAll sendings (transparentDuplex galois etm) = .ok () sender' ∧
      sender'.written = octets ∧
      CipherStream.readAll ⟨false, true⟩ .keep 2 (CipherStream.transparent galois etm octets) =
        (packets, .inr receiver') ∧
      packets.map Packet.payload = [[94, 1, 2], [21]] ∧ receiver'.buffer = []) ∧
    ∃ sender' octets packets receiver',
      PlainWire.sendAll sendings ⟨[], default, default, [], []⟩ = .ok () sender' ∧
      sender'.written = octets ∧
      PlainWire.recvAll ⟨false, true⟩ 2 ⟨octets, default, default, [], []⟩ =
        .ok packets receiver' ∧
      packets.map Packet.payload = [[94, 1, 2], [21]] ∧ receiver'.buffer = [] := by
  intro sendings
  have hsendings : ∀ sending ∈ sendings, sending.Admissible := by
    intro sending hmem
    simp only [sendings, List.mem_cons, List.not_mem_nil, or_false] at hmem
    rcases hmem with rfl | rfl <;> exact ⟨rfl, by decide, by decide⟩
  have hpayloads {blockSize covered : ℕ} : ∀ {payloads : List Bytes} {packets : List Packet},
      List.Forall₂ (Carries blockSize covered) payloads packets →
        packets.map Packet.payload = payloads := by
    intro payloads packets h
    induction h with
    | nil => rfl
    | cons hcarries _ ih => rw [List.map_cons, ih, hcarries.payload]
  have htrip := packets_round_trip transparent_inverts transparent_neverFails ⟨false, true⟩ sendings
    hsendings
  constructor
  · intro galois etm
    obtain ⟨sender', octets, packets, receiver', hsend, hwritten, hread, hall, hbuffer, -⟩ :=
      htrip.1 (transparentDuplex galois etm) (CipherStream.transparent galois etm [])
        ⟨rfl, rfl, rfl, rfl, rfl, rfl, rfl, rfl, rfl⟩
    exact ⟨sender', octets, packets, receiver', hsend, hwritten, hread, hpayloads hall, hbuffer⟩
  · obtain ⟨sender', octets, packets, receiver', hsend, hwritten, hread, hall, hbuffer, -⟩ :=
      htrip.2 ⟨[], default, default, [], []⟩ ⟨[], default, default, [], []⟩ ⟨rfl, rfl, rfl, rfl⟩
    exact ⟨sender', octets, packets, receiver', hsend, hwritten, hread, hpayloads hall, hbuffer⟩

end Flatline
