import Flatline.Common.Machine
import Flatline.Transport.Numbering
import Flatline.Transport.PlainRoundTrip

/-!
# Sequence numbers

Each side counts its packets from the start of the connection, and in a strict key exchange anew
from each `SSH_MSG_NEWKEYS`. `Connection.counts` shows that the two counters of a connection are these
counts in every state, whatever happens to its keys.

Source: `src/ssh/stream.rs`.
-/

namespace Flatline

open Triple

variable {ε η δ μ ζ : Type}

/-! ## What sending leaves alone -/

namespace DuplexStream

variable {α β : Type}

/-- `m` leaves the receiving half and the two endpoints alone. -/
def Keeps (m : Send ε η δ μ ζ α) : Prop :=
  ∀ c, Holds (fun s => s.toCipherStream = c) m (fun _ s => s.toCipherStream = c)
    (fun _ s => s.toCipherStream = c)

variable {m : Send ε η δ μ ζ α} {f : α → Send ε η δ μ ζ β}

theorem Keeps.pure (a : α) : Keeps (Pure.pure a : Send ε η δ μ ζ α) :=
  fun _ => Holds.pure fun _ hs => hs

theorem Keeps.throw (e : Stop) : Keeps (MonadExcept.throw e : Send ε η δ μ ζ α) :=
  fun _ => Holds.throw fun _ hs => hs

theorem Keeps.bind (hm : Keeps m) (hf : ∀ a, Keeps (f a)) : Keeps (m >>= f) :=
  fun c => (hm c).bind fun a => hf a c

theorem Keeps.get_bind {g : DuplexStream ε η δ μ ζ → Send ε η δ μ ζ β} (hg : ∀ s, Keeps (g s)) :
    Keeps (get >>= g) :=
  fun c s hs => hg s c s hs

theorem encrypting_keeps (f : ε → Except Error α × ε) :
    Keeps (encrypting f : Send ε η δ μ ζ α) := by
  intro c s hs
  unfold encrypting
  rcases f s.encrypt with ⟨_ | a, e⟩ <;> exact hs

theorem calculating_keeps (f : μ → Except Error α × μ) :
    Keeps (calculating f : Send ε η δ μ ζ α) := by
  intro c s hs
  unfold calculating
  rcases f s.calculator with ⟨_ | a, m⟩ <;> exact hs

theorem encoding_keeps (f : η → Except Error α × η) :
    Keeps (encoding f : Send ε η δ μ ζ α) := by
  intro c s hs
  unfold encoding
  rcases f s.encode with ⟨_ | a, z⟩ <;> exact hs

theorem putBytes_keeps (octets : Bytes) : Keeps (putBytes octets : Send ε η δ μ ζ Unit) :=
  fun _ => Holds.modify fun _ hs => hs

theorem flush_keeps (env : SendEnv) : Keeps (flush env : Send ε η δ μ ζ Unit) := by
  intro c s hs
  unfold flush
  cases env.flushError <;> exact hs

variable [PacketEncrypt ε] [PacketEncode η] [PacketMac μ]

omit [PacketEncrypt ε] [PacketMac μ] in
theorem compress_keeps (payload : Bytes) : Keeps (compress payload : Send ε η δ μ ζ Bytes) := by
  refine .get_bind fun s => ?_
  split
  · exact (encoding_keeps _).bind fun _ => encoding_keeps _
  · exact .pure _

omit [PacketEncode η] [PacketMac μ] in
theorem encryptAll_keeps (data : Bytes) : Keeps (encryptAll data : Send ε η δ μ ζ Bytes) := by
  rw [encryptAll_eq]
  exact encrypting_keeps _

omit [PacketEncrypt ε] [PacketEncode η] in
theorem calculateTag_keeps (parts : List Bytes) :
    Keeps (calculateTag parts : Send ε η δ μ ζ Bytes) := by
  intro c s hs
  rw [calculateTag_eq]
  exact calculating_keeps _ c s hs

omit [PacketEncode η] in
theorem sealPacket_keeps (env : SendEnv) (payload : Bytes) :
    Keeps (sealPacket env payload : Send ε η δ μ ζ Bytes) := by
  intro c s hs
  have hgalois : Keeps (sealGaloisCounterMode env payload : Send ε η δ μ ζ Bytes) := by
    refine .get_bind fun _ => .get_bind fun _ => (encrypting_keeps _).bind fun _ => ?_
    refine (encrypting_keeps _).bind fun _ => (encryptAll_keeps _).bind fun _ => ?_
    exact (encrypting_keeps _).bind fun _ => .pure _
  have hetm : Keeps (sealEncryptThenMac env payload : Send ε η δ μ ζ Bytes) := by
    refine .get_bind fun _ => (encryptAll_keeps _).bind fun _ => ?_
    split
    · exact (calculateTag_keeps _).bind fun _ => .pure _
    · exact .throw _
  have hmte : Keeps (sealMacThenEncrypt env payload : Send ε η δ μ ζ Bytes) := by
    refine .get_bind fun _ => (calculateTag_keeps _).bind fun _ => ?_
    exact (encryptAll_keeps _).bind fun _ => .pure _
  unfold sealPacket
  by_cases hmode : PacketEncrypt.isGaloisCounterMode s.encrypt = true
  · rw [if_pos hmode]
    exact hgalois c s hs
  · rw [if_neg hmode]
    by_cases hmac : PacketMac.encryptThenMac s.calculator = true
    · rw [if_pos hmac]
      exact hetm c s hs
    · rw [if_neg hmac]
      exact hmte c s hs

/-- A call of `send_payload` that fails leaves the sequence numbers alone. -/
theorem sendPayload_eq_error {env : SendEnv} {payload : Bytes} {s s' : DuplexStream ε η δ μ ζ}
    {e : Stop} (h : sendPayload env payload s = .error e s') :
    s'.toCipherStream = s.toCipherStream := by
  have hspec : Holds (fun t : DuplexStream ε η δ μ ζ => t.toCipherStream = s.toCipherStream)
      (sendPayload env payload) (fun _ _ => True) (fun _ t => t.toCipherStream = s.toCipherStream) := by
    unfold sendPayload
    split
    · exact Holds.throw fun _ ht => ht
    · split
      · exact Holds.throw fun _ ht => ht
      · refine (compress_keeps payload _).bind fun _ => (sealPacket_keeps env _ _).bind fun _ => ?_
        refine (putBytes_keeps _ _).bind fun _ => (flush_keeps env _).bind fun _ => ?_
        exact Holds.modify fun _ _ => trivial
  exact hspec.of_error rfl h

end DuplexStream

/-! ## What receiving does to the counters -/

namespace CipherStream

/-- `s'` is `s` with a packet less in the buffer, and with the number of the next one. -/
structure Counted (number : UInt32) (s s' : CipherStream δ μ ζ) : Prop where
  client : s'.client = s.client
  server : s'.server = { s.server with sequenceNumber := number }
  buffer : s'.buffer.length < s.buffer.length
  state : s'.state = none

/-- What `finish` does to the counters. -/
theorem finish_counts (env : ReadEnv) (packet : Packet) (s : CipherStream δ μ ζ) :
    match finish env packet s with
    | .ok packet' s' => packet' = packet ∧ s'.frame = { s.frame with server := { s.server with
        sequenceNumber := DuplexStream.nextNumber (s.client.kexStrict && s.server.kexStrict)
          packet.payload s.server.sequenceNumber } } ∧ s'.state = none
    | .error _ s' => s'.frame = { s.frame with server := { s.server with
        sequenceNumber := s.server.sequenceNumber + 1 } } ∧ s'.state = none := by
  let s₁ : CipherStream δ μ ζ := { s with
    state := none
    server.sequenceNumber := s.server.sequenceNumber + 1 }
  cases hpayload : packet.payload with
  | nil =>
    have hrun : finish env packet s = .error (.failed (.transport .payloadIsEmpty)) s₁ := by
      unfold finish
      rw [hpayload]
      rfl
    rw [hrun]
    exact ⟨rfl, rfl⟩
  | cons code rest =>
    have hrun : finish env packet s = (do
        ensure (packet.payload.length ≤ maxPacketPayloadLength ∨ env.strictFeature = false)
          (.transport (.payloadTooLong maxPacketPayloadLength packet.payload.length))
        modify (resetSequenceNumber code)
        return packet : Read δ μ ζ Packet) s₁ := by
      unfold finish
      rw [hpayload]
      rfl
    rw [hrun]
    simp only [bind, EStateM.bind, ensure]
    by_cases hlen : packet.payload.length ≤ maxPacketPayloadLength ∨ env.strictFeature = false
    · rw [if_pos hlen]
      refine ⟨rfl, ?_⟩
      unfold resetSequenceNumber DuplexStream.nextNumber
      by_cases hcode : code = sshMsgNewkeys ∧ (s.client.kexStrict && s.server.kexStrict) = true
      · rw [if_pos ⟨hcode.1, Bool.and_eq_true_iff.mp hcode.2⟩,
          if_pos ⟨congrArg some hcode.1, hcode.2⟩]
        exact ⟨rfl, rfl⟩
      · rw [if_neg fun h => hcode ⟨h.1, Bool.and_eq_true_iff.mpr h.2⟩,
          if_neg fun h => hcode ⟨Option.some_inj.mp h.1, h.2⟩]
        exact ⟨rfl, rfl⟩
    · rw [if_neg hlen]
      exact ⟨rfl, rfl⟩

variable [PacketDecrypt δ] [PacketMac μ] [PacketDecode ζ]

/-- What a call of `read_packet` does to the counters: it returns a packet and counts it, or takes a
packet and counts it although it refuses it, or leaves them alone. -/
theorem readPacket_counts (env : ReadEnv) (s : CipherStream δ μ ζ) :
    match readPacket env s with
    | .ok packet s' => Counted (DuplexStream.nextNumber (s.client.kexStrict && s.server.kexStrict)
        packet.payload s.server.sequenceNumber) s s'
    | .error _ s' => s'.frame = s.frame ∨ Counted (s.server.sequenceNumber + 1) s s' := by
  have hstart := start_keeps s.frame s rfl
  unfold readPacket
  simp only [bind, EStateM.bind]
  cases hs₁ : start s with
  | error e s₁ =>
    rw [hs₁] at hstart
    exact Or.inl hstart
  | ok _ s₁ =>
    rw [hs₁] at hstart
    dsimp only at hstart ⊢
    have hready := readReady_takesLast env s.frame s₁ hstart
    cases hs₂ : readReady env s₁ with
    | error e s₂ =>
      rw [hs₂] at hready
      exact Or.inl hready
    | ok packet s₂ =>
      rw [hs₂] at hready
      -- the packet leaves the buffer before `finish` counts it
      obtain ⟨n, hn, hframe, hle⟩ := hready
      have hclient : s₂.client = s.client := congrArg Frame.client hframe
      have hserver : s₂.server = s.server := congrArg Frame.server hframe
      have hbuffer : s₂.buffer = s.buffer.drop n := congrArg Frame.buffer hframe
      have hshort : s₂.buffer.length < s.buffer.length := by
        have hle' : n ≤ s.buffer.length := hle
        rw [hbuffer, List.length_drop]
        omega
      have hcounts := finish_counts env packet s₂
      dsimp only
      cases hs₃ : finish env packet s₂ with
      | error e s₃ =>
        rw [hs₃] at hcounts
        obtain ⟨hframe₃, hstate⟩ := hcounts
        refine Or.inr ⟨(congrArg Frame.client hframe₃).trans hclient, ?_, ?_, hstate⟩
        · rw [show s₃.server = _ from congrArg Frame.server hframe₃, hserver]
        · rw [show s₃.buffer = s₂.buffer from congrArg Frame.buffer hframe₃]
          exact hshort
      | ok packet' s₃ =>
        rw [hs₃] at hcounts
        obtain ⟨rfl, hframe₃, hstate⟩ := hcounts
        refine ⟨(congrArg Frame.client hframe₃).trans hclient, ?_, ?_, hstate⟩
        · rw [show s₃.server = _ from congrArg Frame.server hframe₃, hserver, hclient]
        · rw [show s₃.buffer = s₂.buffer from congrArg Frame.buffer hframe₃]
          exact hshort

/-- The number a packet has been begun with is that of the stream as long as it is under way. -/
theorem readPacket_error_state {env : ReadEnv} {s s' : CipherStream δ μ ζ} {e : Stop}
    (h : readPacket env s = .error e s') (hstate : s'.state ≠ none) : s'.server = s.server := by
  have hcounts := readPacket_counts env s
  rw [h] at hcounts
  rcases hcounts with hframe | hcounted
  · exact congrArg Frame.server hframe
  · exact absurd hcounted.state hstate

end CipherStream

namespace PlainWire

theorem fill_spec (env : ReadEnv) (n : ℕ) (s : PlainWire) :
    Holds (· = s) (fill env n) (fun _ t => n ≤ s.buffer.length ∧ t = s) (fun _ t => t = s) := by
  rintro t rfl
  unfold fill
  by_cases hn : n ≤ t.buffer.length
  · rw [if_pos hn]
    exact ⟨hn, rfl⟩
  · rw [if_neg hn]
    cases env.readFails <;> rfl

theorem toSize_spec (data : Bytes) (s : PlainWire) :
    Holds (· = s) (toSize data) (fun _ t => t = s) (fun _ t => t = s) := by
  unfold toSize
  split
  · exact Holds.pure fun _ ht => ht
  · exact Holds.throw fun _ ht => ht

theorem ensure_spec (p : Prop) [Decidable p] (e : Error) (s : PlainWire) :
    Holds (· = s) (ensure p e) (fun _ t => t = s) (fun _ t => t = s) := by
  unfold ensure
  split
  · exact Holds.pure fun _ ht => ht
  · exact Holds.throw fun _ ht => ht

theorem parse_spec (data : Bytes) (s : PlainWire) :
    Holds (· = s) (parse data) (fun _ t => t = s) (fun _ t => t = s) := by
  unfold parse
  split
  · exact Holds.pure fun _ ht => ht
  · exact Holds.throw fun _ ht => ht

/-- A packet that is returned has been counted. -/
def CountedOk (s : PlainWire) (packet : Packet) (s' : PlainWire) : Prop :=
  s'.client = s.client ∧ s'.server = { s.server with
    sequenceNumber := DuplexStream.nextNumber (s.client.kexStrict && s.server.kexStrict)
      packet.payload s.server.sequenceNumber }

/-- A call that fails has taken a packet and counted it, or nothing. -/
def CountedError (s s' : PlainWire) : Prop :=
  s'.client = s.client ∧ (s'.buffer = s.buffer ∧ s'.server = s.server ∨
    s'.buffer.length < s.buffer.length ∧
      s'.server = { s.server with sequenceNumber := s.server.sequenceNumber + 1 })

theorem CountedError.refl (s : PlainWire) : CountedError s s :=
  ⟨rfl, Or.inl ⟨rfl, rfl⟩⟩

theorem finish_spec (env : ReadEnv) {size : ℕ} (packet : Packet) {s : PlainWire} (hpos : 0 < size)
    (hsize : size ≤ s.buffer.length) :
    Holds (· = s) (finish env size packet) (CountedOk s) (fun _ => CountedError s) := by
  have hshort : (s.buffer.drop size).length < s.buffer.length := by
    rw [List.length_drop]
    omega
  refine ((ensure_spec _ _ s).error fun _ t ht => ht ▸ .refl s).bind fun _ => ?_
  rintro t rfl
  let t₁ : PlainWire := { t with
    buffer := t.buffer.drop size
    server.sequenceNumber := t.server.sequenceNumber + 1 }
  cases hpayload : packet.payload with
  | nil => exact ⟨rfl, Or.inr ⟨hshort, rfl⟩⟩
  | cons code rest =>
    change CountedOk t packet (resetSequenceNumber code t₁)
    unfold CountedOk resetSequenceNumber DuplexStream.nextNumber
    rw [hpayload]
    by_cases hcode : code = sshMsgNewkeys ∧ (t.client.kexStrict && t.server.kexStrict) = true
    · rw [if_pos ⟨hcode.1, Bool.and_eq_true_iff.mp hcode.2⟩,
        if_pos ⟨congrArg some hcode.1, hcode.2⟩]
      exact ⟨rfl, rfl⟩
    · rw [if_neg fun h => hcode ⟨h.1, Bool.and_eq_true_iff.mpr h.2⟩,
        if_neg fun h => hcode ⟨Option.some_inj.mp h.1, h.2⟩]
      exact ⟨rfl, rfl⟩

/-- What a call of `recv_packet` does to the counters. -/
theorem recvPacket_counts (env : ReadEnv) (s : PlainWire) :
    Holds (· = s) (recvPacket env) (CountedOk s) (fun _ => CountedError s) := by
  have hsame : ∀ (e : Stop) (t : PlainWire), t = s → CountedError s t :=
    fun _ t ht => ht ▸ .refl s
  refine ((fill_spec env 4 s).error hsame).bind fun data => Holds.of_and fun _ => ?_
  refine ((toSize_spec data s).error hsame).bind fun size => ?_
  refine ((ensure_spec _ _ s).error hsame).bind fun _ => ?_
  refine ((fill_spec env _ s).error hsame).bind fun data => Holds.of_and fun hsize => ?_
  refine ((parse_spec _ s).error hsame).bind fun packet => ?_
  exact finish_spec env packet (by omega) hsize

/-- A call of `send_payload` counts the packet, or fails and counts nothing. -/
theorem sendPayload_counts (env : SendEnv) (payload : Bytes) (s : PlainWire) :
    Holds (· = s) (sendPayload env payload)
      (fun _ t => t.server = s.server ∧ t.client = { s.client with
        sequenceNumber := DuplexStream.nextNumber (s.client.kexStrict && s.server.kexStrict) payload
          s.client.sequenceNumber })
      (fun _ t => t.server = s.server ∧ t.client = s.client) := by
  have hsame : ∀ (e : Stop) (t : PlainWire), t = s → t.server = s.server ∧ t.client = s.client :=
    fun _ t ht => ht ▸ ⟨rfl, rfl⟩
  have hwrite (octets : Bytes) : Holds (· = s) (writeAll env octets)
      (fun _ t => t.server = s.server ∧ t.client = s.client)
      (fun _ t => t.server = s.server ∧ t.client = s.client) := by
    rintro t rfl
    unfold writeAll
    cases env.flushError <;> exact ⟨rfl, rfl⟩
  unfold sendPayload
  split
  · exact Holds.throw fun t ht => hsame .panicked t ht
  · refine ((ensure_spec _ _ s).error hsame).bind fun _ => ?_
    refine ((ensure_spec _ _ s).error hsame).bind fun _ => (hwrite _).bind fun _ => ?_
    refine Holds.modify fun t ht => ⟨ht.1, ?_⟩
    change { t.client with
      sequenceNumber := DuplexStream.nextNumber (t.client.kexStrict && t.server.kexStrict) payload
        t.client.sequenceNumber } = _
    rw [ht.1, ht.2]

end PlainWire

/-! ## The counts -/

/-- A payload that starts with `SSH_MSG_NEWKEYS`. -/
def isNewKeys (payload : Bytes) : Bool :=
  payload.head? == some sshMsgNewkeys

theorem isNewKeys_iff {payload : Bytes} :
    isNewKeys payload = true ↔ payload.head? = some sshMsgNewkeys :=
  beq_iff_eq

/-- How many packets a log has, newest first: all of them, or in a strict key exchange those since
the last `SSH_MSG_NEWKEYS`. -/
def countSince (strict : Bool) : List (Option Bytes) → ℕ
  | [] => 0
  | packet :: rest => if packet.any isNewKeys && strict then 0 else countSince strict rest + 1

/-- Without `SSH_MSG_NEWKEYS` it makes no difference whether the exchange is strict. -/
theorem countSince_of_forall {log : List (Option Bytes)}
    (h : ∀ packet ∈ log, packet.any isNewKeys = false) (strict : Bool) :
    countSince strict log = log.length := by
  induction log with
  | nil => rfl
  | cons packet rest ih =>
    rw [countSince, h packet List.mem_cons_self, List.length_cons,
      ih fun p hp => h p (List.mem_cons_of_mem packet hp)]
    rfl

theorem nextNumber_count (strict : Bool) (payload : Bytes) (log : List (Option Bytes)) :
    DuplexStream.nextNumber strict payload (UInt32.ofNat (countSince strict log)) =
      UInt32.ofNat (countSince strict (some payload :: log)) := by
  have hkeys : payload.head? = some sshMsgNewkeys ∧ strict = true ↔
      ((some payload).any isNewKeys && strict) = true := by
    rw [Bool.and_eq_true_iff, Option.any_some, isNewKeys_iff]
  rw [DuplexStream.nextNumber, countSince]
  by_cases h : payload.head? = some sshMsgNewkeys ∧ strict = true
  · rw [if_pos h, if_pos (hkeys.mp h)]
    rfl
  · rw [if_neg h, if_neg fun h' => h (hkeys.mpr h'), UInt32.ofNat_add]
    rfl

theorem succ_count (strict : Bool) (log : List (Option Bytes)) :
    UInt32.ofNat (countSince strict log) + 1 = UInt32.ofNat (countSince strict (none :: log)) := by
  rw [countSince, Option.any_none, Bool.false_and, if_neg Bool.false_ne_true, UInt32.ofNat_add]
  rfl

/-- The two counters are the counts of two logs. -/
structure Tallied (client server : NormalEndpoint) (sent : List Bytes)
    (received : List (Option Bytes)) : Prop where
  sent_count : client.sequenceNumber =
    UInt32.ofNat (countSince (client.kexStrict && server.kexStrict) (sent.map some))
  received_count : server.sequenceNumber =
    UInt32.ofNat (countSince (client.kexStrict && server.kexStrict) received)

namespace Tallied

variable {client server client' server' : NormalEndpoint} {sent : List Bytes}
  {received : List (Option Bytes)}

theorem send (h : Tallied client server sent received) {payload : Bytes}
    (hclient : client' = { client with
      sequenceNumber := DuplexStream.nextNumber (client.kexStrict && server.kexStrict) payload
        client.sequenceNumber }) :
    Tallied client' server (payload :: sent) received := by
  subst hclient
  refine ⟨?_, h.received_count⟩
  dsimp only
  rw [h.sent_count, nextNumber_count, List.map_cons]

theorem receive (h : Tallied client server sent received) {payload : Bytes}
    (hserver : server' = { server with
      sequenceNumber := DuplexStream.nextNumber (client.kexStrict && server.kexStrict) payload
        server.sequenceNumber }) :
    Tallied client server' sent (some payload :: received) := by
  subst hserver
  refine ⟨h.sent_count, ?_⟩
  dsimp only
  rw [h.received_count, nextNumber_count]

theorem refuse (h : Tallied client server sent received)
    (hserver : server' = { server with sequenceNumber := server.sequenceNumber + 1 }) :
    Tallied client server' sent (none :: received) := by
  subst hserver
  refine ⟨h.sent_count, ?_⟩
  dsimp only
  rw [h.received_count, succ_count]

/-- As long as nobody has sent `SSH_MSG_NEWKEYS`, the switches may change. -/
theorem negotiate (h : Tallied client server sent received)
    (hsent : ∀ payload ∈ sent, isNewKeys payload = false)
    (hreceived : ∀ packet ∈ received, packet.any isNewKeys = false) (kexStrict ext : Bool) :
    Tallied client { server with kexStrict, ext } sent received := by
  have hsent' : ∀ packet ∈ sent.map some, packet.any isNewKeys = false := by
    intro packet hmem
    obtain ⟨payload, hpayload, rfl⟩ := List.mem_map.mp hmem
    exact hsent payload hpayload
  refine ⟨h.sent_count.trans ?_, h.received_count.trans ?_⟩
  · rw [countSince_of_forall hsent', countSince_of_forall hsent']
  · rw [countSince_of_forall hreceived, countSince_of_forall hreceived]

end Tallied

namespace Connection

variable (c : Connection ε η δ μ ζ)

/-- How many packets have been sent. -/
def sentCount : ℕ :=
  countSince c.stream.strict (c.sent.map some)

/-- How many packets have been received. -/
def receivedCount : ℕ :=
  countSince c.stream.strict c.received

/-- The counters are the counts, and the packet under way has the number of the next one. -/
structure Counts : Prop where
  tallied : Tallied c.stream.client c.stream.server c.sent c.received
  begun : c.stream.underWay = true → c.begun = some c.stream.server.sequenceNumber

/-- The server's `SSH_MSG_KEXINIT` comes before the first `SSH_MSG_NEWKEYS` of either side. -/
def Permits : StreamAction ε η δ μ ζ → Prop
  | .negotiate .. => (∀ payload ∈ c.sent, isNewKeys payload = false) ∧
      ∀ packet ∈ c.received, packet.any isNewKeys = false
  | _ => True

variable {c} [PacketEncrypt ε] [PacketEncode η] [PacketDecrypt δ] [PacketMac μ] [PacketDecode ζ]

/-- Sending keeps counters and counts together. -/
theorem Counts.send (h : c.Counts) (env : SendEnv) (payload : Bytes) :
    (c.act (.send env payload)).Counts := by
  obtain ⟨stream, sent, received, begun⟩ := c
  obtain ⟨htallied, hbegun⟩ := h
  cases stream with
  | plain s =>
    have hcounts := PlainWire.sendPayload_counts env payload s s rfl
    change (Connection.sending _ ConnectionStream.plain payload
      (PlainWire.sendPayload env payload s)).Counts
    cases hrun : PlainWire.sendPayload env payload s with
    | ok _ s' =>
      rw [hrun] at hcounts
      obtain ⟨hserver, hclient⟩ := hcounts
      refine ⟨?_, fun h => by cases h⟩
      change Tallied s'.client s'.server (payload :: sent) received
      rw [hserver]
      exact htallied.send hclient
    | error e s' =>
      rw [hrun] at hcounts
      obtain ⟨hserver, hclient⟩ := hcounts
      refine ⟨?_, fun h => by cases h⟩
      change Tallied s'.client s'.server sent received
      rw [hserver, hclient]
      exact htallied
  | cipher s =>
    change (Connection.sending _ ConnectionStream.cipher payload
      (DuplexStream.sendPayload env payload s)).Counts
    cases hrun : DuplexStream.sendPayload env payload s with
    | ok _ s' =>
      obtain ⟨content, octets, hsent⟩ := DuplexStream.sendPayload_eq_ok hrun
      have hafter := hsent.after
      have hclient : s'.client = { s.client with
          sequenceNumber := DuplexStream.nextNumber s.strict payload s.client.sequenceNumber } := by
        rw [hafter]
      have hserver : s'.server = s.server := by rw [hafter]
      have hstate : s'.state = s.state := by rw [hafter]
      refine ⟨?_, fun h => ?_⟩
      · change Tallied s'.client s'.server (payload :: sent) received
        rw [hserver]
        exact htallied.send hclient
      -- sending does not touch the packet that is being received
      · change begun = some s'.server.sequenceNumber
        rw [hserver]
        refine hbegun ?_
        change s.state.isSome = true
        rw [← hstate]
        exact h
    | error e s' =>
      have hsame := DuplexStream.sendPayload_eq_error hrun
      refine ⟨?_, fun h => ?_⟩
      · change Tallied s'.client s'.server sent received
        rw [hsame]
        exact htallied
      · change begun = some s'.server.sequenceNumber
        rw [hsame]
        refine hbegun ?_
        change s.state.isSome = true
        rw [← hsame]
        exact h

/-- Receiving keeps counters and counts together. -/
theorem Counts.receive (h : c.Counts) (env : ReadEnv) : (c.act (.receive env)).Counts := by
  obtain ⟨stream, sent, received, begun⟩ := c
  obtain ⟨htallied, hbegun⟩ := h
  cases stream with
  | plain s =>
    have hcounts := PlainWire.recvPacket_counts env s s rfl
    change (Connection.receiving _ ConnectionStream.plain (fun s => s.buffer.length)
      s.buffer.length (PlainWire.recvPacket env s)).Counts
    cases hrun : PlainWire.recvPacket env s with
    | ok packet s' =>
      rw [hrun] at hcounts
      obtain ⟨hclient, hserver⟩ := hcounts
      refine ⟨?_, fun h => by cases h⟩
      change Tallied s'.client s'.server sent (some packet.payload :: received)
      rw [hclient]
      exact htallied.receive hserver
    | error e s' =>
      rw [hrun] at hcounts
      obtain ⟨hclient, hcase⟩ := hcounts
      refine ⟨?_, fun h => by cases h⟩
      change Tallied s'.client s'.server sent
        (if s'.buffer.length < s.buffer.length then none :: received else received)
      rw [hclient]
      -- a refused packet is counted if octets have left the buffer
      rcases hcase with ⟨hbuffer, hserver⟩ | ⟨hshort, hserver⟩
      · rw [if_neg (by rw [hbuffer]; omega), hserver]
        exact htallied
      · rw [if_pos hshort]
        exact htallied.refuse hserver
  | cipher s =>
    have hcounts := CipherStream.readPacket_counts env s.toCipherStream
    change ((Connection.receiving _ ConnectionStream.cipher (fun s => s.buffer.length)
      s.buffer.length (DuplexStream.reading (CipherStream.readPacket env) s)).begin (.cipher s)).Counts
    unfold DuplexStream.reading
    cases hrun : CipherStream.readPacket env s.toCipherStream with
    | ok packet r =>
      rw [hrun] at hcounts
      refine ⟨?_, fun h => ?_⟩
      · change Tallied r.client r.server sent (some packet.payload :: received)
        rw [hcounts.client]
        exact htallied.receive hcounts.server
      · have hunder : r.state.isSome = true := h
        rw [hcounts.state] at hunder
        cases hunder
    | error e r =>
      rw [hrun] at hcounts
      refine ⟨?_, fun h => ?_⟩
      · change Tallied r.client r.server sent
          (if r.buffer.length < s.buffer.length then none :: received else received)
        rcases hcounts with hframe | hcounted
        · have hbuffer : r.buffer = s.buffer := congrArg CipherStream.Frame.buffer hframe
          have hclient : r.client = s.client := congrArg CipherStream.Frame.client hframe
          have hserver : r.server = s.server := congrArg CipherStream.Frame.server hframe
          rw [if_neg (by rw [hbuffer]; omega), hclient, hserver]
          exact htallied
        · rw [if_pos hcounted.buffer, hcounted.client]
          exact htallied.refuse hcounted.server
      · have hunder : r.state.isSome = true := h
        -- while a packet is under way the number is the one it has been begun with
        have hserver : r.server = s.server :=
          CipherStream.readPacket_error_state hrun (by
            intro hnone
            rw [hnone] at hunder
            cases hunder)
        change (if r.state.isSome = true then
          if s.state.isSome = true then begun else some s.server.sequenceNumber else none) =
            some r.server.sequenceNumber
        rw [if_pos hunder, hserver]
        by_cases hbefore : s.state.isSome = true
        · rw [if_pos hbefore]
          exact hbegun hbefore
        · rw [if_neg hbefore]

/-- What holds of a connection that does what `act` says. -/
theorem Counts.act (h : c.Counts) {action : StreamAction ε η δ μ ζ} (hpermits : c.Permits action) :
    (c.act action).Counts := by
  cases action with
  | send env payload => exact h.send env payload
  | receive env => exact h.receive env
  | arrive octets =>
    obtain ⟨stream, sent, received, begun⟩ := c
    cases stream <;> exact ⟨h.tallied, h.begun⟩
  | negotiate kexStrict ext =>
    obtain ⟨stream, sent, received, begun⟩ := c
    cases stream with
    | plain s => exact ⟨h.tallied.negotiate hpermits.1 hpermits.2 kexStrict ext, fun h => by cases h⟩
    | cipher s => exact h
  | upgrade sending receiving =>
    obtain ⟨stream, sent, received, begun⟩ := c
    cases stream with
    | plain s => exact ⟨h.tallied, fun h => by cases h⟩
    | cipher s => exact h
  | upgradeClient keys =>
    obtain ⟨stream, sent, received, begun⟩ := c
    cases stream <;> exact ⟨h.tallied, h.begun⟩
  | upgradeServer keys =>
    obtain ⟨stream, sent, received, begun⟩ := c
    cases stream <;> exact ⟨h.tallied, h.begun⟩
  | authenticate =>
    obtain ⟨stream, sent, received, begun⟩ := c
    cases stream <;> exact ⟨h.tallied, h.begun⟩

/-- The connections that runs reach from the end of the banner exchange. -/
abbrev Reachable (c : Connection ε η δ μ ζ) : Prop :=
  Machine.ReachVia (fun c => ∃ client buffer, c = start client buffer)
    (fun c action c' => c' = c.act action) Permits c

theorem Reachable.counts (h : c.Reachable) : c.Counts := by
  refine Machine.ReachVia.invariant h ?_ ?_
  · rintro c ⟨client, buffer, rfl⟩
    exact ⟨⟨rfl, rfl⟩, fun h => by cases h⟩
  · rintro c action c' hc hpermits rfl
    exact hc.act hpermits

/-- A call of `read_packet` that logs a packet has taken one under the sequence number. -/
theorem taken_of_received {s s' : DuplexStream ε η δ μ ζ} {env : ReadEnv}
    (hstream : c.stream = .cipher s) (hstream' : (c.act (.receive env)).stream = .cipher s')
    (hreceived : (c.act (.receive env)).received ≠ c.received) :
    CipherStream.Taken s.server.sequenceNumber s.toCipherStream s'.toCipherStream := by
  obtain ⟨stream, sent, received, begun⟩ := c
  subst hstream
  change ((Connection.receiving _ ConnectionStream.cipher (fun s => s.buffer.length) s.buffer.length
    (DuplexStream.reading (CipherStream.readPacket env) s)).begin (.cipher s)).stream = _ at hstream'
  change ((Connection.receiving _ ConnectionStream.cipher (fun s => s.buffer.length) s.buffer.length
    (DuplexStream.reading (CipherStream.readPacket env) s)).begin (.cipher s)).received ≠ _
    at hreceived
  unfold DuplexStream.reading at hstream' hreceived
  cases hrun : CipherStream.readPacket env s.toCipherStream with
  | ok packet r =>
    rw [hrun] at hstream'
    injection hstream' with hs
    subst hs
    exact CipherStream.readPacket_taken (.inl ⟨packet, hrun⟩)
  | error e r =>
    rw [hrun] at hstream' hreceived
    injection hstream' with hs
    subst hs
    refine CipherStream.readPacket_taken (.inr ⟨e, hrun, ?_⟩)
    by_contra hshort
    exact hreceived (if_neg hshort)

/-- The two sequence numbers of a connection count the packets it has sent and received; the packet
that is sent next is sealed under the count before it, a packet that is received is begun and opened
under the count before it, in one call or in many, and no change of keys touches the counters. -/
theorem numbers (h : c.Reachable) :
    c.stream.client.sequenceNumber = UInt32.ofNat c.sentCount ∧
    c.stream.server.sequenceNumber = UInt32.ofNat c.receivedCount ∧
    (∀ s env payload s', c.stream = .cipher s → DuplexStream.sendPayload env payload s = .ok () s' →
      ∃ content octets, Sealed (UInt32.ofNat c.sentCount) (DuplexStream.packetOf env content s)
        s.encrypt s.calculator octets s'.encrypt s'.calculator ∧
          s'.written = s.written ++ (s.writeBuffer ++ octets)) ∧
    (∀ s env s', c.stream = .cipher s → (c.act (.receive env)).stream = .cipher s' →
      (c.act (.receive env)).received ≠ c.received →
      CipherStream.Taken (UInt32.ofNat c.receivedCount) s.toCipherStream s'.toCipherStream) ∧
    (∀ s, c.stream = .cipher s → s.state = none →
      s.toCipherStream.Begins (UInt32.ofNat c.receivedCount)) ∧
    (c.stream.underWay = true → c.begun = some (UInt32.ofNat c.receivedCount)) ∧
    (∀ sending receiving, (c.act (.upgrade sending receiving)).stream.client = c.stream.client ∧
      (c.act (.upgrade sending receiving)).stream.server = c.stream.server) ∧
    (∀ keys, (c.act (.upgradeClient keys)).stream.client = c.stream.client ∧
      (c.act (.upgradeClient keys)).stream.server = c.stream.server) ∧
    ∀ keys, (c.act (.upgradeServer keys)).stream.client = c.stream.client ∧
      (c.act (.upgradeServer keys)).stream.server = c.stream.server := by
  obtain ⟨htallied, hbegun⟩ := h.counts
  have hclient : c.stream.client.sequenceNumber = UInt32.ofNat c.sentCount := htallied.sent_count
  have hserver : c.stream.server.sequenceNumber = UInt32.ofNat c.receivedCount :=
    htallied.received_count
  refine ⟨hclient, hserver, ?_, ?_, ?_, ?_, ?_, ?_, ?_⟩
  · intro s env payload s' hstream hsend
    obtain ⟨content, octets, hsent⟩ := DuplexStream.sendPayload_eq_ok hsend
    rw [hstream] at hclient
    refine ⟨content, octets, hclient ▸ hsent.sealed, ?_⟩
    rw [hsent.after]
  · intro s env s' hstream hstream' hreceived
    have htaken := taken_of_received hstream hstream' hreceived
    rw [hstream] at hserver
    exact hserver ▸ htaken
  · intro s hstream hstate
    rw [hstream] at hserver
    exact hserver ▸ CipherStream.begins_of_state hstate
  · intro hunder
    rw [hbegun hunder, hserver]
  · intro sending receiving
    obtain ⟨stream, sent, received, begun⟩ := c
    cases stream <;> exact ⟨rfl, rfl⟩
  · intro keys
    obtain ⟨stream, sent, received, begun⟩ := c
    cases stream <;> exact ⟨rfl, rfl⟩
  · intro keys
    obtain ⟨stream, sent, received, begun⟩ := c
    cases stream <;> exact ⟨rfl, rfl⟩

/-! ## Two connections -/

/-- A connection that has been upgraded to transparent algorithms after it has sent `payload`, and
at which `octets` have arrived then. -/
def transparent (etm : Bool) (payload octets : Bytes) :
    Connection TransparentCipher NoCompression TransparentCipher EmptyMac NoCompression :=
  (((start default []).act (.send (Sending.ofPayload payload).env payload)).act
    (.upgrade ⟨⟨false⟩, ⟨[]⟩, ⟨etm⟩⟩ ⟨⟨false⟩, ⟨[]⟩, ⟨etm⟩⟩)).act (.arrive octets)

theorem transparent_reachable (etm : Bool) (payload octets : Bytes) :
    (transparent etm payload octets).Reachable := by
  refine .next (i := .arrive octets) ?_ trivial rfl
  refine .next (i := .upgrade _ _) ?_ trivial rfl
  exact .next (i := .send _ payload) (.start ⟨default, [], rfl⟩) trivial rfl

/-- A packet that has been sent in the clear is counted after the upgrade. -/
theorem numbers_after_upgrade :
    (transparent true [94] []).stream.client.sequenceNumber = UInt32.ofNat 1 ∧
      (transparent true [94] []).stream.server.sequenceNumber = UInt32.ofNat 0 :=
  have h := numbers (transparent_reachable true [94] [])
  ⟨h.1, h.2.1⟩

/-- A complete packet whose tag is right but whose padding length is not: it is refused without being
counted. -/
theorem refused_packet_not_counted :
    ∃ (c : Connection TransparentCipher NoCompression TransparentCipher EmptyMac NoCompression)
      (s : DuplexStream TransparentCipher NoCompression TransparentCipher EmptyMac NoCompression)
      (body tag : Bytes) (m : EmptyMac),
      c.Reachable ∧ c.stream = .cipher s ∧ PacketMac.encryptThenMac s.verify = true ∧
      s.buffer = toBeBytes 8 ++ body ++ tag ∧ body.length = 8 ∧
      PacketMac.tagOver s.server.sequenceNumber [toBeBytes 8, body] s.verify = (.ok tag, m) ∧
      (c.act (.receive ⟨false, false⟩)).stream.server.sequenceNumber =
        c.stream.server.sequenceNumber :=
  ⟨transparent true [94] [0, 0, 0, 8, 200, 94, 0, 0, 0, 0, 0, 0], _, [200, 94, 0, 0, 0, 0, 0, 0], [],
    ⟨true⟩, transparent_reachable _ _ _, rfl, rfl, rfl, rfl, rfl, rfl⟩

end Connection

end Flatline
