import Flatline.Kex.Handshaker

/-!
# Strict key exchange

With strict key exchange the server may send nothing but its `SSH_MSG_KEXINIT`, the group, the
reply and `SSH_MSG_NEWKEYS`. Two of the four receive loops let more through: the first one runs
before the client knows whether the server asked for strict key exchange, the last one drops
whatever is not `SSH_MSG_NEWKEYS`. The other two are closed by `handle_msg`, which refuses every
packet once both sides have asked.
-/

namespace Flatline

open ReceiveLoop PlainStream

/-- The packet of `arrival` starts with the message number `code`. -/
def Arrival.HasCode (arrival : Arrival) (code : UInt8) : Prop :=
  ∃ payload, framePayload arrival = .ok payload ∧ payload.head? = some code

/-- Whether the group sub-negotiation of a method and a group packet belong together. -/
def GroupExpected (exchange : Option Exchange) (group : Option Arrival) : Prop :=
  match exchange, group with
  | none, none => True
  | some exchange, some arrival => arrival.HasCode exchange.responseCode
  | _, _ => False

/-- The packets of a strict key exchange with the method `kex`, and no others. -/
def ExactSequence (kex : KeyExchange) (packets : List Arrival) : Prop :=
  ∃ kexInit group reply newKeys,
    packets = kexInit :: (group.toList ++ [reply, newKeys]) ∧
      kexInit.HasCode sshMsgKexinit ∧ GroupExpected kex.exchange group ∧
      reply.HasCode kex.responseCode ∧ newKeys.HasCode sshMsgNewkeys

/-- If the `SSH_MSG_KEXINIT` of both sides asks for strict key exchange, a handshake over `arrivals`
succeeds only on the exact sequence. -/
def StrictKexHolds (env : HandshakeEnv) (h : Handshaker) (arrivals : List Arrival) : Prop :=
  ∀ k rest methods, h.handshake env arrivals = .finished k rest → h.config.keyStrict = true →
    Methods.parse k.serverKexMsg = .ok methods → methods.kexStrict = true →
      ∃ packets, arrivals = packets ++ rest ∧ ExactSequence k.matched.kex packets

/-! ## Packets the loops go past -/

/-- The handshake's `handle_msg` does not fail on this message outside strict mode; most messages
are answered, which needs a connection that takes the answer. -/
def toleratedMsg (writable : Bool) (msg : Message) : Bool :=
  match Handshaker.reaction msg with
  | .pass => true
  | .disconnected .. => false
  | .unimplemented => writable

/-- A packet the client goes past while it waits for the server's `SSH_MSG_KEXINIT`. -/
def Tolerated (arrival : Arrival) : Prop :=
  ∃ payload msg, framePayload arrival = .ok payload ∧ payload.head? ≠ some sshMsgKexinit ∧
    Message.parse payload = .ok msg ∧ toleratedMsg arrival.writable msg = true

/-- A packet the client goes past while it waits for the server's `SSH_MSG_NEWKEYS`. -/
def Droppable (arrival : Arrival) : Prop :=
  ∃ payload, framePayload arrival = .ok payload ∧ payload.head? ≠ some sshMsgNewkeys

/-- The group that a method expects is requested and accepted, with the value `value`, or the
method expects none. -/
def GroupAccepted (exchange : Option Exchange) (writable : Bool) (group : Option Arrival)
    (value : Option (Bytes × Bytes)) : Prop :=
  match exchange, group with
  | none, none => value = none
  | some exchange, some arrival =>
    writable = true ∧ ∃ payload pair, framePayload arrival = .ok payload ∧
      payload.head? = some exchange.responseCode ∧ exchange.readGroup payload = .ok pair ∧
        value = some pair
  | _, _ => False

/-- An exchange that both sides want strict and that the client accepts: the server's packets and
what the client makes of each. -/
structure AcceptedExchange (env : HandshakeEnv) (h : Handshaker) where
  kexInit : Arrival
  serverKexMsg : Bytes
  methods : Methods
  matched : MatchedMethods
  group : Option Arrival
  groupValue : Option (Bytes × Bytes)
  clientPublicKey : Bytes
  reply : Arrival
  replyPayload : Bytes
  result : Bytes × Keys
  newKeys : Arrival
  keyStrict : h.config.keyStrict = true
  kexInit_sent : (h.kexInit env).length ≤ maxPacketPayloadLength ∧ h.stream.writable = true
  kexInit_payload : framePayload kexInit = .ok serverKexMsg
  kexInit_code : serverKexMsg.head? = some sshMsgKexinit
  kexInit_matched : h.config.matchServer serverKexMsg = .ok (methods, matched)
  server_strict : methods.kexStrict = true
  group_accepted : GroupAccepted matched.kex.exchange kexInit.writable group groupValue
  publicKey_generated : matched.kex.generateKey groupValue env.seed = .ok clientPublicKey
  publicKey_sent :
    (matched.kex.initPayload clientPublicKey).length ≤ maxPacketPayloadLength ∧
      (group.getD kexInit).writable = true
  reply_payload : framePayload reply = .ok replyPayload
  reply_code : replyPayload.head? = some matched.kex.responseCode
  reply_accepted :
    matched.readReply {
      clientVersion := h.clientVersion
      serverVersion := h.serverVersion
      clientKexMsg := h.kexInit env
      serverKexMsg
      group := groupValue
      seed := env.seed
      clientPublicKey
      sessionId := none
      verifyServerHostKey := env.verifyServerHostKey } replyPayload = .ok result
  reply_writable : reply.writable = true
  newKeys_code : newKeys.HasCode sshMsgNewkeys

/-- The packets of an accepted exchange with `early` packets before the server's
`SSH_MSG_KEXINIT` and `late` packets between the reply and `SSH_MSG_NEWKEYS`. -/
def AcceptedExchange.packets {env : HandshakeEnv} {h : Handshaker} (x : AcceptedExchange env h)
    (early late : List Arrival) : List Arrival :=
  early ++ x.kexInit :: (x.group.toList ++ x.reply :: (late ++ [x.newKeys]))

/-- The condition under which strict key exchange holds: the server puts no packet before the
`SSH_MSG_KEXINIT` and none before the `SSH_MSG_NEWKEYS` of an exchange that is accepted otherwise. -/
def NothingInserted (env : HandshakeEnv) (h : Handshaker) (arrivals : List Arrival) : Prop :=
  ∀ (x : AcceptedExchange env h) (early late rest : List Arrival),
    arrivals = x.packets early late ++ rest → (∀ arrival ∈ early, Tolerated arrival) →
      (∀ arrival ∈ late, Droppable arrival) → early = [] ∧ late = []

/-! ## The first loop -/

/-- In strict mode `handle_msg` accepts nothing. -/
theorem handleMsg_of_strict {stream : PlainStream} (h : stream.strict = true) (payload : Bytes)
    (stream' : PlainStream) : Handshaker.handleMsg stream payload ≠ .ok stream' := by
  unfold Handshaker.handleMsg
  rw [if_pos h]
  simp

/-- What `handle_msg` keeps of the stream. -/
def SameSwitches (stream stream' : PlainStream) : Prop :=
  stream'.client.kexStrict = stream.client.kexStrict ∧
    stream'.server.kexStrict = stream.server.kexStrict ∧ stream'.writable = stream.writable

/-- The answer to one packet outside strict mode. -/
theorem handleMsg_of_not_strict {stream : PlainStream} (h : stream.strict = false)
    (payload : Bytes) :
    (∀ msg, Message.parse payload = .ok msg → toleratedMsg stream.writable msg = true →
        ∃ stream', Handshaker.handleMsg stream payload = .ok stream') ∧
      ∀ stream', Handshaker.handleMsg stream payload = .ok stream' →
        SameSwitches stream stream' ∧
          ∃ msg, Message.parse payload = .ok msg ∧ toleratedMsg stream.writable msg = true := by
  have hlen : (makeBufferWithoutHeader
      [.u8 sshMsgUnimplemented, .u32 stream.server.sequenceNumber]).length ≤
        maxPacketPayloadLength := by
    simp [makeBufferWithoutHeader, Field.put, maxPacketPayloadLength]
  unfold Handshaker.handleMsg
  rw [h, if_neg (by simp)]
  constructor
  · intro msg hparse htol
    rw [hparse]
    unfold toleratedMsg at htol
    simp only [bind, Except.bind]
    cases hreaction : Handshaker.reaction msg with
    | pass => exact ⟨stream, rfl⟩
    | disconnected reason description =>
      rw [hreaction] at htol
      cases htol
    | unimplemented =>
      rw [hreaction] at htol
      exact ⟨_, sendPayload_eq_ok_iff.mpr ⟨hlen, htol, rfl⟩⟩
  · intro stream' hok
    rw [Except.bind_eq_ok_iff] at hok
    obtain ⟨msg, hparse, hmsg⟩ := hok
    unfold toleratedMsg
    split at hmsg
    · next hpass =>
        injection hmsg with hmsg
        subst hmsg
        exact ⟨⟨rfl, rfl, rfl⟩, msg, hparse, by rw [hpass]⟩
    · cases hmsg
    · next hanswer =>
        obtain ⟨-, hw, rfl⟩ := sendPayload_eq_ok_iff.mp hmsg
        exact ⟨⟨rfl, rfl, rfl⟩, msg, hparse, by rw [hanswer]; exact hw⟩

/-- A handshaker that differs in its stream only, with the same strict switches. -/
def SameParty (h h' : Handshaker) : Prop :=
  ∃ stream, h' = { h with stream } ∧ stream.client.kexStrict = h.stream.client.kexStrict ∧
    stream.server.kexStrict = h.stream.server.kexStrict

theorem SameParty.refl (h : Handshaker) : SameParty h h :=
  ⟨h.stream, rfl, rfl, rfl⟩

theorem SameParty.trans {h h' h'' : Handshaker} (h₁ : SameParty h h') (h₂ : SameParty h' h'') :
    SameParty h h'' := by
  obtain ⟨stream₁, rfl, hc₁, hs₁⟩ := h₁
  obtain ⟨stream₂, rfl, hc₂, hs₂⟩ := h₂
  exact ⟨stream₂, rfl, hc₂.trans hc₁, hs₂.trans hs₁⟩

/-- A turn that goes on has seen a tolerated packet. -/
theorem negotiateTurn_again {env : HandshakeEnv} {h h' : Handshaker} {arrival : Arrival}
    (hserver : h.stream.server.kexStrict = false)
    (hturn : h.negotiateTurn env arrival = .ok (.again h')) :
    Tolerated arrival ∧ SameParty h h' := by
  unfold Handshaker.negotiateTurn at hturn
  simp only [Except.bind_eq_ok_iff, Prod.exists, recvPacket_eq_ok_iff] at hturn
  obtain ⟨payload, stream, ⟨hframe, rfl⟩, hturn⟩ := hturn
  split at hturn
  · rw [Except.bind_eq_ok_iff] at hturn
    obtain ⟨_, -, hturn⟩ := hturn
    cases hturn
  · next hcode =>
      rw [Except.bind_eq_ok_iff] at hturn
      obtain ⟨stream', hhandle, hturn⟩ := hturn
      injection hturn with hturn
      injection hturn with hturn
      subst hturn
      have hstrict : (h.stream.afterRecv arrival payload).strict = false := by
        simp [PlainStream.strict, hserver]
      obtain ⟨hsame, msg, hparse, htol⟩ := (handleMsg_of_not_strict hstrict payload).2 _ hhandle
      exact ⟨⟨payload, msg, hframe, hcode, hparse, htol⟩, stream', rfl, hsame.1, hsame.2.1⟩

/-- The client goes past a tolerated packet. -/
theorem negotiateTurn_of_tolerated {env : HandshakeEnv} {h : Handshaker} {arrival : Arrival}
    (hserver : h.stream.server.kexStrict = false) (htol : Tolerated arrival) :
    ∃ h', h.negotiateTurn env arrival = .ok (.again h') := by
  obtain ⟨payload, msg, hframe, hcode, hparse, htol⟩ := htol
  have hstrict : (h.stream.afterRecv arrival payload).strict = false := by
    simp [PlainStream.strict, hserver]
  obtain ⟨stream', hhandle⟩ := (handleMsg_of_not_strict hstrict payload).1 msg hparse htol
  refine ⟨{ h with stream := stream' }, ?_⟩
  unfold Handshaker.negotiateTurn
  simp only [Except.bind_eq_ok_iff, Prod.exists, recvPacket_eq_ok_iff]
  refine ⟨payload, _, ⟨hframe, rfl⟩, ?_⟩
  rw [if_neg hcode, hhandle]
  rfl

/-- What the first loop goes past is tolerated. -/
theorem tolerated_of_skips {env : HandshakeEnv} {h h' : Handshaker} {early : List Arrival}
    (hserver : h.stream.server.kexStrict = false)
    (hskips : Skips (Handshaker.negotiateTurn env) h early h') :
    (∀ arrival ∈ early, Tolerated arrival) ∧ SameParty h h' := by
  induction hskips with
  | nil h => exact ⟨by simp, SameParty.refl h⟩
  | cons hturn _ ih =>
    obtain ⟨htol, hsame⟩ := negotiateTurn_again hserver hturn
    obtain ⟨htols, hsames⟩ := ih (by obtain ⟨_, rfl, -, hs⟩ := hsame; exact hs.trans hserver)
    exact ⟨List.forall_mem_cons.mpr ⟨htol, htols⟩, hsame.trans hsames⟩

/-- The first loop goes past every tolerated packet. -/
theorem skips_of_tolerated {env : HandshakeEnv} {h : Handshaker} {early : List Arrival}
    (hserver : h.stream.server.kexStrict = false) (htol : ∀ arrival ∈ early, Tolerated arrival) :
    ∃ h', Skips (Handshaker.negotiateTurn env) h early h' := by
  induction early generalizing h with
  | nil => exact ⟨h, .nil h⟩
  | cons arrival early ih =>
    obtain ⟨htol₀, htols⟩ := List.forall_mem_cons.mp htol
    obtain ⟨h', hturn⟩ := @negotiateTurn_of_tolerated env _ _ hserver htol₀
    have hserver' : h'.stream.server.kexStrict = false := by
      obtain ⟨_, rfl, -, hs⟩ := (negotiateTurn_again hserver hturn).2
      exact hs.trans hserver
    obtain ⟨h'', hskips⟩ := ih hserver' htols
    exact ⟨h'', .cons hturn hskips⟩

/-- The turn that ends the first loop. -/
theorem negotiateTurn_done_iff {env : HandshakeEnv} {h : Handshaker} {arrival : Arrival}
    {n : Negotiated} :
    h.negotiateTurn env arrival = .ok (.done n) ↔
      ∃ payload methods matched, framePayload arrival = .ok payload ∧
        payload.head? = some sshMsgKexinit ∧
        h.config.matchServer payload = .ok (methods, matched) ∧
        n = { h with
          stream := { h.stream.afterRecv arrival payload with
            server.kexStrict := methods.kexStrict
            server.ext := methods.ext }
          clientKexMsg := h.kexInit env
          serverKexMsg := payload
          matched } := by
  unfold Handshaker.negotiateTurn
  simp only [Except.bind_eq_ok_iff, Prod.exists, recvPacket_eq_ok_iff]
  constructor
  · rintro ⟨payload, stream, ⟨hframe, rfl⟩, hturn⟩
    split at hturn
    · next hcode =>
        simp only [Except.bind_eq_ok_iff, Prod.exists] at hturn
        obtain ⟨methods, matched, hmatch, hturn⟩ := hturn
        injection hturn with hturn
        injection hturn with hturn
        exact ⟨payload, methods, matched, hframe, hcode, hmatch, hturn.symm⟩
    · rw [Except.bind_eq_ok_iff] at hturn
      obtain ⟨_, -, hturn⟩ := hturn
      cases hturn
  · rintro ⟨payload, methods, matched, hframe, hcode, hmatch, rfl⟩
    refine ⟨payload, _, ⟨hframe, rfl⟩, ?_⟩
    rw [if_pos hcode, hmatch]
    rfl

/-! ## The loops in strict mode -/

/-- In strict mode a turn of the group loop takes the group. -/
theorem groupTurn_eq_ok_iff {exchange : Exchange} {n : Negotiated} {arrival : Arrival}
    {t : Turn Negotiated (Negotiated × (Bytes × Bytes))} (hstrict : n.stream.strict = true) :
    n.groupTurn exchange arrival = .ok t ↔
      ∃ payload value, framePayload arrival = .ok payload ∧
        payload.head? = some exchange.responseCode ∧ exchange.readGroup payload = .ok value ∧
        t = .done ({ n with stream := n.stream.afterRecv arrival payload }, value) := by
  unfold Negotiated.groupTurn
  simp only [Except.bind_eq_ok_iff, Prod.exists, recvPacket_eq_ok_iff]
  constructor
  · rintro ⟨payload, stream, ⟨hframe, rfl⟩, h⟩
    split at h
    · next hcode =>
        simp only [Except.bind_eq_ok_iff, Prod.exists] at h
        obtain ⟨p, g, hread, h⟩ := h
        injection h with h
        exact ⟨payload, p, g, hframe, hcode, hread, h.symm⟩
    · rw [Except.bind_eq_ok_iff] at h
      obtain ⟨stream, hhandle, -⟩ := h
      exact absurd hhandle (handleMsg_of_strict (by simpa using hstrict) _ _)
  · rintro ⟨payload, p, g, hframe, hcode, hread, rfl⟩
    refine ⟨payload, _, ⟨hframe, rfl⟩, ?_⟩
    rw [if_pos hcode, hread]
    rfl

/-- In strict mode a turn of the reply loop takes the reply. -/
theorem replyTurn_eq_ok_iff {env : HandshakeEnv} {x : Exchanging} {arrival : Arrival}
    {t : Turn Exchanging Keyed} (hstrict : x.stream.strict = true) :
    x.replyTurn env arrival = .ok t ↔
      ∃ payload result, framePayload arrival = .ok payload ∧
        payload.head? = some x.matched.kex.responseCode ∧
        x.matched.readReply (x.replyContext env) payload = .ok result ∧
        arrival.writable = true ∧
        t = .done { x with
          stream := (x.stream.afterRecv arrival payload).afterSend [sshMsgNewkeys]
          sessionId := result.1
          keys := result.2 } := by
  unfold Exchanging.replyTurn
  simp only [Except.bind_eq_ok_iff, Prod.exists, recvPacket_eq_ok_iff]
  constructor
  · rintro ⟨payload, stream, ⟨hframe, rfl⟩, h⟩
    split at h
    · next hcode =>
        simp only [Except.bind_eq_ok_iff, Prod.exists, sendPayload_eq_ok_iff] at h
        obtain ⟨hash, keys, hread, stream, ⟨-, hwritable, rfl⟩, h⟩ := h
        injection h with h
        exact ⟨payload, hash, keys, hframe, hcode, hread, hwritable, h.symm⟩
    · rw [Except.bind_eq_ok_iff] at h
      obtain ⟨stream, hhandle, -⟩ := h
      exact absurd hhandle (handleMsg_of_strict (by simpa using hstrict) _ _)
  · rintro ⟨payload, hash, keys, hframe, hcode, hread, hwritable, rfl⟩
    refine ⟨payload, _, ⟨hframe, rfl⟩, ?_⟩
    rw [if_pos hcode]
    simp only [Except.bind_eq_ok_iff, Prod.exists, sendPayload_eq_ok_iff]
    exact ⟨hash, keys, hread, _, ⟨by decide, hwritable, rfl⟩, rfl⟩

/-- In strict mode the group loop takes exactly one packet, the group. -/
theorem loop_groupTurn_iff {exchange : Exchange} {n n' : Negotiated} {arrivals rest : List Arrival}
    {value : Bytes × Bytes} (hstrict : n.stream.strict = true) :
    loop (Negotiated.groupTurn exchange) n arrivals = .finished (n', value) rest ↔
      ∃ arrival payload, arrivals = arrival :: rest ∧ framePayload arrival = .ok payload ∧
        payload.head? = some exchange.responseCode ∧ exchange.readGroup payload = .ok value ∧
        n' = { n with stream := n.stream.afterRecv arrival payload } := by
  rw [loop_eq_finished_iff_of_no_again fun arrival t h => by
    obtain ⟨_, _, -, -, -, h⟩ := (groupTurn_eq_ok_iff hstrict).mp h
    cases h]
  simp only [groupTurn_eq_ok_iff hstrict]
  constructor
  · rintro ⟨arrival, rfl, payload, value', hframe, hcode, hread, h⟩
    injection h with h
    injection h with h₁ h₂
    subst h₂
    exact ⟨arrival, payload, rfl, hframe, hcode, hread, h₁⟩
  · rintro ⟨arrival, payload, rfl, hframe, hcode, hread, rfl⟩
    exact ⟨arrival, rfl, payload, value, hframe, hcode, hread, rfl⟩

/-- In strict mode the reply loop takes exactly one packet, the reply. -/
theorem loop_replyTurn_iff {env : HandshakeEnv} {x : Exchanging} {k : Keyed}
    {arrivals rest : List Arrival} (hstrict : x.stream.strict = true) :
    loop (Exchanging.replyTurn env) x arrivals = .finished k rest ↔
      ∃ arrival payload result, arrivals = arrival :: rest ∧ framePayload arrival = .ok payload ∧
        payload.head? = some x.matched.kex.responseCode ∧
        x.matched.readReply (x.replyContext env) payload = .ok result ∧
        arrival.writable = true ∧
        k = { x with
          stream := (x.stream.afterRecv arrival payload).afterSend [sshMsgNewkeys]
          sessionId := result.1
          keys := result.2 } := by
  rw [loop_eq_finished_iff_of_no_again fun arrival t h => by
    obtain ⟨_, _, -, -, -, -, h⟩ := (replyTurn_eq_ok_iff hstrict).mp h
    cases h]
  simp only [replyTurn_eq_ok_iff hstrict, Turn.done.injEq]
  constructor
  · rintro ⟨arrival, rfl, payload, result, hframe, hcode, hread, hwritable, h⟩
    exact ⟨arrival, payload, result, rfl, hframe, hcode, hread, hwritable, h⟩
  · rintro ⟨arrival, payload, result, rfl, hframe, hcode, hread, hwritable, h⟩
    exact ⟨arrival, rfl, payload, result, hframe, hcode, hread, hwritable, h⟩

/-! ## The last loop -/

theorem newKeysTurn_eq_ok_iff {k : Keyed} {arrival : Arrival} {t : Turn Keyed Keyed} :
    k.newKeysTurn arrival = .ok t ↔
      ∃ payload, framePayload arrival = .ok payload ∧
        t = if payload.head? = some sshMsgNewkeys then
          .done { k with stream := k.stream.afterRecv arrival payload }
        else .again { k with stream := k.stream.afterRecv arrival payload } := by
  unfold Keyed.newKeysTurn
  simp only [Except.bind_eq_ok_iff, Prod.exists, recvPacket_eq_ok_iff]
  constructor
  · rintro ⟨payload, stream, ⟨hframe, rfl⟩, h⟩
    refine ⟨payload, hframe, ?_⟩
    by_cases hcode : payload.head? = some sshMsgNewkeys
    · rw [if_pos hcode] at h ⊢
      injection h with h
      exact h.symm
    · rw [if_neg hcode] at h ⊢
      injection h with h
      exact h.symm
  · rintro ⟨payload, hframe, rfl⟩
    refine ⟨payload, _, ⟨hframe, rfl⟩, ?_⟩
    split <;> rfl

/-- What the last loop went past is droppable, and it ended with `SSH_MSG_NEWKEYS`. -/
theorem droppable_of_loop {k k' : Keyed} {arrivals rest : List Arrival}
    (hrun : loop Keyed.newKeysTurn k arrivals = .finished k' rest) :
    ∃ late newKeys, arrivals = late ++ newKeys :: rest ∧
      (∀ arrival ∈ late, Droppable arrival) ∧ newKeys.HasCode sshMsgNewkeys := by
  obtain ⟨late, newKeys, k'', harrivals, hskips, hlast⟩ := loop_eq_finished_iff.mp hrun
  refine ⟨late, newKeys, harrivals, ?_, ?_⟩
  · clear hlast harrivals hrun
    induction hskips with
    | nil => simp
    | cons hturn _ ih =>
      obtain ⟨payload, hframe, h⟩ := newKeysTurn_eq_ok_iff.mp hturn
      split at h
      · cases h
      · next hcode => exact List.forall_mem_cons.mpr ⟨⟨payload, hframe, hcode⟩, ih⟩
  · obtain ⟨payload, hframe, h⟩ := newKeysTurn_eq_ok_iff.mp hlast
    split at h
    · next hcode => exact ⟨payload, hframe, hcode⟩
    · cases h

/-- The last loop goes past every droppable packet. -/
theorem loop_of_droppable {k : Keyed} {late rest : List Arrival} {newKeys : Arrival}
    (hlate : ∀ arrival ∈ late, Droppable arrival) (hcode : newKeys.HasCode sshMsgNewkeys) :
    ∃ stream, loop Keyed.newKeysTurn k (late ++ newKeys :: rest) =
      .finished { k with stream } rest := by
  induction late generalizing k with
  | nil =>
    obtain ⟨payload, hframe, hcode⟩ := hcode
    refine ⟨k.stream.afterRecv newKeys payload, ?_⟩
    have hturn : k.newKeysTurn newKeys =
        .ok (.done { k with stream := k.stream.afterRecv newKeys payload }) :=
      newKeysTurn_eq_ok_iff.mpr ⟨payload, hframe, by rw [if_pos hcode]⟩
    simp [loop, hturn]
  | cons arrival late ih =>
    obtain ⟨⟨payload, hframe, hne⟩, hlate⟩ := List.forall_mem_cons.mp hlate
    have hturn : k.newKeysTurn arrival =
        .ok (.again { k with stream := k.stream.afterRecv arrival payload }) :=
      newKeysTurn_eq_ok_iff.mpr ⟨payload, hframe, by rw [if_neg hne]⟩
    obtain ⟨stream, hrun⟩ := @ih { k with stream := k.stream.afterRecv arrival payload } hlate
    exact ⟨stream, by simpa [loop, hturn] using hrun⟩

/-! ## What the loops keep of the negotiation -/

/-- A turn of the group loop keeps the server's `SSH_MSG_KEXINIT`. -/
theorem groupTurn_keeps {exchange : Exchange} {n : Negotiated} {arrival : Arrival}
    {t : Turn Negotiated (Negotiated × (Bytes × Bytes))}
    (hturn : n.groupTurn exchange arrival = .ok t) :
    t.Satisfies (fun n' => n'.serverKexMsg = n.serverKexMsg)
      fun r => r.1.serverKexMsg = n.serverKexMsg := by
  unfold Negotiated.groupTurn at hturn
  simp only [Except.bind_eq_ok_iff, Prod.exists] at hturn
  obtain ⟨payload, stream, -, hturn⟩ := hturn
  split at hturn
  · simp only [Except.bind_eq_ok_iff, Prod.exists] at hturn
    obtain ⟨p, g, -, hturn⟩ := hturn
    injection hturn with hturn
    subst hturn
    rfl
  · rw [Except.bind_eq_ok_iff] at hturn
    obtain ⟨stream', -, hturn⟩ := hturn
    injection hturn with hturn
    subst hturn
    rfl

/-- A turn of the reply loop keeps the server's `SSH_MSG_KEXINIT`. -/
theorem replyTurn_keeps {env : HandshakeEnv} {x : Exchanging} {arrival : Arrival}
    {t : Turn Exchanging Keyed} (hturn : x.replyTurn env arrival = .ok t) :
    t.Satisfies (fun x' => x'.serverKexMsg = x.serverKexMsg)
      fun k => k.serverKexMsg = x.serverKexMsg := by
  unfold Exchanging.replyTurn at hturn
  simp only [Except.bind_eq_ok_iff, Prod.exists] at hturn
  obtain ⟨payload, stream, -, hturn⟩ := hturn
  split at hturn
  · simp only [Except.bind_eq_ok_iff, Prod.exists] at hturn
    obtain ⟨hash, keys, -, stream', -, hturn⟩ := hturn
    injection hturn with hturn
    subst hturn
    rfl
  · rw [Except.bind_eq_ok_iff] at hturn
    obtain ⟨stream', -, hturn⟩ := hturn
    injection hturn with hturn
    subst hturn
    rfl

/-- The last loop keeps the server's `SSH_MSG_KEXINIT` and the method. -/
theorem loop_newKeysTurn_keeps {k k' : Keyed} {arrivals rest : List Arrival}
    (hrun : loop Keyed.newKeysTurn k arrivals = .finished k' rest) :
    k'.serverKexMsg = k.serverKexMsg ∧ k'.matched = k.matched := by
  let Keeps : Keyed → Prop := fun s => s.serverKexMsg = k.serverKexMsg ∧ s.matched = k.matched
  refine loop_satisfies (P := Keeps) (Q := Keeps) ?_ ⟨rfl, rfl⟩ hrun
  intro s arrival t hs hturn
  obtain ⟨payload, -, rfl⟩ := newKeysTurn_eq_ok_iff.mp hturn
  by_cases hcode : payload.head? = some sshMsgNewkeys
  · rw [if_pos hcode]
    exact hs
  · rw [if_neg hcode]
    exact hs

/-- The whole key exchange keeps the server's `SSH_MSG_KEXINIT`. -/
theorem keyExchange_serverKexMsg {env : HandshakeEnv} {n : Negotiated} {k : Keyed}
    {arrivals rest : List Arrival} (hrun : n.keyExchange env arrivals = .finished k rest) :
    k.serverKexMsg = n.serverKexMsg := by
  unfold Negotiated.keyExchange Negotiated.receiveGroup at hrun
  simp only [Outcome.andThen_eq_finished_iff, Outcome.lift_eq_finished_iff, Prod.exists] at hrun
  obtain ⟨n', group, mid, hgroup, x, _, ⟨hsend, rfl⟩, y, mid', hreply, hnew⟩ := hrun
  have hn' : n'.serverKexMsg = n.serverKexMsg := by
    split at hgroup
    · injection hgroup with h
      injection h with h
      rw [h]
    · simp only [Outcome.andThen_eq_finished_iff, Outcome.lift_eq_finished_iff, Prod.exists]
        at hgroup
      obtain ⟨n₁, _, ⟨hrequest, rfl⟩, n₂, p, g, _, hloop, hfin⟩ := hgroup
      injection hfin with h
      injection h with h
      subst h
      have hn₁ : n₁.serverKexMsg = n.serverKexMsg := by
        unfold Negotiated.sendGroupRequest at hrequest
        rw [Except.bind_eq_ok_iff] at hrequest
        obtain ⟨stream, -, h⟩ := hrequest
        injection h with h
        rw [← h]
      rw [← hn₁]
      refine loop_satisfies (P := fun s : Negotiated => s.serverKexMsg = n₁.serverKexMsg)
        (Q := fun r : Negotiated × (Bytes × Bytes) => r.1.serverKexMsg = n₁.serverKexMsg)
        (fun s arrival t hs hturn => ?_) rfl hloop
      rw [← hs]
      exact groupTurn_keeps hturn
  have hx : x.serverKexMsg = n'.serverKexMsg := by
    unfold Negotiated.sendPublicKey at hsend
    simp only [Except.bind_eq_ok_iff] at hsend
    obtain ⟨pk, -, stream, -, h⟩ := hsend
    injection h with h
    rw [← h]
  have hy : y.serverKexMsg = x.serverKexMsg := by
    refine loop_satisfies (P := fun s : Exchanging => s.serverKexMsg = x.serverKexMsg)
      (Q := fun s : Keyed => s.serverKexMsg = x.serverKexMsg)
      (fun s arrival t hs hturn => ?_) rfl hreply
    rw [← hs]
    exact replyTurn_keeps hturn
  rw [(loop_newKeysTurn_keeps hnew).1, hy, hx, hn']

/-! ## The whole handshake -/

/-- Setting the recommended group size changes neither the message numbers nor the groups that are
accepted. -/
theorem setRecommendedNumberOfBits_spec (exchange : Exchange) (bits : UInt32) :
    (exchange.setRecommendedNumberOfBits bits).responseCode = exchange.responseCode ∧
      (exchange.setRecommendedNumberOfBits bits).readGroup = exchange.readGroup := by
  unfold Exchange.setRecommendedNumberOfBits
  split <;> exact ⟨rfl, rfl⟩

theorem parse_of_matchServer {config : Config} {payload : Bytes} {methods : Methods}
    {matched : MatchedMethods} (h : config.matchServer payload = .ok (methods, matched)) :
    Methods.parse payload = .ok methods := by
  unfold Config.matchServer at h
  simp only [Except.bind_eq_ok_iff] at h
  obtain ⟨methods', hparse, matched', -, h⟩ := h
  injection h with h
  injection h with h
  rw [hparse, h]

/-- What the group exchange keeps of a handshaker in strict mode. -/
def AfterGroup (n n' : Negotiated) (group : Option Arrival) : Prop :=
  ∃ stream, n' = { n with stream } ∧ stream.strict = true ∧
    stream.writable = group.elim n.stream.writable Arrival.writable

/-- In strict mode the group exchange takes exactly the group that the method expects. -/
theorem groupAccepted_of_receiveGroup {n n' : Negotiated} {value : Option (Bytes × Bytes)}
    {arrivals rest : List Arrival} (hstrict : n.stream.strict = true)
    (hrun : n.receiveGroup arrivals = .finished (n', value) rest) :
    ∃ group : Option Arrival, arrivals = group.toList ++ rest ∧ AfterGroup n n' group ∧
      GroupAccepted n.matched.kex.exchange n.stream.writable group value := by
  unfold Negotiated.receiveGroup Negotiated.exchange at hrun
  cases hex : n.matched.kex.exchange with
  | none =>
    rw [hex] at hrun
    injection hrun with h hrest
    injection h with h hvalue
    subst h hvalue hrest
    exact ⟨none, rfl, ⟨n.stream, rfl, hstrict, rfl⟩, rfl⟩
  | some exchange =>
    obtain ⟨hcode, hread⟩ := setRecommendedNumberOfBits_spec exchange
      (n.matched.groupBits n.config n.compatOptions)
    simp only [hex, Option.map_some, Outcome.andThen_eq_finished_iff,
      Outcome.lift_eq_finished_iff, Prod.exists] at hrun
    obtain ⟨n₁, _, ⟨hsend, rfl⟩, n₂, p, g, mid, hloop, hfin⟩ := hrun
    injection hfin with h hrest
    injection h with h hvalue
    subst h hvalue hrest
    unfold Negotiated.sendGroupRequest at hsend
    simp only [Except.bind_eq_ok_iff, sendPayload_eq_ok_iff] at hsend
    obtain ⟨stream, ⟨-, hwritable, rfl⟩, h⟩ := hsend
    injection h with h
    subst h
    obtain ⟨arrival, payload, rfl, hframe, hhead, hpair, rfl⟩ :=
      (loop_groupTurn_iff (by simpa using hstrict)).mp hloop
    rw [hcode] at hhead
    rw [hread] at hpair
    exact ⟨some arrival, rfl, ⟨_, rfl, by simpa using hstrict, rfl⟩, hwritable, payload, (p, g),
      hframe, hhead, hpair, rfl⟩

/-- In strict mode the group exchange succeeds on an accepted group. -/
theorem receiveGroup_of_groupAccepted {n : Negotiated} {value : Option (Bytes × Bytes)}
    {group : Option Arrival} (rest : List Arrival) (hstrict : n.stream.strict = true)
    (hgroup : GroupAccepted n.matched.kex.exchange n.stream.writable group value) :
    ∃ n', n.receiveGroup (group.toList ++ rest) = .finished (n', value) rest ∧
      AfterGroup n n' group := by
  unfold Negotiated.receiveGroup Negotiated.exchange
  cases hex : n.matched.kex.exchange with
  | none =>
    cases group with
    | none =>
      rw [hex] at hgroup
      cases hgroup
      exact ⟨n, rfl, n.stream, rfl, hstrict, rfl⟩
    | some arrival =>
      rw [hex] at hgroup
      cases hgroup
  | some exchange =>
    cases group with
    | none =>
      rw [hex] at hgroup
      cases hgroup
    | some arrival =>
      rw [hex] at hgroup
      obtain ⟨hwritable, payload, pair, hframe, hhead, hpair, rfl⟩ := hgroup
      obtain ⟨hcode, hread⟩ := setRecommendedNumberOfBits_spec exchange
        (n.matched.groupBits n.config n.compatOptions)
      let request := (exchange.setRecommendedNumberOfBits
        (n.matched.groupBits n.config n.compatOptions)).request
      have hlen : request.length ≤ maxPacketPayloadLength := by
        simp [request, Exchange.request, makeBufferWithoutHeader, Field.put,
          maxPacketPayloadLength]
      let stream := (n.stream.afterSend request).afterRecv arrival payload
      refine ⟨{ n with stream }, ?_, stream, rfl, by simpa [stream] using hstrict, rfl⟩
      simp only [Option.map_some, Outcome.andThen_eq_finished_iff,
        Outcome.lift_eq_finished_iff]
      refine ⟨{ n with stream := n.stream.afterSend request }, _, ⟨?_, rfl⟩, ({ n with stream }, pair),
        rest, ?_, rfl⟩
      · unfold Negotiated.sendGroupRequest
        simp only [Except.bind_eq_ok_iff, sendPayload_eq_ok_iff]
        exact ⟨_, ⟨hlen, hwritable, rfl⟩, rfl⟩
      · refine (loop_groupTurn_iff (by simpa using hstrict)).mpr ?_
        exact ⟨arrival, payload, rfl, hframe, hcode ▸ hhead, hread ▸ hpair, rfl⟩

/-- A fresh handshaker: the client's switch comes from the configuration, the server's is unset. -/
def Fresh (h : Handshaker) : Prop :=
  h.stream.client.kexStrict = h.config.keyStrict ∧ h.stream.server.kexStrict = false

/-- A handshake that both sides wanted strict took the packets of an accepted exchange, perhaps with
packets inserted. -/
theorem exists_accepted {env : HandshakeEnv} {h : Handshaker} {arrivals rest : List Arrival}
    {k : Keyed} {methods : Methods} (hfresh : Fresh h)
    (hrun : h.handshake env arrivals = .finished k rest) (hclient : h.config.keyStrict = true)
    (hparse : Methods.parse k.serverKexMsg = .ok methods) (hserver : methods.kexStrict = true) :
    ∃ (x : AcceptedExchange env h) (early late : List Arrival),
      arrivals = x.packets early late ++ rest ∧ (∀ arrival ∈ early, Tolerated arrival) ∧
        (∀ arrival ∈ late, Droppable arrival) ∧ k.matched = x.matched := by
  unfold Handshaker.handshake Handshaker.negotiateMethods at hrun
  simp only [Outcome.andThen_eq_finished_iff, Outcome.lift_eq_finished_iff] at hrun
  obtain ⟨n, mid, ⟨h₁, _, ⟨hsend, rfl⟩, hloop⟩, hkex⟩ := hrun
  -- the client's KEXINIT
  unfold Handshaker.sendKexInit at hsend
  simp only [Except.bind_eq_ok_iff, sendPayload_eq_ok_iff] at hsend
  obtain ⟨stream₁, ⟨hlen, hwritable, rfl⟩, hh₁⟩ := hsend
  injection hh₁ with hh₁
  subst hh₁
  -- the packets before the server's KEXINIT
  obtain ⟨early, kexInit, h₂, rfl, hskips, hdone⟩ := loop_eq_finished_iff.mp hloop
  obtain ⟨htol, stream₂, rfl, hc, hs⟩ := tolerated_of_skips (by exact hfresh.2) hskips
  obtain ⟨payload, methods', matched, hframe, hcode, hmatch, rfl⟩ := negotiateTurn_done_iff.mp hdone
  have hmethods : methods' = methods := by
    have hkeep := keyExchange_serverKexMsg hkex
    rw [hkeep] at hparse
    exact Except.ok.inj ((parse_of_matchServer hmatch).symm.trans hparse)
  subst hmethods
  -- from here on both switches are on
  unfold Negotiated.keyExchange at hkex
  simp only [Outcome.andThen_eq_finished_iff, Outcome.lift_eq_finished_iff, Prod.exists] at hkex
  obtain ⟨n, value, mid, hgroup, y, _, ⟨hpublic, rfl⟩, k₁, mid', hreply, hnew⟩ := hkex
  have hstrict : PlainStream.strict { stream₂.afterRecv kexInit payload with
      server.kexStrict := methods'.kexStrict, server.ext := methods'.ext } = true := by
    simpa [PlainStream.strict, hserver, hc, hfresh.1] using hclient
  obtain ⟨group, rfl, ⟨stream₃, rfl, hstrict₃, hwritable₃⟩, haccepted⟩ :=
    groupAccepted_of_receiveGroup hstrict hgroup
  unfold Negotiated.sendPublicKey at hpublic
  simp only [Except.bind_eq_ok_iff, sendPayload_eq_ok_iff] at hpublic
  obtain ⟨clientPublicKey, hgenerate, stream₄, ⟨hlen₄, hwritable₄, rfl⟩, hy⟩ := hpublic
  injection hy with hy
  subst hy
  obtain ⟨reply, replyPayload, result, rfl, hframe₅, hcode₅, hread₅, hwritable₅, rfl⟩ :=
    (loop_replyTurn_iff (by simpa using hstrict₃)).mp hreply
  obtain ⟨late, newKeys, rfl, hlate, hcode₆⟩ := droppable_of_loop hnew
  rw [hwritable₃] at hwritable₄
  refine ⟨{
    kexInit, serverKexMsg := payload, methods := methods', matched, group, groupValue := value
    clientPublicKey, reply, replyPayload, result, newKeys
    keyStrict := hclient
    kexInit_sent := ⟨hlen, hwritable⟩
    kexInit_payload := hframe
    kexInit_code := hcode
    kexInit_matched := hmatch
    server_strict := hserver
    group_accepted := haccepted
    publicKey_generated := hgenerate
    publicKey_sent := ⟨hlen₄, by cases group <;> exact hwritable₄⟩
    reply_payload := hframe₅
    reply_code := hcode₅
    reply_accepted := hread₅
    reply_writable := hwritable₅
    newKeys_code := hcode₆ }, early, late, ?_, htol, hlate, (loop_newKeysTurn_keeps hnew).2⟩
  simp [AcceptedExchange.packets]

/-- The client accepts an accepted exchange also with tolerated packets before the server's
`SSH_MSG_KEXINIT` and droppable packets before its `SSH_MSG_NEWKEYS`. -/
theorem handshake_of_accepted {env : HandshakeEnv} {h : Handshaker} (hfresh : Fresh h)
    (x : AcceptedExchange env h) {early late : List Arrival} (rest : List Arrival)
    (hearly : ∀ arrival ∈ early, Tolerated arrival)
    (hlate : ∀ arrival ∈ late, Droppable arrival) :
    ∃ k, h.handshake env (x.packets early late ++ rest) = .finished k rest ∧
      k.serverKexMsg = x.serverKexMsg ∧ k.matched = x.matched := by
  obtain ⟨hlen, hwritable⟩ := x.kexInit_sent
  let h₁ : Handshaker := { h with stream := h.stream.afterSend (h.kexInit env) }
  have hsend : h.sendKexInit env = .ok h₁ := by
    unfold Handshaker.sendKexInit
    simp only [Except.bind_eq_ok_iff, sendPayload_eq_ok_iff]
    exact ⟨_, ⟨hlen, hwritable, rfl⟩, rfl⟩
  -- the first loop goes past the early packets and ends with the server's KEXINIT
  have hserver₁ : h₁.stream.server.kexStrict = false := hfresh.2
  obtain ⟨h₂, hskips⟩ := @skips_of_tolerated env _ _ hserver₁ hearly
  obtain ⟨-, stream₂, rfl, hc, hs⟩ := tolerated_of_skips hserver₁ hskips
  let stream := { stream₂.afterRecv x.kexInit x.serverKexMsg with
    server.kexStrict := x.methods.kexStrict
    server.ext := x.methods.ext }
  let n : Negotiated := { h with
    stream, clientKexMsg := h.kexInit env, serverKexMsg := x.serverKexMsg, matched := x.matched }
  let behind := x.group.toList ++ x.reply :: (late ++ x.newKeys :: rest)
  have hnegotiate : h.negotiateMethods env (x.packets early late ++ rest) = .finished n behind := by
    unfold Handshaker.negotiateMethods
    rw [hsend, Outcome.andThen_eq_finished_iff]
    refine ⟨h₁, _, rfl, loop_eq_finished_iff.mpr ⟨early, x.kexInit, _, ?_, hskips, ?_⟩⟩
    · simp [AcceptedExchange.packets, behind]
    · exact negotiateTurn_done_iff.mpr
        ⟨_, _, _, x.kexInit_payload, x.kexInit_code, x.kexInit_matched, rfl⟩
  -- from here on both switches are on
  have hclient : stream₂.client.kexStrict = true := (hc.trans hfresh.1).trans x.keyStrict
  have hstrict : n.stream.strict = true := by
    simp [n, stream, PlainStream.strict, hclient, x.server_strict]
  obtain ⟨n', hgroup, stream₃, rfl, hstrict₃, hwritable₃⟩ :=
    receiveGroup_of_groupAccepted (x.reply :: (late ++ x.newKeys :: rest)) hstrict x.group_accepted
  obtain ⟨hlen₄, hwritable₄⟩ := x.publicKey_sent
  let y : Exchanging := { n with
    stream := stream₃.afterSend (x.matched.kex.initPayload x.clientPublicKey)
    group := x.groupValue
    clientPublicKey := x.clientPublicKey }
  have hpublic : Negotiated.sendPublicKey env { n with stream := stream₃ } x.groupValue =
      .ok y := by
    unfold Negotiated.sendPublicKey
    simp only [Except.bind_eq_ok_iff, sendPayload_eq_ok_iff]
    refine ⟨_, x.publicKey_generated, _, ⟨hlen₄, ?_, rfl⟩, rfl⟩
    rw [hwritable₃, ← hwritable₄]
    cases x.group <;> rfl
  let k : Keyed := { y with
    stream := (y.stream.afterRecv x.reply x.replyPayload).afterSend [sshMsgNewkeys]
    sessionId := x.result.1
    keys := x.result.2 }
  have hreply : loop (Exchanging.replyTurn env) y (x.reply :: (late ++ x.newKeys :: rest)) =
      .finished k (late ++ x.newKeys :: rest) :=
    (loop_replyTurn_iff (by simpa [y] using hstrict₃)).mpr
      ⟨_, _, _, rfl, x.reply_payload, x.reply_code, x.reply_accepted, x.reply_writable, rfl⟩
  obtain ⟨stream₅, hnew⟩ := @loop_of_droppable k late rest _ hlate x.newKeys_code
  refine ⟨{ k with stream := stream₅ }, ?_, rfl, rfl⟩
  unfold Handshaker.handshake Negotiated.keyExchange
  simp only [Outcome.andThen_eq_finished_iff, Outcome.lift_eq_finished_iff, Prod.exists]
  exact ⟨n, behind, hnegotiate, _, _, _, hgroup, y, _, ⟨hpublic, rfl⟩, k, _, hreply, hnew⟩

/-! ## Strict key exchange -/

theorem fresh_afterBanner (clientVersion serverVersion : Text) (config : Config)
    (compat : CompatOptions) (writable : Bool) :
    Fresh (Handshaker.afterBanner clientVersion serverVersion config compat writable) :=
  ⟨rfl, rfl⟩

/-- An accepted group is the one its method expects. -/
theorem GroupAccepted.expected {exchange : Option Exchange} {writable : Bool}
    {group : Option Arrival} {value : Option (Bytes × Bytes)}
    (h : GroupAccepted exchange writable group value) : GroupExpected exchange group := by
  cases exchange <;> cases group
  · trivial
  · exact h
  · exact h
  · obtain ⟨-, payload, _, hframe, hcode, -, -⟩ := h
    exact ⟨payload, hframe, hcode⟩

/-- Whether there is a group packet depends on the method alone. -/
theorem GroupExpected.length_eq {exchange : Option Exchange} {group : Option Arrival}
    (h : GroupExpected exchange group) : group.toList.length = exchange.toList.length := by
  cases exchange <;> cases group <;> first | rfl | exact h.elim

/-- An exact sequence has three packets, and one more for a method with a group exchange. -/
theorem ExactSequence.length_eq {kex : KeyExchange} {packets : List Arrival}
    (h : ExactSequence kex packets) : packets.length = kex.exchange.toList.length + 3 := by
  obtain ⟨kexInit, group, reply, newKeys, rfl, -, hgroup, -⟩ := h
  simp [hgroup.length_eq]

namespace AcceptedExchange

variable {env : HandshakeEnv} {h : Handshaker}

/-- Without inserted packets an accepted exchange is an exact sequence. -/
theorem exactSequence (x : AcceptedExchange env h) :
    ExactSequence x.matched.kex (x.packets [] []) :=
  ⟨x.kexInit, x.group, x.reply, x.newKeys, rfl, ⟨_, x.kexInit_payload, x.kexInit_code⟩,
    x.group_accepted.expected, ⟨_, x.reply_payload, x.reply_code⟩, x.newKeys_code⟩

/-- Inserted packets make an accepted exchange longer. -/
theorem length_packets (x : AcceptedExchange env h) (early late : List Arrival) :
    (x.packets early late).length =
      x.matched.kex.exchange.toList.length + 3 + early.length + late.length := by
  have hgroup := x.group_accepted.expected.length_eq
  simp only [packets, List.length_append, List.length_cons, List.length_nil, hgroup]
  omega

end AcceptedExchange

/-- The client keeps to strict key exchange exactly on the packets of a server that inserts
nothing. -/
theorem strictKexHolds_iff (clientVersion serverVersion : Text) (config : Config)
    (compat : CompatOptions) (writable : Bool) (env : HandshakeEnv) (arrivals : List Arrival) :
    let h := Handshaker.afterBanner clientVersion serverVersion config compat writable
    StrictKexHolds env h arrivals ↔ NothingInserted env h arrivals := by
  intro h
  have hfresh : Fresh h := fresh_afterBanner ..
  constructor
  · intro hholds x early late rest harrivals hearly hlate
    obtain ⟨k, hrun, hkex, hmatched⟩ := handshake_of_accepted hfresh x rest hearly hlate
    rw [← harrivals] at hrun
    obtain ⟨packets, hpackets, hexact⟩ := hholds k rest x.methods hrun x.keyStrict
      (hkex ▸ parse_of_matchServer x.kexInit_matched) x.server_strict
    rw [harrivals, List.append_cancel_right_eq] at hpackets
    -- an exact sequence has no room for inserted packets
    have hlen := hexact.length_eq
    rw [← hpackets, hmatched, x.length_packets] at hlen
    exact ⟨List.length_eq_zero_iff.mp (by omega), List.length_eq_zero_iff.mp (by omega)⟩
  · intro hnothing k rest methods hrun hclient hparse hserver
    obtain ⟨x, early, late, harrivals, hearly, hlate, hmatched⟩ :=
      exists_accepted hfresh hrun hclient hparse hserver
    obtain ⟨rfl, rfl⟩ := hnothing x early late rest harrivals hearly hlate
    exact ⟨x.packets [] [], harrivals, hmatched ▸ x.exactSequence⟩

/-- A server asks for strict key exchange, and still precedes its `SSH_MSG_KEXINIT` with an
`SSH_MSG_IGNORE`: the handshake succeeds. -/
theorem strictKex_fails_on_early_ignore :
    let name := ascii "curve25519-sha256"
    let serverKexInit := NameLists.agreeableKexInit [name, kexStrictServer]
    let config := Config.accepting (.single name (.accepting name)) true
    let h := Handshaker.afterBanner [] [] config (.parse []) true
    let env : HandshakeEnv := { cookie := .zero, seed := 0, verifyServerHostKey := fun _ _ => true }
    ¬ StrictKexHolds env h
      [.ofPayload [sshMsgIgnore, 0, 0, 0, 0], .ofPayload serverKexInit,
        .ofPayload [31, 0, 0, 0, 0, 0, 0, 0, 0, 0, 0, 0, 0], .ofPayload [sshMsgNewkeys]] := by
  intro name serverKexInit config h env hholds
  have hrun : (h.handshake env [.ofPayload [sshMsgIgnore, 0, 0, 0, 0], .ofPayload serverKexInit,
      .ofPayload [31, 0, 0, 0, 0, 0, 0, 0, 0, 0, 0, 0, 0],
      .ofPayload [sshMsgNewkeys]]).result?.map (fun r => (r.1.serverKexMsg, r.2)) =
        some (serverKexInit, []) := by decide +kernel
  have hparse : (Methods.parse serverKexInit).map (·.kexStrict) = .ok true := by decide +kernel
  obtain ⟨⟨k, rest⟩, hresult, hk⟩ := Option.map_eq_some_iff.mp hrun
  injection hk with hk
  obtain ⟨methods, hmethods, hstrict⟩ : ∃ methods, Methods.parse serverKexInit = .ok methods ∧
      methods.kexStrict = true := by
    cases hres : Methods.parse serverKexInit with
    | ok methods => exact ⟨methods, rfl, by simpa [hres, Except.map] using hparse⟩
    | error e => simp [hres, Except.map] at hparse
  obtain ⟨packets, hpackets, kexInit, group, reply, newKeys, rfl, ⟨payload, hframe, hcode⟩, -⟩ :=
    hholds k rest methods (Outcome.result?_eq_some_iff.mp hresult) rfl
      (by rw [← hmethods]; exact congrArg Methods.parse hk) hstrict
  -- the first packet is not a KEXINIT
  injection hpackets with hfirst
  have hignore : framePayload (.ofPayload [sshMsgIgnore, 0, 0, 0, 0]) =
      .ok [sshMsgIgnore, 0, 0, 0, 0] := by decide +kernel
  rw [← hfirst, hignore] at hframe
  injection hframe with hframe
  rw [← hframe] at hcode
  exact absurd hcode (by decide)

end Flatline
