import Flatline.Kex.Handshaker

/-!
# The initial handshake, packet by packet

`Handshaker.handshake` takes all packets at once. Here it is one loop over states that say which of
its receive loops is running, so that a run that fails later, or is not over yet, can be looked at as
well. What a turn does to the stream is said once for all loops: it counts the packet, and if it
rejects it, it names it by the count it has reached.

Source: `src/session/handshake.rs` (`Handshaker`, `handle_msg`).
-/

namespace Flatline

open ReceiveLoop

/-- The receive loop that the handshake is in. -/
inductive Handshaking where
  | negotiating (h : Handshaker)
  | grouping (exchange : Exchange) (n : Negotiated)
  | replying (x : Exchanging)
  | finishing (k : Keyed)

/-- The beginning of `key_exchange`: the group request, for the methods that have one, else the
client's public value. -/
def Negotiated.startExchange (env : HandshakeEnv) (n : Negotiated) : Except Error Handshaking :=
  match n.exchange with
  | none => do return .replying (← n.sendPublicKey env none)
  | some exchange => do return .grouping exchange (← n.sendGroupRequest exchange)

namespace Handshaking

/-- The stream of the handshake. -/
def stream : Handshaking → PlainStream
  | negotiating h => h.stream
  | grouping _ n => n.stream
  | replying x => x.stream
  | finishing k => k.stream

/-- One turn of the loop that the handshake is in, and what leads to the next loop. -/
def turn (env : HandshakeEnv) : Handshaking → Arrival → Except Error (Turn Handshaking Keyed)
  | negotiating h, arrival => (h.negotiateTurn env arrival).bind (Turn.into negotiating fun n => do
    return .again (← n.startExchange env))
  | grouping exchange n, arrival =>
    (n.groupTurn exchange arrival).bind (Turn.into (grouping exchange) fun (n, group) => do
      return .again (.replying (← n.sendPublicKey env (some group))))
  | replying x, arrival =>
    (x.replyTurn env arrival).bind (Turn.into replying fun k => return .again (.finishing k))
  | finishing k, arrival => (k.newKeysTurn arrival).bind (Turn.into finishing fun k => return .done k)

/-! ## The same handshake -/

theorem loop_finishing (env : HandshakeEnv) (k : Keyed) (arrivals : List Arrival) :
    loop (turn env) (finishing k) arrivals = loop Keyed.newKeysTurn k arrivals := by
  rw [loop_into finishing fun _ _ => rfl]
  cases loop Keyed.newKeysTurn k arrivals <;> rfl

theorem loop_replying (env : HandshakeEnv) (x : Exchanging) (arrivals : List Arrival) :
    loop (turn env) (replying x) arrivals =
      (loop (Exchanging.replyTurn env) x arrivals).andThen (loop Keyed.newKeysTurn) := by
  rw [loop_into replying fun _ _ => rfl]
  congr 1
  funext k rest
  exact loop_finishing env k rest

/-- From the public value on. -/
theorem settle_sendPublicKey (env : HandshakeEnv) (n : Negotiated) (group : Option (Bytes × Bytes))
    (arrivals : List Arrival) :
    settle (turn env) (do return .again (replying (← n.sendPublicKey env group))) arrivals =
      (Outcome.lift (n.sendPublicKey env group) arrivals).andThen fun x arrivals =>
        (loop (Exchanging.replyTurn env) x arrivals).andThen (loop Keyed.newKeysTurn) := by
  cases n.sendPublicKey env group with
  | error e => rfl
  | ok x => exact loop_replying env x arrivals

/-- From the end of the negotiation on. -/
theorem settle_startExchange (env : HandshakeEnv) (n : Negotiated) (arrivals : List Arrival) :
    settle (turn env) (do return .again (← n.startExchange env)) arrivals =
      n.keyExchange env arrivals := by
  unfold Negotiated.keyExchange Negotiated.receiveGroup Negotiated.startExchange
  cases n.exchange with
  | none =>
    change _ = (Outcome.lift (n.sendPublicKey env none) arrivals).andThen _
    rw [← settle_sendPublicKey]
    cases n.sendPublicKey env none <;> rfl
  | some exchange =>
    simp only
    cases n.sendGroupRequest exchange with
    | error e => rfl
    | ok n =>
      change loop (turn env) (grouping exchange n) arrivals =
        ((loop (Negotiated.groupTurn exchange) n arrivals).andThen _).andThen _
      rw [loop_into (grouping exchange) fun _ _ => rfl]
      cases loop (Negotiated.groupTurn exchange) n arrivals with
      | finished result rest => exact settle_sendPublicKey env result.1 (some result.2) rest
      | failed e => rfl
      | waiting => rfl

/-- The handshake is one loop. -/
theorem handshake_eq_loop (env : HandshakeEnv) (h : Handshaker) (arrivals : List Arrival) :
    h.handshake env arrivals = (Outcome.lift (h.sendKexInit env) arrivals).andThen fun h =>
      loop (turn env) (negotiating h) := by
  unfold Handshaker.handshake Handshaker.negotiateMethods
  cases h.sendKexInit env with
  | error e => rfl
  | ok h =>
    change (loop (Handshaker.negotiateTurn env) h arrivals).andThen _ =
      loop (turn env) (negotiating h) arrivals
    rw [loop_into negotiating fun _ _ => rfl]
    congr 1
    funext n rest
    exact (settle_startExchange env n rest).symm

end Handshaking

/-! ## What a turn does to the stream -/

/-- The payload of an `SSH_MSG_UNIMPLEMENTED`. -/
def unimplementedPayload (sequenceNumber : UInt32) : Bytes :=
  makeBufferWithoutHeader [.u8 sshMsgUnimplemented, .u32 sequenceNumber]

/-- One packet has been received. What has been sent says `SSH_MSG_UNIMPLEMENTED` only outside strict
mode, and then it carries the count that this packet has led to. -/
structure Advances (before after : PlainStream) : Prop where
  strict : before.strict = true → after.strict = true
  number : before.strict = false →
    after.server.sequenceNumber = before.server.sequenceNumber + 1
  written : ∃ new, after.written = before.written ++ new ∧ ∀ payload ∈ new,
    payload.head? = some sshMsgUnimplemented → before.strict = false ∧
      payload = unimplementedPayload (before.server.sequenceNumber + 1)

section Advances

variable {stream stream' : PlainStream} {arrival : Arrival} {payload : Bytes}

theorem advances_afterRecv (stream : PlainStream) (arrival : Arrival) (payload : Bytes) :
    Advances stream (stream.afterRecv arrival payload) where
  strict h := by rw [PlainStream.afterRecv_strict, h]
  number h := by
    unfold PlainStream.afterRecv
    simp [h]
  written := ⟨[], (List.append_nil _).symm, fun _ h => absurd h List.not_mem_nil⟩

/-- Anything but `SSH_MSG_UNIMPLEMENTED` may be sent as well. -/
theorem Advances.send {sent : Bytes} (h : Advances stream stream')
    (hsent : sent.head? ≠ some sshMsgUnimplemented) :
    Advances stream (stream'.afterSend sent) where
  strict hstrict := by rw [PlainStream.afterSend_strict, h.strict hstrict]
  number := h.number
  written := by
    obtain ⟨new, hwritten, hnew⟩ := h.written
    refine ⟨new ++ [sent], ?_, fun payload hmem hcode => ?_⟩
    · change stream'.written ++ [sent] = _
      rw [hwritten, List.append_assoc]
    · obtain hmem | hmem := List.mem_append.mp hmem
      · exact hnew payload hmem hcode
      · rw [List.mem_singleton.mp hmem] at hcode
        exact absurd hcode hsent

/-- A packet that nobody waits for. -/
theorem advances_handleMsg
    (h : Handshaker.handleMsg (stream.afterRecv arrival payload) payload = .ok stream') :
    Advances stream stream' := by
  have hrecv := advances_afterRecv stream arrival payload
  unfold Handshaker.handleMsg at h
  split at h
  · cases h
  · next hstrict =>
      rw [PlainStream.afterRecv_strict, Bool.not_eq_true] at hstrict
      rw [Except.bind_eq_ok_iff] at h
      obtain ⟨msg, -, h⟩ := h
      split at h
      · injection h with h
        exact h ▸ hrecv
      · cases h
      · obtain ⟨-, -, rfl⟩ := PlainStream.sendPayload_eq_ok_iff.mp h
        refine ⟨fun h => ?_, hrecv.number, ⟨[unimplementedPayload _], rfl, fun sent hsent _ => ?_⟩⟩
        · rw [hstrict] at h
          cases h
        · rw [List.mem_singleton.mp hsent, ← hrecv.number hstrict]
          exact ⟨hstrict, rfl⟩

/-- The methods use message numbers of their own. -/
theorem head?_ne_unimplemented {code : UInt8} (hcode : isKexMethodCode code) (rest : Bytes) :
    (code :: rest).head? ≠ some sshMsgUnimplemented := by
  rintro h
  injection h with h
  subst h
  exact absurd hcode (by decide)

theorem Advances.sendPublicKey {env : HandshakeEnv} {n : Negotiated} {x : Exchanging}
    {group : Option (Bytes × Bytes)} (h : Advances stream n.stream)
    (hsend : n.sendPublicKey env group = .ok x) : Advances stream x.stream := by
  unfold Negotiated.sendPublicKey at hsend
  simp only [Except.bind_eq_ok_iff, PlainStream.sendPayload_eq_ok_iff] at hsend
  obtain ⟨key, -, stream', ⟨-, -, rfl⟩, hsend⟩ := hsend
  injection hsend with hsend
  subst hsend
  exact h.send (head?_ne_unimplemented n.matched.kex.requestCode_kex _)

theorem Advances.startExchange {env : HandshakeEnv} {n : Negotiated} {s : Handshaking}
    (h : Advances stream n.stream) (hstart : n.startExchange env = .ok s) :
    Advances stream s.stream := by
  unfold Negotiated.startExchange at hstart
  split at hstart
  · rw [Except.bind_eq_ok_iff] at hstart
    obtain ⟨x, hsend, hstart⟩ := hstart
    injection hstart with hstart
    subst hstart
    exact h.sendPublicKey hsend
  · next exchange hexchange =>
      unfold Negotiated.sendGroupRequest at hstart
      simp only [Except.bind_eq_ok_iff, PlainStream.sendPayload_eq_ok_iff] at hstart
      obtain ⟨n', ⟨stream', ⟨-, -, rfl⟩, hn'⟩, hstart⟩ := hstart
      injection hn' with hn'
      injection hstart with hstart
      subst hn' hstart
      exact h.send (head?_ne_unimplemented exchange.requestCode_kex _)

end Advances

namespace Handshaking

/-- The stream after a turn. -/
def streamAfter : Turn Handshaking Keyed → PlainStream
  | .again s => s.stream
  | .done k => k.stream

/-- The server's switch is not set before its `SSH_MSG_KEXINIT` has said so. -/
def Undecided : Handshaking → Prop
  | negotiating h => h.stream.server.kexStrict = false
  | _ => True

variable {env : HandshakeEnv} {s s' : Handshaking} {arrival : Arrival}
  {t : Turn Handshaking Keyed}

/-- A turn of the loop that negotiates: the message that it waits for, or one that it rejects or
drops. -/
theorem advances_negotiateTurn {h : Handshaker} {t : Turn Handshaker Negotiated}
    (hserver : h.stream.server.kexStrict = false) (hturn : h.negotiateTurn env arrival = .ok t) :
    match t with
    | .again h' => Advances h.stream h'.stream ∧ h'.stream.server.kexStrict = false
    | .done n => Advances h.stream n.stream := by
  unfold Handshaker.negotiateTurn at hturn
  simp only [Except.bind_eq_ok_iff, Prod.exists, PlainStream.recvPacket_eq_ok_iff] at hturn
  obtain ⟨payload, stream, ⟨-, rfl⟩, hturn⟩ := hturn
  split at hturn
  · simp only [Except.bind_eq_ok_iff, Prod.exists] at hturn
    obtain ⟨methods, matched, -, hturn⟩ := hturn
    injection hturn with hturn
    subst hturn
    have hrecv := advances_afterRecv h.stream arrival payload
    refine ⟨fun hstrict => ?_, hrecv.number, hrecv.written⟩
    unfold PlainStream.strict at hstrict
    rw [hserver] at hstrict
    cases hstrict
  · rw [Except.bind_eq_ok_iff] at hturn
    obtain ⟨stream', hhandle, hturn⟩ := hturn
    injection hturn with hturn
    subst hturn
    refine ⟨advances_handleMsg hhandle, ?_⟩
    have hstrict : (h.stream.afterRecv arrival payload).strict = false := by
      unfold PlainStream.strict
      rw [PlainStream.afterRecv_server_kexStrict, hserver, Bool.false_and]
    unfold Handshaker.handleMsg at hhandle
    rw [hstrict, if_neg Bool.false_ne_true, Except.bind_eq_ok_iff] at hhandle
    obtain ⟨msg, -, hhandle⟩ := hhandle
    split at hhandle
    · injection hhandle with hhandle
      exact hhandle ▸ hserver
    · cases hhandle
    · obtain ⟨-, -, rfl⟩ := PlainStream.sendPayload_eq_ok_iff.mp hhandle
      exact hserver

theorem advances_groupTurn {exchange : Exchange} {n : Negotiated}
    {t : Turn Negotiated (Negotiated × (Bytes × Bytes))}
    (hturn : n.groupTurn exchange arrival = .ok t) :
    match t with
    | .again n' => Advances n.stream n'.stream
    | .done (n', _) => Advances n.stream n'.stream := by
  unfold Negotiated.groupTurn at hturn
  simp only [Except.bind_eq_ok_iff, Prod.exists, PlainStream.recvPacket_eq_ok_iff] at hturn
  obtain ⟨payload, stream, ⟨-, rfl⟩, hturn⟩ := hturn
  split at hturn
  · simp only [Except.bind_eq_ok_iff, Prod.exists] at hturn
    obtain ⟨p, g, -, hturn⟩ := hturn
    injection hturn with hturn
    subst hturn
    exact advances_afterRecv n.stream arrival payload
  · rw [Except.bind_eq_ok_iff] at hturn
    obtain ⟨stream', hhandle, hturn⟩ := hturn
    injection hturn with hturn
    subst hturn
    exact advances_handleMsg hhandle

theorem advances_replyTurn {x : Exchanging} {t : Turn Exchanging Keyed}
    (hturn : x.replyTurn env arrival = .ok t) :
    match t with
    | .again x' => Advances x.stream x'.stream
    | .done k => Advances x.stream k.stream := by
  unfold Exchanging.replyTurn at hturn
  simp only [Except.bind_eq_ok_iff, Prod.exists, PlainStream.recvPacket_eq_ok_iff] at hturn
  obtain ⟨payload, stream, ⟨-, rfl⟩, hturn⟩ := hturn
  split at hturn
  · simp only [Except.bind_eq_ok_iff, Prod.exists, PlainStream.sendPayload_eq_ok_iff] at hturn
    obtain ⟨hash, keys, -, stream', ⟨-, -, rfl⟩, hturn⟩ := hturn
    injection hturn with hturn
    subst hturn
    exact (advances_afterRecv x.stream arrival payload).send (by decide)
  · rw [Except.bind_eq_ok_iff] at hturn
    obtain ⟨stream', hhandle, hturn⟩ := hturn
    injection hturn with hturn
    subst hturn
    exact advances_handleMsg hhandle

theorem advances_newKeysTurn {k : Keyed} {t : Turn Keyed Keyed}
    (hturn : k.newKeysTurn arrival = .ok t) :
    match t with
    | .again k' => Advances k.stream k'.stream
    | .done k' => Advances k.stream k'.stream := by
  unfold Keyed.newKeysTurn at hturn
  simp only [Except.bind_eq_ok_iff, Prod.exists, PlainStream.recvPacket_eq_ok_iff] at hturn
  obtain ⟨payload, stream, ⟨-, rfl⟩, hturn⟩ := hturn
  split at hturn <;>
    (injection hturn with hturn; subst hturn; exact advances_afterRecv k.stream arrival payload)

/-- Whatever loop the handshake is in, a turn that does not fail has received one packet. -/
theorem advances_turn (hs : s.Undecided) (hturn : turn env s arrival = .ok t) :
    Advances s.stream (streamAfter t) ∧ ∀ s', t = .again s' → s'.Undecided := by
  cases s with
  | negotiating h =>
    obtain ⟨t', hturn', hinto⟩ := Except.bind_eq_ok_iff.mp hturn
    have hadvances := advances_negotiateTurn hs hturn'
    cases t' with
    | again h' =>
      injection hinto with hinto
      subst hinto
      exact ⟨hadvances.1, fun s' h => by injection h with h; exact h ▸ hadvances.2⟩
    | done n =>
      obtain ⟨s, hstart, hinto⟩ := Except.bind_eq_ok_iff.mp hinto
      injection hinto with hinto
      subst hinto
      refine ⟨Advances.startExchange hadvances hstart, fun s' h => ?_⟩
      injection h with h
      subst h
      unfold Negotiated.startExchange at hstart
      split at hstart <;>
        (obtain ⟨_, -, hstart⟩ := Except.bind_eq_ok_iff.mp hstart
         injection hstart with hstart
         exact hstart ▸ trivial)
  | grouping exchange n =>
    obtain ⟨t', hturn', hinto⟩ := Except.bind_eq_ok_iff.mp hturn
    have hadvances := advances_groupTurn hturn'
    cases t' with
    | again n' =>
      injection hinto with hinto
      subst hinto
      exact ⟨hadvances, fun s' h => by injection h with h; exact h ▸ trivial⟩
    | done result =>
      obtain ⟨x, hsend, hinto⟩ := Except.bind_eq_ok_iff.mp hinto
      injection hinto with hinto
      subst hinto
      exact ⟨Advances.sendPublicKey hadvances hsend,
        fun s' h => by injection h with h; exact h ▸ trivial⟩
  | replying x =>
    obtain ⟨t', hturn', hinto⟩ := Except.bind_eq_ok_iff.mp hturn
    have hadvances := advances_replyTurn hturn'
    cases t' <;>
      (injection hinto with hinto
       subst hinto
       exact ⟨hadvances, fun s' h => by injection h with h; exact h ▸ trivial⟩)
  | finishing k =>
    obtain ⟨t', hturn', hinto⟩ := Except.bind_eq_ok_iff.mp hturn
    have hadvances := advances_newKeysTurn hturn'
    cases t' with
    | again k' =>
      injection hinto with hinto
      subst hinto
      exact ⟨hadvances, fun s' h => by injection h with h; exact h ▸ trivial⟩
    | done k' =>
      injection hinto with hinto
      subst hinto
      exact ⟨hadvances, fun s' h => by cases h⟩

/-! ## Counting packets -/

/-- Outside strict mode the client has counted as many packets as have arrived. -/
structure Counted (n : ℕ) (s : Handshaking) : Prop where
  undecided : s.Undecided
  number : s.stream.strict = false → s.stream.server.sequenceNumber = UInt32.ofNat n

theorem Counted.next {n : ℕ} (hs : s.Counted n) (hturn : turn env s arrival = .ok (.again s')) :
    s'.Counted (n + 1) := by
  obtain ⟨hadvances, hundecided⟩ := advances_turn hs.undecided hturn
  refine ⟨hundecided s' rfl, fun hstrict => ?_⟩
  have hbefore : s.stream.strict = false := by
    apply Bool.eq_false_iff.mpr
    intro h
    rw [show s'.stream.strict = true from hadvances.strict h] at hstrict
    cases hstrict
  rw [show s'.stream.server.sequenceNumber = _ from hadvances.number hbefore, hs.number hbefore,
    UInt32.ofNat_add]
  rfl

theorem Counted.skips {n : ℕ} {arrivals : List Arrival} (hs : s.Counted n)
    (hskips : Skips (turn env) s arrivals s') : s'.Counted (n + arrivals.length) := by
  induction hskips generalizing n with
  | nil s => exact hs
  | cons hturn _ ih =>
    rw [List.length_cons, Nat.add_comm _ 1, ← Nat.add_assoc]
    exact ih (hs.next hturn)

/-- The client's own `SSH_MSG_KEXINIT` comes before all packets. -/
theorem counted_start {clientVersion serverVersion : Text} {config : Config}
    {compatOptions : CompatOptions} {writable : Bool} {h : Handshaker}
    (hsend : (Handshaker.afterBanner clientVersion serverVersion config compatOptions
      writable).sendKexInit env = .ok h) : (negotiating h).Counted 0 := by
  unfold Handshaker.sendKexInit at hsend
  rw [Except.bind_eq_ok_iff] at hsend
  obtain ⟨stream, hstream, hsend⟩ := hsend
  obtain ⟨-, -, rfl⟩ := PlainStream.sendPayload_eq_ok_iff.mp hstream
  injection hsend with hsend
  subst hsend
  exact ⟨rfl, fun _ => rfl⟩

/-- A message that is rejected is named by the number after its own. -/
theorem Counted.named {n : ℕ} {number : UInt32} (hs : s.Counted n)
    (hturn : turn env s arrival = .ok t)
    (hsent : unimplementedPayload number ∈
      (streamAfter t).written.drop s.stream.written.length) :
    number = UInt32.ofNat n + 1 := by
  obtain ⟨new, hwritten, hnew⟩ := (advances_turn hs.undecided hturn).1.written
  rw [hwritten, List.drop_left] at hsent
  obtain ⟨hstrict, hpayload⟩ := hnew _ hsent rfl
  have hread := congrArg (fun payload : Bytes => Consumer.consumeU32 (payload.drop 1)) hpayload
  have hnumber (m : UInt32) :
      Consumer.consumeU32 ((unimplementedPayload m).drop 1) = .ok m [] := by
    change Consumer.consumeU32 (toBeBytes m ++ []) = _
    exact Consumer.consumeU32_append m []
  simp only [hnumber] at hread
  injection hread with hread
  rw [hread, hs.number hstrict]

/-- The number with which the session goes on. -/
theorem Counted.done {n : ℕ} {k : Keyed} (hs : s.Counted n)
    (hturn : turn env s arrival = .ok (.done k)) :
    k.stream.server.sequenceNumber =
      if k.stream.strict then 0 else UInt32.ofNat n + 1 := by
  cases hstrict : k.stream.strict with
  | false =>
    have hadvances := (advances_turn hs.undecided hturn).1
    have hbefore : s.stream.strict = false := by
      apply Bool.eq_false_iff.mpr
      intro h
      rw [show k.stream.strict = true from hadvances.strict h] at hstrict
      cases hstrict
    rw [if_neg Bool.false_ne_true, ← hs.number hbefore]
    exact hadvances.number hbefore
  | true =>
    -- Only the last loop ends the handshake, with the server's `SSH_MSG_NEWKEYS`.
    rw [if_pos rfl]
    cases s with
    | finishing k' =>
      obtain ⟨t', hturn', hinto⟩ := Except.bind_eq_ok_iff.mp hturn
      cases t' with
      | again k'' => cases hinto
      | done k'' =>
        injection hinto with hinto
        injection hinto with hinto
        subst hinto
        unfold Keyed.newKeysTurn at hturn'
        simp only [Except.bind_eq_ok_iff, Prod.exists, PlainStream.recvPacket_eq_ok_iff] at hturn'
        obtain ⟨payload, stream, ⟨-, rfl⟩, hturn'⟩ := hturn'
        split at hturn'
        · next hcode =>
            injection hturn' with hturn'
            injection hturn' with hturn'
            subst hturn'
            exact if_pos ⟨hcode, hstrict⟩
        · cases hturn'
    | negotiating h =>
      obtain ⟨t', -, hinto⟩ := Except.bind_eq_ok_iff.mp hturn
      cases t' with
      | again h' => cases hinto
      | done n =>
        obtain ⟨_, -, hinto⟩ := Except.bind_eq_ok_iff.mp hinto
        cases hinto
    | grouping exchange n =>
      obtain ⟨t', -, hinto⟩ := Except.bind_eq_ok_iff.mp hturn
      cases t' with
      | again n' => cases hinto
      | done result =>
        obtain ⟨_, -, hinto⟩ := Except.bind_eq_ok_iff.mp hinto
        cases hinto
    | replying x =>
      obtain ⟨t', -, hinto⟩ := Except.bind_eq_ok_iff.mp hturn
      cases t' <;> cases hinto

end Handshaking

end Flatline
