import Flatline.Session.Views

/-!
# Requests of the server

The server asks for channels, on channels and for the whole session. A request that wants a reply is
answered in the turn in which it arrives, whatever the task is doing, by the one message that the
turn sends for it. Three requests on channels are never answered: RFC 4254 has the server not ask
for it, and the client warns if it does.

Source: `src/session/backend.rs` (`handle_msg` and its request handlers).
-/

namespace Flatline

open Triple

/-! ## Requests and replies -/

/-- A request of the server that is answered: the open of a channel under the server's number, a
request on a channel, or a global one. -/
inductive ServerRequest where
  | channelOpen (sender : UInt32)
  | channel (id : IdentityPair)
  | global
deriving DecidableEq, Repr

/-- The request that a message of the client answers. -/
def ClientMessage.repliesTo : ClientMessage → Option ServerRequest
  | .channelOpenConfirmation id .. => some (.channelOpen id.server)
  | .channelOpenFailure sender .. => some (.channelOpen sender)
  | .requestSuccess | .requestFailure => some .global
  | .channelFailure id => some (.channel id)
  | _ => none

def Effect.repliesTo : Effect → Option ServerRequest
  | .sent message => message.repliesTo
  | _ => none

/-- The requests that the client has answered, newest first. -/
def replied (log : List Effect) : List ServerRequest :=
  log.filterMap Effect.repliesTo

/-- The answer that a message calls for. The requests that a client knows for a channel
(`xon-xoff`, `exit-status`, `exit-signal`) call for none. -/
def SessionInner.owes (session : SessionInner) : Message → Option ServerRequest
  | .channelOpenForwardedTcpIp sender .. | .channelOpenAgentConnect sender ..
  | .channelOpenX11 sender .. | .channelOpenForwardedStreamLocal sender ..
  | .channelOpenUnknown sender _ => some (.channelOpen sender)
  | .channelUnknownRequest recipient _ wantReply =>
    if wantReply then (session.byClient recipient).map fun (_, channel) => .channel channel.id
    else none
  | .globalRequestKeepAliveOpenSSH wantReply | .globalRequestHostKeysOpenSSH wantReply _
  | .globalUnknownRequest wantReply _ => if wantReply then some .global else none
  | _ => none

/-- The refusal of an unknown channel type repeats the type, which may not fit into a packet. -/
def Message.isOverlong : Message → Bool
  | .channelOpenUnknown sender type =>
    decide (maxPacketPayloadLength < (ClientMessage.channelOpenFailure sender
      sshOpenUnknownChannelType (ascii "Unrecognized channel type: " ++ type)).encode.length)
  | _ => false

/-- The requests that the client answers when `msg` comes to `handle_msg`. -/
def Backend.answered (s : Backend) (msg : Message) : List ServerRequest :=
  if msg.isOverlong then [] else (s.owes msg).toList

/-- The requests that the client answers in a turn. -/
def Backend.serves (s : Backend) : Input → List ServerRequest
  | .packet payload _ =>
    match Message.parse payload with
    | .ok msg => (s.afterRecv payload).answered msg
    | .error _ => []
  | _ => []

/-! ## Handlers -/

variable {env : Env} {s w : Backend} {served : List ServerRequest} {α β : Type}

/-- A program answers these requests. -/
def Repays (s : Backend) (served : List ServerRequest) (m : BackendM α) : Prop :=
  replied (stateOf (m s)).log = served ++ replied s.log

theorem Grows.replied_eq {p : Effect → Bool} {keys : List SocketAddr} (h : Grows p keys s w)
    (hp : ∀ effect, p effect = true → effect.repliesTo = none) : replied w.log = replied s.log := by
  obtain ⟨effects, hlog, heffects⟩ := h.log
  have hnone : effects.filterMap Effect.repliesTo = [] :=
    List.filterMap_eq_nil_iff.mpr fun effect heffect => hp effect (heffects effect heffect)
  rw [hlog, replied, List.filterMap_append, hnone]
  rfl

theorem repliesTo_of_isMute {effect : Effect} (h : effect.isMute = true) :
    effect.repliesTo = none := by
  cases effect with
  | sent message => cases message <;> first | rfl | cases h
  | _ => rfl

/-- A program that answers nothing. -/
def Mute (m : BackendM α) : Prop :=
  Leaves (fun w => replied w.log) m

theorem mute_of_emits {m : BackendM α} (hm : Emits Effect.isMute [] m) : Mute m := by
  rintro x w rfl
  exact (hm w).mono (fun _ h => h) (fun _ _ h => h.replied_eq fun _ => repliesTo_of_isMute)
    (fun _ _ h => h.replied_eq fun _ => repliesTo_of_isMute) w rfl

theorem Mute.repays {m : BackendM α} (hm : Mute m) : Repays s [] m :=
  hm.stateOf s

theorem repays_mute {m : BackendM α} (hm : Emits Effect.isMute [] m) : Repays s [] m :=
  (mute_of_emits hm).repays

/-- The answer is sent first, if it fits into a packet, and then nothing that answers anything. -/
theorem repays_send (hwrites : env.Writes) {message : ClientMessage} {request : ServerRequest}
    {rest : Unit → BackendM α} (hmessage : message.repliesTo = some request)
    (hrest : ∀ a, Mute (rest a)) :
    Repays s (if message.encode.length ≤ maxPacketPayloadLength then [request] else [])
      (sendPayload env message >>= rest) := by
  unfold Repays
  by_cases hlen : message.encode.length ≤ maxPacketPayloadLength
  · have hrun : sendPayload env message s = .ok () (s.afterSend message) := by
      rw [sendPayload_run env s hlen, hwrites.writeError_eq_none]
    rw [if_pos hlen, bind_of_ok hrun]
    refine ((hrest ()).stateOf _).trans ?_
    exact List.filterMap_cons_some hmessage
  · have hrun : sendPayload env message s = .error (.error (.transport
        (.payloadTooLong maxPacketPayloadLength message.encode.length))) s :=
      if_pos (Nat.lt_of_not_le hlen)
    rw [if_neg hlen, bind_of_error hrun]
    rfl

/-- The answer to a message that is no overlong open fits into a packet. -/
theorem repays_answer (hwrites : env.Writes) {msg : Message} {message : ClientMessage}
    {request : ServerRequest} {rest : Unit → BackendM α} (howes : s.owes msg = some request)
    (hmessage : message.repliesTo = some request)
    (hlen : message.encode.length ≤ maxPacketPayloadLength ↔ msg.isOverlong = false)
    (hrest : ∀ a, Mute (rest a)) :
    Repays s (s.answered msg) (sendPayload env message >>= rest) := by
  have h : Repays s (if message.encode.length ≤ maxPacketPayloadLength then [request] else [])
      (sendPayload env message >>= rest) := repays_send hwrites hmessage hrest
  unfold Backend.answered
  rw [howes]
  cases hmsg : msg.isOverlong with
  | true => rwa [if_neg fun hle => by rw [hlen.mp hle] at hmsg; cases hmsg] at h
  | false => rwa [if_pos (hlen.mpr hmsg)] at h

theorem repays_reply (hwrites : env.Writes) {msg : Message} {message : ClientMessage}
    {request : ServerRequest} (howes : s.owes msg = some request)
    (hmessage : message.repliesTo = some request)
    (hlen : message.encode.length ≤ maxPacketPayloadLength ↔ msg.isOverlong = false) :
    Repays s (s.answered msg) (sendPayload env message) := by
  have h : Repays s (s.answered msg) (sendPayload env message >>= pure) :=
    repays_answer hwrites howes hmessage hlen fun _ => leaves_pure _
  rwa [bind_pure] at h

/-- Where nothing is owed, nothing is answered. -/
theorem Repays.silent {msg : Message} {m : BackendM α} (howes : s.owes msg = none)
    (h : Repays s [] m) : Repays s (s.answered msg) m := by
  have hnone : s.answered msg = [] := by
    unfold Backend.answered
    rw [howes]
    exact ite_self _
  exact hnone ▸ h

theorem Repays.get_bind {f : Backend → BackendM α} (h : Repays s served (f s)) :
    Repays s served (get >>= f) :=
  h

theorem stateOf_bind_pure (m : BackendM α) (b : β) :
    stateOf ((m >>= fun _ => pure b) s) = stateOf (m s) := by
  change stateOf (EStateM.bind m (fun _ => EStateM.pure b) s) = _
  unfold EStateM.bind
  cases m s <;> rfl

/-- What a handler returns does not matter. -/
theorem Repays.returns {m : BackendM α} (h : Repays s served m) (b : β) :
    Repays s served (m >>= fun _ => pure b) := by
  unfold Repays
  rw [stateOf_bind_pure]
  exact h

/-- The answers of one or two numbers, and the refusals with one of the four errors, are short. -/
theorem length_refusal_le (sender : UInt32) (refusal : OpenRefusal) :
    (ClientMessage.channelOpenFailure sender sshOpenConnectFailed refusal.display).encode.length ≤
      maxPacketPayloadLength := by
  have hdisplay : refusal.display.length ≤ 64 := by
    cases refusal <;> decide +kernel
  simp only [ClientMessage.encode, makeBufferWithoutHeader, List.flatMap_cons, List.flatMap_nil,
    Field.put, maxPacketPayloadLength]
  simp
  omega

/-- An accepted channel is confirmed first. -/
theorem repays_openChannel (hwrites : env.Writes) {msg : Message} {sender : UInt32} (window packet : UInt32)
    (verdict : Except OpenRefusal OpenGrant) (howes : s.owes msg = some (.channelOpen sender))
    (hmsg : msg.isOverlong = false) :
    Repays s (s.answered msg) (openChannel env sender window packet verdict) := by
  cases verdict with
  | error refusal =>
    exact repays_reply hwrites howes rfl (iff_of_true (length_refusal_le sender refusal) hmsg)
  | ok grant =>
    refine Repays.get_bind (repays_answer hwrites howes rfl (iff_of_true ?_ hmsg) fun _ => ?_)
    · simp [ClientMessage.encode, makeBufferWithoutHeader, Field.put, maxPacketPayloadLength]
    refine Leaves.bind (mute_of_emits (emits_pushChannel _ _ fun _ => rfl)) fun queue => ?_
    refine Leaves.bind (mute_of_emits (emits_upgradeFrontend queue)) fun _ => ?_
    refine Leaves.bind (m := note _) (leaves_modify fun _ => rfl) fun _ => ?_
    split
    · exact leaves_pure _
    · exact mute_of_emits ((emits_dropReceiver queue).bind fun _ =>
        emits_channelClose env _ rfl fun _ _ => rfl)

/-- A reply to a global request, if it is wanted. -/
theorem repays_global (hwrites : env.Writes) {msg : Message} (wantReply : Bool) {message : ClientMessage}
    (howes : s.owes msg = if wantReply then some .global else none)
    (hmessage : message.repliesTo = some .global)
    (hlen : message.encode.length ≤ maxPacketPayloadLength ↔ msg.isOverlong = false) :
    Repays s (s.answered msg) (if wantReply then sendPayload env message else return) := by
  cases wantReply with
  | true => exact repays_reply hwrites howes hmessage hlen
  | false => exact (repays_mute (emits_pure _)).silent howes

theorem repays_handleChannelUnknownRequest (hwrites : env.Writes) (recipient : UInt32) (type : Text)
    (wantReply : Bool) :
    Repays s (s.answered (.channelUnknownRequest recipient type wantReply))
      (handleChannelUnknownRequest env recipient wantReply) := by
  refine Repays.get_bind ?_
  have howes : s.owes (.channelUnknownRequest recipient type wantReply) = if wantReply then
    (s.byClient recipient).map fun (_, channel) => .channel channel.id else none := rfl
  cases hfind : s.byClient recipient with
  | none =>
    rw [hfind, Option.map_none, ite_self] at howes
    exact (repays_mute (emits_pure _)).silent howes
  | some found =>
    rw [hfind] at howes
    cases wantReply with
    | true =>
      have hreply : (ClientMessage.channelFailure found.2.id).repliesTo =
          some (.channel found.2.id) := rfl
      refine repays_reply hwrites howes hreply (iff_of_true ?_ rfl)
      simp [ClientMessage.encode, makeBufferWithoutHeader, Field.put, maxPacketPayloadLength]
    | false => exact (repays_mute (emits_pure _)).silent howes

/-- The refusal of an unknown type is sent unless it is too long. -/
theorem repays_handleChannelOpenUnknown (hwrites : env.Writes) (sender : UInt32) (type : Text) :
    Repays s (s.answered (.channelOpenUnknown sender type))
      (handleChannelOpenUnknown env sender type) := by
  refine repays_reply hwrites rfl rfl ?_
  change _ ↔ decide _ = false
  rw [decide_eq_false_iff_not, Nat.not_lt]

/-- `handle_msg` answers what it owes. -/
theorem repays_handleMsg (hwrites : env.Writes) (msg : Message) (idle : Bool) (s : Backend) :
    Repays s (s.answered msg) (handleMsg env msg idle) := by
  have hmute {m : BackendM Unit} (howes : s.owes msg = none) (hm : Emits Effect.isMute [] m) :
      Repays s (s.answered msg) (m >>= fun _ => pure none : BackendM (Option Bytes)) :=
    ((repays_mute hm).returns none).silent howes
  -- what is taken for an exchange, and what is rejected, is owed nothing
  cases htakes : takesKexInit s msg with
  | true =>
    obtain ⟨data, rfl, -, hrun⟩ := handleMsg_takes env idle htakes
    refine Repays.silent rfl ?_
    unfold Repays
    rw [hrun]
    rfl
  | false =>
    cases hrejects : rejects s msg with
    | true =>
      have hnone : s.owes msg = none := by
        cases msg <;> first | rfl | cases hrejects
      -- `SSH_MSG_UNIMPLEMENTED` is no answer to a request
      have hreject : Repays s [] (sendUnimplemented env) := by
        have hgrows : Grows (fun effect => effect.repliesTo.isNone) [] s
            (stateOf (sendUnimplemented env s)) :=
          grows_stateOf (.get_bind fun _ => emits_sendPayload env rfl) s
        exact hgrows.replied_eq fun _ => Option.isNone_iff_eq_none.mp
      refine Repays.silent hnone ?_
      unfold Repays
      rw [handleMsg_rejects env idle hrejects]
      exact hreject.returns none
    | false =>
      unfold handleMsg
      cases msg with
      | unrecognized code data =>
        have hneither : rejects s (.unrecognized code data) =
            !takesKexInit s (.unrecognized code data) := rfl
        rw [hneither, htakes] at hrejects
        cases hrejects
      | disconnect => exact (repays_mute (emits_throw _)).silent rfl
      | debug | ignore | unimplemented | authenticationBanner | pong | requestSuccess
      | requestFailure => exact (repays_mute (emits_pure _)).silent rfl
      | serviceAccept | authenticationFailure | authenticationSuccess | channelOpenConfirmation
      | channelOpenFailure | channelSuccess | channelFailure => cases hrejects
      | extInfo extensions => exact hmute rfl (emits_handleExtInfo extensions)
      | channelData recipient data => exact hmute rfl (emits_handleChannelData env _ _ _)
      | channelExtendedData recipient dataType data =>
        have hdata : dataType = sshExtendedDataStderr := by
          apply Decidable.of_not_not
          exact of_decide_eq_false hrejects
        simp only [if_pos hdata]
        exact hmute rfl (emits_handleChannelData env _ _ _)
      | ping data => exact hmute rfl (emits_sendPayload env rfl)
      | channelWindowAdjust recipient count =>
        exact hmute rfl (emits_handleChannelWindowAdjust _ _)
      | channelFlowControl | channelExitStatus | channelExitSignal =>
        exact hmute rfl (emits_notifyChannel _ _)
      | channelClose recipient => exact hmute rfl (emits_handleChannelClose _)
      | channelEof recipient => exact hmute rfl (emits_handleChannelEof _)
      | channelUnknownRequest recipient type wantReply =>
        exact (repays_handleChannelUnknownRequest hwrites recipient type wantReply).returns none
      | globalRequestKeepAliveOpenSSH wantReply | globalUnknownRequest wantReply =>
        exact (repays_global hwrites wantReply rfl rfl (iff_of_true (by decide) rfl)).returns none
      | globalRequestHostKeysOpenSSH wantReply keys =>
        refine (repays_global hwrites wantReply rfl ?_ (iff_of_true ?_ rfl)).returns none
        · split <;> rfl
        · split <;> decide
      | channelOpenForwardedTcpIp | channelOpenAgentConnect | channelOpenX11
      | channelOpenForwardedStreamLocal =>
        exact (Repays.get_bind (repays_openChannel hwrites _ _ _ rfl rfl)).returns none
      | channelOpenUnknown sender type =>
        exact (repays_handleChannelOpenUnknown hwrites sender type).returns none

/-! ## Turns and runs -/

theorem SessionInner.isRequest_of_owes {session : SessionInner} {msg : Message}
    (h : session.owes msg ≠ none) : msg.isRequest = true := by
  cases msg <;> first | rfl | exact absurd rfl h

theorem repliesTo_of_isSettles {effect : Effect} (h : effect.isSettles = true) :
    effect.repliesTo = none := by
  cases effect with
  | sent message => cases message <;> first | rfl | cases h
  | _ => rfl

theorem repliesTo_of_isOwn {effect : Effect} (h : effect.isOwn = true) :
    effect.repliesTo = none := by
  cases effect with
  | received payload => rfl
  | sent message => cases message <;> first | rfl | cases h
  | _ => rfl

/-- A packet that does not come to `handle_msg` is owed no answer. -/
theorem serves_of_not_handles {payload : Bytes} (hrunning : s.task.running = true)
    (h : s.handles env payload = none) : s.serves (.packet payload env) = [] := by
  simp only [Backend.serves]
  cases hparse : Message.parse payload with
  | error e => rfl
  | ok msg =>
    have hnone : s.owes msg = none := by
      by_contra howes
      have hhandles : s.handles env payload = some msg :=
        handles_of_isRequest hrunning hparse (SessionInner.isRequest_of_owes howes)
      rw [h] at hhandles
      cases hhandles
    change (s.afterRecv payload).answered msg = []
    unfold Backend.answered
    rw [show (s.afterRecv payload).owes msg = none from hnone]
    exact ite_self _

/-- A turn in which no write fails answers what arrives in it, and nothing else. -/
theorem serves_next {i : Input} (hpossible : i.possible s = true) (hwrites : i.Writes) :
    replied (s.next i).log = s.serves i ++ replied s.log := by
  cases i with
  | packet payload env =>
    cases hhandles : s.handles env payload with
    | none =>
      rw [serves_of_not_handles hpossible hhandles]
      exact (grows_next_packet hhandles).replied_eq fun _ => repliesTo_of_isOwn
    | some msg =>
      have hserves : s.serves (.packet payload env) = (s.afterRecv payload).answered msg := by
        simp only [Backend.serves, parse_of_handles hhandles]
      have hhandle := repays_handleMsg hwrites msg s.task.isIdle (s.afterRecv payload)
      rw [next_of_handles hhandles, hserves]
      have hsettled : Grows Effect.isSettles [] _ (Backend.settleHandled env s.task
          (handleMsg env msg s.task.isIdle (s.afterRecv payload))) :=
        grows_settleHandled env s.task _
      exact (hsettled.replied_eq fun _ => repliesTo_of_isSettles).trans hhandle
  | receiveFailed error env =>
    have hgrows : Grows Effect.isSettles [] s (s.next (.receiveFailed error env)) :=
      grows_next_receiveFailed s error env
    exact hgrows.replied_eq fun _ => repliesTo_of_isSettles
  | event event env =>
    exact (grows_next_event s event env).replied_eq fun _ => repliesTo_of_isOwn
  | shutdown | frontendDropped | receiverDropped | tcpListenerDropped | localListenerDropped => rfl

/-- A run from `start` in which no write fails: its turns, newest first, and the state it has come
to. -/
inductive Run (start : Backend) : List (Backend × Input) → Backend → Prop
  | nil : Run start [] start
  | cons {turns : List (Backend × Input)} {s : Backend} {i : Input} (hrun : Run start turns s)
    (hpossible : i.possible s = true) (hwrites : i.Writes) :
    Run start ((s, i) :: turns) (s.next i)

/-- What the client answers in a run without failing writes is, turn by turn, what it owes: each
request once, and in the turn in which it arrives. -/
theorem requests_served {start s : Backend} {turns : List (Backend × Input)}
    (h : Run start turns s) :
    replied s.log = (turns.flatMap fun (t, i) => t.serves i) ++ replied start.log := by
  induction h with
  | nil => rfl
  | cons hrun hpossible hwrites ih =>
    rw [serves_next hpossible hwrites, ih, List.flatMap_cons, List.append_assoc]

/-- A channel to the agent is confirmed. -/
theorem requests_served_agent :
    replied (Backend.agreeable.next (.packet (agentOpen 7) .agreeable)).log = [.channelOpen 7] :=
  (requests_served (.cons .nil (by decide +kernel) (by decide))).trans (by decide +kernel)

/-- The server reports an exit status and wants a reply. -/
def exitStatus (recipient status : UInt32) : Bytes :=
  makeBufferWithoutHeader [.u8 sshMsgChannelRequest, .u32 recipient, .one (ascii "exit-status"),
    .bool true, .u32 status]

/-- The report of an exit status is not answered, though a reply is wanted. -/
theorem requests_served_fails_on_exit_status :
    ¬ ∀ (s : Backend) (payload : Bytes) (recipient status : UInt32) (index : ℕ)
      (channel : ChannelHandle), Backend.Reachable s →
      s.byClient recipient = some (index, channel) →
      Message.parse payload = .ok (.channelExitStatus recipient true status) →
      replied (s.next (.packet payload .agreeable)).log = .channel channel.id :: replied s.log := by
  intro hall
  obtain ⟨s, hs, hp⟩ := Backend.exists_reachable (fun _ _ => True)
    [.packet (agentOpen 7) .agreeable]
    (fun s => (s.byClient 1).isSome ∧ Message.parse (exitStatus 1 0) =
      .ok (.channelExitStatus 1 true 0) ∧
      replied (s.next (.packet (exitStatus 1 0) .agreeable)).log = replied s.log)
    (by decide +kernel)
  obtain ⟨hsome, hparse, hreplied⟩ := of_decide_eq_true hp
  obtain ⟨⟨index, channel⟩, hfind⟩ := Option.isSome_iff_exists.mp hsome
  have hone := hall s _ 1 0 index channel hs hfind hparse
  rw [hreplied] at hone
  exact absurd hone (List.cons_ne_self _ _).symm

end Flatline
