import Flatline.Session.Growth

/-!
# What events and key exchanges add to the history

The counterpart of `extends_handleMsg` for the events of the user, up to their first receive and in
their receive loops, and for key exchanges.

Source: `src/session/backend.rs`, `src/session/handshake.rs`.
-/

namespace Flatline

open Triple

variable {p : Effect → Bool} {keys : List SocketAddr} {s : Backend} {α : Type}

/-! ## Events -/

/-- A program without requests is one of an event. -/
theorem Emits.events {m : BackendM α} (h : Emits Effect.isSilent keys m) :
    Emits Effect.isEvents keys m :=
  h.mono (fun _ => Effect.isEvents_of_isSilent) (List.Subset.refl _)

theorem emits_channelRequest (env : Env) (id : IdentityPair) (type : Text) (wantReply : Bool)
    (fields : List Field) (opened : Option ℕ) :
    Emits Effect.isEvents keys (channelRequest env id type wantReply fields opened) :=
  (emits_sendPayload env rfl).bind fun _ => emits_pure _

theorem emits_channelOpen (env : Env) (type : Text) (window packet : UInt32) (fields : List Field)
    (sftp : Bool) : Emits Effect.isEvents keys (channelOpen env type window packet fields sftp) :=
  .get_bind fun _ => (emits_sendPayload env rfl).bind fun _ => emits_pure _

theorem emits_finishOpening (env : Env) (client : ChannelEndpoint) (sftp : Bool)
    (sender window packet : UInt32) :
    Emits Effect.isEvents keys (finishOpening env client sftp sender window packet) := by
  refine .get_bind fun w => ?_
  split
  · exact emits_throw _
  · refine (emits_pushChannel _ _ fun _ => rfl).bind fun queue => ?_
    refine (emits_upgradeFrontend queue).bind fun _ => (emits_note rfl).bind fun _ => ?_
    split
    · exact emits_channelRequest env _ _ _ _ _
    · exact emits_pure _

theorem emits_channelSendLoop (env : Env) (id : IdentityPair) (index fuel : ℕ)
    (channel : ChannelHandle) (data : Bytes) (sent : ℕ)
    (hdata : ∀ id data, p (.sent (.channelData id data)) = true) :
    Emits p keys (channelSendLoop env id index fuel channel data sent) := by
  induction fuel generalizing channel data sent with
  | zero =>
    unfold channelSendLoop
    split
    · exact emits_pure _
    · refine (emits_leftOrPanic _).bind fun left => ?_
      split
      · exact emits_pure _
      · exact emits_throw _
  | succ fuel ih =>
    unfold channelSendLoop
    split
    · exact emits_pure _
    · refine (emits_leftOrPanic _).bind fun left => ?_
      split
      · exact emits_pure _
      · refine (emits_sendPayload env (hdata _ _)).bind fun _ => ?_
        exact (emits_setChannel _ _).bind fun _ => ih _ _ _

theorem emits_channelSend (env : Env) (id : IdentityPair) (data : Bytes)
    (hdata : ∀ id data, p (.sent (.channelData id data)) = true) :
    Emits p keys (channelSend env id data) := by
  refine .get_bind fun w => ?_
  split
  · exact emits_throw _
  · exact (emits_channelSendLoop env _ _ _ _ _ _ hdata).bind fun _ => emits_pure _

theorem emits_channelEof (env : Env) (id : IdentityPair)
    (heof : ∀ id, p (.sent (.channelEof id)) = true) : Emits p keys (channelEof env id) := by
  refine .get_bind fun w => ?_
  split
  · exact emits_throw _
  · exact (emits_sendPayload env (heof _)).bind fun _ => emits_setChannel _ _

theorem emits_cleanChannel (env : Env) (index : ℕ) (channel : ChannelHandle)
    (hclose : ∀ id, p (.sent (.channelClose id)) = true)
    (hremoved : ∀ id queue, p (.removed id queue) = true) :
    Emits p keys (cleanChannel env index channel) := by
  unfold cleanChannel
  split
  · split
    · split
      · exact emits_removeChannel _ _ (hremoved _ _)
      · exact emits_pure _
    · exact (emits_sendPayload env (hclose _)).bind fun _ =>
        emits_setOrRemove _ _ _ (hremoved _ _)
  · exact emits_pure _

theorem emits_channelCleanLoop (env : Env) (index : ℕ)
    (hclose : ∀ id, p (.sent (.channelClose id)) = true)
    (hremoved : ∀ id queue, p (.removed id queue) = true) :
    Emits p keys (channelCleanLoop env index) := by
  induction index with
  | zero => exact emits_pure _
  | succ index ih =>
    refine .get_bind fun w => ?_
    split
    · exact emits_throw _
    · exact (emits_cleanChannel env _ _ hclose hremoved).bind fun _ => ih

/-- Send a request and wait. -/
theorem emits_sendAndWait (env : Env) {message : ClientMessage} (wait : Wait)
    (h : p (.sent message) = true) :
    Emits p keys (do
      sendPayload env message
      return .wait wait : BackendM Progress) :=
  (emits_sendPayload env h).bind fun _ => emits_pure _

/-- Send a message, and the event is done. -/
theorem emits_sendOnly (env : Env) {message : ClientMessage} (h : p (.sent message) = true) :
    Emits p keys (do
      sendPayload env message
      return .done .done : BackendM Progress) :=
  (emits_sendPayload env h).bind fun _ => emits_pure _

theorem emits_forwardLocalCleanLoop (env : Env) (paths : List Text) :
    Emits Effect.isEvents keys (forwardLocalCleanLoop env paths) := by
  cases paths with
  | nil => exact emits_pure _
  | cons path rest => exact emits_sendAndWait env _ rfl

theorem emits_forwardLocalClean (env : Env) (forwardLocal : Bool) :
    Emits Effect.isEvents keys (forwardLocalClean env forwardLocal) := by
  unfold forwardLocalClean
  split
  · exact .get_bind fun w => emits_forwardLocalCleanLoop env _
  · exact emits_pure _

theorem emits_forwardTcpCleanLoop (env : Env) (forwardLocal : Bool) (addrs : List SocketAddr) :
    Emits Effect.isEvents keys (forwardTcpCleanLoop env forwardLocal addrs) := by
  cases addrs with
  | nil => exact emits_forwardLocalClean env forwardLocal
  | cons addr rest => exact emits_sendAndWait env _ rfl

theorem emits_clean (env : Env) (channel forwardTcp forwardLocal : Bool) :
    Emits Effect.isEvents keys (clean env channel forwardTcp forwardLocal) := by
  have hchannels : Emits Effect.isEvents keys
      (if channel then channelClean env else return : BackendM Unit) := by
    split
    · exact .get_bind fun w => emits_channelCleanLoop env _ (fun _ => rfl) fun _ _ => rfl
    · exact emits_pure _
  refine hchannels.bind fun _ => ?_
  split
  · exact .get_bind fun w => emits_forwardTcpCleanLoop env _ _
  · exact emits_forwardLocalClean env _

/-- Removing a key adds no queue. -/
theorem mem_queues_removeKey {κ : Type} [DecidableEq κ] {map : List (κ × ListenerHandle)} {key : κ}
    {queue : ℕ} (h : queue ∈ (removeKey map key).map (·.2.sender.queue)) :
    queue ∈ map.map (·.2.sender.queue) := by
  obtain ⟨entry, hentry, rfl⟩ := List.mem_map.mp h
  exact List.mem_map_of_mem (List.mem_of_mem_filter hentry)

theorem emits_removeTcp {addr : SocketAddr} (h : addr ∈ keys) : Emits p keys (removeTcp addr) := by
  refine emits_modify fun w => extends_forward (fun queue hqueue => ?_) fun other hother => ?_
  · exact List.mem_append.mpr ((List.mem_append.mp hqueue).imp_left mem_queues_removeKey)
  · refine congrArg (List.map Prod.snd) (Entries.filter_removeKey _ ?_)
    rintro rfl
    exact hother h

theorem emits_removeLocal (path : Text) : Emits p keys (removeLocal path) := by
  refine emits_modify fun w => extends_forward (fun queue hqueue => ?_) fun _ _ => rfl
  exact List.mem_append.mpr ((List.mem_append.mp hqueue).imp_right mem_queues_removeKey)

theorem emits_globalRequestCancelTcpIpForward (env : Env) (wantReply : Bool) {addr : SocketAddr}
    (h : addr ∈ keys) :
    Emits Effect.isEvents keys (globalRequestCancelTcpIpForward env wantReply addr) := by
  refine (emits_sendPayload env rfl).bind fun _ => ?_
  split
  · exact emits_pure _
  · exact (emits_removeTcp h).bind fun _ => emits_pure _

theorem emits_globalRequestCancelStreamLocalForward (env : Env) (wantReply : Bool) (path : Text) :
    Emits Effect.isEvents keys (globalRequestCancelStreamLocalForward env wantReply path) := by
  refine (emits_sendPayload env rfl).bind fun _ => ?_
  split
  · exact emits_pure _
  · exact (emits_removeLocal path).bind fun _ => emits_pure _

theorem emits_authenticatePublicKey (env : Env) (username type : Text) (isCertificate : Bool)
    (publicBlob privateBlob : Bytes) : Emits Effect.isSilent keys
      (authenticatePublicKey env username type isCertificate publicBlob privateBlob) := by
  refine .get_bind fun w => ?_
  split
  · exact emits_throw _
  · exact emits_sendAndWait env _ rfl

theorem emits_signPublicKey (env : Env) (query : PublicKeyQuery) :
    Emits Effect.isSilent keys (signPublicKey env query) :=
  .get_bind fun _ => (emits_liftExcept _).bind fun _ => (emits_liftExcept _).bind fun _ =>
    emits_sendAndWait env _ rfl

theorem emits_answerInfoRequest (env : Env) (data : Bytes) :
    Emits Effect.isSilent keys (answerInfoRequest env data) := by
  refine (emits_liftExcept _).bind fun request => (emits_liftExcept _).bind fun responses => ?_
  split
  · exact emits_sendAndWait env _ rfl
  · exact emits_throw _

/-- The listeners that an event may take away at once. -/
def Event.cancels : Event → List SocketAddr
  | .globalRequestCancelTcpIpForward _ addr => [addr]
  | _ => []

theorem emits_startEvent (env : Env) (event : Event) :
    Emits Effect.isEvents event.cancels (startEvent env event) := by
  cases event with
  | authenticateNone | authenticatePassword | authenticateKeyboardInteractive
  | requestAuthentication => exact emits_sendAndWait env _ rfl
  | authenticatePublicKey => exact (emits_authenticatePublicKey env _ _ _ _ _).events
  | sendDebugMessage | sendIgnoreMessage | disconnect => exact emits_sendOnly env rfl
  | channelRequestPty | channelRequestBreak | channelRequestShell | channelRequestExec
  | channelRequestAgent | channelRequestWindowChange | channelRequestSignal | channelRequestEnv
  | channelRequestX11 => exact emits_channelRequest env _ _ _ _ _
  | channelOpenSFTP | channelOpenSession | channelOpenDirectTcpIp
  | channelOpenDirectStreamLocal => exact emits_channelOpen env _ _ _ _ _
  | channelSendData => exact emits_channelSend env _ _ fun _ _ => rfl
  | channelClose id =>
    exact (emits_channelClose env id rfl fun _ _ => rfl).bind fun _ => emits_pure _
  | channelEof => exact (emits_channelEof env _ fun _ => rfl).bind fun _ => emits_pure _
  | clean => exact emits_clean env _ _ _
  | globalRequestTcpIPForward | globalRequestStreamLocalForward =>
    exact emits_sendAndWait env _ rfl
  | globalRequestCancelTcpIpForward wantReply addr =>
    exact emits_globalRequestCancelTcpIpForward env wantReply List.mem_cons_self
  | globalRequestCancelStreamLocalForward =>
    exact emits_globalRequestCancelStreamLocalForward env _ _
  | renegotiate => exact emits_pure _

/-! ## Receive loops -/

/-- The listeners that a packet may make or take away in the receive loop of an event. -/
def Wait.touches (payload : Bytes) : Wait → List SocketAddr
  | .tcpIpForward addr _ _ =>
    match Consumer.run' Consumer.consumeU32 (payload.drop 1) with
    | .ok port => ((portOf port).map fun port => { addr with port }).toList
    | .error _ => []
  | .cancelTcpIpForward addr _ _ => [addr]
  | _ => []

/-- What a receive loop does with a packet that it does not hand to `handle_msg`. -/
def Wait.react (env : Env) (wait : Wait) (payload : Bytes) : Option (BackendM Progress) :=
  let parsed : Option (BackendM Progress) :=
    match Message.parse payload with
    | .error e => some (throw (.error e))
    | .ok msg => wait.answer env msg
  match wait with
  | .tcpIpForward addr window packet =>
    if payload.head? = some sshMsgRequestSuccess then
      some (finishTcpIpForward addr window packet payload)
    else if payload.head? = some sshMsgRequestFailure then
      some (throw (.error (.session .requestFailure)))
    else parsed
  | _ => parsed

/-- What a loop does with a packet on which it acts. -/
inductive Reaction (env : Env) (payload : Bytes) : Wait → BackendM Progress → Prop
  | malformed {wait : Wait} {e : Error} (hparse : Message.parse payload = .error e) :
    Reaction env payload wait (throw (.error e))
  | answered {wait : Wait} {msg : Message} {m : BackendM Progress}
    (hparse : Message.parse payload = .ok msg) (hanswer : wait.answer env msg = some m) :
    Reaction env payload wait m
  | forwarded {addr : SocketAddr} {window packet : UInt32} :
    Reaction env payload (.tcpIpForward addr window packet)
      (finishTcpIpForward addr window packet payload)
  | refused {addr : SocketAddr} {window packet : UInt32} :
    Reaction env payload (.tcpIpForward addr window packet)
      (throw (.error (.session .requestFailure)))

theorem reaction {env : Env} {wait : Wait} {payload : Bytes} {m : BackendM Progress}
    (h : wait.react env payload = some m) : Reaction env payload wait m := by
  cases wait with
  | tcpIpForward addr window packet =>
    simp only [Wait.react] at h
    split at h
    · obtain rfl := Option.some.inj h
      exact .forwarded
    · split at h
      · obtain rfl := Option.some.inj h
        exact .refused
      · split at h
        · next hparse =>
            obtain rfl := Option.some.inj h
            exact .malformed hparse
        · next hparse => exact .answered hparse h
  | _ =>
    simp only [Wait.react] at h
    split at h
    · next hparse =>
        obtain rfl := Option.some.inj h
        exact .malformed hparse
    · next hparse => exact .answered hparse h

/-- What a receive loop makes of a packet. -/
inductive Resumed (env : Env) (wait : Wait) (payload : Bytes) : BackendM Progress → Prop
  /-- It acts on the packet. -/
  | reacted {m : BackendM Progress} (hreact : wait.react env payload = some m) :
    Resumed env wait payload m
  /-- It hands the message to `handle_msg` and goes on waiting. -/
  | passedOn {msg : Message} (hparse : Message.parse payload = .ok msg)
    (hanswer : wait.answer env msg = none) (hreact : wait.react env payload = none) :
    Resumed env wait payload (do
      let _ ← handleMsg env msg false
      return .wait wait)

/-- A loop that acts on messages only parses the packet first. -/
theorem resumed_parsed {env : Env} {wait : Wait} {payload : Bytes}
    (hreact : wait.react env payload = match Message.parse payload with
      | .error e => some (throw (.error e))
      | .ok msg => wait.answer env msg) :
    Resumed env wait payload (do
      let msg ← liftExcept (Message.parse payload)
      match wait.answer env msg with
      | some answer => answer
      | none =>
        let _ ← handleMsg env msg false
        return .wait wait) := by
  rcases hparse : Message.parse payload with e | msg
  · rw [hparse] at hreact
    exact .reacted hreact
  · rw [hparse] at hreact
    rw [liftExcept_ok_bind]
    cases hanswer : wait.answer env msg with
    | some m => exact .reacted (hreact.trans hanswer)
    | none => exact .passedOn hparse hanswer (hreact.trans hanswer)

theorem resumed (env : Env) (wait : Wait) (payload : Bytes) :
    Resumed env wait payload (resume env wait payload) := by
  cases wait with
  | tcpIpForward addr window packet =>
    simp only [resume]
    split
    · next hsuccess => exact .reacted (by simp only [Wait.react, if_pos hsuccess])
    · next hsuccess =>
        split
        · next hfailure =>
            exact .reacted (by simp only [Wait.react, if_neg hsuccess, if_pos hfailure])
        · next hfailure =>
            exact resumed_parsed (by simp only [Wait.react, if_neg hsuccess, if_neg hfailure])
  | _ => exact resumed_parsed rfl

theorem resume_of_react {env : Env} {wait : Wait} {payload : Bytes} {m : BackendM Progress}
    (h : wait.react env payload = some m) : resume env wait payload = m := by
  have hresumed := resumed env wait payload
  generalize resume env wait payload = m' at hresumed ⊢
  cases hresumed with
  | reacted hreact => exact Option.some.inj (hreact.symm.trans h)
  | passedOn hparse hanswer hreact => cases hreact.symm.trans h

/-- Any other packet goes to `handle_msg`, and the event goes on waiting. -/
theorem resume_of_none {env : Env} {wait : Wait} {payload : Bytes}
    (h : wait.react env payload = none) :
    ∃ msg, Message.parse payload = .ok msg ∧ wait.answer env msg = none ∧
      resume env wait payload = (do
        let _ ← handleMsg env msg false
        return .wait wait) := by
  have hresumed := resumed env wait payload
  generalize resume env wait payload = m at hresumed ⊢
  cases hresumed with
  | reacted hreact => cases hreact.symm.trans h
  | passedOn hparse hanswer hreact => exact ⟨_, hparse, hanswer, rfl⟩

theorem emits_upgradeFrontendForListener : Emits p keys upgradeFrontendForListener := by
  refine .get_bind fun w => ?_
  split
  · exact emits_pure _
  · exact emits_throw _

/-- Inserting a listener adds its queue. -/
theorem mem_queues_insertKey {κ : Type} [DecidableEq κ] {map : List (κ × ListenerHandle)} {key : κ}
    {listener : ListenerHandle} {queue : ℕ}
    (h : queue ∈ (insertKey map key listener).map (·.2.sender.queue)) :
    queue = listener.sender.queue ∨ queue ∈ map.map (·.2.sender.queue) :=
  (List.mem_cons.mp h).imp_right mem_queues_removeKey

theorem emits_insertLocal (path : Text) (window packet : UInt32) :
    Emits p keys (insertLocal path window packet) := by
  rintro s w rfl
  refine extends_listener (fun queue hqueue => ?_) fun _ _ => rfl
  obtain hqueue | hqueue := List.mem_append.mp hqueue
  · exact .inr (List.mem_append_left _ hqueue)
  · exact (mem_queues_insertKey hqueue).imp_right (List.mem_append_right _)

theorem emits_insertTcp {addr : SocketAddr} (window packet : UInt32) (h : addr ∈ keys) :
    Emits p keys (insertTcp addr window packet) := by
  rintro s w rfl
  refine extends_listener (fun queue hqueue => ?_) fun other hother => ?_
  · obtain hqueue | hqueue := List.mem_append.mp hqueue
    · exact (mem_queues_insertKey hqueue).imp_right (List.mem_append_left _)
    · exact .inr (List.mem_append_right _ hqueue)
  · refine congrArg (List.map Prod.snd) (Entries.filter_insertKey _ _ ?_)
    rintro rfl
    exact hother h

theorem emits_finishStreamLocalForward (path : Text) (window packet : UInt32) :
    Emits p keys (finishStreamLocalForward path window packet) :=
  emits_upgradeFrontendForListener.bind fun _ => (emits_insertLocal _ _ _).bind fun _ =>
    emits_pure _

theorem emits_finishTcpIpForward (addr : SocketAddr) (window packet : UInt32) (payload : Bytes) :
    Emits p ((Wait.tcpIpForward addr window packet).touches payload)
      (finishTcpIpForward addr window packet payload) := by
  unfold finishTcpIpForward Wait.touches
  cases hrun : Consumer.run' Consumer.consumeU32 (payload.drop 1) with
  | error e => exact emits_throw _
  | ok port =>
    rw [liftExcept_ok_bind]
    simp only
    cases hport : portOf port with
    | none => exact emits_throw _
    | some port =>
      exact emits_upgradeFrontendForListener.bind fun _ =>
        (emits_insertTcp _ _ List.mem_cons_self).bind fun _ => emits_pure _

theorem emits_authenticationVerdict {msg : Message} {m : BackendM Progress}
    (h : authenticationVerdict msg = some m) : Emits p keys m := by
  unfold authenticationVerdict at h
  split at h
  · obtain rfl := Option.some.inj h
    exact (emits_modify fun _ => extends_of_eq).bind fun _ => emits_pure _
  · obtain rfl := Option.some.inj h
    exact emits_pure _
  · cases h

theorem emits_answerAuthentication {env : Env} {wait : AuthenticationWait} {msg : Message}
    {m : BackendM Progress} (h : answerAuthentication env wait msg = some m) :
    Emits Effect.isSilent keys m := by
  unfold answerAuthentication at h
  split at h
  · split at h
    · obtain rfl := Option.some.inj h
      exact emits_pure _
    · cases h
  · split at h
    · obtain rfl := Option.some.inj h
      exact emits_signPublicKey env _
    · cases h
  · split at h
    · obtain rfl := Option.some.inj h
      exact emits_answerInfoRequest env _
    · cases h
  · exact emits_authenticationVerdict h

theorem emits_answerChannelRequest {id : IdentityPair} {opened : Option ℕ} {msg : Message}
    {m : BackendM Progress} (h : answerChannelRequest id opened msg = some m) : Emits p keys m := by
  unfold answerChannelRequest at h
  cases msg with
  | channelClose recipient =>
    simp only at h
    split at h
    · obtain rfl := Option.some.inj h
      exact emits_throw _
    · cases h
  | channelSuccess recipient =>
    obtain rfl := Option.some.inj h
    exact iteInduction (motive := Emits p keys) (fun _ => emits_throw _) fun _ => emits_pure _
  | channelFailure recipient =>
    obtain rfl := Option.some.inj h
    exact iteInduction (motive := Emits p keys) (fun _ => emits_throw _) fun _ => emits_throw _
  | _ => cases h

theorem emits_answerChannelOpen {env : Env} {client : ChannelEndpoint} {sftp : Bool}
    {msg : Message} {m : BackendM Progress} (h : answerChannelOpen env client sftp msg = some m) :
    Emits Effect.isEvents keys m := by
  unfold answerChannelOpen at h
  split at h
  · obtain rfl := Option.some.inj h
    exact iteInduction (motive := Emits Effect.isEvents keys) (fun _ => emits_throw _)
      fun _ => emits_finishOpening env client sftp _ _ _
  · obtain rfl := Option.some.inj h
    exact emits_throw _
  · cases h

theorem emits_answerGlobalRequest {success m : BackendM Progress} {msg : Message}
    (hsuccess : Emits p keys success) (h : answerGlobalRequest success msg = some m) :
    Emits p keys m := by
  unfold answerGlobalRequest at h
  split at h
  · exact Option.some.inj h ▸ hsuccess
  · obtain rfl := Option.some.inj h
    exact emits_throw _
  · cases h

theorem emits_answer {env : Env} {wait : Wait} {payload : Bytes} {msg : Message}
    {m : BackendM Progress} (h : wait.answer env msg = some m) :
    Emits Effect.isEvents (wait.touches payload) m := by
  cases wait with
  | serviceAccept =>
    unfold Wait.answer at h
    simp only at h
    split at h
    · obtain rfl := Option.some.inj h
      split
      · exact emits_throw _
      · exact emits_pure _
    · cases h
  | authentication wait => exact (emits_answerAuthentication h).events
  | channelResponse id opened => exact emits_answerChannelRequest h
  | openingChannel clientId window packet sftp => exact emits_answerChannelOpen h
  | streamLocalForward path window packet =>
    exact emits_answerGlobalRequest (emits_finishStreamLocalForward _ _ _) h
  | tcpIpForward addr window packet => cases h
  | cancelTcpIpForward addr rest forwardLocal =>
    exact emits_answerGlobalRequest ((emits_removeTcp List.mem_cons_self).bind fun _ =>
      emits_forwardTcpCleanLoop env forwardLocal rest) h
  | cancelStreamLocalForward path rest =>
    exact emits_answerGlobalRequest ((emits_removeLocal path).bind fun _ =>
      emits_forwardLocalCleanLoop env rest) h

theorem emits_react {env : Env} {wait : Wait} {payload : Bytes} {m : BackendM Progress}
    (h : wait.react env payload = some m) :
    Emits Effect.isEvents (wait.touches payload) m := by
  cases reaction h with
  | malformed _ | refused => exact emits_throw _
  | answered _ hanswer => exact emits_answer hanswer
  | forwarded => exact emits_finishTcpIpForward _ _ _ _

/-! ## Key exchanges -/

theorem emits_sendKexInit (env : Env) : Emits Effect.isRekeys keys (sendKexInit env) :=
  .get_bind fun _ => (emits_sendPayload env rfl).bind fun _ => emits_pure _

theorem emits_sendPublicKey (env : Env) (rekey : Rekey) (group : Option (Bytes × Bytes)) :
    Emits Effect.isExchanges keys (sendPublicKey env rekey group) :=
  (emits_liftExcept _).bind fun _ => (emits_sendPayload env rfl).bind fun _ => emits_pure _

theorem emits_beginKeyExchange (env : Env) (rekey : Rekey) :
    Emits Effect.isExchanges keys (beginKeyExchange env rekey) := by
  unfold beginKeyExchange
  split
  · exact emits_sendPublicKey env rekey none
  · exact .get_bind fun _ => (emits_sendPayload env rfl).bind fun _ => emits_pure _

theorem emits_matchMethods (env : Env) (clientKexMsg serverKexMsg : Bytes) :
    Emits Effect.isExchanges keys (matchMethods env clientKexMsg serverKexMsg) :=
  .get_bind fun _ => (emits_liftExcept _).bind fun _ => emits_beginKeyExchange env _

theorem emits_negotiateMethods (env : Env) (serverKexMsg : Option Bytes) (clientKexMsg : Bytes) :
    Emits Effect.isExchanges keys (negotiateMethods env serverKexMsg clientKexMsg) := by
  cases serverKexMsg with
  | none => exact emits_pure _
  | some serverKexMsg => exact emits_matchMethods env _ _

theorem emits_proceedRekey (env : Env) (payload : Bytes) (phase : RekeyPhase) :
    Emits Effect.isExchanges keys (proceedRekey env payload phase) := by
  cases phase with
  | kexInit clientKexMsg =>
    exact (emits_matchMethods env _ _).bind fun _ => emits_pure _
  | group rekey exchange =>
    exact (emits_liftExcept _).bind fun _ => (emits_sendPublicKey env _ _).bind fun _ =>
      emits_pure _
  | reply rekey group seed clientPublicKey =>
    refine Emits.bind (.get_bind fun _ => (emits_liftExcept _).bind fun keys => ?_) fun _ =>
      emits_pure _
    refine (emits_sendPayload env rfl).bind fun _ => ?_
    exact (emits_modify fun _ => extends_of_eq).bind fun _ => emits_pure _
  | newKeys rekey keys =>
    exact (emits_modify fun _ => extends_of_eq).bind fun _ => emits_pure _

end Flatline
