import Flatline.Session.Refinement

/-!
# Events follow the channel ledger

The counterpart of `follows_handleMsg` for the events of the user: what an event does before its
first receive, and what its receive loops do with a packet.

Source: `src/session/backend.rs`.
-/

namespace Flatline

open Triple Relation

variable {s : Backend} {i : Input} {L : Ledger}

/-! ## Requests and opens -/

theorem follows_channelRequest {event : Event} {env : Env} {id : IdentityPair} (type : Text)
    (wantReply : Bool) (fields : List Field) (opened : Option ℕ) (hi : i = .event event env)
    (hid : event.requestId? = some id) :
    Follows s i (At s s.ledger) (channelRequest env id type wantReply fields opened) :=
  (follows_sendPayload env .refl (.request hi hid)).bind fun _ => keeps_pure _

theorem follows_channelOpen {event : Event} {env : Env} (type : Text) (window packet : UInt32)
    (fields : List Field) (sftp : Bool) (hi : i = .event event env)
    (hopens : event.opensChannel = true) :
    Follows s i (At s s.ledger) (channelOpen env type window packet fields sftp) := by
  refine at_get.bind fun w => Holds.of_and fun hw => ?_
  have hnext : w.nextChannelId = s.ledger.nextId := by
    rw [← Backend.nextId_ledger, hw.ledger]
  rw [hnext]
  exact (follows_sendPayload env .refl (.announce hi hopens)).bind fun _ => keeps_pure _

theorem follows_finishOpening {payload : Bytes} {env : Env}
    {clientId sender window packet ownWindow ownPacket : UInt32} {sftp : Bool}
    (hi : i = .packet payload env)
    (hparse : Message.parse payload =
      .ok (.channelOpenConfirmation clientId sender window packet))
    (hwait : s.task = .waiting (.openingChannel clientId ownWindow ownPacket sftp)) :
    Follows s i (At s (s.ledger.note (.received payload)))
      (finishOpening env (.opened clientId ownWindow ownPacket) sftp sender window packet) := by
  have hreceive := path_receive (s := s) (Q := Effect.Ordinary) hi hparse (by simp) rfl
  refine at_get.bind fun w => Holds.of_and fun hw => ?_
  cases hused : (w.byServer sender).isSome with
  | true => exact Holds.throw (along_of_at hreceive)
  | false =>
    have hfresh : sender ∉ s.ledger.serverIds := by
      have := (Backend.byServer_eq_none_iff w sender).mp hused
      rwa [hw.ledger] at this
    refine (at_pushChannel ⟨clientId, sender⟩ _ _ _ _).bind fun queue => ?_
    refine Holds.of_and fun hqueue => ?_
    obtain rfl : queue = s.nextQueue := hqueue
    let queue := s.nextQueue
    let opened : ChannelHandle :=
      .opened ⟨clientId, sender⟩ ownWindow ownPacket window packet queue
    have hconfirm : LedgerPath s i Effect.Ordinary s.ledger
        ((s.ledger.note (.received payload)).register opened) :=
      hreceive.tail (.confirm hi hparse hwait hfresh)
    have hdrops : i.dropsQueue queue = true := by rw [hi]; rfl
    refine ((at_upgradeFrontend queue).error fun _ =>
      along_of_at (hconfirm.tail (.drop hdrops))).bind fun _ => ?_
    have hordinary : Effect.Ordinary (.handedOver ⟨clientId, sender⟩ queue .user) :=
      ⟨trivial, trivial⟩
    refine (at_note _).bind fun _ => ?_
    have hopened : opened ∈ s.ledger.channels ++ [opened] :=
      List.mem_append_right _ (List.mem_singleton_self _)
    split
    · exact (follows_sendPayload env (hconfirm.tail (.note hordinary))
        (.requestOpened hi hopened rfl)).bind fun _ => keeps_pure _
    · exact Holds.pure (along_of_at (hconfirm.tail (.note hordinary)))

/-! ## Sending, closing, cleaning -/

/-- What a turn of `channel_send` sends fits into the packet size, the window and the payload. -/
theorem ChannelEndpoint.chunk_le (server : ChannelEndpoint) (data : Bytes) (left : ℕ) :
    let chunk := data.take (server.chunk data.length left)
    chunk.length = server.chunk data.length left ∧
      chunk.length ≤ server.maximumPacketSize.toNat ∧ chunk.length ≤ left ∧
        chunk.length ≤ maxPacketPayloadLength - 1 - 4 - 4 := by
  intro chunk
  have hlength : chunk.length = server.chunk data.length left := by
    simp only [chunk, List.length_take, ChannelEndpoint.chunk]
    omega
  refine ⟨hlength, ?_⟩
  rw [hlength, ChannelEndpoint.chunk]
  omega

/-- The turns of `channel_send` all send data of the one event. -/
theorem follows_channelSendLoop {id : IdentityPair} {whole : Bytes} {env : Env} {index : ℕ}
    (hi : i = .event (.channelSendData id whole) env) (hsends : s.sendsData id whole = true)
    (fuel : ℕ) (channel : ChannelHandle) (data : Bytes) (sent : ℕ)
    (hpath : LedgerPath s i Effect.Ordinary s.ledger L) (hentries : L.entries = s.ledger.entries)
    (hget : L.channels[index]? = some channel) (hserver : channel.server.id = id.server) :
    Follows s i (At s L) (channelSendLoop env id index fuel channel data sent) := by
  induction fuel generalizing L channel data sent with
  | zero =>
    unfold channelSendLoop
    split
    · exact Holds.pure (along_of_at hpath)
    · refine ((at_leftOrPanic _).error fun _ => along_of_at hpath).bind fun left =>
        Holds.of_and fun _ => ?_
      split
      · exact Holds.pure (along_of_at hpath)
      · exact Holds.throw (along_of_at hpath)
  | succ fuel ih =>
    unfold channelSendLoop
    split
    · exact Holds.pure (along_of_at hpath)
    · refine ((at_leftOrPanic _).error fun _ => along_of_at hpath).bind fun left =>
        Holds.of_and fun hleft => ?_
      split
      · exact Holds.pure (along_of_at hpath)
      · obtain ⟨hlength, hpacket, hwindow, hpayload⟩ := channel.server.chunk_le data left
        refine ((at_sendPayload env _).error fun _ => along_of_at hpath).bind fun _ => ?_
        refine (at_setChannel index _).bind fun _ => ?_
        have hstep := hpath.tail
          (.data hi hsends hentries hget hserver hleft hpacket hwindow hpayload)
        rw [hlength] at hstep
        refine ih _ _ _ hstep ?_ (Ledger.getElem?_set (L := L.note _) hget) hserver
        refine Eq.trans ?_ hentries
        exact Ledger.entries_set (L := L.note _) hget (channel.entry_charge _)

/-- A send event without data or without a window sends nothing. -/
theorem channelSendLoop_of_not_sends {env : Env} {id : IdentityPair} {index fuel : ℕ}
    {channel : ChannelHandle} {data : Bytes} {sent : ℕ}
    (h : data = [] ∨ channel.server.left = some 0) :
    channelSendLoop env id index fuel channel data sent = pure sent := by
  unfold channelSendLoop
  rcases h with h | h
  · rw [if_pos h]
  · split
    · rfl
    · simp only [leftOrPanic, h, pure_bind, if_true]

theorem follows_channelSend {id : IdentityPair} {data : Bytes} {env : Env}
    (hi : i = .event (.channelSendData id data) env) :
    Follows s i (· = s) (channelSend env id data) := by
  refine Holds.get.bind fun w => Holds.of_and ?_
  rintro rfl
  refine Holds.pre (P := At w w.ledger) ?_ (by rintro _ rfl; exact At.start _)
  rcases hfind : w.byServer id.server with _ | ⟨index, channel⟩
  · exact Holds.throw (along_of_at .refl)
  · refine Holds.bind (Q := fun _ => Along w i Effect.Ordinary) ?_ fun _ => keeps_pure _
    by_cases hsends : w.sendsData id data = true
    · obtain ⟨hget, hserver⟩ := locate_eq_some hfind
      exact follows_channelSendLoop hi hsends _ _ _ _ .refl rfl hget (beq_iff_eq.mp hserver)
    · rw [channelSendLoop_of_not_sends]
      · exact Holds.pure (along_of_at .refl)
      · simpa [SessionInner.sendsData, hfind, or_iff_not_imp_left] using hsends

theorem follows_channelClose {id : IdentityPair} {env : Env}
    (hi : i = .event (.channelClose id) env) :
    Follows s i (At s s.ledger) (channelClose env id) := by
  refine (at_channelClose env id).mono (fun _ h => h) ?_ (fun _ => along_of_at .refl)
  rintro _ w ⟨index, e, hfind, h⟩
  exact h.along (.single (.closeEvent hi hfind))

theorem follows_channelEof {id : IdentityPair} {env : Env}
    (hi : i = .event (.channelEof id) env) :
    Follows s i (At s s.ledger) (channelEof env id) := by
  refine at_get.bind fun w => Holds.of_and fun hw => ?_
  rcases hfind : w.byClient id.client with _ | ⟨index, channel⟩
  · exact Holds.throw (along_of_at .refl)
  · refine ((at_sendPayload env _).error fun _ => along_of_at .refl).bind fun _ => ?_
    exact (at_setChannel index _).post fun _ =>
      along_of_at (.single (.eof hi (hw.find hfind)))

theorem follows_cleanChannel {env env' : Env} {forwardTcp forwardLocal : Bool} {index : ℕ}
    {channel : ChannelHandle} (hi : i = .event (.clean true forwardTcp forwardLocal) env')
    (hpath : LedgerPath s i Effect.Ordinary s.ledger L)
    (hget : L.channels[index]? = some channel) :
    Follows s i (At s L) (cleanChannel env index channel) := by
  unfold cleanChannel
  split
  · next hdropped =>
      cases hclient : channel.client.closed with
      | true =>
        cases hserver : channel.server.closed with
        | true =>
          exact (at_removeChannel index channel).post fun _ =>
            along_of_at (hpath.tail (.reap hi hget hdropped hclient hserver))
        | false => exact Holds.pure (along_of_at hpath)
      | false =>
        refine ((at_sendPayload env _).error fun _ => along_of_at hpath).bind fun _ => ?_
        exact (at_setOrRemove index channel.closeClient channel.server.closed).post fun _ =>
          along_of_at (hpath.tail (.sweep hi hget hdropped hclient))
  · exact Holds.pure (along_of_at hpath)

theorem keeps_channelCleanLoop {env env' : Env} {forwardTcp forwardLocal : Bool}
    (hi : i = .event (.clean true forwardTcp forwardLocal) env') (index : ℕ) :
    Keeps s i (channelCleanLoop env index) := by
  induction index with
  | zero => exact keeps_pure _
  | succ index ih =>
    refine .of_at fun L hpath => at_get.bind fun w => Holds.of_and fun hw => ?_
    rcases hchannel : w.channels[index]? with _ | channel
    · exact Holds.throw (along_of_at hpath)
    · have hget : L.channels[index]? = some channel := by
        rw [← hw.ledger]
        exact hchannel
      exact (follows_cleanChannel hi hpath hget).bind fun _ => ih

/-! ## Forwarding requests -/

theorem keeps_removeLocal (path : Text) : Keeps s i (removeLocal path) :=
  keeps_modify (fun _ => rfl) (fun _ => rfl) (fun _ => rfl) (fun _ => rfl)

theorem keeps_removeTcp (addr : SocketAddr) : Keeps s i (removeTcp addr) :=
  keeps_modify (fun _ => rfl) (fun _ => rfl) (fun _ => rfl) (fun _ => rfl)

/-- Send a message and wait for its answer. -/
theorem keeps_sendAndWait (env : Env) {message : ClientMessage} (wait : Wait)
    (h : (Effect.sent message).Ordinary := by exact ⟨rfl, rfl⟩) :
    Keeps s i (do sendPayload env message; return .wait wait : BackendM Progress) :=
  (keeps_sendPayload env h).bind fun _ => keeps_pure _

theorem keeps_forwardLocalCleanLoop (env : Env) (paths : List Text) :
    Keeps s i (forwardLocalCleanLoop env paths) := by
  cases paths with
  | nil => exact keeps_pure _
  | cons path rest => exact keeps_sendAndWait env _

theorem keeps_forwardLocalClean (env : Env) (forwardLocal : Bool) :
    Keeps s i (forwardLocalClean env forwardLocal) := by
  unfold forwardLocalClean
  split
  · exact .get_bind fun _ => keeps_forwardLocalCleanLoop env _
  · exact keeps_pure _

theorem keeps_forwardTcpCleanLoop (env : Env) (forwardLocal : Bool) (addrs : List SocketAddr) :
    Keeps s i (forwardTcpCleanLoop env forwardLocal addrs) := by
  cases addrs with
  | nil => exact keeps_forwardLocalClean env forwardLocal
  | cons addr rest => exact keeps_sendAndWait env _

theorem keeps_clean {env : Env} {channel forwardTcp forwardLocal : Bool}
    (hi : i = .event (.clean channel forwardTcp forwardLocal) env) :
    Keeps s i (clean env channel forwardTcp forwardLocal) := by
  have hchannels : Keeps s i (if channel then channelClean env else pure ()) := by
    cases channel with
    | true => exact .get_bind fun _ => keeps_channelCleanLoop hi _
    | false => exact keeps_pure _
  refine hchannels.bind fun _ => ?_
  split
  · exact .get_bind fun _ => keeps_forwardTcpCleanLoop env forwardLocal _
  · exact keeps_forwardLocalClean env forwardLocal

theorem keeps_globalRequestCancelTcpIpForward (env : Env) (wantReply : Bool)
    (addr : SocketAddr) : Keeps s i (globalRequestCancelTcpIpForward env wantReply addr) := by
  refine (keeps_sendPayload env (by exact ⟨rfl, rfl⟩)).bind fun _ => ?_
  split
  · exact keeps_pure _
  · exact (keeps_removeTcp addr).bind fun _ => keeps_pure _

theorem keeps_globalRequestCancelStreamLocalForward (env : Env) (wantReply : Bool)
    (path : Text) : Keeps s i (globalRequestCancelStreamLocalForward env wantReply path) := by
  refine (keeps_sendPayload env (by exact ⟨rfl, rfl⟩)).bind fun _ => ?_
  split
  · exact keeps_pure _
  · exact (keeps_removeLocal path).bind fun _ => keeps_pure _

/-! ## Authentication -/

/-- What a receive loop does with a message it waits for goes on along the ledger. -/
structure ArmKeeps (s : Backend) (i : Input) (arm : Option (BackendM Progress)) : Prop where
  keeps : ∀ m, arm = some m → Keeps s i m

theorem keeps_authenticatePublicKey (env : Env) (username type : Text) (isCertificate : Bool)
    (publicBlob privateBlob : Bytes) : Keeps s i
      (authenticatePublicKey env username type isCertificate publicBlob privateBlob) :=
  .get_bind fun _ => by
    split
    · exact keeps_throw _
    · exact keeps_sendAndWait env _

theorem keeps_signPublicKey (env : Env) (query : PublicKeyQuery) :
    Keeps s i (signPublicKey env query) :=
  .get_bind fun _ => (keeps_liftExcept _).bind fun _ => (keeps_liftExcept _).bind fun _ =>
    keeps_sendAndWait env _

theorem keeps_answerInfoRequest (env : Env) (data : Bytes) :
    Keeps s i (answerInfoRequest env data) := by
  refine (keeps_liftExcept _).bind fun request => ?_
  obtain ⟨name, instruction, size, prompts⟩ := request
  refine (keeps_liftExcept _).bind fun responses => ?_
  split
  · exact keeps_sendAndWait env _
  · exact keeps_throw _

/-! ## `handle_event` -/

/-- A message that asks for no answer. -/
theorem keeps_sendOnly (env : Env) {message : ClientMessage}
    (h : (Effect.sent message).Ordinary := by exact ⟨rfl, rfl⟩) :
    Keeps s i (do sendPayload env message; return .done .done : BackendM Progress) :=
  (keeps_sendPayload env h).bind fun _ => keeps_pure _

/-- What an event does before its first receive follows the ledger. -/
theorem follows_startEvent {event : Event} {env : Env} (hi : i = .event event env) :
    Follows s i (· = s) (startEvent env event) := by
  have hat : ∀ w, w = s → At s s.ledger w := by
    rintro _ rfl
    exact At.start _
  have halong : ∀ w, w = s → Along s i Effect.Ordinary w := fun w hw =>
    (hat w hw).along .refl
  cases event with
  | authenticateNone username => exact (keeps_sendAndWait env _).pre halong
  | authenticatePassword username password =>
    exact (keeps_sendAndWait env _).pre halong
  | authenticatePublicKey username method isCertificate publicBlob privateBlob =>
    exact (keeps_authenticatePublicKey env _ _ _ _ _).pre halong
  | authenticateKeyboardInteractive username methods =>
    exact (keeps_sendAndWait env _).pre halong
  | requestAuthentication => exact (keeps_sendAndWait env _).pre halong
  | sendDebugMessage alwaysDisplay message => exact (keeps_sendOnly env).pre halong
  | sendIgnoreMessage data => exact (keeps_sendOnly env).pre halong
  | disconnect reason description => exact (keeps_sendOnly env).pre halong
  | channelRequestPty | channelRequestBreak | channelRequestShell | channelRequestExec
  | channelRequestAgent | channelRequestWindowChange | channelRequestSignal | channelRequestEnv
  | channelRequestX11 => exact (follows_channelRequest _ _ _ _ hi rfl).pre hat
  | channelOpenSFTP | channelOpenSession | channelOpenDirectTcpIp | channelOpenDirectStreamLocal =>
    exact (follows_channelOpen _ _ _ _ _ hi rfl).pre hat
  | channelSendData id data => exact follows_channelSend hi
  | channelClose id =>
    exact ((follows_channelClose hi).pre hat).bind fun _ => keeps_pure _
  | channelEof id => exact ((follows_channelEof hi).pre hat).bind fun _ => keeps_pure _
  | clean channel forwardTcp forwardLocal => exact (keeps_clean hi).pre halong
  | globalRequestTcpIPForward addr window packet =>
    exact (keeps_sendAndWait env _).pre halong
  | globalRequestStreamLocalForward path window packet =>
    exact (keeps_sendAndWait env _).pre halong
  | globalRequestCancelTcpIpForward wantReply addr =>
    exact (keeps_globalRequestCancelTcpIpForward env _ _).pre halong
  | globalRequestCancelStreamLocalForward wantReply path =>
    exact (keeps_globalRequestCancelStreamLocalForward env _ _).pre halong
  | renegotiate => exact (keeps_pure _).pre halong

/-! ## Receive loops -/

theorem keeps_upgradeFrontendForListener : Keeps s i upgradeFrontendForListener :=
  .get_bind fun _ => by
    split
    · exact keeps_pure _
    · exact keeps_throw _

theorem keeps_insertLocal (path : Text) (window packet : UInt32) :
    Keeps s i (insertLocal path window packet) := by
  refine .get_bind fun _ => Keeps.bind ?_ fun _ => keeps_pure _
  exact keeps_modify (fun _ => rfl) (fun _ => rfl) (fun _ => rfl) (fun _ => rfl)

theorem keeps_insertTcp (addr : SocketAddr) (window packet : UInt32) :
    Keeps s i (insertTcp addr window packet) := by
  refine .get_bind fun _ => Keeps.bind ?_ fun _ => keeps_pure _
  exact keeps_modify (fun _ => rfl) (fun _ => rfl) (fun _ => rfl) (fun _ => rfl)

theorem keeps_finishStreamLocalForward (path : Text) (window packet : UInt32) :
    Keeps s i (finishStreamLocalForward path window packet) :=
  keeps_upgradeFrontendForListener.bind fun _ => (keeps_insertLocal _ _ _).bind fun _ =>
    keeps_pure _

theorem keeps_finishTcpIpForward (addr : SocketAddr) (window packet : UInt32)
    (payload : Bytes) : Keeps s i (finishTcpIpForward addr window packet payload) := by
  refine (keeps_liftExcept _).bind fun port => ?_
  split
  · exact keeps_throw _
  · exact keeps_upgradeFrontendForListener.bind fun _ => (keeps_insertTcp _ _ _).bind fun _ =>
      keeps_pure _

theorem armKeeps_authenticationVerdict (msg : Message) :
    ArmKeeps s i (authenticationVerdict msg) := by
  refine ⟨fun m h => ?_⟩
  cases msg <;> cases h
  · refine Keeps.bind ?_ fun _ => keeps_pure _
    exact keeps_modify (fun _ => rfl) (fun _ => rfl) (fun _ => rfl) (fun _ => rfl)
  · exact keeps_pure _

theorem armKeeps_answerAuthentication (env : Env) (wait : AuthenticationWait) (msg : Message) :
    ArmKeeps s i (answerAuthentication env wait msg) := by
  refine ⟨fun m h => ?_⟩
  unfold answerAuthentication at h
  split at h
  · split at h
    · cases h
      exact keeps_pure _
    · cases h
  · split at h
    · cases h
      exact keeps_signPublicKey env _
    · cases h
  · split at h
    · cases h
      exact keeps_answerInfoRequest env _
    · cases h
  · exact (armKeeps_authenticationVerdict _).keeps m h

theorem armKeeps_answerChannelRequest (id : IdentityPair) (opened : Option ℕ) (msg : Message) :
    ArmKeeps s i (answerChannelRequest id opened msg) := by
  refine ⟨fun m h => ?_⟩
  cases msg <;> simp only [answerChannelRequest] at h <;> try cases h
  · split
    · exact keeps_throw _
    · exact keeps_pure _
  · split
    · exact keeps_throw _
    · exact keeps_throw _
  · split at h
    · cases h
      exact keeps_throw _
    · cases h

theorem armKeeps_answerGlobalRequest {success : BackendM Progress} (msg : Message)
    (hsuccess : Keeps s i success) : ArmKeeps s i (answerGlobalRequest success msg) := by
  refine ⟨fun m h => ?_⟩
  cases msg <;> cases h
  · exact hsuccess
  · exact keeps_throw _

/-- A close is answered by the private arm of `wait_for_channel_response` only. -/
theorem swallowsClose_of_answer {wait : Wait} {env : Env} {clientId : UInt32}
    {m : BackendM Progress} (hwait : s.task = .waiting wait)
    (h : wait.answer env (.channelClose clientId) = some m) :
    s.swallowsClose clientId = true := by
  cases wait with
  | channelResponse id opened =>
    simp only [Wait.answer, answerChannelRequest] at h
    split at h
    · next hid => simp [Backend.swallowsClose, hwait, hid]
    · cases h
  | authentication wait => cases wait <;> cases h
  | serviceAccept | openingChannel | streamLocalForward | tcpIpForward | cancelTcpIpForward
  | cancelStreamLocalForward => cases h

/-- No receive loop waits for data. -/
theorem channelData?_of_answer {wait : Wait} {env : Env} {msg : Message} {m : BackendM Progress}
    (h : wait.answer env msg = some m) : msg.channelData? = none := by
  cases msg with
  | channelData | channelExtendedData =>
    cases wait with
    | authentication wait => cases wait <;> cases h
    | _ => cases h
  | _ => rfl

/-- What a receive loop does with a message it waits for follows the ledger. -/
theorem follows_answer {payload : Bytes} {env : Env} {msg : Message} {wait : Wait}
    {m : BackendM Progress} (hi : i = .packet payload env)
    (hparse : Message.parse payload = .ok msg) (hwait : s.task = .waiting wait)
    (h : wait.answer env msg = some m) :
    Follows s i (At s (s.ledger.note (.received payload))) m := by
  have hreceive : LedgerPath s i Effect.Ordinary s.ledger
      (s.ledger.note (.received payload)) := by
    refine .single (.receive hi (fun clientId hclose _ => ?_) fun msg' hparse' => ?_)
    · rw [hparse] at hclose
      cases hclose
      exact swallowsClose_of_answer hwait h
    · rw [hparse] at hparse'
      cases hparse'
      exact admittedData_of_none _ (channelData?_of_answer h)
  have hkeeps : Keeps s i m → Follows s i (At s (s.ledger.note (.received payload))) m :=
    fun hm => hm.pre (along_of_at hreceive)
  cases wait with
  | serviceAccept =>
    cases msg <;> cases h
    refine hkeeps ?_
    split
    · exact keeps_throw _
    · exact keeps_pure _
  | authentication wait => exact hkeeps ((armKeeps_answerAuthentication env wait msg).keeps m h)
  | channelResponse id opened => exact hkeeps ((armKeeps_answerChannelRequest id opened msg).keeps m h)
  | openingChannel clientId window packet sftp =>
    cases msg <;> cases h
    · split
      · exact Holds.throw (along_of_at hreceive)
      · next hid =>
          obtain rfl := not_not.mp hid
          exact follows_finishOpening hi hparse hwait
    · exact Holds.throw (along_of_at hreceive)
  | streamLocalForward path window packet =>
    exact hkeeps ((armKeeps_answerGlobalRequest msg
      (keeps_finishStreamLocalForward _ _ _)).keeps m h)
  | cancelTcpIpForward addr rest forwardLocal =>
    exact hkeeps ((armKeeps_answerGlobalRequest msg
      ((keeps_removeTcp addr).bind fun _ => keeps_forwardTcpCleanLoop env _ _)).keeps m h)
  | cancelStreamLocalForward path rest =>
    exact hkeeps ((armKeeps_answerGlobalRequest msg
      ((keeps_removeLocal path).bind fun _ => keeps_forwardLocalCleanLoop env _)).keeps m h)
  | tcpIpForward addr window packet => cases h

/-- The numbers of the messages that take a step of their own when they arrive. -/
def tableNumbers : List UInt8 :=
  [sshMsgChannelClose, sshMsgChannelData, sshMsgChannelExtendedData]

/-- A payload with another number is received as it is. -/
theorem path_receive_of_head {payload : Bytes} {env : Env} {Q : Effect → Prop}
    (hi : i = .packet payload env)
    (hhead : ∀ number, payload.head? = some number → number ∉ tableNumbers) :
    LedgerPath s i Q s.ledger (s.ledger.note (.received payload)) := by
  have hnumber : ∀ msg, Message.parse payload = .ok msg → msg.code ∉ tableNumbers :=
    fun msg hparse => hhead _ (Message.head?_of_parse hparse)
  refine .single (.receive hi (fun clientId hclose _ => ?_) fun msg hparse => ?_)
  · exact absurd (by simp [tableNumbers, Message.code]) (hnumber _ hclose)
  · refine admittedData_of_none _ ?_
    have hcode := hnumber msg hparse
    cases msg with
    | channelData | channelExtendedData =>
      exact absurd (by simp [tableNumbers, Message.code]) hcode
    | _ => rfl

/-- A payload that does not parse is received as it is. -/
theorem path_receive_of_error {payload : Bytes} {env : Env} {Q : Effect → Prop} {e : Error}
    (hi : i = .packet payload env) (hparse : Message.parse payload = .error e) :
    LedgerPath s i Q s.ledger (s.ledger.note (.received payload)) := by
  refine .single (.receive hi (fun _ hclose _ => ?_) fun _ hparse' => ?_)
  · rw [hparse] at hclose
    cases hclose
  · rw [hparse] at hparse'
    cases hparse'

/-- A message is answered, or `handle_msg` takes it. -/
theorem follows_parsed {payload : Bytes} {env : Env} {wait : Wait}
    (hi : i = .packet payload env) (hwait : s.task = .waiting wait)
    (hkex : ∀ data, Message.parse payload = .ok (.unrecognized sshMsgKexinit data) →
      s.renegotiating = true) :
    Follows s i (· = s.afterRecv payload) (do
      let msg ← liftExcept (Message.parse payload)
      match wait.answer env msg with
      | some answer => answer
      | none =>
        let _ ← handleMsg env msg false
        return .wait wait) := by
  have hat : ∀ w, w = s.afterRecv payload → At s (s.ledger.note (.received payload)) w := by
    rintro _ rfl
    exact At.afterRecv s payload
  rcases hparse : Message.parse payload with e | msg
  · exact Holds.throw fun w hw => (hat w hw).along (path_receive_of_error hi hparse)
  · change Follows s i _ (match wait.answer env msg with | some answer => answer | none => _)
    rcases hanswer : wait.answer env msg with _ | m
    · refine (follows_handleMsg false hi hparse fun data hmsg => ?_).bind fun _ => keeps_pure _
      exact hkex data (by rw [hparse, hmsg])
    · exact (follows_answer hi hparse hwait hanswer).pre hat

/-- What a receive loop of an event does with a packet follows the ledger, the start of a key
exchange apart. -/
theorem follows_resume {payload : Bytes} {env : Env} {wait : Wait}
    (hi : i = .packet payload env) (hwait : s.task = .waiting wait)
    (hkex : ∀ data, Message.parse payload = .ok (.unrecognized sshMsgKexinit data) →
      s.renegotiating = true) :
    Follows s i (· = s.afterRecv payload) (resume env wait payload) := by
  have hat : ∀ w, w = s.afterRecv payload → At s (s.ledger.note (.received payload)) w := by
    rintro _ rfl
    exact At.afterRecv s payload
  have hparsed := follows_parsed hi hwait hkex
  cases wait with
  | tcpIpForward addr window packet =>
    have hreceive : ∀ {number : UInt8}, payload.head? = some number →
        number ∉ tableNumbers → LedgerPath s i Effect.Ordinary s.ledger
          (s.ledger.note (.received payload)) :=
      fun hhead hne => path_receive_of_head hi (by simpa [hhead] using hne)
    simp only [resume]
    split
    · next hhead =>
        exact (keeps_finishTcpIpForward _ _ _ _).pre fun w hw =>
          (hat w hw).along (hreceive hhead (by decide))
    · split
      · next hhead =>
          exact Holds.throw fun w hw => (hat w hw).along (hreceive hhead (by decide))
      · exact hparsed
  | _ => exact hparsed

end Flatline
