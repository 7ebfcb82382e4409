import Flatline.Session.Views

/-!
# What the session's programs leave alone

A session has values that hardly any program touches: who it is, what the server's next packet
counts as, whether the client is authenticated. `Spares` says that a program leaves them alone. The
exceptions are few: a packet that arrives is counted, and the loop of an authentication sets the flag
when it is told of success.

Source: `src/session/backend.rs`, `src/session/handshake.rs`.
-/

namespace Flatline

open Triple

/-! ## Fixtures -/

/-- What a session keeps while it handles messages and events. -/
structure Fixtures where
  sessionId : Bytes
  config : Config
  compatOptions : CompatOptions
  server : NormalEndpoint
  clientKexStrict : Bool
  authenticated : Bool

/-- The fixtures of a backend. -/
def Backend.fixtures (s : Backend) : Fixtures where
  sessionId := s.sessionId
  config := s.config
  compatOptions := s.compatOptions
  server := s.socket.server
  clientKexStrict := s.socket.client.kexStrict
  authenticated := s.socket.authenticated

/-- A program leaves the fixtures alone, whether it returns or stops. -/
def Spares {α : Type} (m : BackendM α) : Prop :=
  ∀ x, Holds (fun w => w.fixtures = x) m (fun _ w => w.fixtures = x) (fun _ w => w.fixtures = x)

variable {α β : Type} {m : BackendM α} {s w : Backend}

/-- No message and no end of a turn touches the fixtures. -/
theorem unhandled_fixtures : Unhandled Backend.fixtures where
  sent _ _ := rfl
  attempted _ := rfl
  noted _ _ := rfl
  placed _ _ _ _ := rfl
  channels _ _ _ _ := rfl
  announced _ _ _ := rfl

theorem spares_pure (a : α) : Spares (pure a : BackendM α) :=
  leaves_pure a

theorem spares_throw (fault : Fault) : Spares (throw fault : BackendM α) :=
  leaves_throw fault

theorem Spares.bind {f : α → BackendM β} (hm : Spares m) (hf : ∀ a, Spares (f a)) :
    Spares (m >>= f) :=
  Leaves.bind hm hf

/-- A program that looks at the state first. -/
theorem Spares.get_bind {f : Backend → BackendM β} (hf : ∀ w, Spares (f w)) :
    Spares (get >>= f) :=
  Leaves.get_bind hf

/-- A program that changes something else first. -/
theorem Spares.modify_bind {f : Backend → Backend} {g : PUnit → BackendM β}
    (hf : ∀ w, (f w).fixtures = w.fixtures) (hg : ∀ a, Spares (g a)) :
    Spares (modify f >>= g) :=
  Leaves.bind (leaves_modify hf) hg

/-- The backend that a program which spares the fixtures comes to. -/
theorem Spares.stateOf (hm : Spares m) (s : Backend) :
    (Flatline.stateOf (m s)).fixtures = s.fixtures :=
  Leaves.stateOf hm s

theorem spares_liftExcept (x : Except Error α) : Spares (liftExcept x) :=
  leaves_liftExcept x

theorem spares_sendPayload (env : Env) (message : ClientMessage) :
    Spares (sendPayload env message) :=
  unhandled_fixtures.sendPayload env message

/-! ## Events -/

/-- Send a message, then wait for what the server has to say. -/
theorem spares_sendAndWait (env : Env) (message : ClientMessage) (progress : Progress) :
    Spares (do
      sendPayload env message
      return progress) :=
  unhandled_fixtures.sendAndWait env message progress

theorem spares_channelOpen (env : Env) (type : Text) (window packet : UInt32)
    (fields : List Field) (sftp : Bool) :
    Spares (channelOpen env type window packet fields sftp) :=
  .get_bind fun _ => spares_sendAndWait env _ _

theorem spares_finishOpening (env : Env) (client : ChannelEndpoint) (sftp : Bool)
    (sender window packet : UInt32) : Spares (finishOpening env client sftp sender window packet) := by
  refine .get_bind fun w => ?_
  split
  · exact spares_throw _
  · refine Spares.bind (unhandled_fixtures.pushChannel _ _) fun queue => ?_
    refine Spares.bind (unhandled_fixtures.upgradeFrontend queue) fun _ => ?_
    refine Spares.bind (unhandled_fixtures.note _) fun _ => ?_
    split
    · exact spares_sendAndWait env _ _
    · exact spares_pure _

theorem spares_channelSendLoop (env : Env) (id : IdentityPair) (index fuel : ℕ)
    (channel : ChannelHandle) (data : Bytes) (sent : ℕ) :
    Spares (channelSendLoop env id index fuel channel data sent) := by
  induction fuel generalizing channel data sent with
  | zero =>
    unfold channelSendLoop
    split
    · exact spares_pure _
    · refine Spares.bind (leaves_leftOrPanic _) fun left => ?_
      split
      · exact spares_pure _
      · exact spares_throw _
  | succ fuel ih =>
    unfold channelSendLoop
    split
    · exact spares_pure _
    · refine Spares.bind (leaves_leftOrPanic _) fun left => ?_
      split
      · exact spares_pure _
      · refine (spares_sendPayload env _).bind fun _ => ?_
        exact Spares.bind (unhandled_fixtures.setChannel _ _) fun _ => ih _ _ _

theorem spares_channelSend (env : Env) (id : IdentityPair) (data : Bytes) :
    Spares (channelSend env id data) := by
  refine .get_bind fun w => ?_
  split
  · exact spares_throw _
  · exact (spares_channelSendLoop env _ _ _ _ _ _).bind fun _ => spares_pure _

theorem spares_channelEof (env : Env) (id : IdentityPair) : Spares (channelEof env id) := by
  refine .get_bind fun w => ?_
  split
  · exact spares_throw _
  · exact (spares_sendPayload env _).bind fun _ => unhandled_fixtures.setChannel _ _

theorem spares_authenticatePublicKey (env : Env) (username type : Text) (isCertificate : Bool)
    (publicBlob privateBlob : Bytes) :
    Spares (authenticatePublicKey env username type isCertificate publicBlob privateBlob) := by
  refine .get_bind fun w => ?_
  split
  · exact spares_throw _
  · exact spares_sendAndWait env _ _

theorem spares_startEvent (env : Env) (event : Event) : Spares (startEvent env event) := by
  cases event with
  | authenticatePublicKey => exact spares_authenticatePublicKey env _ _ _ _ _
  | channelOpenSFTP | channelOpenSession | channelOpenDirectTcpIp
  | channelOpenDirectStreamLocal => exact spares_channelOpen env _ _ _ _ _
  | channelSendData => exact spares_channelSend env _ _
  | channelClose id =>
    exact Spares.bind (unhandled_fixtures.channelClose env id) fun _ => spares_pure _
  | channelEof => exact (spares_channelEof env _).bind fun _ => spares_pure _
  | clean => exact unhandled_fixtures.clean env _ _ fun _ => unhandled_fixtures.channelClean env
  | globalRequestCancelTcpIpForward wantReply addr =>
    refine (spares_sendPayload env _).bind fun _ => ?_
    split
    · exact spares_pure _
    · exact .modify_bind (fun _ => rfl) fun _ => spares_pure _
  | globalRequestCancelStreamLocalForward wantReply path =>
    refine (spares_sendPayload env _).bind fun _ => ?_
    split
    · exact spares_pure _
    · exact .modify_bind (fun _ => rfl) fun _ => spares_pure _
  | renegotiate => exact spares_pure _
  | _ => exact spares_sendAndWait env _ _

/-! ## Receive loops -/

/-- The loop of an authentication is told that it has succeeded. -/
def Wait.isConfirmed (wait : Wait) (payload : Bytes) : Bool :=
  match wait, Message.parse payload with
  | .authentication _, .ok .authenticationSuccess => true
  | _, _ => false

theorem spares_upgradeFrontendForListener : Spares upgradeFrontendForListener := by
  refine .get_bind fun w => ?_
  split
  · exact spares_pure _
  · exact spares_throw _

theorem spares_insertLocal (path : Text) (window packet : UInt32) :
    Spares (insertLocal path window packet) :=
  .get_bind fun _ => .modify_bind (fun _ => rfl) fun _ => spares_pure _

theorem spares_insertTcp (addr : SocketAddr) (window packet : UInt32) :
    Spares (insertTcp addr window packet) :=
  .get_bind fun _ => .modify_bind (fun _ => rfl) fun _ => spares_pure _

theorem spares_finishStreamLocalForward (path : Text) (window packet : UInt32) :
    Spares (finishStreamLocalForward path window packet) :=
  spares_upgradeFrontendForListener.bind fun _ => (spares_insertLocal _ _ _).bind fun _ =>
    spares_pure _

theorem spares_finishTcpIpForward (addr : SocketAddr) (window packet : UInt32) (payload : Bytes) :
    Spares (finishTcpIpForward addr window packet payload) := by
  refine (spares_liftExcept _).bind fun port => ?_
  split
  · exact spares_throw _
  · exact spares_upgradeFrontendForListener.bind fun _ => (spares_insertTcp _ _ _).bind fun _ =>
      spares_pure _

theorem spares_signPublicKey (env : Env) (query : PublicKeyQuery) :
    Spares (signPublicKey env query) :=
  .get_bind fun _ => (spares_liftExcept _).bind fun _ => (spares_liftExcept _).bind fun _ =>
    spares_sendAndWait env _ _

theorem spares_answerInfoRequest (env : Env) (data : Bytes) :
    Spares (answerInfoRequest env data) := by
  refine (spares_liftExcept _).bind fun request => (spares_liftExcept _).bind fun responses => ?_
  split
  · exact spares_sendAndWait env _ _
  · exact spares_throw _

theorem spares_answerAuthentication {env : Env} {wait : AuthenticationWait} {msg : Message}
    {m : BackendM Progress} (h : answerAuthentication env wait msg = some m)
    (hmsg : msg ≠ .authenticationSuccess) : Spares m := by
  unfold answerAuthentication at h
  split at h
  · split at h
    · obtain rfl := Option.some.inj h
      exact spares_pure _
    · cases h
  · split at h
    · obtain rfl := Option.some.inj h
      exact spares_signPublicKey env _
    · cases h
  · split at h
    · obtain rfl := Option.some.inj h
      exact spares_answerInfoRequest env _
    · cases h
  · unfold authenticationVerdict at h
    split at h
    · exact absurd rfl hmsg
    · obtain rfl := Option.some.inj h
      exact spares_pure _
    · cases h

theorem spares_answerChannelRequest {id : IdentityPair} {opened : Option ℕ} {msg : Message}
    {m : BackendM Progress} (h : answerChannelRequest id opened msg = some m) : Spares m := by
  have hanswer (recipient : UInt32) {result : BackendM Progress} (hresult : Spares result) :
      Spares (if recipient ≠ id.client then
        throw (.error (.session (.unexpectedMessage (ascii "Unexpected recipient channel"))))
      else result : BackendM Progress) := by
    split
    · exact spares_throw _
    · exact hresult
  unfold answerChannelRequest at h
  cases msg with
  | channelClose recipient =>
    simp only at h
    split at h
    · obtain rfl := Option.some.inj h
      exact spares_throw _
    · cases h
  | channelSuccess recipient =>
    obtain rfl := Option.some.inj h
    exact hanswer recipient (spares_pure _)
  | channelFailure recipient =>
    obtain rfl := Option.some.inj h
    exact hanswer recipient (spares_throw _)
  | _ => cases h

theorem spares_answerChannelOpen {env : Env} {client : ChannelEndpoint} {sftp : Bool}
    {msg : Message} {m : BackendM Progress} (h : answerChannelOpen env client sftp msg = some m) :
    Spares m := by
  unfold answerChannelOpen at h
  split at h
  · obtain rfl := Option.some.inj h
    split
    · exact spares_throw _
    · exact spares_finishOpening env client sftp _ _ _
  · obtain rfl := Option.some.inj h
    exact spares_throw _
  · cases h

theorem spares_answerGlobalRequest {success m : BackendM Progress} {msg : Message}
    (hsuccess : Spares success) (h : answerGlobalRequest success msg = some m) : Spares m := by
  unfold answerGlobalRequest at h
  split at h
  · obtain rfl := Option.some.inj h
    exact hsuccess
  · obtain rfl := Option.some.inj h
    exact spares_throw _
  · cases h

/-- The loops of the events leave the fixtures alone, unless it is an authentication and has
succeeded. -/
theorem spares_answer {env : Env} {wait : Wait} {msg : Message} {m : BackendM Progress}
    (h : wait.answer env msg = some m)
    (hmsg : ∀ auth, wait = .authentication auth → msg ≠ .authenticationSuccess) : Spares m := by
  cases wait with
  | serviceAccept =>
    unfold Wait.answer at h
    simp only at h
    split at h
    · obtain rfl := Option.some.inj h
      split
      · exact spares_throw _
      · exact spares_pure _
    · cases h
  | authentication auth => exact spares_answerAuthentication h (hmsg auth rfl)
  | channelResponse id opened => exact spares_answerChannelRequest h
  | openingChannel clientId window packet sftp => exact spares_answerChannelOpen h
  | streamLocalForward path window packet =>
    exact spares_answerGlobalRequest (spares_finishStreamLocalForward _ _ _) h
  | tcpIpForward addr window packet => cases h
  | cancelTcpIpForward addr rest forwardLocal =>
    refine spares_answerGlobalRequest ?_ h
    exact .modify_bind (fun _ => rfl) fun _ =>
      unhandled_fixtures.forwardTcpCleanLoop env forwardLocal rest
  | cancelStreamLocalForward path rest =>
    refine spares_answerGlobalRequest ?_ h
    exact .modify_bind (fun _ => rfl) fun _ => unhandled_fixtures.forwardLocalCleanLoop env rest

theorem spares_react {env : Env} {wait : Wait} {payload : Bytes} {m : BackendM Progress}
    (h : wait.react env payload = some m) (hnot : wait.isConfirmed payload = false) :
    Spares m := by
  cases reaction h with
  | malformed _ | refused => exact spares_throw _
  | answered hparse hanswer =>
    refine spares_answer hanswer ?_
    rintro auth rfl rfl
    unfold Wait.isConfirmed at hnot
    rw [hparse] at hnot
    cases hnot
  | forwarded => exact spares_finishTcpIpForward _ _ _ _

/-- What the loop of an authentication does that has succeeded. -/
theorem react_of_isConfirmed {wait : Wait} {payload : Bytes} (env : Env)
    (h : wait.isConfirmed payload = true) :
    wait.react env payload = some (do
      modify fun s => { s with socket.authenticated := true }
      return .done (.authentication .success)) := by
  unfold Wait.isConfirmed at h
  split at h
  · next auth hparse =>
    simp only [Wait.react, hparse]
    cases auth <;> rfl
  · cases h

/-! ## Key exchanges -/

/-- The exchange takes new keys into use, and leaves the fixtures alone. -/
theorem spares_proceedRekey (env : Env) (payload : Bytes) (phase : RekeyPhase) :
    Spares (proceedRekey env payload phase) := by
  cases phase with
  | kexInit clientKexMsg =>
    exact Spares.bind (unhandled_fixtures.matchMethods env _ _) fun _ => spares_pure _
  | group rekey exchange =>
    refine (spares_liftExcept _).bind fun _ => ?_
    exact Spares.bind (unhandled_fixtures.sendPublicKey env _ _) fun _ => spares_pure _
  | reply rekey group seed clientPublicKey =>
    refine Spares.bind (.get_bind fun _ => (spares_liftExcept _).bind fun keys => ?_) fun _ =>
      spares_pure _
    refine (spares_sendPayload env _).bind fun _ => ?_
    exact .modify_bind (fun _ => rfl) fun _ => spares_pure _
  | newKeys rekey keys => exact .modify_bind (fun _ => rfl) fun _ => spares_pure _

/-! ## Steps -/

namespace Backend

/-- A packet tells the task that the authentication it waits for has succeeded. -/
def isConfirmed (s : Backend) (payload : Bytes) : Bool :=
  match s.task with
  | .waiting wait => wait.isConfirmed payload
  | _ => false

/-- A packet that arrives is counted, and confirms the client if that is what it says. -/
theorem fixtures_next_packet (hrunning : s.task.running = true) (payload : Bytes) (env : Env) :
    (s.next (.packet payload env)).fixtures = { (s.afterRecv payload).fixtures with
      authenticated := s.socket.authenticated || s.isConfirmed payload } := by
  -- a packet that confirms nothing leaves the flag
  have hunconfirmed (hnot : s.isConfirmed payload = false) : (s.afterRecv payload).fixtures =
      { (s.afterRecv payload).fixtures with
        authenticated := s.socket.authenticated || s.isConfirmed payload } := by
    rw [hnot, Bool.or_false]
    rfl
  have hturn := packetTurn s payload env
  generalize s.next (.packet payload env) = t at hturn ⊢
  cases hturn with
  | @handled msg hhandles =>
    rw [unhandled_fixtures.settleHandled, (unhandled_fixtures.handleMsg env msg _).stateOf]
    apply hunconfirmed
    unfold isConfirmed
    cases htask : s.task with
    | waiting wait =>
      apply Bool.eq_false_iff.mpr
      intro hconfirmed
      unfold handles at hhandles
      rw [htask] at hhandles
      simp only [react_of_isConfirmed env hconfirmed, Option.isSome_some, if_true] at hhandles
      cases hhandles
    | _ => rfl
  | @reacted wait m htask hreact hpayload =>
    rw [unhandled_fixtures.settleEvent]
    have hconfirmed : s.isConfirmed payload = wait.isConfirmed payload := by
      unfold isConfirmed
      rw [htask]
    cases h : wait.isConfirmed payload with
    | false =>
      rw [(spares_react hreact h).stateOf]
      exact hunconfirmed (hconfirmed.trans h)
    | true =>
      rw [react_of_isConfirmed env h] at hreact
      obtain rfl := Option.some.inj hreact
      rw [hconfirmed, h, Bool.or_true]
      rfl
  | exchanged htask hhead =>
    rw [unhandled_fixtures.settleRekey, (spares_proceedRekey env payload _).stateOf]
    apply hunconfirmed
    unfold isConfirmed
    rw [htask]
  | refused hrunning hparse =>
    rw [unhandled_fixtures.settleHandled]
    apply hunconfirmed
    unfold isConfirmed
    cases s.task with
    | waiting wait =>
      simp only [Wait.isConfirmed]
      split
      · next hok => exact absurd hok (hparse _)
      · rfl
    | _ => rfl
  | exited htask =>
    rw [htask] at hrunning
    cases hrunning

/-- Nothing but packets touches the fixtures. -/
theorem fixtures_next {i : Input} (h : ∀ payload env, i ≠ .packet payload env) :
    (s.next i).fixtures = s.fixtures := by
  cases i with
  | packet payload env => exact absurd rfl (h payload env)
  | receiveFailed error env =>
    change (s.onReceiveFailed error env).fixtures = _
    unfold onReceiveFailed
    split
    · rfl
    · exact unhandled_fixtures.endEvent env s _
    · exact unhandled_fixtures.failRekey env _ error _
    · rfl
  | event event env =>
    change (s.onEvent event env).fixtures = _
    by_cases hrenegotiate : event = .renegotiate
    · subst hrenegotiate
      exact unhandled_fixtures.startRekey env .user none fun e w =>
        unhandled_fixtures.failRekey env .user e w
    · rw [onEvent_eq hrenegotiate, unhandled_fixtures.settleEvent]
      exact (spares_startEvent env event).stateOf s
  | shutdown | frontendDropped | receiverDropped | tcpListenerDropped | localListenerDropped => rfl

end Backend

end Flatline
