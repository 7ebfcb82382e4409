import Flatline.Session.Tasks

/-!
# Messages of the user authentication

An authentication event sends one message at a time and then waits for the verdict on it. `Begins`
and `Continues` say which message an event and its receive loop send and how the event waits
afterwards; everything else sends none.

Source: `src/session/backend.rs`.
-/

namespace Flatline

open Triple

/-! ## Messages -/

/-- The messages of the user authentication. -/
def ClientMessage.isLogin : ClientMessage → Bool
  | .userauthRequest .. | .userauthInfoResponse .. => true
  | _ => false

namespace Effect

/-- The message of the user authentication in an effect. -/
def login : Effect → Option ClientMessage
  | .sent message => if message.isLogin then some message else none
  | _ => none

/-- An effect that is no such message. -/
def isLoginless (effect : Effect) : Bool :=
  effect.login.isNone

theorem isLoginless_of_isHandlers {effect : Effect} (h : effect.isHandlers = true) :
    effect.isLoginless = true := by
  cases effect with
  | sent message => cases message <;> first | rfl | cases h
  | _ => rfl

theorem isLoginless_of_isSettles {effect : Effect} (h : effect.isSettles = true) :
    effect.isLoginless = true := by
  cases effect with
  | sent message => cases message <;> first | rfl | cases h
  | _ => rfl

theorem isLoginless_of_isRekeys {effect : Effect} (h : effect.isRekeys = true) :
    effect.isLoginless = true :=
  isLoginless_of_isSettles (isSettles_of_isEnds (isEnds_of_isRekeys h))

end Effect

/-- The messages of the user authentication in a history, newest first. -/
def logins (log : List Effect) : List ClientMessage :=
  log.filterMap Effect.login

/-- The authentication loop in which an event goes on to wait. -/
def Progress.loginWait : Progress → Option AuthenticationWait
  | .wait (.authentication loop) => some loop
  | _ => none

variable {s w : Backend} {p : Effect → Bool} {keys : List SocketAddr} {α : Type}

theorem Grows.logins_eq (h : Grows p keys s w)
    (hp : ∀ effect, p effect = true → effect.isLoginless = true) : logins w.log = logins s.log := by
  obtain ⟨effects, hlog, heffects⟩ := h.log
  have hnone : effects.filterMap Effect.login = [] :=
    List.filterMap_eq_nil_iff.mpr fun effect heffect =>
      Option.isNone_iff_eq_none.mp (hp effect (heffects effect heffect))
  rw [hlog, logins, List.filterMap_append, hnone]
  rfl

/-! ## What programs send -/

/-- From `s`, an event has come to `w`. It waits for a verdict exactly when it has sent a message
that asks for one, a message and a loop that `allowed` admits together. -/
inductive LogsIn (allowed : ClientMessage → AuthenticationWait → Prop) (s : Backend)
    (progress : Progress) (w : Backend) : Prop
  | silent (hlogins : logins w.log = logins s.log) (hwait : progress.loginWait = none)
  | asks {message : ClientMessage} {wait : AuthenticationWait} (hallowed : allowed message wait)
    (hlength : message.encode.length ≤ maxPacketPayloadLength)
    (hlogins : logins w.log = message :: logins s.log)
    (hwait : progress = .wait (.authentication wait))

/-- The program of an event that starts in `s`; when it fails it has sent nothing. -/
def Login (allowed : ClientMessage → AuthenticationWait → Prop) (s : Backend)
    (m : BackendM Progress) : Prop :=
  Holds (· = s) m (LogsIn allowed s) (fun _ w => logins w.log = logins s.log)

variable {allowed : ClientMessage → AuthenticationWait → Prop}

theorem logins_pure {progress : Progress} (hwait : progress.loginWait = none) :
    Login allowed s (pure progress) :=
  Holds.pure fun _ h => .silent (by rw [h]) hwait

theorem logins_throw (fault : Fault) : Login allowed s (throw fault) :=
  Holds.throw fun _ h => by rw [h]

/-- An event goes on after something that sends no such message. -/
theorem Login.bind {m : BackendM α} {f : α → BackendM Progress} (keys : List SocketAddr)
    (hm : Emits Effect.isLoginless keys m) (hf : ∀ a w, Login allowed w (f a)) :
    Login allowed s (m >>= f) := by
  have hlogins : ∀ w, Extends Effect.isLoginless keys s w → logins w.log = logins s.log :=
    fun w hw => hw.toGrows.logins_eq fun _ h => h
  refine Holds.bind ((hm s).error fun _ => hlogins) fun a w hw => ?_
  refine (hf a w).mono (fun _ h => h) (fun progress w' h => ?_) (fun _ w' h => ?_) w rfl
  · cases h with
    | silent h hwait => exact .silent (h.trans (hlogins w hw)) hwait
    | asks hallowed hlength h hwait =>
      exact .asks hallowed hlength (by rw [h, hlogins w hw]) hwait
  · exact h.trans (hlogins w hw)

/-- A program that looks at the state first. -/
theorem Login.get_bind {f : Backend → BackendM Progress} (hf : Login allowed s (f s)) :
    Login allowed s (get >>= f) := by
  rintro w rfl
  exact hf w rfl

theorem logins_sendPayload (env : Env) (message : ClientMessage) (s : Backend) :
    Holds (· = s) (sendPayload env message)
      (fun _ w => message.encode.length ≤ maxPacketPayloadLength ∧
        logins w.log = (Effect.sent message).login.toList ++ logins s.log)
      (fun _ w => logins w.log = logins s.log) := by
  rintro w rfl
  unfold sendPayload
  by_cases hlen : message.encode.length > maxPacketPayloadLength
  · rw [if_pos hlen]
  · rw [if_neg hlen]
    cases env.writeError w.attempts with
    | some e => rfl
    | none =>
      refine ⟨Nat.le_of_not_gt hlen, ?_⟩
      change (Effect.sent message :: w.log).filterMap Effect.login = _
      cases hlogin : (Effect.sent message).login with
      | none => exact List.filterMap_cons_none hlogin
      | some login => exact List.filterMap_cons_some hlogin

/-- Send a message of the user authentication and wait for the verdict. -/
theorem logins_ask (env : Env) {message : ClientMessage} {wait : AuthenticationWait}
    (hlogin : message.isLogin = true) (hallowed : allowed message wait) :
    Login allowed s (do
      sendPayload env message
      return .wait (.authentication wait)) := by
  refine (logins_sendPayload env message s).bind fun _ => Holds.pure fun w h => ?_
  refine .asks hallowed h.1 ?_ rfl
  rw [h.2, Effect.login, if_pos hlogin]
  rfl

/-- Send another message, and wait for something else or be done. -/
theorem logins_send (env : Env) {message : ClientMessage} {progress : Progress}
    (hlogin : message.isLogin = false) (hwait : progress.loginWait = none) :
    Login allowed s (do
      sendPayload env message
      return progress) := by
  have hloginless : (Effect.sent message).isLoginless = true := by
    rw [Effect.isLoginless, Effect.login, hlogin]
    rfl
  exact .bind [] (emits_sendPayload env hloginless) fun _ _ => logins_pure hwait

theorem logins_channelRequest (env : Env) (id : IdentityPair) (type : Text) (wantReply : Bool)
    (fields : List Field) (opened : Option ℕ) :
    Login allowed s (channelRequest env id type wantReply fields opened) := by
  cases wantReply with
  | false | true => exact logins_send env rfl rfl

theorem logins_channelOpen (env : Env) (type : Text) (window packet : UInt32) (fields : List Field)
    (sftp : Bool) : Login allowed s (channelOpen env type window packet fields sftp) :=
  .get_bind <| logins_send env rfl rfl

theorem logins_finishOpening (env : Env) (client : ChannelEndpoint) (sftp : Bool)
    (sender window packet : UInt32) :
    Login allowed s (finishOpening env client sftp sender window packet) := by
  refine .get_bind ?_
  split
  · exact logins_throw _
  · refine .bind [] (emits_pushChannel _ _ fun _ => rfl) fun queue _ => ?_
    refine .bind [] (emits_upgradeFrontend queue) fun _ _ => .bind [] (emits_note rfl) fun _ _ => ?_
    split
    · exact logins_channelRequest env _ _ _ _ _
    · exact logins_pure rfl

theorem logins_channelSend (env : Env) (id : IdentityPair) (data : Bytes) :
    Login allowed s (channelSend env id data) := by
  refine .get_bind ?_
  split
  · exact logins_throw _
  · exact .bind [] (emits_channelSendLoop env _ _ _ _ _ _ fun _ _ => rfl) fun _ _ => logins_pure rfl

/-! ### Cleaning and forwarding -/

theorem logins_forwardLocalCleanLoop (env : Env) (paths : List Text) :
    Login allowed s (forwardLocalCleanLoop env paths) := by
  cases paths with
  | nil => exact logins_pure rfl
  | cons path rest => exact logins_send env rfl rfl

theorem logins_forwardLocalClean (env : Env) (forwardLocal : Bool) :
    Login allowed s (forwardLocalClean env forwardLocal) := by
  unfold forwardLocalClean
  split
  · exact .get_bind <| logins_forwardLocalCleanLoop env _
  · exact logins_pure rfl

theorem logins_forwardTcpCleanLoop (env : Env) (forwardLocal : Bool) (addrs : List SocketAddr) :
    Login allowed s (forwardTcpCleanLoop env forwardLocal addrs) := by
  cases addrs with
  | nil => exact logins_forwardLocalClean env forwardLocal
  | cons addr rest => exact logins_send env rfl rfl

theorem logins_clean (env : Env) (channel forwardTcp forwardLocal : Bool) :
    Login allowed s (clean env channel forwardTcp forwardLocal) := by
  have hchannels : Emits Effect.isLoginless []
      (if channel then channelClean env else return : BackendM Unit) := by
    split
    · exact .get_bind fun w => emits_channelCleanLoop env _ (fun _ => rfl) fun _ _ => rfl
    · exact emits_pure _
  refine .bind [] hchannels fun _ _ => ?_
  split
  · exact .get_bind <| logins_forwardTcpCleanLoop env _ _
  · exact logins_forwardLocalClean env _

theorem logins_globalRequestCancelTcpIpForward (env : Env) (wantReply : Bool) (addr : SocketAddr) :
    Login allowed s (globalRequestCancelTcpIpForward env wantReply addr) := by
  refine .bind [addr] (emits_sendPayload env rfl) fun _ _ => ?_
  split
  · exact logins_pure rfl
  · exact .bind [addr] (emits_removeTcp List.mem_cons_self) fun _ _ => logins_pure rfl

theorem logins_globalRequestCancelStreamLocalForward (env : Env) (wantReply : Bool) (path : Text) :
    Login allowed s (globalRequestCancelStreamLocalForward env wantReply path) := by
  refine .bind [] (emits_sendPayload env rfl) fun _ _ => ?_
  split
  · exact logins_pure rfl
  · exact .bind [] (emits_removeLocal path) fun _ _ => logins_pure rfl

/-! ## Events -/

/-- The algorithm name `authenticate_public_key` sends. -/
def Signature.method (signer : Signature) (isCertificate : Bool) : Text :=
  if isCertificate then signer.name ++ certSuffix else signer.name

/-- The message an authentication event sends first, and how it waits for the verdict. -/
inductive Begins (s : Backend) : Event → ClientMessage → AuthenticationWait → Prop
  | none (username : Text) : Begins s (.authenticateNone username)
      (.userauthRequest username (ascii "none") []) .none
  | password (username password : Text) : Begins s (.authenticatePassword username password)
      (.userauthRequest username (ascii "password") [.u8 0, .one password]) .password
  | keyboardInteractive (username : Text) (methods : List InteractiveMethod) :
    Begins s (.authenticateKeyboardInteractive username methods)
      (.userauthRequest username (ascii "keyboard-interactive")
        [.one [], .one (joinComma (methods.map InteractiveMethod.name))])
      .keyboardInteractive
  | publicKey (username : Text) {type : Text} (isCertificate : Bool)
      (publicBlob privateBlob : Bytes) {signer : Signature}
      (hsigner : s.signerFor type = some signer) :
    Begins s (.authenticatePublicKey username type isCertificate publicBlob privateBlob)
      (.userauthRequest username (ascii "publickey")
        [.u8 0, .one (signer.method isCertificate), .one publicBlob])
      (.publicKeyQuery
        { username, signer, method := signer.method isCertificate, publicBlob, privateBlob })

theorem logins_authenticatePublicKey (env : Env) (username type : Text) (isCertificate : Bool)
    (publicBlob privateBlob : Bytes) (s : Backend) :
    Login (Begins s (.authenticatePublicKey username type isCertificate publicBlob privateBlob)) s
      (authenticatePublicKey env username type isCertificate publicBlob privateBlob) := by
  refine .get_bind ?_
  split
  · exact logins_throw _
  · next signer hsigner => exact logins_ask env rfl (.publicKey username _ _ _ hsigner)

theorem logins_startEvent (env : Env) (event : Event) (s : Backend) :
    Login (Begins s event) s (startEvent env event) := by
  cases event with
  | authenticateNone username => exact logins_ask env rfl (.none _)
  | authenticatePassword username password => exact logins_ask env rfl (.password _ _)
  | authenticateKeyboardInteractive username methods =>
    exact logins_ask env rfl (.keyboardInteractive _ _)
  | authenticatePublicKey => exact logins_authenticatePublicKey env _ _ _ _ _ s
  | requestAuthentication | sendDebugMessage | sendIgnoreMessage | disconnect
  | globalRequestTcpIPForward | globalRequestStreamLocalForward => exact logins_send env rfl rfl
  | channelRequestPty | channelRequestBreak | channelRequestShell | channelRequestExec
  | channelRequestAgent | channelRequestWindowChange | channelRequestSignal | channelRequestEnv
  | channelRequestX11 => exact logins_channelRequest env _ _ _ _ _
  | channelOpenSFTP | channelOpenSession | channelOpenDirectTcpIp
  | channelOpenDirectStreamLocal => exact logins_channelOpen env _ _ _ _ _
  | channelSendData => exact logins_channelSend env _ _
  | channelClose id =>
    exact .bind [] (emits_channelClose env id rfl fun _ _ => rfl) fun _ _ => logins_pure rfl
  | channelEof => exact .bind [] (emits_channelEof env _ fun _ => rfl) fun _ _ => logins_pure rfl
  | clean => exact logins_clean env _ _ _
  | globalRequestCancelTcpIpForward =>
    exact logins_globalRequestCancelTcpIpForward env _ _
  | globalRequestCancelStreamLocalForward =>
    exact logins_globalRequestCancelStreamLocalForward env _ _
  | renegotiate => exact logins_pure rfl

/-! ## Receive loops -/

/-- `authenticate_public_key`'s second buffer: what the signer is given. -/
def PublicKeyQuery.signed (query : PublicKeyQuery) (sessionId : Bytes) : Bytes :=
  makeBufferWithoutHeader [.one sessionId, .u8 sshMsgUserauthRequest,
    .one query.username, .one (ascii "ssh-connection"), .one (ascii "publickey"), .u8 1,
    .one query.method, .one query.publicBlob]

/-- The request with the signature. -/
def PublicKeyQuery.request (query : PublicKeyQuery) (signature : Bytes) : ClientMessage :=
  .userauthRequest query.username (ascii "publickey")
    [.u8 1, .one query.method, .one query.publicBlob,
      .u32 (UInt32.ofNat (4 + query.signer.name.length + 4 + signature.length)),
      .one query.signer.name, .one signature]

/-- The message that answers the server in an authentication loop, and how the event waits then. -/
inductive Continues (s : Backend) : AuthenticationWait → ClientMessage → AuthenticationWait → Prop
  | signature (query : PublicKeyQuery) {signature : Bytes}
      (hkey : query.signer.initializeKey query.privateBlob = .ok ())
      (hsignature : query.signer.signature query.privateBlob (query.signed s.sessionId) =
        .ok signature) :
    Continues s (.publicKeyQuery query) (query.request signature) .publicKeySignature
  | infoResponse (size : UInt32) (responses : List Text) :
    Continues s .keyboardInteractive (.userauthInfoResponse size responses) .keyboardInteractive

theorem logins_signPublicKey (env : Env) (query : PublicKeyQuery) :
    Login (Continues s (.publicKeyQuery query)) s (signPublicKey env query) := by
  refine .get_bind ?_
  change Login _ _ (liftExcept (query.signer.initializeKey query.privateBlob) >>= fun _ =>
    liftExcept (query.signer.signature query.privateBlob (query.signed s.sessionId)) >>=
      fun signature => do
        sendPayload env (query.request signature)
        return .wait (.authentication .publicKeySignature))
  cases hkey : query.signer.initializeKey query.privateBlob with
  | error e => exact logins_throw _
  | ok _ =>
    rw [liftExcept_ok_bind]
    cases hsignature : query.signer.signature query.privateBlob (query.signed s.sessionId) with
    | error e => exact logins_throw _
    | ok signature =>
      rw [liftExcept_ok_bind]
      exact logins_ask env rfl (.signature query hkey hsignature)

theorem logins_answerInfoRequest (env : Env) (data : Bytes) :
    Login (Continues s .keyboardInteractive) s (answerInfoRequest env data) := by
  refine .bind [] (emits_liftExcept _) fun request _ => ?_
  refine .bind [] (emits_liftExcept _) fun responses _ => ?_
  split
  · exact logins_ask env rfl (.infoResponse _ _)
  · exact logins_throw _

theorem logins_authenticationVerdict {msg : Message} {m : BackendM Progress}
    (h : authenticationVerdict msg = some m) : Login allowed s m := by
  unfold authenticationVerdict at h
  split at h
  · obtain rfl := Option.some.inj h
    exact .bind [] (emits_modify fun _ => extends_of_eq) fun _ _ => logins_pure rfl
  · obtain rfl := Option.some.inj h
    exact logins_pure rfl
  · cases h

theorem logins_answerAuthentication {env : Env} {wait : AuthenticationWait} {msg : Message}
    {m : BackendM Progress} (h : answerAuthentication env wait msg = some m) :
    Login (Continues s wait) s m := by
  unfold answerAuthentication at h
  split at h
  · split at h
    · obtain rfl := Option.some.inj h
      exact logins_pure rfl
    · cases h
  · split at h
    · obtain rfl := Option.some.inj h
      exact logins_signPublicKey env _
    · cases h
  · split at h
    · obtain rfl := Option.some.inj h
      exact logins_answerInfoRequest env _
    · cases h
  · exact logins_authenticationVerdict h

theorem logins_answerChannelRequest {id : IdentityPair} {opened : Option ℕ} {msg : Message}
    {m : BackendM Progress} (h : answerChannelRequest id opened msg = some m) :
    Login allowed s m := by
  unfold answerChannelRequest at h
  cases msg with
  | channelClose recipient =>
    simp only at h
    split at h
    · obtain rfl := Option.some.inj h
      exact logins_throw _
    · cases h
  | channelSuccess recipient =>
    obtain rfl := Option.some.inj h
    exact iteInduction (motive := Login allowed s) (fun _ => logins_throw _)
      fun _ => logins_pure rfl
  | channelFailure recipient =>
    obtain rfl := Option.some.inj h
    exact iteInduction (motive := Login allowed s) (fun _ => logins_throw _)
      fun _ => logins_throw _
  | _ => cases h

theorem logins_answerChannelOpen {env : Env} {client : ChannelEndpoint} {sftp : Bool}
    {msg : Message} {m : BackendM Progress} (h : answerChannelOpen env client sftp msg = some m) :
    Login allowed s m := by
  unfold answerChannelOpen at h
  split at h
  · obtain rfl := Option.some.inj h
    exact iteInduction (motive := Login allowed s) (fun _ => logins_throw _)
      fun _ => logins_finishOpening env client sftp _ _ _
  · obtain rfl := Option.some.inj h
    exact logins_throw _
  · cases h

theorem logins_answerGlobalRequest {success m : BackendM Progress} {msg : Message}
    (hsuccess : Login allowed s success) (h : answerGlobalRequest success msg = some m) :
    Login allowed s m := by
  unfold answerGlobalRequest at h
  split at h
  · exact Option.some.inj h ▸ hsuccess
  · obtain rfl := Option.some.inj h
    exact logins_throw _
  · cases h

theorem logins_finishTcpIpForward (addr : SocketAddr) (window packet : UInt32) (payload : Bytes) :
    Login allowed s (finishTcpIpForward addr window packet payload) := by
  refine .bind [] (emits_liftExcept _) fun port _ => ?_
  split
  · exact logins_throw _
  · next port _ =>
      refine .bind [] emits_upgradeFrontendForListener fun _ _ => ?_
      exact .bind [{ addr with port }] (emits_insertTcp _ _ List.mem_cons_self) fun _ _ =>
        logins_pure rfl

theorem logins_finishStreamLocalForward (path : Text) (window packet : UInt32) :
    Login allowed s (finishStreamLocalForward path window packet) :=
  .bind [] emits_upgradeFrontendForListener fun _ _ =>
    .bind [] (emits_insertLocal _ _ _) fun _ _ => logins_pure rfl

/-- The loop in which an event waits for a verdict, if it does. -/
def Wait.login : Wait → Option AuthenticationWait
  | .authentication loop => some loop
  | _ => none

/-- An authentication loop goes on as `Continues` says, and no other loop asks for a verdict. -/
def Wait.Continues (s : Backend) (wait : Wait) (message : ClientMessage)
    (next : AuthenticationWait) : Prop :=
  ∃ loop, wait.login = some loop ∧ Flatline.Continues s loop message next

theorem logins_answer {env : Env} {wait : Wait} {msg : Message} {m : BackendM Progress}
    (h : wait.answer env msg = some m) : Login (wait.Continues s) s m := by
  cases wait with
  | serviceAccept =>
    unfold Wait.answer at h
    simp only at h
    split at h
    · obtain rfl := Option.some.inj h
      split
      · exact logins_throw _
      · exact logins_pure rfl
    · cases h
  | authentication loop =>
    refine (logins_answerAuthentication h).mono (fun _ h => h) (fun progress w hw => ?_)
      fun _ _ h => h
    cases hw with
    | silent hlogins hwait => exact .silent hlogins hwait
    | asks hallowed hlength hlogins hwait =>
      exact .asks ⟨loop, rfl, hallowed⟩ hlength hlogins hwait
  | channelResponse id opened => exact logins_answerChannelRequest h
  | openingChannel clientId window packet sftp => exact logins_answerChannelOpen h
  | streamLocalForward path window packet =>
    exact logins_answerGlobalRequest (logins_finishStreamLocalForward _ _ _) h
  | tcpIpForward addr window packet => cases h
  | cancelTcpIpForward addr rest forwardLocal =>
    exact logins_answerGlobalRequest (.bind [addr] (emits_removeTcp List.mem_cons_self)
      fun _ _ => logins_forwardTcpCleanLoop env forwardLocal _) h
  | cancelStreamLocalForward path rest =>
    exact logins_answerGlobalRequest (.bind [] (emits_removeLocal path) fun _ _ =>
      logins_forwardLocalCleanLoop env rest) h

theorem logins_react {env : Env} {wait : Wait} {payload : Bytes} {m : BackendM Progress}
    (h : wait.react env payload = some m) : Login (wait.Continues s) s m := by
  cases reaction h with
  | malformed _ | refused => exact logins_throw _
  | answered _ hanswer => exact logins_answer hanswer
  | forwarded => exact logins_finishTcpIpForward _ _ _ _

/-! ## Steps -/

/-- What a step does about the user authentication. -/
inductive LoginStep (s : Backend) : Input → Backend → Prop
  /-- It sends nothing; if an event waits for a verdict afterwards, it did so before. -/
  | silent {i : Input} {s' : Backend} (hlogins : logins s'.log = logins s.log)
      (hwait : ∀ loop, s'.task = .waiting (.authentication loop) →
        s.task = .waiting (.authentication loop)) : LoginStep s i s'
  /-- It begins an event. -/
  | begins {event : Event} {env : Env} {s' : Backend} {message : ClientMessage}
      {loop : AuthenticationWait} (hbegins : Begins s event message loop)
      (hlength : message.encode.length ≤ maxPacketPayloadLength)
      (hlogins : logins s'.log = message :: logins s.log)
      (hwait : s'.task = .waiting (.authentication loop)) : LoginStep s (.event event env) s'
  /-- It answers the server in the loop of an event. -/
  | continues {payload : Bytes} {env : Env} {s' : Backend} {message : ClientMessage}
      {loop loop' : AuthenticationWait} (htask : s.task = .waiting (.authentication loop))
      (hcontinues : Continues s loop message loop')
      (hlength : message.encode.length ≤ maxPacketPayloadLength)
      (hlogins : logins s'.log = message :: logins s.log)
      (hwait : s'.task = .waiting (.authentication loop')) : LoginStep s (.packet payload env) s'

theorem logins_settles (h : Grows Effect.isSettles [] s w) : logins w.log = logins s.log :=
  h.logins_eq fun _ => Effect.isLoginless_of_isSettles

theorem LoginStep.quiet {i : Input} {s' : Backend} (hlogins : logins s'.log = logins s.log)
    (hwait : s'.task.isWaiting = false) : LoginStep s i s' := by
  refine .silent hlogins fun loop htask => ?_
  rw [htask] at hwait
  cases hwait

/-- A turn of an event, settled. -/
theorem login_settleEvent (env : Env) {m : BackendM Progress} (hm : Login allowed s m) :
    (logins (Backend.settleEvent env (m s)).log = logins s.log ∧
        ∀ loop, (Backend.settleEvent env (m s)).task ≠ .waiting (.authentication loop)) ∨
      ∃ message loop, allowed message loop ∧ message.encode.length ≤ maxPacketPayloadLength ∧
        logins (Backend.settleEvent env (m s)).log = message :: logins s.log ∧
        (Backend.settleEvent env (m s)).task = .waiting (.authentication loop) := by
  have hquiet : ∀ {w w' : Backend}, logins w.log = logins s.log → Grows Effect.isSettles [] w w' →
      w'.task.isWaiting = false → logins w'.log = logins s.log ∧
        ∀ loop, w'.task ≠ .waiting (.authentication loop) := by
    intro w w' hlogins hgrows hwaiting
    refine ⟨(logins_settles hgrows).trans hlogins, fun loop htask => ?_⟩
    rw [htask] at hwaiting
    cases hwaiting
  have hgrows : Grows Effect.isSettles [] _ _ := grows_settleEvent env (m s)
  cases hrun : m s with
  | ok progress w =>
    rw [hrun] at hgrows
    obtain ⟨hlogins, hwait⟩ | ⟨hallowed, hlength, hlogins, rfl⟩ := hm.of_ok rfl hrun
    · cases progress with
      | done reply => exact .inl (hquiet hlogins hgrows (endEvent_not_waiting env w _))
      | wait wait =>
        refine .inl ⟨hlogins, fun loop htask => ?_⟩
        injection htask with htask
        subst htask
        cases hwait
    · exact .inr ⟨_, _, hallowed, hlength, hlogins, rfl⟩
  | error fault w =>
    rw [hrun] at hgrows
    exact .inl (hquiet (hm.of_error rfl hrun) hgrows
      (stop_not_waiting fun e w => endEvent_not_waiting env w _))

theorem loginStep_packet (s : Backend) (payload : Bytes) (env : Env) :
    LoginStep s (.packet payload env) (s.next (.packet payload env)) := by
  have hturn := packetTurn s payload env
  generalize s.next (.packet payload env) = t at hturn ⊢
  have hreceived : logins (s.afterRecv payload).log = logins s.log := rfl
  cases hturn with
  | @handled msg hhandles =>
    have hgrows : Grows Effect.isHandlers [] _ _ :=
      grows_handleMsg env msg s.task.isIdle (s.afterRecv payload)
    have hhandled := hgrows.logins_eq fun _ => Effect.isLoginless_of_isHandlers
    exact .silent ((logins_settles (grows_settleHandled env _ _)).trans hhandled)
      fun loop htask => (settleHandled_eq_waiting (running_of_handles hhandles) htask).1
  | @reacted wait m htask hreact hpayload =>
    obtain ⟨hlogins, hwait⟩ | ⟨message, loop', ⟨loop, hloop, hcontinues⟩, hlength, hlogins, hwait⟩ :=
      login_settleEvent env (logins_react (s := s.afterRecv payload) hreact)
    · exact .silent hlogins fun loop hloop => absurd hloop (hwait loop)
    · have hwaits : wait = .authentication loop := by
        cases wait with
        | authentication loop₁ => exact congrArg _ (Option.some.inj hloop)
        | _ => cases hloop
      subst hwaits
      exact .continues htask (by cases hcontinues <;> constructor <;> assumption) hlength hlogins hwait
  | @exchanged origin phase htask hhead =>
    refine .quiet ?_ (settleRekey_not_waiting env _ _)
    have hgrows : Grows Effect.isExchanges [] (s.afterRecv payload) _ :=
      grows_stateOf (emits_proceedRekey env payload phase) (s.afterRecv payload)
    exact (logins_settles (grows_settleRekey env _ _)).trans (hgrows.logins_eq fun _ h =>
      Effect.isLoginless_of_isRekeys (Effect.isRekeys_of_isExchanges h))
  | @refused e hrunning hparse =>
    have hgrows : Grows Effect.isSettles [] (s.afterRecv payload) _ :=
      grows_settleHandled env s.task (.error (.error e) (s.afterRecv payload))
    exact .silent ((logins_settles hgrows).trans hreceived)
      fun loop htask => (settleHandled_eq_waiting hrunning htask).1
  | exited htask => exact .silent rfl fun _ h => h

/-- Every step is of one of these kinds. -/
theorem loginStep_next (s : Backend) (i : Input) : LoginStep s i (s.next i) := by
  cases i with
  | packet payload env => exact loginStep_packet s payload env
  | receiveFailed error env =>
    exact .quiet (logins_settles (grows_next_receiveFailed s error env))
      (receiveFailed_not_waiting s error env)
  | event event env =>
    by_cases hrenegotiate : event = .renegotiate
    · subst hrenegotiate
      have hfail : ∀ e w, Grows Effect.isSettles [] w (w.failRekey env .user e) :=
        fun e w => grows_failRekey env .user e w
      have hflag : Grows Effect.isSettles [] s { s with renegotiating := true } := .of_eq
      exact .quiet (logins_settles (hflag.trans (grows_startRekey env .user none
        (fun _ => Effect.isSettles_of_isEnds) hfail)))
        (startRekey_not_waiting env _ _ fun e w => failRekey_not_waiting env .user e w)
    · change LoginStep s _ (s.onEvent event env)
      rw [Backend.onEvent_eq hrenegotiate]
      obtain ⟨hlogins, hwait⟩ | ⟨message, loop, hbegins, hlength, hlogins, hwait⟩ :=
        login_settleEvent env (logins_startEvent env event s)
      · exact .silent hlogins fun loop hloop => absurd hloop (hwait loop)
      · exact .begins hbegins hlength hlogins hwait
  | shutdown => exact .quiet rfl rfl
  | frontendDropped | receiverDropped _ | tcpListenerDropped _ | localListenerDropped _ =>
    exact .silent rfl fun _ h => h

end Flatline
