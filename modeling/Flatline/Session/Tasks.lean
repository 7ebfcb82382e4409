import Flatline.Session.Turns

/-!
# Program points

Where the task is after a turn: which turns leave it waiting for the reply to an event, and in
particular for the verdict on a channel the client has asked for.

Source: `src/session/backend.rs`.
-/

namespace Flatline

open Triple

/-- The task is in a receive loop of an event. -/
def Task.isWaiting : Task → Bool
  | .waiting _ => true
  | _ => false

variable {s w : Backend} {α : Type}

/-! ## Turns that end an event or run a key exchange -/

theorem stop_not_waiting {fault : Fault} {fail : Error → Backend → Backend}
    (hfail : ∀ e w, (fail e w).task.isWaiting = false) :
    (w.stop fault fail).task.isWaiting = false := by
  cases fault with
  | error e => exact hfail e w
  | panicked | stuck => rfl

theorem startRekey_not_waiting (env : Env) (origin : RekeyOrigin) (serverKexMsg : Option Bytes)
    {fail : Error → Backend → Backend} (hfail : ∀ e w, (fail e w).task.isWaiting = false) :
    (w.startRekey env origin serverKexMsg fail).task.isWaiting = false := by
  unfold Backend.startRekey
  rcases sendKexInit env w with ⟨clientKexMsg, w'⟩ | ⟨fault, w'⟩
  · simp only
    rcases negotiateMethods env serverKexMsg clientKexMsg w' with ⟨phase, w''⟩ | ⟨fault, w''⟩
    · rfl
    · exact stop_not_waiting fun e w => hfail e _
  · exact stop_not_waiting hfail

theorem afterIteration_not_waiting (env : Env) (w : Backend) :
    (w.afterIteration env).task.isWaiting = false := by
  unfold Backend.afterIteration
  split
  · rfl
  · exact startRekey_not_waiting env _ _ fun _ _ => rfl

theorem endEvent_not_waiting (env : Env) (w : Backend) (result : Except Error Reply) :
    (w.endEvent env result).task.isWaiting = false :=
  afterIteration_not_waiting env _

theorem failRekey_not_waiting (env : Env) (origin : RekeyOrigin) (e : Error) (w : Backend) :
    (w.failRekey env origin e).task.isWaiting = false := by
  cases origin with
  | user => exact endEvent_not_waiting env _ _
  | server | deferred => rfl

theorem settleRekey_not_waiting (env : Env) (origin : RekeyOrigin)
    (r : EStateM.Result Fault Backend RekeyProgress) :
    (Backend.settleRekey env origin r).task.isWaiting = false := by
  rcases r with ⟨phase | _, w⟩ | ⟨fault, w⟩
  · rfl
  · cases origin with
    | server => exact afterIteration_not_waiting env _
    | deferred => rfl
    | user => exact endEvent_not_waiting env _ _
  · exact stop_not_waiting fun e w => failRekey_not_waiting env origin e _

theorem settleIdle_not_waiting (env : Env) (r : EStateM.Result Fault Backend (Option Bytes)) :
    (Backend.settleIdle env r).task.isWaiting = false := by
  rcases r with ⟨_ | data, w⟩ | ⟨fault, w⟩
  · exact afterIteration_not_waiting env w
  · exact startRekey_not_waiting env _ _ fun e w => failRekey_not_waiting env .server e w
  · rfl

/-- An event goes on waiting exactly where its last call says so. -/
theorem settleEvent_eq_waiting {env : Env} {r : EStateM.Result Fault Backend Progress}
    {wait : Wait} (h : (Backend.settleEvent env r).task = .waiting wait) :
    ∃ w, r = .ok (.wait wait) w ∧ (Backend.settleEvent env r).ledger = w.ledger := by
  have hwaiting : (Backend.settleEvent env r).task.isWaiting = true := by rw [h]; rfl
  rcases r with ⟨reply | wait', w⟩ | ⟨fault, w⟩
  · rw [show Backend.settleEvent env (.ok (.done reply) w) = w.endEvent env (.ok reply) from rfl,
      endEvent_not_waiting] at hwaiting
    cases hwaiting
  · injection h with h
    exact ⟨w, by rw [h], rfl⟩
  · have hstop : (Backend.settleEvent env (.error fault w)).task.isWaiting = false :=
      stop_not_waiting fun e w => endEvent_not_waiting env w _
    rw [hstop] at hwaiting
    cases hwaiting

/-! ## Waiting for an open -/

/-- The number whose `SSH_MSG_CHANNEL_OPEN` a payload answers, by a confirmation or a refusal. -/
def answeredOpen (payload : Bytes) : Option UInt32 :=
  match Message.parse payload with
  | .ok (.channelOpenConfirmation recipient ..) => some recipient
  | .ok (.channelOpenFailure recipient ..) => some recipient
  | _ => none

/-- The program does not go on to wait for an open. -/
abbrev OpensNothing (m : BackendM Progress) : Prop :=
  Holds (fun _ => True) m
    (fun progress _ => ∀ clientId window packet sftp,
      progress ≠ .wait (.openingChannel clientId window packet sftp))
    (fun _ _ => True)

theorem opensNothing_done (reply : Reply) : OpensNothing (pure (.done reply)) :=
  Holds.pure fun _ _ _ _ _ _ h => by cases h

theorem opensNothing_wait {wait : Wait}
    (h : ∀ clientId window packet sftp, wait ≠ .openingChannel clientId window packet sftp) :
    OpensNothing (pure (.wait wait)) :=
  Holds.pure fun _ _ clientId window packet sftp heq => by
    injection heq with heq
    exact h clientId window packet sftp heq

theorem opensNothing_throw (fault : Fault) : OpensNothing (throw fault) :=
  Holds.throw fun _ _ => trivial

theorem OpensNothing.bind {m : BackendM α} {f : α → BackendM Progress}
    (hf : ∀ a, OpensNothing (f a)) : OpensNothing (m >>= f) := by
  refine Holds.bind (Q := fun _ _ => True) (fun w _ => ?_) hf
  cases m w <;> trivial

theorem opensNothing_forwardLocalClean (env : Env) (forwardLocal : Bool) :
    OpensNothing (forwardLocalClean env forwardLocal) := by
  unfold forwardLocalClean
  split
  · refine .bind fun w => ?_
    cases env.iterate (closedKeys w.forward.local') with
    | nil => exact opensNothing_done _
    | cons path rest => exact .bind fun _ => opensNothing_wait (by simp)
  · exact opensNothing_done _

theorem opensNothing_forwardTcpCleanLoop (env : Env) (forwardLocal : Bool)
    (addrs : List SocketAddr) : OpensNothing (forwardTcpCleanLoop env forwardLocal addrs) := by
  cases addrs with
  | nil => exact opensNothing_forwardLocalClean env forwardLocal
  | cons addr rest => exact .bind fun _ => opensNothing_wait (by simp)

theorem opensNothing_channelRequest (env : Env) (id : IdentityPair) (type : Text)
    (wantReply : Bool) (fields : List Field) (opened : Option ℕ) :
    OpensNothing (channelRequest env id type wantReply fields opened) := by
  refine .bind fun _ => ?_
  split
  · exact opensNothing_wait (by simp)
  · exact opensNothing_done _

theorem opensNothing_forwardLocalCleanLoop (env : Env) (paths : List Text) :
    OpensNothing (forwardLocalCleanLoop env paths) := by
  cases paths with
  | nil => exact opensNothing_done _
  | cons path rest => exact .bind fun _ => opensNothing_wait (by simp)

theorem opensNothing_authenticationVerdict {msg : Message} {m : BackendM Progress}
    (h : authenticationVerdict msg = some m) : OpensNothing m := by
  unfold authenticationVerdict at h
  split at h
  · obtain rfl := Option.some.inj h
    exact .bind fun _ => opensNothing_done _
  · obtain rfl := Option.some.inj h
    exact opensNothing_done _
  · cases h

theorem opensNothing_signPublicKey (env : Env) (query : PublicKeyQuery) :
    OpensNothing (signPublicKey env query) :=
  .bind fun _ => .bind fun _ => .bind fun _ => .bind fun _ => opensNothing_wait (by simp)

theorem opensNothing_answerInfoRequest (env : Env) (data : Bytes) :
    OpensNothing (answerInfoRequest env data) := by
  refine .bind fun _ => .bind fun _ => ?_
  split
  · exact .bind fun _ => opensNothing_wait (by simp)
  · exact opensNothing_throw _

theorem opensNothing_answerAuthentication {env : Env} {wait : AuthenticationWait} {msg : Message}
    {m : BackendM Progress} (h : answerAuthentication env wait msg = some m) :
    OpensNothing m := by
  unfold answerAuthentication at h
  split at h
  · split at h
    · obtain rfl := Option.some.inj h
      exact opensNothing_done _
    · cases h
  · split at h
    · obtain rfl := Option.some.inj h
      exact opensNothing_signPublicKey env _
    · cases h
  · split at h
    · obtain rfl := Option.some.inj h
      exact opensNothing_answerInfoRequest env _
    · cases h
  · exact opensNothing_authenticationVerdict h

theorem opensNothing_answerChannelRequest {id : IdentityPair} {opened : Option ℕ} {msg : Message}
    {m : BackendM Progress} (h : answerChannelRequest id opened msg = some m) :
    OpensNothing m := by
  unfold answerChannelRequest at h
  cases msg with
  | channelClose recipient =>
    simp only at h
    split at h
    · obtain rfl := Option.some.inj h
      exact opensNothing_throw _
    · cases h
  | channelSuccess recipient =>
    obtain rfl := Option.some.inj h
    refine iteInduction (motive := OpensNothing) (fun _ => opensNothing_throw _) fun _ => ?_
    cases opened <;> exact opensNothing_done _
  | channelFailure recipient =>
    obtain rfl := Option.some.inj h
    exact iteInduction (motive := OpensNothing) (fun _ => opensNothing_throw _)
      fun _ => opensNothing_throw _
  | _ => cases h

theorem opensNothing_finishOpening (env : Env) (client : ChannelEndpoint) (sftp : Bool)
    (senderChannel initialWindowSize maximumPacketSize : UInt32) :
    OpensNothing (finishOpening env client sftp senderChannel initialWindowSize
      maximumPacketSize) := by
  refine .bind fun _ => ?_
  split
  · exact opensNothing_throw _
  · refine .bind fun _ => .bind fun _ => .bind fun _ => ?_
    split
    · exact opensNothing_channelRequest env _ _ _ _ _
    · exact opensNothing_done _

theorem opensNothing_answerChannelOpen {env : Env} {client : ChannelEndpoint} {sftp : Bool}
    {msg : Message} {m : BackendM Progress} (h : answerChannelOpen env client sftp msg = some m) :
    OpensNothing m := by
  unfold answerChannelOpen at h
  split at h
  · obtain rfl := Option.some.inj h
    exact iteInduction (motive := OpensNothing) (fun _ => opensNothing_throw _)
      fun _ => opensNothing_finishOpening env client sftp _ _ _
  · obtain rfl := Option.some.inj h
    exact opensNothing_throw _
  · cases h

theorem opensNothing_answerGlobalRequest {success m : BackendM Progress} {msg : Message}
    (hsuccess : OpensNothing success) (h : answerGlobalRequest success msg = some m) :
    OpensNothing m := by
  unfold answerGlobalRequest at h
  split at h
  · exact Option.some.inj h ▸ hsuccess
  · obtain rfl := Option.some.inj h
    exact opensNothing_throw _
  · cases h

theorem opensNothing_answer {wait : Wait} {env : Env} {msg : Message} {m : BackendM Progress}
    (h : wait.answer env msg = some m) : OpensNothing m := by
  cases wait with
  | serviceAccept =>
    unfold Wait.answer at h
    simp only at h
    split at h
    · obtain rfl := Option.some.inj h
      split
      · exact opensNothing_throw _
      · exact opensNothing_done _
    · cases h
  | authentication wait => exact opensNothing_answerAuthentication h
  | channelResponse id opened => exact opensNothing_answerChannelRequest h
  | openingChannel clientId window packet sftp => exact opensNothing_answerChannelOpen h
  | streamLocalForward path window packet =>
    exact opensNothing_answerGlobalRequest
      (.bind fun _ => .bind fun _ => opensNothing_done _) h
  | tcpIpForward addr window packet => cases h
  | cancelTcpIpForward addr rest forwardLocal =>
    exact opensNothing_answerGlobalRequest
      (.bind fun _ => opensNothing_forwardTcpCleanLoop env forwardLocal rest) h
  | cancelStreamLocalForward path rest =>
    exact opensNothing_answerGlobalRequest
      (.bind fun _ => opensNothing_forwardLocalCleanLoop env rest) h

/-- A message that the wait for an open passes over answers no open. -/
theorem answeredOpen_eq_none {env : Env} {client : ChannelEndpoint} {sftp : Bool} {payload : Bytes}
    {msg : Message} (hparse : Message.parse payload = .ok msg)
    (h : answerChannelOpen env client sftp msg = none) : answeredOpen payload = none := by
  unfold answeredOpen
  rw [hparse]
  cases msg with
  | channelOpenConfirmation | channelOpenFailure => cases h
  | _ => rfl

theorem opensNothing_react {env : Env} {wait : Wait} {payload : Bytes} {m : BackendM Progress}
    (h : wait.react env payload = some m) : OpensNothing m := by
  cases reaction h with
  | malformed _ | refused => exact opensNothing_throw _
  | answered _ hanswer => exact opensNothing_answer hanswer
  | forwarded =>
    refine .bind fun _ => ?_
    split
    · exact opensNothing_throw _
    · exact .bind fun _ => .bind fun _ => opensNothing_done _

/-- A turn of `handle_msg` leaves an event waiting where it was. -/
theorem settleHandled_eq_waiting {env : Env} {task : Task} (hrunning : task.running = true)
    {r : EStateM.Result Fault Backend (Option Bytes)} {wait : Wait}
    (h : (Backend.settleHandled env task r).task = .waiting wait) :
    task = .waiting wait ∧ ∃ data w, r = .ok data w := by
  have habsurd : (Backend.settleHandled env task r).task.isWaiting = false → False := by
    intro hwaiting
    rw [h] at hwaiting
    cases hwaiting
  cases task with
  | idle => exact (habsurd (settleIdle_not_waiting env r)).elim
  | waiting wait' =>
    rcases r with ⟨data, w⟩ | ⟨fault, w⟩
    · exact ⟨h, data, w, rfl⟩
    · exact (habsurd (stop_not_waiting fun e w => endEvent_not_waiting env w _)).elim
  | rekeying origin phase =>
    rcases r with ⟨data, w⟩ | ⟨fault, w⟩
    · exact (habsurd rfl).elim
    · exact (habsurd (stop_not_waiting fun e w => failRekey_not_waiting env origin e _)).elim
  | exited result => cases hrunning

/-- A packet that leaves the task waiting for an open has found it there, and answers no open. -/
theorem openingChannel_of_packet {s : Backend} {payload : Bytes} {env : Env}
    {clientId window packet : UInt32} {sftp : Bool}
    (h : (s.next (.packet payload env)).task =
      .waiting (.openingChannel clientId window packet sftp)) :
    s.task = .waiting (.openingChannel clientId window packet sftp) ∧
      answeredOpen payload = none := by
  have hturn := packetTurn s payload env
  generalize s.next (.packet payload env) = t at hturn h
  cases hturn with
  | @handled msg hhandles =>
    obtain ⟨htask, -⟩ := settleHandled_eq_waiting (running_of_handles hhandles) h
    refine ⟨htask, ?_⟩
    have hparse := parse_of_handles hhandles
    unfold Backend.handles at hhandles
    rw [htask] at hhandles
    simp only at hhandles
    split at hhandles
    · cases hhandles
    · next hreact =>
        obtain ⟨msg', hparse', hanswer, -⟩ :=
          resume_of_none (Option.not_isSome_iff_eq_none.mp hreact)
        exact answeredOpen_eq_none hparse' hanswer
  | reacted htask hreact hpayload =>
    obtain ⟨w, hrun, -⟩ := settleEvent_eq_waiting h
    exact absurd rfl ((opensNothing_react hreact).of_ok trivial hrun _ _ _ _)
  | @exchanged origin phase htask hhead =>
    have hwaiting := settleRekey_not_waiting env origin
      (proceedRekey env payload phase (s.afterRecv payload))
    rw [h] at hwaiting
    cases hwaiting
  | refused hrunning hparse =>
    obtain ⟨-, data, w, hrun⟩ := settleHandled_eq_waiting hrunning h
    cases hrun
  | exited htask =>
    rw [htask] at h
    cases h

theorem opensNothing_clean (env : Env) (channel forwardTcp forwardLocal : Bool) :
    OpensNothing (clean env channel forwardTcp forwardLocal) := by
  refine .bind fun _ => ?_
  split
  · exact .bind fun _ => opensNothing_forwardTcpCleanLoop env forwardLocal _
  · exact opensNothing_forwardLocalClean env forwardLocal

theorem opensNothing_startEvent (env : Env) {event : Event} (h : event.opensChannel = false) :
    OpensNothing (startEvent env event) := by
  cases event with
  | channelOpenSFTP | channelOpenSession | channelOpenDirectTcpIp | channelOpenDirectStreamLocal =>
    cases h
  | authenticateNone | authenticatePassword | authenticateKeyboardInteractive
  | requestAuthentication | globalRequestTcpIPForward | globalRequestStreamLocalForward =>
    exact .bind fun _ => opensNothing_wait (by simp)
  | authenticatePublicKey username method isCertificate publicBlob privateBlob =>
    refine .bind fun _ => ?_
    split
    · exact opensNothing_throw _
    · exact .bind fun _ => opensNothing_wait (by simp)
  | sendDebugMessage | sendIgnoreMessage | disconnect | channelClose | channelEof =>
    exact .bind fun _ => opensNothing_done _
  | channelRequestPty | channelRequestBreak | channelRequestShell | channelRequestExec
  | channelRequestAgent | channelRequestWindowChange | channelRequestSignal | channelRequestEnv
  | channelRequestX11 => exact opensNothing_channelRequest env _ _ _ _ _
  | channelSendData id data =>
    refine .bind fun _ => ?_
    split
    · exact opensNothing_throw _
    · exact .bind fun _ => opensNothing_done _
  | clean channel forwardTcp forwardLocal => exact opensNothing_clean env _ _ _
  | globalRequestCancelTcpIpForward | globalRequestCancelStreamLocalForward =>
    refine .bind fun _ => ?_
    split
    · exact opensNothing_wait (by simp)
    · exact .bind fun _ => opensNothing_done _
  | renegotiate => exact opensNothing_done _

/-- An open announces the channel under the next number and waits for it. -/
theorem at_channelOpen (env : Env) (type : Text) (window packet : UInt32) (fields : List Field)
    (sftp : Bool) {L : Ledger} :
    Holds (At s L) (channelOpen env type window packet fields sftp)
      (fun progress => fun w => progress = .wait (.openingChannel L.nextId window packet sftp) ∧
        At s (L.note (.sent (.channelOpen type L.nextId window packet fields))) w)
      (fun _ => At s L) := by
  refine at_get.bind fun w => Holds.of_and fun hw => ?_
  rw [show w.nextChannelId = L.nextId by rw [← hw.ledger, Backend.nextId_ledger]]
  exact (at_sendPayload env _).bind fun _ => Holds.pure fun _ h => ⟨rfl, h⟩

/-- An event that waits for an open has announced the channel under the next number. -/
theorem openingChannel_of_startEvent {env : Env} {event : Event} {clientId window packet : UInt32}
    {sftp : Bool} (h : startEvent env event s =
      .ok (.wait (.openingChannel clientId window packet sftp)) w) :
    event.opensChannel = true ∧ clientId = s.ledger.nextId ∧
      ∃ type fields, w.ledger =
        s.ledger.note (.sent (.channelOpen type clientId window packet fields)) := by
  have hopen {type : Text} {window' packet' : UInt32} {fields : List Field} {sftp' : Bool}
      (hrun : channelOpen env type window' packet' fields sftp' s =
        .ok (.wait (.openingChannel clientId window packet sftp)) w) :
      clientId = s.ledger.nextId ∧ ∃ type fields, w.ledger =
        s.ledger.note (.sent (.channelOpen type clientId window packet fields)) := by
    obtain ⟨heq, hat⟩ := (at_channelOpen env type window' packet' fields sftp').of_ok
      (At.start s) hrun
    injection heq with heq
    injection heq with hid hwindow hpacket _
    subst hid hwindow hpacket
    exact ⟨rfl, type, fields, hat.ledger⟩
  rcases hopens : event.opensChannel with _ | _
  · exact absurd rfl ((opensNothing_startEvent env hopens).of_ok trivial h _ _ _ _)
  · cases event with
    | channelOpenSFTP | channelOpenSession | channelOpenDirectTcpIp
    | channelOpenDirectStreamLocal => exact ⟨rfl, hopen h⟩
    | _ => cases hopens

/-- After a step the task waits for an open only if it did so before and the input is no answer, or
if the input is an event that has just announced the channel. -/
theorem openingChannel_of_next {s : Backend} {i : Input} {clientId window packet : UInt32}
    {sftp : Bool} (h : (s.next i).task = .waiting (.openingChannel clientId window packet sftp)) :
    (s.task = .waiting (.openingChannel clientId window packet sftp) ∧
      ∀ payload env, i = .packet payload env → answeredOpen payload = none) ∨
    ((∃ event env, i = .event event env ∧ event.opensChannel = true) ∧
      clientId = s.ledger.nextId ∧ ∃ type fields, (s.next i).ledger =
        s.ledger.note (.sent (.channelOpen type clientId window packet fields))) := by
  have hwaiting : (s.next i).task.isWaiting = true := by rw [h]; rfl
  cases i with
  | packet payload env =>
    obtain ⟨htask, hanswer⟩ := openingChannel_of_packet h
    refine .inl ⟨htask, fun payload' env' hi => ?_⟩
    injection hi with hpayload
    exact hpayload ▸ hanswer
  | receiveFailed error env =>
    change (s.onReceiveFailed error env).task.isWaiting = true at hwaiting
    unfold Backend.onReceiveFailed at hwaiting
    cases htask : s.task with
    | idle => simp [htask, Backend.failSession, Backend.exit, Task.isWaiting] at hwaiting
    | waiting wait => simp only [htask, endEvent_not_waiting, Bool.false_eq_true] at hwaiting
    | rekeying origin phase =>
      simp only [htask, failRekey_not_waiting, Bool.false_eq_true] at hwaiting
    | exited result => simp [htask, Task.isWaiting] at hwaiting
  | event event env =>
    right
    by_cases hrenegotiate : event = .renegotiate
    · subst hrenegotiate
      have := startRekey_not_waiting (w := { s with renegotiating := true }) env .user none
        (failRekey_not_waiting env .user)
      exact absurd (hwaiting.symm.trans this) (by decide)
    · change (s.onEvent event env).task = _ at h
      change _ ∧ _ ∧ ∃ type fields, (s.onEvent event env).ledger = _
      rw [Backend.onEvent_eq hrenegotiate] at h ⊢
      obtain ⟨w, hrun, hledger⟩ := settleEvent_eq_waiting h
      obtain ⟨hopens, hid, type, fields, hnote⟩ := openingChannel_of_startEvent hrun
      exact ⟨⟨event, env, rfl, hopens⟩, hid, type, fields, hledger.trans hnote⟩
  | shutdown => cases h
  | frontendDropped | receiverDropped | tcpListenerDropped | localListenerDropped =>
    exact .inl ⟨h, fun _ _ hi => nomatch hi⟩

theorem receiveFailed_not_waiting (s : Backend) (error : Error) (env : Env) :
    (s.next (.receiveFailed error env)).task.isWaiting = false := by
  change (s.onReceiveFailed error env).task.isWaiting = false
  unfold Backend.onReceiveFailed
  cases htask : s.task with
  | idle => rfl
  | waiting wait => exact endEvent_not_waiting env s _
  | rekeying origin phase => exact failRekey_not_waiting env origin error _
  | exited result =>
    simp only [htask]
    rfl

end Flatline
