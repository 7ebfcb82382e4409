import Flatline.Session.Turns

/-!
# Requests and what waits for their replies

An event sends at most one request before it waits, and then it waits for the reply to that request:
`asks_startEvent` says so of the first turn of an event, and `asks_react` of what its receive loops
do with a packet of their own.

Source: `src/session/backend.rs`.
-/

namespace Flatline

open Triple

/-! ## Requests -/

/-- The request in an effect. -/
def Effect.asks : Effect → Option Request
  | .sent message => message.asks
  | _ => none

/-- The requests of a history, newest first. -/
def asked (log : List Effect) : List Request :=
  log.filterMap Effect.asks

/-- The request whose reply a receive loop waits for. -/
def Wait.asks : Wait → Option Request
  | .channelResponse id _ => some (.channel id.client)
  | .openingChannel clientId .. => some (.channelOpen clientId)
  | .streamLocalForward .. | .tcpIpForward .. | .cancelTcpIpForward ..
  | .cancelStreamLocalForward .. => some .global
  | .serviceAccept | .authentication _ => none

/-- The listeners that a loop cancels, one after the other. -/
def Wait.cancelling : Wait → List SocketAddr
  | .cancelTcpIpForward addr rest _ => addr :: rest
  | _ => []

/-- The request whose reply an event goes on to wait for. -/
def Progress.asks : Progress → Option Request
  | .done _ => none
  | .wait loop => loop.asks

def Progress.cancelling : Progress → List SocketAddr
  | .done _ => []
  | .wait loop => loop.cancelling

theorem asks_of_isSilent {effect : Effect} (h : effect.isSilent = true) : effect.asks = none := by
  cases effect with
  | sent message => exact Option.isNone_iff_eq_none.mp (Bool.and_eq_true_iff.mp h).2
  | _ => rfl

theorem asks_of_isHandlers {effect : Effect} (h : effect.isHandlers = true) :
    effect.asks = none := by
  cases effect with
  | sent message => cases message <;> first | rfl | cases h
  | _ => rfl

theorem asks_of_isSettles {effect : Effect} (h : effect.isSettles = true) :
    effect.asks = none := by
  cases effect with
  | sent message => cases message <;> first | rfl | cases h
  | _ => rfl

variable {s w : Backend} {p : Effect → Bool} {keys extra : List SocketAddr} {α : Type}

/-- Effects without requests change nothing. -/
theorem Grows.asked_eq (h : Grows p keys s w) (hp : ∀ effect, p effect = true → effect.asks = none) :
    asked w.log = asked s.log := by
  obtain ⟨effects, hlog, heffects⟩ := h.log
  have hnone : effects.filterMap Effect.asks = [] :=
    List.filterMap_eq_nil_iff.mpr fun effect heffect => hp effect (heffects effect heffect)
  rw [hlog, asked, List.filterMap_append, hnone]
  rfl

/-! ## What events wait for -/

/-- From `s`, an event has come to `w`: it has sent the request whose reply it waits for, and none
if it does not wait; the listeners it cancels are among `extra`. -/
structure Awaits (extra : List SocketAddr) (s : Backend) (progress : Progress) (w : Backend) :
    Prop where
  asked : asked w.log = progress.asks.toList ++ asked s.log
  cancelling : progress.cancelling ⊆ extra

/-- An event that fails has sent no request. -/
def Asks (extra : List SocketAddr) (m : BackendM Progress) : Prop :=
  ∀ s, Holds (· = s) m (Awaits extra s) (fun _ w => asked w.log = asked s.log)

theorem asks_done (reply : Reply) : Asks extra (pure (.done reply)) :=
  fun _ => Holds.pure fun _ h => ⟨by rw [h]; rfl, List.nil_subset _⟩

theorem asks_throw (fault : Fault) : Asks extra (throw fault) :=
  fun _ => Holds.throw fun _ h => by rw [h]

/-- An event goes on after something that sends no request. -/
theorem Asks.after {m : BackendM Progress} (hm : Asks extra m) (hw : asked w.log = asked s.log) :
    Holds (· = w) m (Awaits extra s) (fun _ w' => asked w'.log = asked s.log) :=
  (hm w).mono (fun _ h => h) (fun _ _ h => ⟨h.asked.trans (by rw [hw]), h.cancelling⟩)
    (fun _ _ h => h.trans hw)

theorem Asks.bind {m : BackendM α} {f : α → BackendM Progress} (keys : List SocketAddr)
    (hm : Emits Effect.isSilent keys m) (hf : ∀ a, Asks extra (f a)) : Asks extra (m >>= f) := by
  intro s
  have hasked : ∀ w, Extends Effect.isSilent keys s w → asked w.log = asked s.log :=
    fun w hw => hw.toGrows.asked_eq fun _ => asks_of_isSilent
  refine Holds.bind ((hm s).error fun _ => hasked) fun a w hw => ?_
  exact (hf a).after (hasked w hw) w rfl

theorem Asks.get_bind {f : Backend → BackendM Progress} (hf : ∀ w, Asks extra (f w)) :
    Asks extra (get >>= f) :=
  fun s w hw => hf w s w hw

theorem Asks.mono {m : BackendM Progress} (hm : Asks extra m) (h : extra ⊆ keys) : Asks keys m :=
  fun s => (hm s).post fun _ _ hw => ⟨hw.asked, List.Subset.trans hw.cancelling h⟩

/-- A message goes out, and nothing else that counts happens. -/
theorem asked_sendPayload (env : Env) (message : ClientMessage) (s : Backend) :
    Holds (· = s) (sendPayload env message)
      (fun _ w => asked w.log = message.asks.toList ++ asked s.log)
      (fun _ w => asked w.log = asked s.log) := by
  rintro w rfl
  unfold sendPayload
  by_cases hlen : message.encode.length > maxPacketPayloadLength
  · rw [if_pos hlen]
  · rw [if_neg hlen]
    cases env.writeError w.attempts with
    | some e => rfl
    | none =>
      change (Effect.sent message :: w.log).filterMap Effect.asks = _
      cases hasks : message.asks with
      | none => exact List.filterMap_cons_none hasks
      | some request => exact List.filterMap_cons_some hasks

/-- Send a request and wait for its reply. -/
theorem asks_sendAndWait (env : Env) {message : ClientMessage} {wait : Wait}
    (hasks : message.asks = wait.asks) (hcancelling : wait.cancelling ⊆ extra) :
    Asks extra (do
      sendPayload env message
      return .wait wait) :=
  fun s => (asked_sendPayload env message s).bind fun _ => Holds.pure fun _ h =>
    ⟨h.trans (by rw [hasks]; rfl), hcancelling⟩

theorem asks_sendOnly (env : Env) {message : ClientMessage}
    (h : Effect.isSilent (.sent message) = true) :
    Asks extra (do
      sendPayload env message
      return .done .done) :=
  .bind [] (emits_sendPayload env h) fun _ => asks_done _

theorem asks_channelRequest (env : Env) (id : IdentityPair) (type : Text) (wantReply : Bool)
    (fields : List Field) (opened : Option ℕ) :
    Asks extra (channelRequest env id type wantReply fields opened) := by
  cases wantReply with
  | false => exact asks_sendOnly env rfl
  | true => exact asks_sendAndWait env rfl (List.nil_subset _)

theorem asks_channelOpen (env : Env) (type : Text) (window packet : UInt32) (fields : List Field)
    (sftp : Bool) : Asks extra (channelOpen env type window packet fields sftp) :=
  .get_bind fun _ => asks_sendAndWait env rfl (List.nil_subset _)

theorem asks_finishOpening (env : Env) (client : ChannelEndpoint) (sftp : Bool)
    (sender window packet : UInt32) :
    Asks extra (finishOpening env client sftp sender window packet) := by
  refine .get_bind fun w => ?_
  split
  · exact asks_throw _
  · refine .bind [] (emits_pushChannel _ _ fun _ => rfl) fun queue => ?_
    refine .bind [] (emits_upgradeFrontend queue) fun _ => .bind [] (emits_note rfl) fun _ => ?_
    split
    · exact asks_channelRequest env _ _ _ _ _
    · exact asks_done _

theorem asks_channelSend (env : Env) (id : IdentityPair) (data : Bytes) :
    Asks extra (channelSend env id data) := by
  refine .get_bind fun w => ?_
  split
  · exact asks_throw _
  · exact .bind [] (emits_channelSendLoop env _ _ _ _ _ _ fun _ _ => rfl) fun _ => asks_done _

/-! ### Cleaning and forwarding -/

theorem asks_forwardLocalCleanLoop (env : Env) (paths : List Text) :
    Asks extra (forwardLocalCleanLoop env paths) := by
  cases paths with
  | nil => exact asks_done _
  | cons path rest => exact asks_sendAndWait env rfl (List.nil_subset _)

theorem asks_forwardLocalClean (env : Env) (forwardLocal : Bool) :
    Asks extra (forwardLocalClean env forwardLocal) := by
  unfold forwardLocalClean
  split
  · exact .get_bind fun w => asks_forwardLocalCleanLoop env _
  · exact asks_done _

theorem asks_forwardTcpCleanLoop (env : Env) (forwardLocal : Bool) {addrs : List SocketAddr}
    (h : addrs ⊆ extra) : Asks extra (forwardTcpCleanLoop env forwardLocal addrs) := by
  cases addrs with
  | nil => exact asks_forwardLocalClean env forwardLocal
  | cons addr rest => exact asks_sendAndWait env rfl h

/-- The order in which a map is iterated changes nothing about its keys. -/
theorem mem_iterate {κ : Type} {env : Env} {keys : List κ} {key : κ} (h : key ∈ env.iterate keys) :
    key ∈ keys := by
  unfold Env.iterate at h
  rw [List.getD_eq_getElem?_getD] at h
  cases hget : keys.permutations[env.order]? with
  | none =>
    rw [hget] at h
    exact h
  | some order =>
    rw [hget] at h
    exact (List.mem_permutations.mp (List.mem_of_getElem? hget)).mem_iff.mp h

theorem mem_closedKeys_iff {forward : Forward} {addr : SocketAddr} :
    addr ∈ closedKeys forward.tcp ↔ ∃ listener ∈ forward.listenersAt addr, listener.sender.closed = true := by
  simp [closedKeys, Forward.listenersAt]

/-- `clean` cancels the listeners that the user has dropped. -/
theorem awaits_clean (env : Env) (channel forwardTcp forwardLocal : Bool) (s : Backend) :
    Holds (· = s) (clean env channel forwardTcp forwardLocal)
      (Awaits (closedKeys s.forward.tcp) s) (fun _ w => asked w.log = asked s.log) := by
  have hchannels : Emits Effect.isSilent []
      (if channel then channelClean env else return : BackendM Unit) := by
    split
    · exact .get_bind fun w => emits_channelCleanLoop env _ (fun _ => rfl) fun _ _ => rfl
    · exact emits_pure _
  have hasked : ∀ {w}, Extends Effect.isSilent [] s w → asked w.log = asked s.log :=
    fun hw => hw.toGrows.asked_eq fun _ => asks_of_isSilent
  refine Holds.bind ((hchannels s).error fun _ _ => hasked) fun _ w hw => ?_
  have hclosed : env.iterate (closedKeys w.forward.tcp) ⊆ closedKeys s.forward.tcp := by
    intro addr haddr
    obtain ⟨listener, hmem, hlistener⟩ := mem_closedKeys_iff.mp (mem_iterate haddr)
    rw [hw.tcp addr List.not_mem_nil] at hmem
    exact mem_closedKeys_iff.mpr ⟨listener, hmem, hlistener⟩
  by_cases htcp : forwardTcp = true
  · simp only [if_pos htcp]
    exact (asks_forwardTcpCleanLoop env forwardLocal hclosed).after (hasked hw) w rfl
  · simp only [if_neg htcp]
    exact (asks_forwardLocalClean env forwardLocal).after (hasked hw) w rfl

theorem asks_globalRequestCancelTcpIpForward (env : Env) (wantReply : Bool) {addr : SocketAddr}
    (h : addr ∈ extra) : Asks extra (globalRequestCancelTcpIpForward env wantReply addr) := by
  cases wantReply with
  | true => exact asks_sendAndWait env rfl (List.cons_subset.mpr ⟨h, List.nil_subset _⟩)
  | false =>
    refine .bind [addr] (emits_sendPayload env rfl) fun _ => ?_
    exact .bind [addr] (emits_removeTcp List.mem_cons_self) fun _ => asks_done _

theorem asks_globalRequestCancelStreamLocalForward (env : Env) (wantReply : Bool) (path : Text) :
    Asks extra (globalRequestCancelStreamLocalForward env wantReply path) := by
  cases wantReply with
  | true => exact asks_sendAndWait env rfl (List.nil_subset _)
  | false =>
    refine .bind [] (emits_sendPayload env rfl) fun _ => ?_
    exact .bind [] (emits_removeLocal path) fun _ => asks_done _

/-! ### Authentication -/

theorem asks_authenticatePublicKey (env : Env) (username type : Text) (isCertificate : Bool)
    (publicBlob privateBlob : Bytes) :
    Asks extra (authenticatePublicKey env username type isCertificate publicBlob privateBlob) := by
  refine .get_bind fun w => ?_
  split
  · exact asks_throw _
  · exact asks_sendAndWait env rfl (List.nil_subset _)

theorem asks_signPublicKey (env : Env) (query : PublicKeyQuery) :
    Asks extra (signPublicKey env query) := by
  refine .get_bind fun w => .bind [] (emits_liftExcept _) fun _ => ?_
  refine .bind [] (emits_liftExcept _) fun signature => ?_
  exact asks_sendAndWait env rfl (List.nil_subset _)

theorem asks_answerInfoRequest (env : Env) (data : Bytes) :
    Asks extra (answerInfoRequest env data) := by
  refine .bind [] (emits_liftExcept _) fun request => .bind [] (emits_liftExcept _) fun _ => ?_
  split
  · exact asks_sendAndWait env rfl (List.nil_subset _)
  · exact asks_throw _

/-! ### Events -/

/-- The listeners that an event may cancel. -/
def Event.mayCancel (s : Backend) : Event → List SocketAddr
  | .globalRequestCancelTcpIpForward _ addr => [addr]
  | .clean .. => closedKeys s.forward.tcp
  | _ => []

theorem awaits_startEvent (env : Env) (event : Event) (s : Backend) :
    Holds (· = s) (startEvent env event) (Awaits (event.mayCancel s) s)
      (fun _ w => asked w.log = asked s.log) := by
  have hof {m : BackendM Progress} (hm : Asks [] m) :
      Holds (· = s) m (Awaits (event.mayCancel s) s) (fun _ w => asked w.log = asked s.log) :=
    hm.mono (List.nil_subset _) s
  cases event with
  | authenticateNone | authenticatePassword | authenticateKeyboardInteractive
  | requestAuthentication => exact hof (asks_sendAndWait env rfl (List.nil_subset _))
  | authenticatePublicKey => exact hof (asks_authenticatePublicKey env _ _ _ _ _)
  | sendDebugMessage | sendIgnoreMessage | disconnect => exact hof (asks_sendOnly env rfl)
  | channelRequestPty | channelRequestBreak | channelRequestShell | channelRequestExec
  | channelRequestAgent | channelRequestWindowChange | channelRequestSignal | channelRequestEnv
  | channelRequestX11 => exact hof (asks_channelRequest env _ _ _ _ _)
  | channelOpenSFTP | channelOpenSession | channelOpenDirectTcpIp
  | channelOpenDirectStreamLocal => exact hof (asks_channelOpen env _ _ _ _ _)
  | channelSendData => exact hof (asks_channelSend env _ _)
  | channelClose id =>
    exact hof (.bind [] (emits_channelClose env id rfl fun _ _ => rfl) fun _ => asks_done _)
  | channelEof => exact hof (.bind [] (emits_channelEof env _ fun _ => rfl) fun _ => asks_done _)
  | clean => exact awaits_clean env _ _ _ s
  | globalRequestTcpIPForward | globalRequestStreamLocalForward =>
    exact hof (asks_sendAndWait env rfl (List.nil_subset _))
  | globalRequestCancelTcpIpForward wantReply addr =>
    exact asks_globalRequestCancelTcpIpForward env wantReply List.mem_cons_self s
  | globalRequestCancelStreamLocalForward =>
    exact hof (asks_globalRequestCancelStreamLocalForward env _ _)
  | renegotiate => exact hof (asks_done _)

/-! ### Receive loops -/

theorem asks_upgradeFrontendForListener {m : BackendM Progress} (hm : Asks extra m) :
    Asks extra (do
      upgradeFrontendForListener
      m) :=
  .bind [] emits_upgradeFrontendForListener fun _ => hm

theorem asks_finishStreamLocalForward (path : Text) (window packet : UInt32) :
    Asks extra (finishStreamLocalForward path window packet) :=
  asks_upgradeFrontendForListener (.bind [] (emits_insertLocal _ _ _) fun _ => asks_done _)

theorem asks_finishTcpIpForward (addr : SocketAddr) (window packet : UInt32) (payload : Bytes) :
    Asks extra (finishTcpIpForward addr window packet payload) := by
  refine .bind [] (emits_liftExcept _) fun port => ?_
  split
  · exact asks_throw _
  · next port _ =>
      exact asks_upgradeFrontendForListener
        (.bind [{ addr with port }] (emits_insertTcp _ _ List.mem_cons_self) fun _ => asks_done _)

theorem asks_authenticationVerdict {msg : Message} {m : BackendM Progress}
    (h : authenticationVerdict msg = some m) : Asks extra m := by
  unfold authenticationVerdict at h
  split at h
  · obtain rfl := Option.some.inj h
    exact .bind [] (emits_modify fun _ => extends_of_eq) fun _ => asks_done _
  · obtain rfl := Option.some.inj h
    exact asks_done _
  · cases h

theorem asks_answerAuthentication {env : Env} {wait : AuthenticationWait} {msg : Message}
    {m : BackendM Progress} (h : answerAuthentication env wait msg = some m) : Asks extra m := by
  unfold answerAuthentication at h
  split at h
  · split at h
    · obtain rfl := Option.some.inj h
      exact asks_done _
    · cases h
  · split at h
    · obtain rfl := Option.some.inj h
      exact asks_signPublicKey env _
    · cases h
  · split at h
    · obtain rfl := Option.some.inj h
      exact asks_answerInfoRequest env _
    · cases h
  · exact asks_authenticationVerdict h

theorem asks_answerChannelRequest {id : IdentityPair} {opened : Option ℕ} {msg : Message}
    {m : BackendM Progress} (h : answerChannelRequest id opened msg = some m) : Asks extra m := by
  unfold answerChannelRequest at h
  cases msg with
  | channelClose recipient =>
    simp only at h
    split at h
    · obtain rfl := Option.some.inj h
      exact asks_throw _
    · cases h
  | channelSuccess recipient =>
    obtain rfl := Option.some.inj h
    exact iteInduction (motive := Asks extra) (fun _ => asks_throw _) fun _ => asks_done _
  | channelFailure recipient =>
    obtain rfl := Option.some.inj h
    exact iteInduction (motive := Asks extra) (fun _ => asks_throw _) fun _ => asks_throw _
  | _ => cases h

theorem asks_answerChannelOpen {env : Env} {client : ChannelEndpoint} {sftp : Bool}
    {msg : Message} {m : BackendM Progress} (h : answerChannelOpen env client sftp msg = some m) :
    Asks extra m := by
  unfold answerChannelOpen at h
  split at h
  · obtain rfl := Option.some.inj h
    exact iteInduction (motive := Asks extra) (fun _ => asks_throw _)
      fun _ => asks_finishOpening env client sftp _ _ _
  · obtain rfl := Option.some.inj h
    exact asks_throw _
  · cases h

theorem asks_answerGlobalRequest {success m : BackendM Progress} {msg : Message}
    (hsuccess : Asks extra success) (h : answerGlobalRequest success msg = some m) :
    Asks extra m := by
  unfold answerGlobalRequest at h
  split at h
  · exact Option.some.inj h ▸ hsuccess
  · obtain rfl := Option.some.inj h
    exact asks_throw _
  · cases h

/-- A loop that has been answered waits for no listener but those that are left. -/
theorem asks_answer {env : Env} {wait : Wait} {msg : Message} {m : BackendM Progress}
    (h : wait.answer env msg = some m) : Asks wait.cancelling m := by
  cases wait with
  | serviceAccept =>
    unfold Wait.answer at h
    simp only at h
    split at h
    · obtain rfl := Option.some.inj h
      split
      · exact asks_throw _
      · exact asks_done _
    · cases h
  | authentication wait => exact asks_answerAuthentication h
  | channelResponse id opened => exact asks_answerChannelRequest h
  | openingChannel clientId window packet sftp => exact asks_answerChannelOpen h
  | streamLocalForward path window packet =>
    exact asks_answerGlobalRequest (asks_finishStreamLocalForward _ _ _) h
  | tcpIpForward addr window packet => cases h
  | cancelTcpIpForward addr rest forwardLocal =>
    refine asks_answerGlobalRequest (.bind [addr] (emits_removeTcp List.mem_cons_self) fun _ => ?_) h
    exact asks_forwardTcpCleanLoop env forwardLocal (List.subset_cons_self _ _)
  | cancelStreamLocalForward path rest =>
    exact asks_answerGlobalRequest (.bind [] (emits_removeLocal path) fun _ =>
      asks_forwardLocalCleanLoop env rest) h

theorem asks_react {env : Env} {wait : Wait} {payload : Bytes} {m : BackendM Progress}
    (h : wait.react env payload = some m) : Asks wait.cancelling m := by
  cases reaction h with
  | malformed _ | refused => exact asks_throw _
  | answered _ hanswer => exact asks_answer hanswer
  | forwarded => exact asks_finishTcpIpForward _ _ _ _

end Flatline
