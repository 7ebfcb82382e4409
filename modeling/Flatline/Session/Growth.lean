import Flatline.Session.StepPaths

/-!
# What a program adds to the history

A handler, an event and a key exchange each note effects of their own kind, and leave the program
point, the key-exchange flags and the forward listeners alone but for the listeners they name.
`Emits` says so of a program, whatever state it starts in.

Source: `src/session/backend.rs`, `src/session/handshake.rs`.
-/

namespace Flatline

open Triple

/-! ## Kinds of effects -/

/-- The messages of `handle_msg`. -/
def ClientMessage.isHandlers : ClientMessage → Bool
  | .unimplemented _ | .requestSuccess | .requestFailure | .channelOpenConfirmation ..
  | .channelOpenFailure .. | .channelWindowAdjust .. | .channelClose _ | .channelFailure _
  | .pong _ => true
  | _ => false

/-- Those of them that answer no request. -/
def ClientMessage.isMute : ClientMessage → Bool
  | .channelWindowAdjust .. | .channelClose _ | .pong _ => true
  | _ => false

/-- The messages of `handle_event`. -/
def ClientMessage.isEvents : ClientMessage → Bool
  | .disconnect .. | .ignore _ | .debug .. | .serviceRequest _ | .userauthRequest ..
  | .userauthInfoResponse .. | .globalRequest .. | .channelOpen .. | .channelData ..
  | .channelEof _ | .channelClose _ | .channelRequest .. => true
  | _ => false

/-- The messages of a key exchange. -/
def ClientMessage.isRekeys : ClientMessage → Bool
  | .kexInit _ | .newKeys | .kexMethod _ => true
  | _ => false

/-- The messages of a key exchange after the client's `SSH_MSG_KEXINIT`. -/
def ClientMessage.isExchanges : ClientMessage → Bool
  | .newKeys | .kexMethod _ => true
  | _ => false

/-- A request that the server answers without naming it: the open of a channel under the client's
number, a request on a channel, or a global one. -/
inductive Request where
  | channelOpen (client : UInt32)
  | channel (client : UInt32)
  | global
deriving DecidableEq, Repr

/-- The request in a message. -/
def ClientMessage.asks : ClientMessage → Option Request
  | .channelOpen _ client .. => some (.channelOpen client)
  | .channelRequest id _ true _ => some (.channel id.client)
  | .globalRequest _ true _ => some .global
  | _ => none

namespace Effect

/-- What `handle_msg` notes. -/
def isHandlers : Effect → Bool
  | .sent message => message.isHandlers
  | .registered .. | .removed .. | .delivered .. | .handedOver .. => true
  | .received _ | .answered _ | .rekeyFailed .. => false

/-- What `handle_msg` notes of a message that it does not reject. -/
def isReplies : Effect → Bool
  | .sent (.unimplemented _) => false
  | effect => effect.isHandlers

/-- What `handle_msg` notes of a message that asks for nothing. -/
def isMute : Effect → Bool
  | .sent message => message.isMute
  | effect => effect.isReplies

/-- What `handle_event` notes before its answer. -/
def isEvents : Effect → Bool
  | .sent message => message.isEvents
  | .registered .. | .removed .. | .handedOver _ _ .user => true
  | .received _ | .delivered .. | .handedOver .. | .answered _ | .rekeyFailed .. => false

/-- What `handle_event` notes besides requests and its answer. -/
def isSilent : Effect → Bool
  | .sent message => message.isEvents && message.asks.isNone
  | effect => effect.isEvents

theorem isHandlers_of_isReplies {effect : Effect} (h : effect.isReplies = true) :
    effect.isHandlers = true := by
  cases effect with
  | sent message => cases message <;> first | exact h | cases h
  | _ => exact h

theorem isReplies_of_isMute {effect : Effect} (h : effect.isMute = true) :
    effect.isReplies = true := by
  cases effect with
  | sent message => cases message <;> first | rfl | cases h
  | _ => exact h

theorem isEvents_of_isSilent {effect : Effect} (h : effect.isSilent = true) :
    effect.isEvents = true := by
  cases effect with
  | sent message => exact (Bool.and_eq_true_iff.mp h).1
  | _ => exact h

/-- What `RekeyExchange` notes. -/
def isRekeys : Effect → Bool
  | .sent message => message.isRekeys
  | _ => false

/-- What `RekeyExchange` notes once the client's `SSH_MSG_KEXINIT` has been sent. -/
def isExchanges : Effect → Bool
  | .sent message => message.isExchanges
  | _ => false

theorem isRekeys_of_isExchanges {effect : Effect} (h : effect.isExchanges = true) :
    effect.isRekeys = true := by
  cases effect with
  | sent message => cases message <;> first | rfl | cases h
  | _ => cases h

end Effect

/-! ## Growth -/

/-- The program point and the flags that say who wants a key exchange. -/
def Backend.control (s : Backend) : Task × Bool × Option Bytes :=
  (s.task, s.renegotiating, s.renegotiateMsg)

/-- The listeners in the table under an address. -/
def Forward.listenersAt (forward : Forward) (addr : SocketAddr) : List ListenerHandle :=
  (forward.tcp.filter fun entry => entry.1 = addr).map Prod.snd

/-- The queues of all listeners in the tables. -/
def Forward.queues (forward : Forward) : List ℕ :=
  forward.tcp.map (·.2.sender.queue) ++ forward.local'.map (·.2.sender.queue)

/-- The queue of the listener that a stream has been handed to. -/
def Effect.listener? : Effect → Option ℕ
  | .handedOver _ _ (.listener queue _) => some queue
  | _ => none

/-- No listener has a number yet to be given, neither in the tables nor among those that have got a
stream. -/
structure Backend.NumbersListeners (s : Backend) : Prop where
  queues : ∀ queue ∈ s.forward.queues, queue < s.nextListener
  streams : ∀ effect ∈ s.log, ∀ queue, effect.listener? = some queue → queue < s.nextListener

/-- From `s` to `s'`, only effects with `p` have been noted, and only the listeners of `keys` have
come or gone. -/
structure Grows (p : Effect → Bool) (keys : List SocketAddr) (s s' : Backend) : Prop where
  log : ∃ effects, s'.log = effects ++ s.log ∧ ∀ effect ∈ effects, p effect = true
  tcp : ∀ addr, addr ∉ keys → s'.forward.listenersAt addr = s.forward.listenersAt addr
  frontend : s'.frontend = s.frontend
  nextListener : s.nextListener ≤ s'.nextListener
  numbered : s.NumbersListeners → s'.NumbersListeners

/-- Moreover the control is unchanged. -/
structure Extends (p : Effect → Bool) (keys : List SocketAddr) (s s' : Backend) : Prop
    extends Grows p keys s s' where
  control : s'.control = s.control

variable {p q : Effect → Bool} {keys keys' : List SocketAddr} {s s' s'' : Backend} {α β : Type}

theorem Grows.refl (s : Backend) : Grows p keys s s :=
  ⟨⟨[], rfl, nofun⟩, fun _ _ => rfl, rfl, le_rfl, id⟩

theorem Grows.trans (h : Grows p keys s s') (h' : Grows p keys s' s'') : Grows p keys s s'' := by
  obtain ⟨effects, hlog, hp⟩ := h.log
  obtain ⟨effects', hlog', hp'⟩ := h'.log
  refine ⟨⟨effects' ++ effects, ?_, ?_⟩, fun addr haddr => ?_, h'.frontend.trans h.frontend,
    h.nextListener.trans h'.nextListener, h'.numbered ∘ h.numbered⟩
  · rw [hlog', hlog, List.append_assoc]
  · intro effect heffect
    obtain heffect | heffect := List.mem_append.mp heffect
    · exact hp' effect heffect
    · exact hp effect heffect
  · rw [h'.tcp addr haddr, h.tcp addr haddr]

theorem Grows.mono (h : Grows p keys s s') (hp : ∀ effect, p effect = true → q effect = true)
    (hkeys : keys ⊆ keys') : Grows q keys' s s' := by
  obtain ⟨effects, hlog, heffects⟩ := h.log
  refine ⟨⟨effects, hlog, fun effect heffect => hp effect (heffects effect heffect)⟩, ?_,
    h.frontend, h.nextListener, h.numbered⟩
  intro addr haddr
  exact h.tcp addr fun hmem => haddr (hkeys hmem)

/-- One more effect. -/
theorem Grows.cons (effect : Effect) (heffect : p effect = true)
    (hlog : s'.log = effect :: s.log := by rfl) (hforward : s'.forward = s.forward := by rfl)
    (hfrontend : s'.frontend = s.frontend := by rfl)
    (hnext : s'.nextListener = s.nextListener := by rfl)
    (hlistener : effect.listener? = none := by rfl) : Grows p keys s s' := by
  refine ⟨⟨[effect], hlog, fun other hother => ?_⟩, fun _ _ => by rw [hforward], hfrontend,
    hnext.ge, fun hs => ⟨?_, fun other hother queue hqueue => ?_⟩⟩
  · rw [List.mem_singleton.mp hother]
    exact heffect
  · rw [hforward, hnext]
    exact hs.queues
  · rw [hlog] at hother
    obtain rfl | hother := List.mem_cons.mp hother
    · rw [hlistener] at hqueue
      cases hqueue
    · exact hnext ▸ hs.streams other hother queue hqueue

theorem Extends.refl (s : Backend) : Extends p keys s s :=
  ⟨.refl s, rfl⟩

theorem Extends.trans (h : Extends p keys s s') (h' : Extends p keys s' s'') :
    Extends p keys s s'' :=
  ⟨h.toGrows.trans h'.toGrows, h'.control.trans h.control⟩

theorem Extends.mono (h : Extends p keys s s') (hp : ∀ effect, p effect = true → q effect = true)
    (hkeys : keys ⊆ keys') : Extends q keys' s s' :=
  ⟨h.toGrows.mono hp hkeys, h.control⟩

/-- One more effect, and nothing else that counts. -/
theorem extends_cons {effect : Effect} (heffect : p effect = true)
    (hlog : s'.log = effect :: s.log := by rfl)
    (hforward : s'.forward = s.forward := by rfl) (hfrontend : s'.frontend = s.frontend := by rfl)
    (hnext : s'.nextListener = s.nextListener := by rfl)
    (hcontrol : s'.control = s.control := by rfl)
    (hlistener : effect.listener? = none := by rfl) : Extends p keys s s' :=
  ⟨.cons effect heffect hlog hforward hfrontend hnext hlistener, hcontrol⟩

/-- Nothing that counts. -/
theorem Grows.of_eq (hlog : s'.log = s.log := by rfl) (hforward : s'.forward = s.forward := by rfl)
    (hfrontend : s'.frontend = s.frontend := by rfl)
    (hnext : s'.nextListener = s.nextListener := by rfl) : Grows p keys s s' := by
  refine ⟨⟨[], hlog, nofun⟩, fun _ _ => by rw [hforward], hfrontend, hnext.ge, fun hs => ?_⟩
  constructor
  · rw [hforward, hnext]
    exact hs.queues
  · rw [hlog, hnext]
    exact hs.streams

theorem extends_of_eq (hlog : s'.log = s.log := by rfl)
    (hforward : s'.forward = s.forward := by rfl) (hfrontend : s'.frontend = s.frontend := by rfl)
    (hnext : s'.nextListener = s.nextListener := by rfl)
    (hcontrol : s'.control = s.control := by rfl) : Extends p keys s s' :=
  ⟨.of_eq hlog hforward hfrontend hnext, hcontrol⟩

/-- Only the tables change, under `keys`, and nothing is in them that was not there. -/
theorem extends_forward {forward : Forward} (hqueues : forward.queues ⊆ s.forward.queues)
    (htcp : ∀ addr, addr ∉ keys → forward.listenersAt addr = s.forward.listenersAt addr) :
    Extends p keys s { s with forward } :=
  ⟨⟨⟨[], rfl, nofun⟩, htcp, rfl, le_rfl, fun hs =>
    ⟨fun queue hqueue => hs.queues queue (hqueues hqueue), hs.streams⟩⟩, rfl⟩

/-- A new listener, under one of `keys`. -/
theorem extends_listener {forward : Forward}
    (hqueues : ∀ queue ∈ forward.queues, queue = s.nextListener ∨ queue ∈ s.forward.queues)
    (htcp : ∀ addr, addr ∉ keys → forward.listenersAt addr = s.forward.listenersAt addr) :
    Extends p keys s { s with nextListener := s.nextListener + 1, forward } := by
  refine ⟨⟨⟨[], rfl, nofun⟩, htcp, rfl, Nat.le_succ _, fun hs => ⟨fun queue hqueue => ?_,
    fun effect heffect queue hqueue => ?_⟩⟩, rfl⟩
  · obtain rfl | hold := hqueues queue hqueue
    · exact Nat.lt_succ_self _
    · exact Nat.lt_succ_of_lt (hs.queues queue hold)
  · exact Nat.lt_succ_of_lt (hs.streams effect heffect queue hqueue)

/-- A stream goes to a listener that has had a number from the beginning. -/
theorem Extends.note {effect : Effect} (h : Extends p keys s s') (heffect : p effect = true)
    (hlistener : s.NumbersListeners → ∀ queue, effect.listener? = some queue → queue < s.nextListener) :
    Extends p keys s (s'.note effect) := by
  obtain ⟨effects, hlog, hp⟩ := h.log
  refine ⟨⟨⟨effect :: effects, congrArg (effect :: ·) hlog, List.forall_mem_cons.mpr ⟨heffect, hp⟩⟩,
    h.tcp, h.frontend, h.nextListener, fun hs => ⟨(h.numbered hs).queues, ?_⟩⟩, h.control⟩
  exact List.forall_mem_cons.mpr
    ⟨fun queue hqueue => (hlistener hs queue hqueue).trans_le h.nextListener,
      (h.numbered hs).streams⟩

/-- A program extends the state it starts in, whether it returns or stops. -/
def Emits (p : Effect → Bool) (keys : List SocketAddr) (m : BackendM α) : Prop :=
  ∀ s, Holds (· = s) m (fun _ => Extends p keys s) (fun _ => Extends p keys s)

variable {m : BackendM α}

/-- The program goes on from a state that extends another. -/
theorem Emits.holds (hm : Emits p keys m) (s : Backend) :
    Holds (Extends p keys s) m (fun _ => Extends p keys s) (fun _ => Extends p keys s) := by
  intro w hw
  have h := hm w w rfl
  cases hrun : m w with
  | ok a w' =>
    rw [hrun] at h
    exact hw.trans h
  | error e w' =>
    rw [hrun] at h
    exact hw.trans h

theorem Emits.of_ok (hm : Emits p keys m) {a : α} (hrun : m s = .ok a s') : Extends p keys s s' :=
  (hm s).of_ok rfl hrun

theorem Emits.of_error (hm : Emits p keys m) {fault : Fault} (hrun : m s = .error fault s') :
    Extends p keys s s' :=
  (hm s).of_error rfl hrun

theorem Emits.mono (hm : Emits p keys m) (hp : ∀ effect, p effect = true → q effect = true)
    (hkeys : keys ⊆ keys') : Emits q keys' m :=
  fun s => (hm s).mono (fun _ h => h) (fun _ _ h => h.mono hp hkeys) (fun _ _ h => h.mono hp hkeys)

theorem emits_pure (a : α) : Emits p keys (pure a : BackendM α) :=
  fun s => Holds.pure fun _ h => h.symm ▸ Extends.refl s

theorem emits_throw (fault : Fault) : Emits p keys (throw fault : BackendM α) :=
  fun s => Holds.throw fun _ h => h.symm ▸ Extends.refl s

theorem Emits.bind {f : α → BackendM β} (hm : Emits p keys m) (hf : ∀ a, Emits p keys (f a)) :
    Emits p keys (m >>= f) :=
  fun s => (hm s).bind fun a => (hf a).holds s

/-- A program that looks at the state first. -/
theorem Emits.get_bind {f : Backend → BackendM β} (hf : ∀ w, Emits p keys (f w)) :
    Emits p keys (get >>= f) :=
  fun s w hw => hf w s w hw

theorem emits_modify {f : Backend → Backend} (hf : ∀ w, Extends p keys w (f w)) :
    Emits p keys (modify f) :=
  fun _ => Holds.modify fun w h => h ▸ hf w

theorem emits_note {effect : Effect} (h : p effect = true)
    (hlistener : effect.listener? = none := by rfl) : Emits p keys (note effect) :=
  emits_modify fun _ => extends_cons h rfl rfl rfl rfl rfl hlistener

theorem emits_liftExcept (x : Except Error α) : Emits p keys (liftExcept x) := by
  cases x with
  | error e => exact emits_throw _
  | ok a => exact emits_pure a

theorem emits_sendPayload (env : Env) {message : ClientMessage} (h : p (.sent message) = true) :
    Emits p keys (sendPayload env message) := by
  rintro s w rfl
  unfold sendPayload
  by_cases hlen : message.encode.length > maxPacketPayloadLength
  · rw [if_pos hlen]
    exact Extends.refl w
  · rw [if_neg hlen]
    cases env.writeError w.attempts with
    | none => exact extends_cons h
    | some e => exact extends_of_eq

theorem emits_deliver (sender : QueueSender) {message : ChannelMessage}
    (h : p (.delivered sender.queue message) = true) : Emits p keys (deliver sender message) := by
  unfold deliver
  split
  · exact emits_pure _
  · exact (emits_note h).bind fun _ => emits_pure _

theorem emits_setChannel (index : ℕ) (handle : ChannelHandle) :
    Emits p keys (setChannel index handle) :=
  emits_modify fun _ => extends_of_eq

theorem emits_removeChannel (index : ℕ) (handle : ChannelHandle)
    (h : p (.removed handle.id handle.sender.queue) = true) :
    Emits p keys (removeChannel index handle) :=
  emits_modify fun _ => extends_cons h

theorem emits_pushChannel (client server : ChannelEndpoint)
    (h : ∀ queue, p (.registered ⟨client.id, server.id⟩ queue) = true) :
    Emits p keys (pushChannel client server) :=
  .get_bind fun w => (emits_modify fun _ => extends_cons (h w.nextQueue)).bind fun _ => emits_pure _

theorem emits_dropReceiver (queue : ℕ) : Emits p keys (dropReceiver queue) :=
  emits_modify fun _ => extends_of_eq

theorem emits_upgradeFrontend (queue : ℕ) : Emits p keys (upgradeFrontend queue) := by
  refine .get_bind fun w => ?_
  split
  · exact emits_pure _
  · exact (emits_dropReceiver queue).bind fun _ => emits_throw _

theorem emits_leftOrPanic (endpoint : ChannelEndpoint) :
    Emits p keys (leftOrPanic endpoint) := by
  unfold leftOrPanic
  split
  · exact emits_pure _
  · exact emits_throw _

/-! ## Handlers -/

/-- A handler that answers nothing is one of `handle_msg`. -/
theorem Emits.replies (h : Emits Effect.isMute keys m) : Emits Effect.isReplies keys m :=
  h.mono (fun _ => Effect.isReplies_of_isMute) (List.Subset.refl _)

theorem emits_adjustWindow (env : Env) (index : ℕ) (channel : ChannelHandle) :
    Emits Effect.isMute keys (adjustWindow env index channel) := by
  refine (emits_leftOrPanic _).bind fun left => ?_
  split
  · exact (emits_sendPayload env rfl).bind fun _ => emits_setChannel _ _
  · exact emits_pure _

theorem emits_handleChannelData (env : Env) (clientId : UInt32) (data : Bytes) (stderr : Bool) :
    Emits Effect.isMute keys (handleChannelData env clientId data stderr) := by
  refine .get_bind fun w => ?_
  split
  · exact emits_pure _
  · split
    · exact emits_pure _
    · refine (emits_leftOrPanic _).bind fun left => ?_
      split
      · exact emits_throw _
      · refine (emits_setChannel _ _).bind fun _ => (emits_deliver _ rfl).bind fun delivered => ?_
        split
        · exact emits_adjustWindow env _ _
        · exact emits_pure _

theorem emits_handleChannelWindowAdjust (clientId count : UInt32) :
    Emits Effect.isMute keys (handleChannelWindowAdjust clientId count) := by
  refine .get_bind fun w => ?_
  split
  · exact emits_pure _
  · simp only
    split
    · exact emits_throw _
    · exact (emits_setChannel _ _).bind fun _ => (emits_deliver _ rfl).bind fun _ => emits_pure _

theorem emits_notifyChannel (clientId : UInt32) (message : ChannelMessage) :
    Emits Effect.isMute keys (notifyChannel clientId message) := by
  refine .get_bind fun w => ?_
  split
  · exact emits_pure _
  · exact (emits_deliver _ rfl).bind fun _ => emits_pure _

theorem emits_handleChannelEof (clientId : UInt32) :
    Emits Effect.isMute keys (handleChannelEof clientId) := by
  refine .get_bind fun w => ?_
  split
  · exact emits_pure _
  · exact (emits_deliver _ rfl).bind fun _ => emits_setChannel _ _

/-- Replace a handle, or remove it when both sides are closed. -/
theorem emits_setOrRemove (index : ℕ) (handle : ChannelHandle) (both : Bool)
    (h : p (.removed handle.id handle.sender.queue) = true) :
    Emits p keys (do
      setChannel index handle
      if both then removeChannel index handle else return) := by
  refine (emits_setChannel _ _).bind fun _ => ?_
  split
  · exact emits_removeChannel _ _ h
  · exact emits_pure _

theorem emits_handleChannelClose (clientId : UInt32) :
    Emits Effect.isMute keys (handleChannelClose clientId) := by
  refine .get_bind fun w => ?_
  split
  · exact emits_pure _
  · exact (emits_deliver _ rfl).bind fun _ => emits_setOrRemove _ _ _ rfl

theorem emits_handleChannelUnknownRequest (env : Env) (clientId : UInt32) (wantReply : Bool) :
    Emits Effect.isReplies keys (handleChannelUnknownRequest env clientId wantReply) := by
  refine .get_bind fun w => ?_
  split
  · exact emits_pure _
  · split
    · exact emits_sendPayload env rfl
    · exact emits_pure _

/-- The reply to a global request, if it is wanted. -/
theorem emits_reply (env : Env) (wantReply : Bool) {message : ClientMessage}
    (h : p (.sent message) = true) :
    Emits p keys (if wantReply then sendPayload env message else return) := by
  split
  · exact emits_sendPayload env h
  · exact emits_pure _

theorem emits_handleGlobalRequestHostsKeyOpenSSH (env : Env) (wantReply : Bool) :
    Emits Effect.isReplies keys (handleGlobalRequestHostsKeyOpenSSH env wantReply) := by
  apply emits_reply
  split <;> rfl

theorem emits_sendUnimplemented (env : Env) :
    Emits Effect.isHandlers keys (sendUnimplemented env) :=
  .get_bind fun _ => emits_sendPayload env rfl

theorem emits_handleExtInfo (extensions : List (Text × Bytes)) :
    Emits p keys (handleExtInfo extensions) := by
  have hping : Emits p keys (if extensions.lookup (ascii "ping@openssh.com") = some (ascii "0") then
      modify fun s => { s with serverPingSupported := true } else return : BackendM Unit) := by
    split
    · exact emits_modify fun _ => extends_of_eq
    · exact emits_pure _
  unfold handleExtInfo
  simp only
  split
  · exact hping
  · split
    · exact (emits_modify fun _ => extends_of_eq).bind fun _ => hping
    · exact emits_pure _

theorem emits_channelClose (env : Env) (id : IdentityPair)
    (hclose : p (.sent (.channelClose id)) = true) (hremoved : ∀ id queue, p (.removed id queue) = true) :
    Emits p keys (channelClose env id) := by
  refine .get_bind fun w => ?_
  split
  · exact emits_throw _
  · exact (emits_sendPayload env hclose).bind fun _ => emits_setOrRemove _ _ _ (hremoved _ _)

/-- The queue of the listener that gets the stream of an accepted channel is in the tables. -/
def OpenGrant.ListedIn (grant : OpenGrant) (s : Backend) : Prop :=
  ∀ queue originator, grant.recipient = .listener queue originator → queue ∈ s.forward.queues

/-- A listener with a number gets the stream, if one does. -/
theorem OpenGrant.ListedIn.numbered {grant : OpenGrant} (h : grant.ListedIn s) (hs : s.NumbersListeners)
    {id : IdentityPair} {queue listener : ℕ}
    (hlistener : (Effect.handedOver id queue grant.holder).listener? = some listener) :
    listener < s.nextListener := by
  refine hs.queues listener ?_
  unfold OpenGrant.holder at hlistener
  split at hlistener
  · cases hrecipient : grant.recipient with
    | user | nobody =>
      rw [hrecipient] at hlistener
      cases hlistener
    | listener queue' originator =>
      rw [hrecipient] at hlistener
      exact Option.some.inj hlistener ▸ h queue' originator hrecipient
  · cases hlistener

theorem extends_acceptChannel (env : Env) (sender window packet : UInt32) {grant : OpenGrant}
    (h : grant.ListedIn s) :
    Holds (· = s) (acceptChannel env sender window packet grant)
      (fun _ => Extends Effect.isReplies keys s) (fun _ => Extends Effect.isReplies keys s) := by
  have hprogram {β : Type} {m : BackendM β} (hm : Emits Effect.isReplies keys m) :
      Holds (Extends Effect.isReplies keys s) m (fun _ => Extends Effect.isReplies keys s)
        (fun _ => Extends Effect.isReplies keys s) := hm.holds s
  rintro w rfl
  refine Holds.bind (hprogram (emits_sendPayload env rfl)) (fun _ => ?_) w (.refl w)
  refine (hprogram (emits_pushChannel _ _ fun _ => rfl)).bind fun queue => ?_
  refine (hprogram (emits_upgradeFrontend queue)).bind fun _ => ?_
  refine Holds.bind (Q := fun _ => Extends Effect.isReplies keys w) ?_ fun _ => ?_
  · exact Holds.modify fun _ hw => hw.note rfl fun hs _ => h.numbered hs
  · split
    · exact hprogram (emits_pure _)
    · exact hprogram ((emits_dropReceiver queue).bind fun _ =>
        emits_channelClose env _ rfl fun _ _ => rfl)

/-- The listeners that a verdict names are in the tables. -/
def VerdictListed (s : Backend) (verdict : Except OpenRefusal OpenGrant) : Prop :=
  ∀ grant, verdict = .ok grant → grant.ListedIn s

theorem listed_verifyAgentConnect (s : Backend) (env : Env) (sender : UInt32) :
    VerdictListed s (s.verifyAgentConnect env sender) := by
  intro grant hgrant queue originator hrecipient
  unfold SessionInner.verifyAgentConnect at hgrant
  split at hgrant
  · cases hgrant
  · split at hgrant
    · cases hgrant
    · cases hgrant
      cases hrecipient

theorem listed_verifyX11 (s : Backend) (env : Env) (sender port : UInt32) :
    VerdictListed s (s.verifyX11 env sender port) := by
  intro grant hgrant queue originator hrecipient
  unfold SessionInner.verifyX11 at hgrant
  split at hgrant
  · cases hgrant
  · split at hgrant
    · cases hgrant
    · split at hgrant
      · cases hgrant
      · cases hgrant
        cases hrecipient

/-- A listener that is found is listed. -/
theorem mem_of_lookup {κ : Type} [BEq κ] [LawfulBEq κ] {map : List (κ × ListenerHandle)} {key : κ}
    {listener : ListenerHandle} (h : map.lookup key = some listener) :
    listener.sender.queue ∈ map.map (·.2.sender.queue) := by
  obtain ⟨front, back, rfl, -⟩ := List.lookup_eq_some_iff.mp h
  exact List.mem_map.mpr ⟨(key, listener), by simp, rfl⟩

theorem listed_verifyForwardedTcpIp (s : Backend) (address : Text) (port : UInt32)
    (originator : Text) (originatorPort : UInt32) :
    VerdictListed s (s.verifyForwardedTcpIp address port originator originatorPort) := by
  intro grant hgrant queue originator hrecipient
  unfold SessionInner.verifyForwardedTcpIp at hgrant
  split at hgrant
  · split at hgrant
    · cases hgrant
    · next hlookup =>
        cases hgrant
        cases hrecipient
        exact List.mem_append_left _ (mem_of_lookup hlookup)
  · cases hgrant

theorem listed_verifyForwardedStreamLocal (s : Backend) (path : Text) :
    VerdictListed s (s.verifyForwardedStreamLocal path) := by
  intro grant hgrant queue originator hrecipient
  unfold SessionInner.verifyForwardedStreamLocal at hgrant
  split at hgrant
  · cases hgrant
  · next hlookup =>
      cases hgrant
      cases hrecipient
      exact List.mem_append_right _ (mem_of_lookup hlookup)

theorem extends_openChannel (env : Env) (sender window packet : UInt32)
    {verdict : Except OpenRefusal OpenGrant} (h : VerdictListed s verdict) :
    Holds (· = s) (openChannel env sender window packet verdict)
      (fun _ => Extends Effect.isReplies keys s) (fun _ => Extends Effect.isReplies keys s) := by
  cases verdict with
  | error refusal => exact emits_sendPayload env rfl s
  | ok grant => exact extends_acceptChannel env sender window packet (h grant rfl)

/-- A `SSH_MSG_KEXINIT` that a backend takes that is not renegotiating. -/
def takesKexInit (s : Backend) (msg : Message) : Bool :=
  match msg with
  | .unrecognized code _ => code = sshMsgKexinit && !s.renegotiating
  | _ => false

/-- `handle_msg` rejects the message: nobody waits for it, or nobody knows it. -/
def rejects (s : Backend) : Message → Bool
  | .unrecognized code _ => !(code = sshMsgKexinit && !s.renegotiating)
  | .serviceAccept .. | .authenticationFailure .. | .authenticationSuccess
  | .channelOpenConfirmation .. | .channelOpenFailure .. | .channelSuccess ..
  | .channelFailure .. => true
  | .channelExtendedData _ dataType _ => dataType ≠ sshExtendedDataStderr
  | _ => false

/-- A message that is rejected is answered with `SSH_MSG_UNIMPLEMENTED` and nothing else. -/
theorem handleMsg_rejects (env : Env) {msg : Message} (idle : Bool) (h : rejects s msg = true) :
    handleMsg env msg idle s = (do sendUnimplemented env; return none : BackendM _) s := by
  cases msg with
  | unrecognized code data =>
    have hnot : ¬(code = sshMsgKexinit ∧ s.renegotiating = false) := by
      rintro ⟨rfl, hidle⟩
      rw [rejects, hidle] at h
      cases h
    change (get >>= fun w => if code = sshMsgKexinit ∧ w.renegotiating = false then _
      else _ : BackendM (Option Bytes)) s = _
    rw [get_bind, if_neg hnot]
  | channelExtendedData recipient dataType data =>
    have hdata : dataType ≠ sshExtendedDataStderr := of_decide_eq_true h
    unfold handleMsg
    simp only [if_neg hdata]
  | serviceAccept | authenticationFailure | authenticationSuccess | channelOpenConfirmation
  | channelOpenFailure | channelSuccess | channelFailure => rfl
  | _ => cases h

/-- A message that is not rejected leaves no key exchange to the caller of `handle_msg`, unless it is
a `SSH_MSG_KEXINIT` that is taken. -/
theorem extends_handleMsg_replies (env : Env) {msg : Message} (idle : Bool) (s : Backend)
    (hrejects : rejects s msg = false) (htakes : takesKexInit s msg = false) :
    Holds (· = s) (handleMsg env msg idle)
      (fun data w => data = none ∧ Extends Effect.isReplies keys s w)
      (fun _ => Extends Effect.isReplies keys s) := by
  have hreturn {m : BackendM Unit} (hm : Emits Effect.isReplies keys m) :
      Holds (· = s) (do m; return none : BackendM (Option Bytes))
        (fun data w => data = none ∧ Extends Effect.isReplies keys s w)
        (fun _ => Extends Effect.isReplies keys s) :=
    (hm s).bind fun _ => Holds.pure fun _ h => ⟨rfl, h⟩
  have hopen {sender window packet : UInt32} {verify : Backend → Except OpenRefusal OpenGrant}
      (hverdict : VerdictListed s (verify s)) :
      Holds (· = s) (do
          openChannel env sender window packet (verify (← get))
          return none : BackendM (Option Bytes))
        (fun data w => data = none ∧ Extends Effect.isReplies keys s w)
        (fun _ => Extends Effect.isReplies keys s) := by
    rintro w rfl
    refine Holds.bind (extends_openChannel env sender window packet hverdict) (fun _ => ?_) w rfl
    exact Holds.pure fun _ h => ⟨rfl, h⟩
  unfold handleMsg
  cases msg with
  | unrecognized code data =>
    have hneither : rejects s (.unrecognized code data) =
        !takesKexInit s (.unrecognized code data) := rfl
    rw [hneither, htakes] at hrejects
    cases hrejects
  | disconnect => exact Holds.throw fun _ h => h.symm ▸ .refl s
  | debug | ignore | unimplemented | authenticationBanner | pong | requestSuccess
  | requestFailure => exact Holds.pure fun _ h => ⟨rfl, h.symm ▸ .refl s⟩
  | serviceAccept | authenticationFailure | authenticationSuccess | channelOpenConfirmation
  | channelOpenFailure | channelSuccess | channelFailure => cases hrejects
  | extInfo extensions => exact hreturn (emits_handleExtInfo extensions)
  | channelData recipient data => exact hreturn (emits_handleChannelData env _ _ _).replies
  | channelExtendedData recipient dataType data =>
    have hdata : dataType = sshExtendedDataStderr := by
      apply Decidable.of_not_not
      exact of_decide_eq_false hrejects
    simp only [if_pos hdata]
    exact hreturn (emits_handleChannelData env _ _ _).replies
  | ping data => exact hreturn (emits_sendPayload env rfl)
  | channelWindowAdjust recipient count => exact hreturn (emits_handleChannelWindowAdjust _ _).replies
  | channelFlowControl | channelExitStatus | channelExitSignal =>
    exact hreturn (emits_notifyChannel _ _).replies
  | channelClose recipient => exact hreturn (emits_handleChannelClose _).replies
  | channelEof recipient => exact hreturn (emits_handleChannelEof _).replies
  | channelUnknownRequest => exact hreturn (emits_handleChannelUnknownRequest env _ _)
  | globalRequestKeepAliveOpenSSH wantReply => exact hreturn (emits_reply env _ rfl)
  | globalRequestHostKeysOpenSSH wantReply keys =>
    exact hreturn (emits_handleGlobalRequestHostsKeyOpenSSH env _)
  | globalUnknownRequest wantReply => exact hreturn (emits_reply env _ rfl)
  | channelOpenForwardedTcpIp => exact hopen (listed_verifyForwardedTcpIp _ _ _ _ _)
  | channelOpenAgentConnect => exact hopen (listed_verifyAgentConnect _ _ _)
  | channelOpenX11 => exact hopen (listed_verifyX11 _ _ _ _)
  | channelOpenForwardedStreamLocal => exact hopen (listed_verifyForwardedStreamLocal _ _)
  | channelOpenUnknown => exact hreturn (emits_sendPayload env rfl)

/-- `handle_msg` notes what handlers note and leaves no key exchange to its caller, but for the
`SSH_MSG_KEXINIT` it takes. -/
theorem extends_handleMsg (env : Env) {msg : Message} (idle : Bool) (s : Backend)
    (htakes : takesKexInit s msg = false) :
    Holds (· = s) (handleMsg env msg idle)
      (fun data w => data = none ∧ Extends Effect.isHandlers keys s w)
      (fun _ => Extends Effect.isHandlers keys s) := by
  have hmono {w : Backend} (h : Extends Effect.isReplies keys s w) :
      Extends Effect.isHandlers keys s w :=
    h.mono (fun _ => Effect.isHandlers_of_isReplies) (List.Subset.refl _)
  cases hrejects : rejects s msg with
  | false =>
    exact (extends_handleMsg_replies env idle s hrejects htakes).mono (fun _ h => h)
      (fun _ _ h => ⟨h.1, hmono h.2⟩) (fun _ _ => hmono)
  | true =>
    rintro w rfl
    rw [handleMsg_rejects env idle hrejects]
    have hanswer : Holds (· = w) (do sendUnimplemented env; return none : BackendM (Option Bytes))
        (fun data w' => data = none ∧ Extends Effect.isHandlers keys w w')
        (fun _ => Extends Effect.isHandlers keys w) :=
      (emits_sendUnimplemented env w).bind fun _ => Holds.pure fun _ h => ⟨rfl, h⟩
    exact hanswer w rfl

/-- A `SSH_MSG_KEXINIT` that is taken changes the flags only: an idle backend hands it to its caller,
another one puts it off. -/
theorem handleMsg_takes (env : Env) {msg : Message} (idle : Bool) (htakes : takesKexInit s msg = true) :
    ∃ data, msg = .unrecognized sshMsgKexinit data ∧ s.renegotiating = false ∧
      handleMsg env msg idle s = .ok (if idle then some data else none)
        { s with
          renegotiating := true
          renegotiateMsg := if idle then s.renegotiateMsg else s.renegotiateMsg.or (some data) } := by
  cases msg with
  | unrecognized code data =>
    obtain ⟨hcode, hidle⟩ := Bool.and_eq_true_iff.mp htakes
    obtain rfl : code = sshMsgKexinit := of_decide_eq_true hcode
    have hidle : s.renegotiating = false := (Bool.not_eq_true' _).mp hidle
    refine ⟨data, rfl, hidle, ?_⟩
    have hmsg : handleMsg env (.unrecognized sshMsgKexinit data) idle s =
        handleKexInit data idle s := by
      change (get >>= fun w => if sshMsgKexinit = sshMsgKexinit ∧ w.renegotiating = false then
        handleKexInit data idle else _ : BackendM (Option Bytes)) s = _
      rw [get_bind, if_pos ⟨rfl, hidle⟩]
    rw [hmsg]
    cases idle <;> rfl
  | _ => cases htakes

end Flatline
