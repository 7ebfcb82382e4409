import Flatline.Session.Turns

/-!
# The user's side of a session

The handles of the user and the backend task talk through queues of 256 places. Events wait in one
until the idle task takes them; the streams of forwarded connections wait in the queue of their
listener until its owner accepts them. A handle that is dropped queues the event that closes or
cancels what it stands for, if there is room, and lets go of its receiver after that. `FrontEnd` is
the backend with these queues, and what the backend does in it is a run of `Backend`.

A stream for a listener whose queue is full makes the task wait in `send().await` until the owner has
accepted another one or has dropped the listener. The confirmation has been sent by then, but no
packet and no event is taken while the task waits, and nothing the user does changes what it goes on
with. The turn of such a packet is therefore put off as a whole (`FrontEnd.hanging`).

Source: `src/session/mod.rs`, `src/session/forward.rs`, `src/session/channel.rs`,
`src/session/backend.rs`.
-/

namespace Flatline

/-- `DEFAULT_CHANNEL_CAPACITY`. -/
def defaultChannelCapacity : ℕ := 256

/-- A forward of either kind. -/
inductive ForwardKey where
  | tcp (addr : SocketAddr)
  | streamLocal (path : Text)
deriving DecidableEq

namespace ForwardKey

/-- The event that cancels a forward. -/
def cancelEvent (wantReply : Bool) : ForwardKey → Event
  | .tcp addr => .globalRequestCancelTcpIpForward wantReply addr
  | .streamLocal path => .globalRequestCancelStreamLocalForward wantReply path

/-- The answer in which the user gets the listener of a forward. -/
def reply (queue : ℕ) : ForwardKey → Reply
  | .tcp addr => .tcpListener addr queue
  | .streamLocal path => .localListener path queue

/-- The receiver of a listener is gone. -/
def receiverDropped (queue : ℕ) : ForwardKey → Input
  | .tcp _ => .tcpListenerDropped queue
  | .streamLocal _ => .localListenerDropped queue

end ForwardKey

/-- The stream of an effect, if it is for the listener with this queue, and the originator. -/
def Effect.streamFor (queue : ℕ) : Effect → Option (IdentityPair × Option SocketAddr)
  | .handedOver id _ (.listener queue' originator) =>
    if queue' = queue then some (id, originator) else none
  | _ => none

/-- The streams that a listener has been given, oldest first. -/
def Backend.streams (s : Backend) (queue : ℕ) : List (IdentityPair × Option SocketAddr) :=
  (s.log.filterMap (Effect.streamFor queue)).reverse

/-! ## Streams for listeners -/

/-- A listener that has got a stream is found among the effects. -/
theorem listener?_of_streamFor {queue : ℕ} {effect : Effect} {stream : IdentityPair × Option SocketAddr}
    (h : effect.streamFor queue = some stream) : effect.listener? = some queue := by
  unfold Effect.streamFor at h
  split at h
  · split at h
    · next hqueue => exact congrArg some hqueue
    · cases h
  · cases h

/-- What a turn without `handle_msg` notes is for no listener. -/
theorem listener?_of_isOwn {effect : Effect} (h : effect.isOwn = true) : effect.listener? = none := by
  cases effect with
  | handedOver id queue recipient => cases recipient <;> first | rfl | cases h
  | _ => rfl

/-- Effects that are for no listener leave the streams alone. -/
theorem Grows.streams_eq {p : Effect → Bool} {keys : List SocketAddr}
    {s w : Backend} (h : Grows p keys s w)
    (hp : ∀ effect, p effect = true → effect.listener? = none) (queue : ℕ) :
    w.streams queue = s.streams queue := by
  obtain ⟨effects, hlog, heffects⟩ := h.log
  have hnone : effects.filterMap (Effect.streamFor queue) = [] := by
    refine List.filterMap_eq_nil_iff.mpr fun effect heffect => ?_
    by_contra hstream
    obtain ⟨stream, hstream⟩ := Option.ne_none_iff_exists'.mp hstream
    have hlistener := hp effect (heffects effect heffect)
    rw [listener?_of_streamFor hstream] at hlistener
    cases hlistener
  rw [Backend.streams, hlog, List.filterMap_append, hnone]
  rfl

/-- A packet arrives. -/
def Input.isPacket : Input → Bool
  | .packet .. => true
  | _ => false

/-- Only a packet brings a stream for a listener. -/
theorem Backend.streams_next {i : Input} (hi : i.isPacket = false) (s : Backend) (queue : ℕ) :
    (s.next i).streams queue = s.streams queue := by
  cases i with
  | packet payload env => cases hi
  | event event env => exact (grows_next_event s event env).streams_eq (fun _ => listener?_of_isOwn) queue
  | receiveFailed error env =>
    have hgrows : Grows Effect.isSettles [] s _ := grows_next_receiveFailed s error env
    exact hgrows.streams_eq (fun _ h => listener?_of_isOwn (Effect.isOwn_of_isSettles h)) queue
  | shutdown | frontendDropped | receiverDropped | tcpListenerDropped | localListenerDropped => rfl

/-- A turn adds to the history. -/
theorem Backend.log_next (s : Backend) (i : Input) : s.log <:+ (s.next i).log := by
  have hof {p : Effect → Bool} {keys : List SocketAddr} {w : Backend} (h : Grows p keys s w) :
      s.log <:+ w.log := by
    obtain ⟨effects, hlog, -⟩ := h.log
    exact ⟨effects, hlog.symm⟩
  cases i with
  | packet payload env =>
    cases hhandles : s.handles env payload with
    | none => exact hof (grows_next_packet hhandles)
    | some msg =>
      have hgrows : Grows (fun effect => effect.isOwn || effect.isHandlers) [] s _ :=
        grows_next_handled hhandles
      exact hof hgrows
  | event event env => exact hof (grows_next_event s event env)
  | receiveFailed error env =>
    have hgrows : Grows Effect.isSettles [] s _ := grows_next_receiveFailed s error env
    exact hof hgrows
  | shutdown | frontendDropped | receiverDropped | tcpListenerDropped | localListenerDropped =>
    exact List.suffix_refl _

/-- A listener keeps the streams that it has been given. -/
theorem Backend.streams_next_prefix (s : Backend) (i : Input) (queue : ℕ) :
    s.streams queue <+: (s.next i).streams queue :=
  List.reverse_prefix.mpr ((s.log_next i).filterMap _)

/-! ## The numbers of listeners -/

/-- Dropping a listener leaves the tables their queues. -/
theorem queues_dropListener {κ : Type} (queue : ℕ) (map : List (κ × ListenerHandle)) :
    (Backend.dropListener queue map).map (·.2.sender.queue) = map.map (·.2.sender.queue) := by
  rw [Backend.dropListener, List.map_map]
  refine List.map_congr_left fun ⟨key, listener⟩ _ => ?_
  change (if listener.sender.queue = queue then _ else listener).sender.queue = _
  split <;> rfl

theorem Backend.NumbersListeners.next {s : Backend} (h : s.NumbersListeners) (i : Input) :
    (s.next i).NumbersListeners := by
  cases i with
  | packet payload env =>
    cases hhandles : s.handles env payload with
    | none => exact (grows_next_packet hhandles).numbered h
    | some msg =>
      have hgrows : Grows _ [] s _ := grows_next_handled hhandles
      exact hgrows.numbered h
  | event event env => exact (grows_next_event s event env).numbered h
  | receiveFailed error env =>
    have hgrows : Grows Effect.isSettles [] s _ := grows_next_receiveFailed s error env
    exact hgrows.numbered h
  | shutdown | frontendDropped | receiverDropped => exact ⟨h.queues, h.streams⟩
  | tcpListenerDropped queue =>
    refine ⟨?_, h.streams⟩
    change ∀ queue' ∈ (Backend.dropListener queue s.forward.tcp).map _ ++ _, _
    rw [queues_dropListener]
    exact h.queues
  | localListenerDropped queue =>
    refine ⟨?_, h.streams⟩
    change ∀ queue' ∈ _ ++ (Backend.dropListener queue s.forward.local').map _, _
    rw [queues_dropListener]
    exact h.queues

/-- No listener has a number that is yet to be given. -/
theorem numbered_of_reachable {s : Backend} {guard : Backend → Input → Prop}
    (h : Backend.ReachableVia guard s) : s.NumbersListeners := by
  refine h.invariant (fun s hinit => ⟨fun queue hqueue => ?_, fun effect heffect => ?_⟩)
    fun s i s' hs _ hstep => hstep.2 ▸ hs.next i
  · rw [hinit.forward] at hqueue
    cases hqueue
  · rw [hinit.log] at heffect
    cases heffect

/-! ## The queues -/

/-- The backend and the queues between it and the user. -/
structure FrontEnd where
  backend : Backend
  /-- The events that wait, oldest first. -/
  events : List Event
  /-- The packet whose stream waits for room in the queue of its listener. -/
  hanging : Option (Bytes × Env)
  /-- The queues of the listeners that have been cancelled or dropped. -/
  dropped : List ℕ
  /-- The queues of the channels that have been dropped. -/
  closed : List ℕ
  /-- The queue of every stream that has been accepted. -/
  accepted : List ℕ

namespace FrontEnd

/-- The streams that wait in the queue of a listener, oldest first. -/
def waiting (f : FrontEnd) (queue : ℕ) : List (IdentityPair × Option SocketAddr) :=
  (f.backend.streams queue).drop (f.accepted.count queue)

/-- Some listener has more streams than its queue holds. -/
def overfull (f : FrontEnd) : Bool :=
  f.backend.log.any fun effect => effect.listener?.any fun queue =>
    decide (defaultChannelCapacity < (f.waiting queue).length)

/-- The state once a packet has been handled. -/
def handled (f : FrontEnd) (payload : Bytes) (env : Env) : FrontEnd :=
  { f with backend := f.backend.next (.packet payload env), hanging := none }

/-- The stream of a packet has to wait. -/
def hangs (f : FrontEnd) (payload : Bytes) (env : Env) : Bool :=
  (f.handled payload env).overfull

/-- The backend is there, and there is room for an event. -/
def hasRoom (f : FrontEnd) : Bool :=
  f.backend.task.running && decide (f.events.length < defaultChannelCapacity)

/-- `try_send`: an event that finds no room is lost. -/
def trySend (f : FrontEnd) (event : Event) : FrontEnd :=
  if f.hasRoom then { f with events := f.events ++ [event] } else f

/-- The user has been given this listener. -/
def hasListener (f : FrontEnd) (key : ForwardKey) (queue : ℕ) : Bool :=
  f.backend.log.any fun
    | .answered (.ok reply) => reply = key.reply queue
    | _ => false

/-- The user has been given this channel. -/
def hasChannel (f : FrontEnd) (id : IdentityPair) (queue : ℕ) : Bool :=
  f.backend.log.any fun
    | .handedOver id' queue' _ => id' = id && queue' = queue
    | _ => false

/-- What can happen next, in the backend or on the user's side. -/
inductive Action where
  | packet (payload : Bytes) (env : Env)
  /-- There is room for the stream that the task waits with. -/
  | goOn
  | receiveFailed (error : Error) (env : Env)
  /-- A handle sends an event. -/
  | submit (event : Event)
  /-- The idle task takes the oldest event. -/
  | take (env : Env)
  | shutdown
  | frontendDropped
  /-- `Listener::accept` returns. -/
  | accept (queue : ℕ)
  /-- `Listener::cancel` sends its event. -/
  | cancel (key : ForwardKey) (queue : ℕ) (wantReply : Bool)
  /-- `Listener::drop`. -/
  | dropListener (key : ForwardKey) (queue : ℕ)
  /-- The receiver of a listener goes, last of all. -/
  | listenerGone (key : ForwardKey) (queue : ℕ)
  /-- `Channel::close` sends its event. -/
  | closeChannel (id : IdentityPair) (queue : ℕ)
  /-- `Channel::drop`. -/
  | dropChannel (id : IdentityPair) (queue : ℕ)
  /-- The receiver of a channel goes. -/
  | channelGone (queue : ℕ)

/-- What the backend gets of an action. -/
def input (f : FrontEnd) : Action → Option Input
  | .packet payload env => if f.hangs payload env then none else some (.packet payload env)
  | .goOn => f.hanging.map fun (payload, env) => .packet payload env
  | .receiveFailed error env => some (.receiveFailed error env)
  | .take env => f.events.head?.map (.event · env)
  | .shutdown => some .shutdown
  | .frontendDropped => some .frontendDropped
  | .listenerGone key queue => some (key.receiverDropped queue)
  | .channelGone queue => some (.receiverDropped queue)
  | .submit _ | .accept _ | .cancel .. | .dropListener .. | .closeChannel .. | .dropChannel .. =>
    none

/-- What happens around the backend. -/
def around (f : FrontEnd) : Action → FrontEnd
  | .packet payload env =>
    if f.hangs payload env then { f with hanging := some (payload, env) } else f
  | .goOn => { f with hanging := none }
  | .submit event => { f with events := f.events ++ [event] }
  | .take _ => { f with events := f.events.tail }
  | .accept queue => { f with accepted := queue :: f.accepted }
  | .cancel key queue wantReply =>
    { f with events := f.events ++ [key.cancelEvent wantReply], dropped := queue :: f.dropped }
  | .dropListener key queue =>
    { f.trySend (key.cancelEvent false) with dropped := queue :: f.dropped }
  | .closeChannel id queue =>
    { f with events := f.events ++ [.channelClose id], closed := queue :: f.closed }
  | .dropChannel id queue => { f.trySend (.channelClose id) with closed := queue :: f.closed }
  | .receiveFailed .. | .shutdown | .frontendDropped | .listenerGone .. | .channelGone _ => f

/-- The front end after an action. -/
def next (f : FrontEnd) (a : Action) : FrontEnd :=
  { f.around a with
    backend := match f.input a with
      | some i => f.backend.next i
      | none => f.backend }

/-- The queues and the handles allow an action. A stream that waits is a handle like the others, so
that the front end is there as long as it does. -/
def allows (f : FrontEnd) : Action → Bool
  | .packet .. | .receiveFailed .. => f.hanging.isNone && f.backend.task.running
  | .goOn => f.hanging.any fun (payload, env) => !f.hangs payload env
  | .submit event => f.hasRoom && f.backend.frontend &&
    match event.channelId? with
    | some id => f.backend.log.any (Effect.handsOver id)
    | none => true
  | .take _ => f.hanging.isNone && !f.events.isEmpty
  | .shutdown => f.hanging.isNone && f.events.isEmpty
  | .frontendDropped => f.hanging.isNone && f.backend.frontend
  | .accept queue => !f.dropped.contains queue && !(f.waiting queue).isEmpty
  | .cancel key queue _ => f.hasRoom && f.hasListener key queue && !f.dropped.contains queue
  | .dropListener key queue => f.hasListener key queue && !f.dropped.contains queue
  | .listenerGone key queue => f.hasListener key queue && f.dropped.contains queue
  | .closeChannel id queue => f.hasRoom && f.hasChannel id queue && !f.closed.contains queue
  | .dropChannel id queue => f.hasChannel id queue && !f.closed.contains queue
  | .channelGone queue => f.closed.contains queue

/-- An action can occur. -/
def possible (f : FrontEnd) (a : Action) : Bool :=
  f.allows a && (f.input a).all (·.possible f.backend)

/-- One step of the front end. -/
abbrev Step : FrontEnd → Action → FrontEnd → Prop :=
  Machine.Step possible next

/-- A session right after the handshake: nothing waits anywhere. -/
structure IsInitial (f : FrontEnd) : Prop where
  backend : f.backend.IsInitial
  events : f.events = []
  hanging : f.hanging = none
  dropped : f.dropped = []
  closed : f.closed = []
  accepted : f.accepted = []

/-- The steps of the backend meet a guard. -/
def Along (guard : Backend → Input → Prop) (f : FrontEnd) (a : Action) : Prop :=
  ∀ i ∈ f.input a, guard f.backend i

instance (guard : Backend → Input → Prop) [∀ s i, Decidable (guard s i)] (f : FrontEnd)
    (a : Action) : Decidable (Along guard f a) :=
  inferInstanceAs (Decidable (∀ i ∈ f.input a, guard f.backend i))

/-- The states of the runs in which the steps of the backend meet `guard`. -/
abbrev ReachableVia (guard : Backend → Input → Prop) : FrontEnd → Prop :=
  Machine.ReachVia IsInitial Step (Along guard)

/-- The states of all runs. -/
abbrev Reachable : FrontEnd → Prop :=
  Machine.Reachable IsInitial Step

variable {f f' : FrontEnd} {a : Action} {queue : ℕ} {guard : Backend → Input → Prop}

/-! ## Steps -/

/-- A packet whose stream finds no room is put off. -/
theorem next_packet_of_hangs {payload : Bytes} {env : Env} (h : f.hangs payload env = true) :
    f.next (.packet payload env) = { f with hanging := some (payload, env) } := by
  simp only [next, input, around, h, if_true]

/-- Any other packet is handled when it arrives. -/
theorem next_packet {payload : Bytes} {env : Env} (hidle : f.hanging = none)
    (h : f.hangs payload env = false) : f.next (.packet payload env) = f.handled payload env := by
  simp only [next, input, around, handled, h, hidle, Bool.false_eq_true, if_false]

/-- A packet that was put off is handled then. -/
theorem next_goOn {payload : Bytes} {env : Env} (h : f.hanging = some (payload, env)) :
    f.next .goOn = f.handled payload env := by
  simp only [next, input, around, handled, h, Option.map_some]

theorem next_take {event : Event} {rest : List Event} (env : Env) (h : f.events = event :: rest) :
    f.next (.take env) = { f with
      backend := f.backend.next (.event event env)
      events := rest } := by
  simp only [next, input, around, h, List.head?_cons, Option.map_some, List.tail_cons]

/-! ## The backend in the front end -/

/-- An action is a step of the backend, or none. -/
theorem backend_step (h : Step f a f') :
    (∃ i, f.input a = some i ∧ Backend.Step f.backend i f'.backend) ∨
      f.input a = none ∧ f'.backend = f.backend := by
  obtain ⟨hpossible, rfl⟩ := h
  have hinput := (Bool.and_eq_true_iff.mp hpossible).2
  cases hi : f.input a with
  | none => exact .inr ⟨rfl, by simp only [next, hi]⟩
  | some i =>
    rw [hi] at hinput
    exact .inl ⟨i, rfl, hinput, by simp only [next, hi]⟩

/-- What the backend does in a run of the front end is a run of the backend. -/
theorem reachable_backend (h : ReachableVia guard f) : Backend.ReachableVia guard f.backend := by
  refine Machine.ReachVia.project (fun _ h => h.backend) (fun f a f' hguard hstep => ?_) h
  obtain ⟨i, hi, hbackend⟩ | ⟨-, hbackend⟩ := backend_step hstep
  · exact .inl ⟨i, hguard i hi, hbackend⟩
  · exact .inr hbackend

/-! ## The bounds of the queues -/

theorem overfull_eq_false_iff :
    f.overfull = false ↔ ∀ queue, (f.waiting queue).length ≤ defaultChannelCapacity := by
  simp only [overfull, List.any_eq_false, Option.any_eq_true, decide_eq_true_eq, not_exists,
    not_and, Nat.not_lt]
  refine ⟨fun h queue => ?_, fun h effect _ queue _ => h queue⟩
  cases hstreams : f.backend.log.filterMap (Effect.streamFor queue) with
  | nil => simp [waiting, Backend.streams, hstreams]
  | cons stream rest =>
    obtain ⟨effect, heffect, hstream⟩ := List.mem_filterMap.mp
      (hstreams ▸ List.mem_cons_self : stream ∈ f.backend.log.filterMap (Effect.streamFor queue))
    exact h effect heffect queue (listener?_of_streamFor hstream)

/-- No queue is over its capacity, and what has been accepted was there. -/
structure Bounded (f : FrontEnd) : Prop where
  events : f.events.length ≤ defaultChannelCapacity
  waiting : ∀ queue, (f.waiting queue).length ≤ defaultChannelCapacity
  accepted : ∀ queue, f.accepted.count queue ≤ (f.backend.streams queue).length

/-- The backend and the accepted streams say what waits for a listener. -/
theorem waiting_congr (hbackend : f'.backend.streams queue = f.backend.streams queue)
    (haccepted : f'.accepted = f.accepted) : f'.waiting queue = f.waiting queue := by
  rw [waiting, hbackend, haccepted]
  rfl

/-- An owner who accepts gets the oldest stream. -/
theorem waiting_accept (f : FrontEnd) (queue other : ℕ) : (f.next (.accept queue)).waiting other =
    if other = queue then (f.waiting other).tail else f.waiting other := by
  change (f.backend.streams other).drop ((queue :: f.accepted).count other) = _
  split
  · next h => rw [h, List.count_cons_self, waiting, List.tail_drop]
  · next h => rw [List.count_cons_of_ne (Ne.symm h), waiting]

theorem length_trySend (h : f.events.length ≤ defaultChannelCapacity) (event : Event) :
    (f.trySend event).events.length ≤ defaultChannelCapacity := by
  unfold trySend hasRoom
  split
  · next hroom =>
      have hlt := of_decide_eq_true (Bool.and_eq_true_iff.mp hroom).2
      simpa using hlt
  · exact h

theorem accepted_trySend (event : Event) : (f.trySend event).accepted = f.accepted := by
  unfold trySend
  split <;> rfl

/-- An event that is sent has found room. -/
theorem length_append (hroom : f.hasRoom = true) (event : Event) :
    (f.events ++ [event]).length ≤ defaultChannelCapacity := by
  have hlt := of_decide_eq_true (Bool.and_eq_true_iff.mp hroom).2
  simpa using hlt

theorem Bounded.events_next (h : f.Bounded) (hallows : f.allows a = true) :
    (f.next a).events.length ≤ defaultChannelCapacity := by
  change (f.around a).events.length ≤ _
  cases a with
  | packet payload env =>
    change (if f.hangs payload env then _ else f).events.length ≤ _
    split
    · exact h.events
    · exact h.events
  | submit event =>
    simp only [allows, Bool.and_eq_true] at hallows
    exact length_append hallows.1.1 event
  | cancel key queue wantReply =>
    simp only [allows, Bool.and_eq_true] at hallows
    exact length_append hallows.1.1 _
  | closeChannel id queue =>
    simp only [allows, Bool.and_eq_true] at hallows
    exact length_append hallows.1.1 _
  | take env => exact (List.tail_sublist _).length_le.trans h.events
  | dropListener key queue => exact length_trySend h.events _
  | dropChannel id queue => exact length_trySend h.events _
  | goOn | receiveFailed | shutdown | frontendDropped | accept | listenerGone | channelGone =>
    exact h.events

/-- A packet is handled when its stream, if it brings one, finds room. -/
theorem waiting_handled {payload : Bytes} {env : Env} (h : f.hangs payload env = false)
    (queue : ℕ) : ((f.handled payload env).waiting queue).length ≤ defaultChannelCapacity :=
  overfull_eq_false_iff.mp h queue

theorem Bounded.waiting_next (h : f.Bounded) (hallows : f.allows a = true) (queue : ℕ) :
    ((f.next a).waiting queue).length ≤ defaultChannelCapacity := by
  have hof {f' : FrontEnd} (hbackend : f'.backend.streams queue = f.backend.streams queue)
      (haccepted : f'.accepted = f.accepted) :
      (f'.waiting queue).length ≤ defaultChannelCapacity := by
    rw [waiting_congr hbackend haccepted]
    exact h.waiting queue
  cases a with
  | packet payload env =>
    cases hhangs : f.hangs payload env with
    | true => exact next_packet_of_hangs hhangs ▸ hof rfl rfl
    | false =>
      simp only [allows, Bool.and_eq_true, Option.isNone_iff_eq_none] at hallows
      exact next_packet hallows.1 hhangs ▸ waiting_handled hhangs queue
  | goOn =>
    obtain ⟨⟨payload, env⟩, hhanging, hroom⟩ := (Option.any_eq_true _ _).mp hallows
    exact next_goOn hhanging ▸ waiting_handled ((Bool.not_eq_true' _).mp hroom) queue
  | take env =>
    simp only [allows, Bool.and_eq_true, Bool.not_eq_true', List.isEmpty_eq_false_iff] at hallows
    obtain ⟨event, rest, hevents⟩ := List.exists_cons_of_ne_nil hallows.2
    exact next_take env hevents ▸ hof (Backend.streams_next rfl f.backend queue) rfl
  | accept other =>
    rw [waiting_accept]
    split
    · exact (List.tail_sublist _).length_le.trans (h.waiting queue)
    · exact h.waiting queue
  | listenerGone key other =>
    exact hof (Backend.streams_next (by cases key <;> rfl) f.backend queue) rfl
  | dropListener key other => exact hof rfl (accepted_trySend _)
  | dropChannel id other => exact hof rfl (accepted_trySend _)
  | submit | cancel | closeChannel => exact hof rfl rfl
  | receiveFailed | shutdown | frontendDropped | channelGone =>
    exact hof (Backend.streams_next rfl f.backend queue) rfl

/-- The streams of a listener stay, whatever happens. -/
theorem streams_prefix (f : FrontEnd) (a : Action) (queue : ℕ) :
    f.backend.streams queue <+: (f.next a).backend.streams queue := by
  unfold FrontEnd.next
  cases f.input a with
  | none => exact List.prefix_refl _
  | some i => exact f.backend.streams_next_prefix i queue

theorem Bounded.accepted_next (h : f.Bounded) (hallows : f.allows a = true) (queue : ℕ) :
    (f.next a).accepted.count queue ≤ ((f.next a).backend.streams queue).length := by
  have hgrows : (f.backend.streams queue).length ≤ ((f.next a).backend.streams queue).length :=
    (f.streams_prefix a queue).length_le
  have hof (haccepted : (f.next a).accepted = f.accepted) :
      (f.next a).accepted.count queue ≤ ((f.next a).backend.streams queue).length :=
    haccepted ▸ (h.accepted queue).trans hgrows
  cases a with
  | accept other =>
    change (other :: f.accepted).count queue ≤ (f.backend.streams queue).length
    by_cases hother : other = queue
    · obtain rfl := hother
      simp only [allows, Bool.and_eq_true, Bool.not_eq_true', List.isEmpty_eq_false_iff,
        FrontEnd.waiting, ne_eq, List.drop_eq_nil_iff, Nat.not_le] at hallows
      rw [List.count_cons_self]
      exact hallows.2
    · rw [List.count_cons_of_ne hother]
      exact h.accepted queue
  | packet payload env =>
    refine hof ?_
    change (if f.hangs payload env then _ else f).accepted = _
    split
    · rfl
    · rfl
  | dropListener | dropChannel => exact hof (accepted_trySend _)
  | _ => exact hof rfl

theorem Bounded.next_allowed (h : f.Bounded) (hallows : f.allows a = true) :
    (f.next a).Bounded :=
  ⟨h.events_next hallows, h.waiting_next hallows, h.accepted_next hallows⟩

theorem Bounded.next (h : f.Bounded) (hstep : Step f a f') : f'.Bounded :=
  hstep.2 ▸ h.next_allowed (Bool.and_eq_true_iff.mp hstep.1).1

/-- No queue ever holds more than it has places. -/
theorem bounded_of_reachable (h : Reachable f) : f.Bounded := by
  refine h.invariant (fun f hinit => ⟨?_, fun queue => ?_, fun queue => ?_⟩)
    fun f a f' hf _ hstep => hf.next hstep
  · rw [hinit.events]
    exact Nat.zero_le _
  · simp [waiting, Backend.streams, hinit.backend.log]
  · simp [hinit.accepted]

/-- A packet that is not for `handle_msg` never hangs. -/
theorem Bounded.hangs_eq_false (h : f.Bounded) {payload : Bytes} {env : Env}
    (hhandles : f.backend.handles env payload = none) : f.hangs payload env = false := by
  refine overfull_eq_false_iff.mpr fun queue => ?_
  have hstreams := (grows_next_packet hhandles).streams_eq (fun _ => listener?_of_isOwn) queue
  have hsame : (f.handled payload env).waiting queue = f.waiting queue := waiting_congr hstreams rfl
  rw [hsame]
  exact h.waiting queue

/-- The queue in which a packet puts a stream says whether it hangs. -/
theorem Bounded.hangs_iff (h : f.Bounded) {payload : Bytes} {env : Env}
    {stream : IdentityPair × Option SocketAddr}
    (hstreams : ∀ other, (f.backend.next (.packet payload env)).streams other =
      f.backend.streams other ++ if other = queue then [stream] else []) :
    (f.handled payload env).waiting queue = f.waiting queue ++ [stream] ∧
      (f.hangs payload env = true ↔ (f.waiting queue).length = defaultChannelCapacity) := by
  have hwaiting (other : ℕ) : (f.handled payload env).waiting other =
      f.waiting other ++ if other = queue then [stream] else [] := by
    change ((f.backend.next (.packet payload env)).streams other).drop (f.accepted.count other) = _
    rw [hstreams, List.drop_append_of_le_length (h.accepted other)]
    rfl
  have hself := hwaiting queue
  rw [if_pos rfl] at hself
  refine ⟨hself, ?_⟩
  have hfits : f.hangs payload env = false ↔ (f.waiting queue).length < defaultChannelCapacity := by
    refine overfull_eq_false_iff.trans ⟨fun hall => ?_, fun hlt other => ?_⟩
    · have hle := hall queue
      rw [hself, List.length_append] at hle
      exact hle
    · rw [hwaiting other]
      split
      · next hother =>
          rw [hother, List.length_append]
          exact hlt
      · rw [List.append_nil]
        exact h.waiting other
  have hle := h.waiting queue
  rw [← Bool.not_eq_false, hfits]
  omega

/-! ## Concrete runs -/

/-- The front end of a backend that has just started. -/
def fresh (s : Backend) : FrontEnd where
  backend := s
  events := []
  hanging := none
  dropped := []
  closed := []
  accepted := []

/-- A new session with one key-exchange method. -/
def agreeable : FrontEnd :=
  fresh .agreeable

theorem reachable_agreeable {guard : FrontEnd → Action → Prop} :
    Machine.ReachVia IsInitial Step guard agreeable :=
  .start ⟨⟨rfl, rfl, rfl, rfl, rfl, rfl, rfl, rfl⟩, rfl, rfl, rfl, rfl, rfl⟩

/-- The front end after a list of actions, as long as they are possible and the backend meets
`guard`. -/
abbrev runVia (guard : Backend → Input → Prop) [∀ s i, Decidable (guard s i)] :
    FrontEnd → List Action → Option FrontEnd :=
  Machine.runVia possible next (Along guard)

/-- What a concrete run of the new session shows of some reachable state. -/
theorem exists_reachable (guard : Backend → Input → Prop) [∀ s i, Decidable (guard s i)]
    (actions : List Action) (p : FrontEnd → Bool)
    (h : (runVia guard agreeable actions).any p = true) :
    ∃ f, ReachableVia guard f ∧ p f = true := by
  obtain ⟨f, hf, hp⟩ := (Option.any_eq_true p _).mp h
  exact ⟨f, Machine.reachVia_runVia reachable_agreeable hf, hp⟩

end FrontEnd

end Flatline
