import Flatline.Session.FrontEnd
import Flatline.Session.Requests
import Flatline.Session.Tasks

/-!
# Remote forwarding of TCP ports

The server answers a request for port 0 with the port it has bound, and any other request with an
empty success. `global_request_tcp_ip_forward` reads a port from either, so it registers a listener
for port 0 only; from then on the listener gets every connection for its address until it is
cancelled.

Source: `src/session/backend.rs` (`global_request_tcp_ip_forward`,
`handle_channel_open_forwarded_tcp_ip`, `global_request_cancel_tcp_ip_forward`).
-/

namespace Flatline

open Triple

/-! ## The protocol -/

/-- The address a server listens on that has been asked for `addr`. -/
def SocketAddr.bound (addr : SocketAddr) (port : UInt16) : SocketAddr :=
  if addr.port = 0 then { addr with port } else addr

/-- The success of a server that has bound `port`: the port is in it if none was asked for. -/
def boundReply (addr : SocketAddr) (port : UInt16) : Bytes :=
  sshMsgRequestSuccess :: if addr.port = 0 then toBeBytes port.toUInt32 else []

/-- The addresses that the loop the task is in goes on to cancel. -/
def Task.cancelling : Task → List SocketAddr
  | .waiting wait => wait.cancelling
  | _ => []

/-- The addresses that a packet reports as bound. -/
def Backend.binds (s : Backend) (payload : Bytes) : List SocketAddr :=
  match s.task with
  | .waiting (.tcpIpForward addr window packet) =>
    (Wait.tcpIpForward addr window packet).touches payload
  | _ => []

/-- The listener of an address stays: its receiver is not dropped, it is not cancelled, it holds a
sender of events, and the server does not bind its address once more. -/
def KeepsListener (addr : SocketAddr) (queue : ℕ) (s : Backend) : Input → Prop
  | .packet payload _ => addr ∉ s.binds payload
  | .event event _ => addr ∉ event.cancels
  | .frontendDropped => False
  | .tcpListenerDropped queue' => queue' ≠ queue
  | .receiveFailed .. | .shutdown | .receiverDropped _ | .localListenerDropped _ => True

/-- What the owner of the listener with a queue can rely on. -/
structure Serves (f : FrontEnd) (addr : SocketAddr) (queue : ℕ) (window packet : UInt32) : Prop where
  /-- A connection to the address is confirmed, and its stream is the next one in the queue. The
  packet has to wait as long as the queue is full. -/
  opens : ∀ (payload : Bytes) (env : Env) (sender theirWindow theirPacket originatorPort : UInt32)
    (originator : Text) (port : UInt16), f.backend.task.running = true →
    Message.parse payload = .ok (.channelOpenForwardedTcpIp sender theirWindow theirPacket addr.host
      addr.port.toUInt32 originator originatorPort) →
    portOf originatorPort = some port → env.writeError f.backend.attempts = none →
    let id : IdentityPair := ⟨f.backend.nextChannelId, sender⟩
    let originator : SocketAddr := ⟨originator, port⟩
    (∃ effects, (f.handled payload env).backend.log =
        effects ++ .handedOver id f.backend.nextQueue (.listener queue (some originator)) ::
          .registered id f.backend.nextQueue :: .sent (.channelOpenConfirmation id window packet) ::
            .received payload :: f.backend.log ∧
      ∀ effect ∈ effects, effect.isSettles = true) ∧
    (f.handled payload env).waiting queue = f.waiting queue ++ [(id, some originator)] ∧
    (f.hangs payload env = true ↔ (f.waiting queue).length = defaultChannelCapacity)
  /-- Its cancellation names it. -/
  cancels : ∀ (wantReply : Bool) (env : Env), f.backend.task = .idle →
    let request := ClientMessage.globalRequest sshGlobalRequestTypeCancelTcpIpForward wantReply
      [.one addr.host, .u32 addr.port.toUInt32]
    request.encode.length ≤ maxPacketPayloadLength → env.writeError f.backend.attempts = none →
    ∃ effects, (f.backend.next (.event ((ForwardKey.tcp addr).cancelEvent wantReply) env)).log =
        effects ++ .sent request :: f.backend.log ∧
      ∀ effect ∈ effects, effect.isSettles = true

/-- An answer makes a listener: it is returned under the address the server has bound and with a queue
of its own, it is the one new entry of the table, and it is served from then on. -/
structure BindsListener (f : FrontEnd) (addr : SocketAddr) (window packet : UInt32) (port : UInt16)
    (env : Env) : Prop where
  answered : ∃ effects, (f.next (.packet (boundReply addr port) env)).backend.log =
    effects ++ .answered (.ok (.tcpListener (addr.bound port) f.backend.nextListener)) ::
      .received (boundReply addr port) :: f.backend.log
  own : f.backend.nextListener ∉ f.backend.forward.queues ∧ f.waiting f.backend.nextListener = []
  table : ∀ other,
    (f.next (.packet (boundReply addr port) env)).backend.forward.listenersAt other =
      if other = addr.bound port then [⟨⟨f.backend.nextListener, false⟩, window, packet⟩]
      else f.backend.forward.listenersAt other
  served : ∀ t, Machine.ReachVia (· = f.next (.packet (boundReply addr port) env)) FrontEnd.Step
    (FrontEnd.Along (KeepsListener (addr.bound port) f.backend.nextListener)) t →
      Serves t (addr.bound port) f.backend.nextListener window packet

variable {f : FrontEnd} {s t w : Backend} {addr : SocketAddr} {queue : ℕ} {listener : ListenerHandle}

/-! ## The life of a listener -/

/-- The table has the listener, it is not about to be cancelled, and events can be sent. -/
structure Listens (s : Backend) (addr : SocketAddr) (listener : ListenerHandle) : Prop where
  table : s.forward.listenersAt addr = [listener]
  frontend : s.frontend = true
  kept : addr ∉ s.task.cancelling

theorem cancelling_of_not_waiting {task : Task} (h : task.isWaiting = false) :
    task.cancelling = [] := by
  cases task with
  | waiting wait => cases h
  | idle | rekeying _ _ | exited _ => rfl

theorem cancelling_settleEvent {env : Env} {r : EStateM.Result Fault Backend Progress}
    {extra : List SocketAddr}
    (h : ∀ wait w, r = .ok (.wait wait) w → wait.cancelling ⊆ extra) :
    (Backend.settleEvent env r).task.cancelling ⊆ extra := by
  cases htask : (Backend.settleEvent env r).task with
  | waiting wait =>
    obtain ⟨w, hr, -⟩ := settleEvent_eq_waiting htask
    exact h wait w hr
  | idle | rekeying _ _ | exited _ => exact List.nil_subset _

/-- A loop that has handed a packet on has the same addresses left. -/
theorem cancelling_settleHandled (env : Env) {task : Task} (hrunning : task.running = true)
    (r : EStateM.Result Fault Backend (Option Bytes)) :
    (Backend.settleHandled env task r).task.cancelling ⊆ task.cancelling := by
  cases htask : (Backend.settleHandled env task r).task with
  | waiting wait =>
    rw [(settleHandled_eq_waiting hrunning htask).1]
    exact List.Subset.refl _
  | idle | rekeying _ _ | exited _ => exact List.nil_subset _

/-- A packet adds nothing to what is left to cancel. -/
theorem cancelling_next_packet (s : Backend) (payload : Bytes) (env : Env) :
    (s.next (.packet payload env)).task.cancelling ⊆ s.task.cancelling := by
  have hturn := packetTurn s payload env
  generalize s.next (.packet payload env) = t at hturn ⊢
  cases hturn with
  | handled hhandles => exact cancelling_settleHandled env (running_of_handles hhandles) _
  | reacted htask hreact hpayload =>
    rw [htask]
    exact cancelling_settleEvent fun wait w hrun => ((asks_react hreact _).of_ok rfl hrun).cancelling
  | exchanged htask hhead =>
    rw [cancelling_of_not_waiting (settleRekey_not_waiting env _ _)]
    exact List.nil_subset _
  | refused hrunning hparse => exact cancelling_settleHandled env hrunning _
  | exited htask => exact List.Subset.refl _

theorem cancelling_next_event (s : Backend) (event : Event) (env : Env) :
    (s.next (.event event env)).task.cancelling ⊆ event.mayCancel s := by
  change (s.onEvent event env).task.cancelling ⊆ _
  by_cases hrenegotiate : event = .renegotiate
  · subst hrenegotiate
    change (Backend.startRekey env .user none (Backend.failRekey env .user)
      { s with renegotiating := true }).task.cancelling ⊆ _
    rw [cancelling_of_not_waiting (startRekey_not_waiting env _ _ fun e w =>
      failRekey_not_waiting env .user e w)]
    exact List.nil_subset _
  · rw [Backend.onEvent_eq hrenegotiate]
    refine cancelling_settleEvent fun wait w hrun => ?_
    exact ((awaits_startEvent env event s).of_ok rfl hrun).cancelling

theorem cancelling_next_receiveFailed (s : Backend) (error : Error) (env : Env) :
    (s.next (.receiveFailed error env)).task.cancelling = [] := by
  apply cancelling_of_not_waiting
  change (s.onReceiveFailed error env).task.isWaiting = false
  unfold Backend.onReceiveFailed
  cases htask : s.task with
  | idle => rfl
  | waiting wait => exact endEvent_not_waiting env _ _
  | rekeying origin phase => exact failRekey_not_waiting env origin error _
  | exited result =>
    simp only
    rw [htask]
    rfl

theorem Listens.of_grows {p : Effect → Bool} {keys : List SocketAddr} (hs : Listens s addr listener)
    (hgrows : Grows p keys s t) (hkeys : addr ∉ keys) (hkept : addr ∉ t.task.cancelling) :
    Listens t addr listener :=
  ⟨(hgrows.tcp addr hkeys).trans hs.table, hgrows.frontend.trans hs.frontend, hkept⟩

theorem Listens.next_packet (hs : Listens s addr listener) {payload : Bytes} {env : Env}
    (hbinds : addr ∉ s.binds payload) : Listens (s.next (.packet payload env)) addr listener := by
  have hkept : addr ∉ (s.next (.packet payload env)).task.cancelling :=
    fun h => hs.kept (cancelling_next_packet s payload env h)
  cases hhandles : s.handles env payload with
  | none =>
    refine hs.of_grows (grows_next_packet hhandles) (fun htouches => ?_) hkept
    have hcancelling := hs.kept
    unfold Backend.touches at htouches
    unfold Backend.binds at hbinds
    cases htask : s.task with
    | idle | rekeying _ _ | exited _ =>
      rw [htask] at htouches
      cases htouches
    | waiting wait =>
      rw [htask] at htouches hbinds hcancelling
      cases wait with
      | tcpIpForward addr' window packet => exact hbinds htouches
      | cancelTcpIpForward addr' rest forwardLocal =>
        rw [List.mem_singleton.mp htouches] at hcancelling
        exact hcancelling List.mem_cons_self
      | _ => cases htouches
  | some msg =>
    have hgrows : Grows _ [] s (s.next (.packet payload env)) := grows_next_handled hhandles
    exact hs.of_grows hgrows List.not_mem_nil hkept

theorem Listens.next_event (hs : Listens s addr listener) (hopen : listener.sender.closed = false)
    {event : Event} {env : Env} (hcancels : addr ∉ event.cancels) :
    Listens (s.next (.event event env)) addr listener := by
  refine hs.of_grows (grows_next_event s event env) hcancels fun h => ?_
  have hcancel := cancelling_next_event s event env h
  cases event with
  | globalRequestCancelTcpIpForward wantReply addr' => exact hcancels hcancel
  | clean channel forwardTcp forwardLocal =>
    -- only closed listeners are cleaned away
    obtain ⟨other, hother, hclosed⟩ := mem_closedKeys_iff.mp hcancel
    rw [hs.table] at hother
    rw [List.mem_singleton.mp hother, hopen] at hclosed
    cases hclosed
  | _ => cases hcancel

/-- Dropping another listener leaves this one alone. -/
theorem listenersAt_dropped {forward : Forward} {addr : SocketAddr} {queue : ℕ}
    (htable : forward.listenersAt addr = [listener]) (hqueue : queue ≠ listener.sender.queue) :
    { forward with tcp := Backend.dropListener queue forward.tcp }.listenersAt addr = [listener] := by
  have hmap (map : List (SocketAddr × ListenerHandle)) :
      ((Backend.dropListener queue map).filter fun entry => entry.1 = addr).map Prod.snd =
        ((map.filter fun entry => entry.1 = addr).map Prod.snd).map fun listener =>
          if listener.sender.queue = queue then { listener with sender.closed := true }
          else listener := by
    rw [Backend.dropListener, List.filter_map, List.map_map, List.map_map]
    rfl
  refine (hmap forward.tcp).trans ?_
  change (forward.listenersAt addr).map _ = _
  rw [htable, List.map_singleton, if_neg (Ne.symm hqueue)]

theorem Listens.next (hs : Listens s addr listener) (hopen : listener.sender.closed = false)
    {i : Input} (hkeeps : KeepsListener addr listener.sender.queue s i) :
    Listens (s.next i) addr listener := by
  cases i with
  | packet payload env => exact hs.next_packet hkeeps
  | event event env => exact hs.next_event hopen hkeeps
  | receiveFailed error env =>
    have hgrows : Grows Effect.isSettles [] s _ := grows_next_receiveFailed s error env
    refine hs.of_grows hgrows List.not_mem_nil fun h => ?_
    rw [cancelling_next_receiveFailed s error env] at h
    cases h
  | shutdown => exact ⟨hs.table, hs.frontend, List.not_mem_nil⟩
  | frontendDropped => exact hkeeps.elim
  | receiverDropped queue => exact ⟨hs.table, hs.frontend, hs.kept⟩
  | tcpListenerDropped queue => exact ⟨listenersAt_dropped hs.table hkeeps, hs.frontend, hs.kept⟩
  | localListenerDropped queue => exact ⟨hs.table, hs.frontend, hs.kept⟩

/-! ## What a listener gets -/

/-- A channel that is granted to somebody who takes it is confirmed, registered and handed over. -/
theorem acceptChannel_run (w : Backend) (env : Env) (sender window packet : UInt32)
    {grant : OpenGrant} (htaken : grant.taken = true) (hfrontend : w.frontend = true)
    (hwrite : env.writeError w.attempts = none) :
    let id : IdentityPair := ⟨w.nextChannelId, sender⟩
    ∃ w', acceptChannel env sender window packet grant w = .ok () w' ∧
      w'.log = .handedOver id w.nextQueue grant.recipient :: .registered id w.nextQueue ::
        .sent (.channelOpenConfirmation id grant.initialWindowSize grant.maximumPacketSize) ::
          w.log := by
  intro id
  let confirmation := ClientMessage.channelOpenConfirmation id grant.initialWindowSize
    grant.maximumPacketSize
  have hsend : sendPayload env confirmation w = .ok () (w.afterSend confirmation) := by
    rw [sendPayload_run env w (of_decide_eq_true rfl), hwrite]
  let w₁ := w.afterSend confirmation
  let w₂ : Backend := { w₁ with
    channels := w₁.channels ++
      [⟨.opened id.client grant.initialWindowSize grant.maximumPacketSize,
        .opened id.server window packet, ⟨w₁.nextQueue, false⟩⟩]
    nextQueue := w₁.nextQueue + 1
    log := .registered id w₁.nextQueue :: w₁.log }
  have hpush : pushChannel (.opened id.client grant.initialWindowSize grant.maximumPacketSize)
      (.opened id.server window packet) w₁ = .ok w.nextQueue w₂ := rfl
  have hupgrade : upgradeFrontend w.nextQueue w₂ = .ok () w₂ := by
    change (if w.frontend = true then pure () else _ : BackendM Unit) w₂ = _
    rw [if_pos hfrontend]
    rfl
  refine ⟨w₂.note (.handedOver id w.nextQueue grant.recipient), ?_, rfl⟩
  have hnote : note (.handedOver id w.nextQueue grant.holder) w₂ =
      .ok () (w₂.note (.handedOver id w.nextQueue grant.recipient)) := by
    rw [OpenGrant.holder, if_pos htaken]
    rfl
  unfold acceptChannel
  rw [get_bind, bind_of_ok hsend, bind_of_ok hpush, bind_of_ok hupgrade, bind_of_ok hnote,
    if_pos htaken]
  rfl

/-- Looking an address up finds its listener. -/
theorem lookup_of_filter {map : List (SocketAddr × ListenerHandle)}
    (h : (map.filter fun entry => entry.1 = addr).map Prod.snd = [listener]) :
    map.lookup addr = some listener := by
  induction map with
  | nil => cases h
  | cons entry rest ih =>
    by_cases hkey : entry.1 = addr
    · rw [List.filter_cons_of_pos (by simpa using hkey), List.map_cons] at h
      injection h with hlistener
      rw [List.lookup_cons, hkey, beq_self_eq_true]
      exact congrArg some hlistener
    · rw [List.filter_cons_of_neg (by simpa using hkey)] at h
      rw [List.lookup_cons, beq_false_of_ne (Ne.symm hkey)]
      exact ih h

theorem portOf_toUInt32 (port : UInt16) : portOf port.toUInt32 = some port := by
  unfold portOf
  rw [UInt16.toNat_toUInt32, if_pos port.toNat_lt_size, UInt16.ofNat_toNat]

/-- The turn of a connection to a listener. -/
theorem Listens.opens {window packet : UInt32}
    (ht : Listens t addr ⟨⟨queue, false⟩, window, packet⟩) {payload : Bytes} {env : Env}
    {sender theirWindow theirPacket originatorPort : UInt32} {originator : Text} {port : UInt16}
    (hrunning : t.task.running = true)
    (hparse : Message.parse payload = .ok (.channelOpenForwardedTcpIp sender theirWindow theirPacket
      addr.host addr.port.toUInt32 originator originatorPort))
    (hport : portOf originatorPort = some port) (hwrite : env.writeError t.attempts = none) :
    let id : IdentityPair := ⟨t.nextChannelId, sender⟩
    ∃ effects, (t.next (.packet payload env)).log =
        effects ++ .handedOver id t.nextQueue (.listener queue (some ⟨originator, port⟩)) ::
          .registered id t.nextQueue :: .sent (.channelOpenConfirmation id window packet) ::
            .received payload :: t.log ∧
      ∀ effect ∈ effects, effect.isSettles = true := by
  have hhandles : t.handles env payload = some (.channelOpenForwardedTcpIp sender theirWindow
      theirPacket addr.host addr.port.toUInt32 originator originatorPort) :=
    handles_of_isRequest hrunning hparse rfl
  let listener : ListenerHandle := ⟨⟨queue, false⟩, window, packet⟩
  have hlookup : (t.afterRecv payload).forward.tcp.lookup ⟨addr.host, addr.port⟩ = some listener :=
    lookup_of_filter ht.table
  let grant := listener.grant (some ⟨originator, port⟩)
  have hverify : (t.afterRecv payload).verifyForwardedTcpIp addr.host addr.port.toUInt32 originator
      originatorPort = .ok grant := by
    unfold SessionInner.verifyForwardedTcpIp
    rw [portOf_toUInt32, hport]
    simp only
    rw [hlookup]
  have htaken : grant.taken = true := rfl
  obtain ⟨w, haccept, hlog⟩ := acceptChannel_run (t.afterRecv payload) env sender theirWindow
    theirPacket htaken ht.frontend hwrite
  have hrun : handleMsg env (.channelOpenForwardedTcpIp sender theirWindow theirPacket addr.host
      addr.port.toUInt32 originator originatorPort) t.task.isIdle (t.afterRecv payload) =
        .ok none w := by
    change (do
      openChannel env sender theirWindow theirPacket
        ((t.afterRecv payload).verifyForwardedTcpIp addr.host addr.port.toUInt32 originator
          originatorPort)
      return none : BackendM (Option Bytes)) (t.afterRecv payload) = _
    rw [hverify, openChannel, bind_of_ok haccept]
    rfl
  have hsettled : Grows Effect.isSettles [] w _ := grows_settleHandled env t.task (.ok none w)
  obtain ⟨effects, heffects, hsettles⟩ := hsettled.log
  rw [next_of_handles hhandles, hrun, heffects]
  exact ⟨effects, congrArg (effects ++ ·) hlog, hsettles⟩

/-- A stream that is handed over comes after all the others. -/
theorem streams_of_log {payload : Bytes} {id : IdentityPair} {originator : Option SocketAddr}
    {effects : List Effect} {message : ClientMessage}
    (hlog : t.log = effects ++ .handedOver id s.nextQueue (.listener queue originator) ::
      .registered id s.nextQueue :: .sent message :: .received payload :: s.log)
    (hsettles : ∀ effect ∈ effects, effect.isSettles = true) (other : ℕ) :
    t.streams other = s.streams other ++ if other = queue then [(id, originator)] else [] := by
  have hnone : effects.filterMap (Effect.streamFor other) = [] := by
    refine List.filterMap_eq_nil_iff.mpr fun effect heffect => ?_
    have hown := listener?_of_isOwn (Effect.isOwn_of_isSettles (hsettles effect heffect))
    by_contra hstream
    obtain ⟨stream, hstream⟩ := Option.ne_none_iff_exists'.mp hstream
    rw [listener?_of_streamFor hstream] at hown
    cases hown
  have hrest : (Effect.registered id s.nextQueue :: .sent message :: .received payload ::
      s.log).filterMap (Effect.streamFor other) = s.log.filterMap (Effect.streamFor other) := rfl
  rw [Backend.streams, hlog, List.filterMap_append, hnone, List.nil_append, List.filterMap_cons,
    hrest, Backend.streams]
  by_cases hother : other = queue
  · simp [Effect.streamFor, hother]
  · simp [Effect.streamFor, hother, Ne.symm hother]

theorem Listens.serves {window packet : UInt32} (hf : f.Bounded)
    (ht : Listens f.backend addr ⟨⟨queue, false⟩, window, packet⟩) :
    Serves f addr queue window packet where
  opens := by
    intro payload env sender theirWindow theirPacket originatorPort originator port hrunning hparse
      hport hwrite id originator
    obtain ⟨effects, hlog, hsettles⟩ := ht.opens hrunning hparse hport hwrite
    exact ⟨⟨effects, hlog, hsettles⟩, hf.hangs_iff (streams_of_log hlog hsettles)⟩
  cancels := by
    intro wantReply env hidle request hlen hwrite
    have hsend : sendPayload env request f.backend = .ok () (f.backend.afterSend request) := by
      rw [sendPayload_run env f.backend hlen, hwrite]
    have hstart : ∃ progress w, startEvent env (.globalRequestCancelTcpIpForward wantReply addr)
        f.backend = .ok progress w ∧ w.log = .sent request :: f.backend.log := by
      change ∃ progress w, (do
        sendPayload env request
        if wantReply then return .wait (.cancelTcpIpForward addr [] false)
        else
          removeTcp addr
          return .done .done : BackendM Progress) f.backend = .ok progress w ∧ _
      rw [bind_of_ok hsend]
      cases wantReply <;> exact ⟨_, _, rfl, rfl⟩
    obtain ⟨progress, w, hrun, hlog⟩ := hstart
    have hsettled : Grows Effect.isSettles [] w _ := grows_settleEvent env (.ok progress w)
    obtain ⟨effects, heffects, hsettles⟩ := hsettled.log
    change ∃ effects, (Backend.settleEvent env (startEvent env
      (.globalRequestCancelTcpIpForward wantReply addr) f.backend)).log = _ ∧ _
    rw [hrun, heffects]
    exact ⟨effects, congrArg (effects ++ ·) hlog, hsettles⟩

/-- A listener in the table is served until it goes away. -/
theorem Listens.serves_reachable {window packet : UInt32} {g : FrontEnd} (hf : f.Bounded)
    (hs : Listens f.backend addr ⟨⟨queue, false⟩, window, packet⟩)
    (hg : Machine.ReachVia (· = f) FrontEnd.Step (FrontEnd.Along (KeepsListener addr queue)) g) :
    Serves g addr queue window packet := by
  have hlistens : g.Bounded ∧ Listens g.backend addr ⟨⟨queue, false⟩, window, packet⟩ := by
    induction hg with
    | start h =>
      obtain rfl := h
      exact ⟨hf, hs⟩
    | next _ hkeeps hstep ih =>
      refine ⟨ih.1.next hstep, ?_⟩
      obtain ⟨i, hi, -, hnext⟩ | ⟨-, hsame⟩ := FrontEnd.backend_step hstep
      · exact hnext ▸ ih.2.next rfl (hkeeps i hi)
      · exact hsame ▸ ih.2
  exact hlistens.2.serves hlistens.1

/-! ## Answers to a request -/

/-- The request names the address, and the task waits for its answer. -/
theorem next_globalRequestTcpIPForward {env : Env} {window packet : UInt32}
    (hlen : (ClientMessage.globalRequest sshGlobalRequestTypeTcpIpForward true
      [.one addr.host, .u32 addr.port.toUInt32]).encode.length ≤ maxPacketPayloadLength)
    (hwrite : env.writeError s.attempts = none) :
    s.next (.event (.globalRequestTcpIPForward addr window packet) env) =
      { s.afterSend (.globalRequest sshGlobalRequestTypeTcpIpForward true
          [.one addr.host, .u32 addr.port.toUInt32]) with
        task := .waiting (.tcpIpForward addr window packet) } := by
  have hsend := sendPayload_run env s hlen
  rw [hwrite] at hsend
  change Backend.settleEvent env (globalRequestTcpIpForward env addr window packet s) = _
  unfold globalRequestTcpIpForward
  rw [bind_of_ok hsend]
  rfl

/-- The port is in the answer to a request for port 0. -/
theorem consumeU32_boundReply (port : UInt16) (h : addr.port = 0) :
    Consumer.run' Consumer.consumeU32 ((boundReply addr port).drop 1) = .ok port.toUInt32 := by
  unfold boundReply Consumer.run'
  rw [if_pos h, List.drop_one, List.tail_cons, ← List.append_nil (toBeBytes _),
    Consumer.consumeU32_append]

theorem finishTcpIpForward_zero {window packet : UInt32} {port : UInt16} (hport : addr.port = 0)
    (hfrontend : w.frontend = true) :
    finishTcpIpForward addr window packet (boundReply addr port) w =
      .ok (.done (.tcpListener (addr.bound port) w.nextListener))
        { w with
          nextListener := w.nextListener + 1
          forward.tcp := insertKey w.forward.tcp (addr.bound port)
            ⟨⟨w.nextListener, false⟩, window, packet⟩ } := by
  have hupgrade : upgradeFrontendForListener w = .ok () w := by
    change (if w.frontend = true then pure () else _ : BackendM Unit) w = _
    rw [if_pos hfrontend]
    rfl
  have hbound : addr.bound port = { addr with port } := if_pos hport
  unfold finishTcpIpForward
  rw [consumeU32_boundReply port hport, liftExcept_ok_bind, portOf_toUInt32]
  simp only
  rw [bind_of_ok hupgrade, hbound]
  rfl

/-- A port is read from every other success, too, and none is there; and nobody is left to take the
listener once the front end is gone. -/
theorem finishTcpIpForward_fails (window packet : UInt32) (port : UInt16)
    (h : ¬(addr.port = 0 ∧ w.frontend = true)) :
    ∃ e, finishTcpIpForward addr window packet (boundReply addr port) w = .error (.error e) w := by
  by_cases hport : addr.port = 0
  · have hfrontend : ¬w.frontend = true := fun hfrontend => h ⟨hport, hfrontend⟩
    have hupgrade : ∃ e, upgradeFrontendForListener w = .error (.error e) w := by
      unfold upgradeFrontendForListener
      rw [get_bind, if_neg hfrontend]
      exact ⟨_, rfl⟩
    obtain ⟨e, he⟩ := hupgrade
    refine ⟨e, ?_⟩
    unfold finishTcpIpForward
    rw [consumeU32_boundReply port hport, liftExcept_ok_bind, portOf_toUInt32]
    simp only
    exact bind_of_error he
  · have hread : ∃ e, Consumer.run' Consumer.consumeU32 ((boundReply addr port).drop 1) =
        .error e := by
      unfold boundReply
      rw [if_neg hport]
      exact ⟨_, rfl⟩
    obtain ⟨e, he⟩ := hread
    refine ⟨e, ?_⟩
    unfold finishTcpIpForward
    rw [he]
    rfl

theorem react_boundReply {env : Env} {window packet : UInt32} {port : UInt16} :
    Wait.react env (.tcpIpForward addr window packet) (boundReply addr port) =
      some (finishTcpIpForward addr window packet (boundReply addr port)) := by
  simp only [Wait.react]
  exact if_pos rfl

/-- The turn in which the answer arrives. -/
theorem next_boundReply {env : Env} {window packet : UInt32} (port : UInt16)
    (hwait : s.task = .waiting (.tcpIpForward addr window packet)) :
    s.next (.packet (boundReply addr port) env) = Backend.settleEvent env
      (finishTcpIpForward addr window packet (boundReply addr port)
        (s.afterRecv (boundReply addr port))) :=
  next_of_react hwait (fun h => by cases h) react_boundReply

/-- The end of an event notes the answer first. -/
theorem endEvent_answers (env : Env) (w : Backend) (result : Except Error Reply) :
    ∃ effects, (w.endEvent env result).log = effects ++ .answered result :: w.log := by
  have hgrows : Grows Effect.isEnds [] (w.note (.answered result)) _ := grows_endEvent env w result
  obtain ⟨effects, hlog, -⟩ := hgrows.log
  exact ⟨effects, hlog⟩

theorem Listens.of_endEvent {env : Env} {result : Except Error Reply}
    (h : w.forward.listenersAt addr = [listener]) (hfrontend : w.frontend = true) :
    Listens (w.endEvent env result) addr listener := by
  have hgrows : Grows Effect.isSettles [] w _ := grows_settles_endEvent env w result
  refine ⟨(hgrows.tcp addr List.not_mem_nil).trans h, hgrows.frontend.trans hfrontend, ?_⟩
  rw [cancelling_of_not_waiting (endEvent_not_waiting env w result)]
  exact List.not_mem_nil

/-- The answer is for the loop that waits, and its turn goes as in the backend alone. -/
theorem next_answer {window packet : UInt32} (hf : f.Bounded) (hidle : f.hanging = none)
    (hwait : f.backend.task = .waiting (.tcpIpForward addr window packet)) (payload : Bytes)
    (env : Env) (hreact : (Wait.react env (.tcpIpForward addr window packet) payload).isSome = true) :
    f.next (.packet payload env) = f.handled payload env ∧ (f.handled payload env).Bounded := by
  have hhandles : f.backend.handles env payload = none := by
    unfold Backend.handles
    rw [hwait]
    exact if_pos hreact
  have hnext : f.next (.packet payload env) = f.handled payload env :=
    FrontEnd.next_packet hidle (hf.hangs_eq_false hhandles)
  have hrunning : f.backend.task.running = true := by
    rw [hwait]
    rfl
  have hallows : f.allows (.packet payload env) = true := by
    simp [FrontEnd.allows, hidle, hrunning]
  exact ⟨hnext, hnext ▸ hf.next_allowed hallows⟩

/-- An answer to a request for port 0 makes a listener. -/
theorem bindsListener_zero {window packet : UInt32} (hf : f.Reachable) (hidle : f.hanging = none)
    (hwait : f.backend.task = .waiting (.tcpIpForward addr window packet)) (hport : addr.port = 0)
    (hfrontend : f.backend.frontend = true) (port : UInt16) (env : Env) :
    BindsListener f addr window packet port env := by
  have hbounded := FrontEnd.bounded_of_reachable hf
  have hreachable : Backend.Reachable f.backend :=
    FrontEnd.reachable_backend (hf.mono fun _ _ _ _ _ => trivial)
  have hnumbered := numbered_of_reachable hreachable
  let s := f.backend
  let listener : ListenerHandle := ⟨⟨s.nextListener, false⟩, window, packet⟩
  let w : Backend := { s.afterRecv (boundReply addr port) with
    nextListener := s.nextListener + 1
    forward.tcp := insertKey s.forward.tcp (addr.bound port) listener }
  let reply : Except Error Reply := .ok (.tcpListener (addr.bound port) s.nextListener)
  obtain ⟨hturn, hafter⟩ := next_answer hbounded hidle hwait (boundReply addr port) env
    (by rw [react_boundReply]; rfl)
  have hnext : (f.handled (boundReply addr port) env).backend = w.endEvent env reply := by
    change s.next (.packet (boundReply addr port) env) = _
    rw [next_boundReply port hwait,
      finishTcpIpForward_zero (w := s.afterRecv (boundReply addr port)) hport hfrontend]
    rfl
  -- the new entry is the only one at its address, whatever was there before
  have hself : w.forward.listenersAt (addr.bound port) = [listener] :=
    congrArg (List.map Prod.snd) (Entries.filter_insertKey_self s.forward.tcp (addr.bound port)
      listener)
  have hgrows : Grows Effect.isSettles [] w _ := grows_settles_endEvent env w reply
  refine ⟨?_, ⟨fun hmem => ?_, ?_⟩, fun other => ?_, fun t ht => ?_⟩
  · obtain ⟨effects, hlog⟩ := endEvent_answers env w reply
    exact ⟨effects, by rw [hturn, hnext, hlog]; rfl⟩
  · exact absurd (hnumbered.queues _ hmem) (Nat.lt_irrefl _)
  -- a queue of this number has not been there before, so no stream waits in it
  · have hstreams : f.backend.streams f.backend.nextListener = [] := by
      rw [Backend.streams, List.reverse_eq_nil_iff, List.filterMap_eq_nil_iff]
      intro effect heffect
      by_contra hstream
      obtain ⟨stream, hstream⟩ := Option.ne_none_iff_exists'.mp hstream
      exact absurd (hnumbered.streams effect heffect _ (listener?_of_streamFor hstream))
        (Nat.lt_irrefl _)
    rw [FrontEnd.waiting, hstreams, List.drop_nil]
  · rw [hturn, hnext, hgrows.tcp other List.not_mem_nil]
    by_cases hother : other = addr.bound port
    · rw [if_pos hother, hother, hself]
    · rw [if_neg hother]
      exact congrArg (List.map Prod.snd) (Entries.filter_insertKey s.forward.tcp listener hother)
  · rw [hturn] at ht
    refine Listens.serves_reachable hafter ?_ ht
    rw [hnext]
    exact Listens.of_endEvent hself hfrontend

/-- One turn gives one answer. -/
theorem answer_unique {effects effects' log : List Effect} {r r' : Except Error Reply}
    (h : effects ++ .answered r :: log = effects' ++ .answered r' :: log) : r = r' := by
  have hsnoc : effects ++ [.answered r] = effects' ++ [.answered r'] := by
    apply List.append_cancel_right
    rw [List.append_assoc, List.append_assoc]
    exact h
  have hlast := (List.append_inj' hsnoc rfl).2
  injection hlast with hlast
  injection hlast

/-- A listener is made for port 0 only, as long as the front end is there; a failure makes none. -/
theorem bindsListener_iff {window packet : UInt32} (hf : f.Reachable) (hidle : f.hanging = none)
    (hwait : f.backend.task = .waiting (.tcpIpForward addr window packet)) :
    (∀ port env, BindsListener f addr window packet port env ↔
      addr.port = 0 ∧ f.backend.frontend = true) ∧
    ∀ payload env, payload.head? = some sshMsgRequestFailure →
      ∀ other, (f.next (.packet payload env)).backend.forward.listenersAt other =
        f.backend.forward.listenersAt other := by
  have hbounded := FrontEnd.bounded_of_reachable hf
  refine ⟨fun port env => ⟨fun hbinds => ?_, fun h => ?_⟩, fun payload env hhead other => ?_⟩
  · by_contra hfails
    obtain ⟨e, he⟩ := finishTcpIpForward_fails (w := f.backend.afterRecv (boundReply addr port))
      window packet port hfails
    have hturn := (next_answer hbounded hidle hwait (boundReply addr port) env
      (by rw [react_boundReply]; rfl)).1
    obtain ⟨effects, hanswered⟩ := hbinds.answered
    obtain ⟨effects', hlog⟩ := endEvent_answers env (f.backend.afterRecv (boundReply addr port))
      (.error e)
    have hnext : (f.handled (boundReply addr port) env).backend =
        (f.backend.afterRecv (boundReply addr port)).endEvent env (.error e) := by
      change f.backend.next (.packet (boundReply addr port) env) = _
      rw [next_boundReply port hwait, he]
      rfl
    rw [hturn, hnext] at hanswered
    cases answer_unique (hanswered.symm.trans hlog)
  · exact bindsListener_zero hf hidle hwait h.1 h.2 port env
  · have hpayload : payload ≠ [] := by
      rintro rfl
      cases hhead
    have hreact : Wait.react env (.tcpIpForward addr window packet) payload =
        some (throw (.error (.session .requestFailure))) := by
      simp only [Wait.react, hhead]
      rfl
    have hgrows : Grows Effect.isSettles [] (f.backend.afterRecv payload) _ :=
      grows_settles_endEvent env (f.backend.afterRecv payload) (.error (.session .requestFailure))
    rw [(next_answer hbounded hidle hwait payload env (by rw [hreact]; rfl)).1]
    change (f.backend.next (.packet payload env)).forward.listenersAt other = _
    rw [next_of_react hwait hpayload hreact]
    exact hgrows.tcp other List.not_mem_nil

/-- A new session whose user has asked for a port of `localhost`. -/
def FrontEnd.requestingPort (port : UInt16) : FrontEnd :=
  (agreeable.next (.submit (.globalRequestTcpIPForward ⟨ascii "localhost", port⟩ 65536 32768))).next
    (.take .agreeable)

theorem reachable_requestingPort (port : UInt16) : (FrontEnd.requestingPort port).Reachable :=
  .next (.next FrontEnd.reachable_agreeable trivial ⟨rfl, rfl⟩) trivial ⟨rfl, rfl⟩

theorem task_requestingPort (port : UInt16) : (FrontEnd.requestingPort port).backend.task =
    .waiting (.tcpIpForward ⟨ascii "localhost", port⟩ 65536 32768) := by
  change (Backend.agreeable.next (.event (.globalRequestTcpIPForward ⟨ascii "localhost", port⟩ 65536
    32768) .agreeable)).task = _
  rw [next_globalRequestTcpIPForward (of_decide_eq_true rfl) rfl]

/-- A request for port 0 that the server answers with port 2222. -/
theorem bindsListener_localhost :
    BindsListener (.requestingPort 0) ⟨ascii "localhost", 0⟩ 65536 32768 2222 .agreeable :=
  ((bindsListener_iff (reachable_requestingPort 0) rfl (task_requestingPort 0)).1 2222
    .agreeable).mpr ⟨rfl, rfl⟩

/-- A request for port 8080 that the server grants: the user gets an error, and no listener. -/
theorem bindsListener_fails_on_port_8080 :
    ¬ ∀ f addr window packet port env, FrontEnd.Reachable f → f.hanging = none →
      f.backend.task = .waiting (.tcpIpForward addr window packet) → f.backend.frontend = true →
        BindsListener f addr window packet port env := by
  intro hbinds
  have hbound := hbinds _ _ _ _ 8080 .agreeable (reachable_requestingPort 8080) rfl
    (task_requestingPort 8080) rfl
  have htcp : ((FrontEnd.requestingPort 8080).next (.packet [sshMsgRequestSuccess]
      .agreeable)).backend.forward.listenersAt ⟨ascii "localhost", 8080⟩ = [] := by
    decide +kernel
  have htable := (hbound.table ⟨ascii "localhost", 8080⟩).trans (if_pos rfl)
  cases htcp.symm.trans htable

end Flatline
