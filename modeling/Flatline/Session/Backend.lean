import Flatline.Common.Machine
import Flatline.Session.Events
import Flatline.Session.Rekey

/-!
# The backend task

`exec` as a machine: an input is what the task's current await returns, and a step is all it does
until its next await. Errors of an event go to the user, errors of `exec` end the task, and a key
exchange that has been put off runs when the iteration ends.

Source: `src/session/backend.rs`.
-/

namespace Flatline

/-- What can happen next. -/
inductive Input where
  /-- A packet arrives. -/
  | packet (payload : Bytes) (env : Env)
  /-- `recv_packet` fails. -/
  | receiveFailed (error : Error) (env : Env)
  /-- The next event is taken from the user's queue. -/
  | event (event : Event) (env : Env)
  /-- The user's queue is closed and empty. -/
  | shutdown
  /-- The last sender of events is dropped. -/
  | frontendDropped
  /-- The user drops the receiver of a channel's queue. -/
  | receiverDropped (queue : ℕ)
  /-- The user drops the receiver of a listener. -/
  | tcpListenerDropped (queue : ℕ)
  | localListenerDropped (queue : ℕ)

namespace Backend

/-- The task has ended. -/
def exit (s : Backend) (result : Except Fault Unit) : Backend :=
  { s with task := .exited result }

/-- A chain of calls has stopped: an error goes to whoever handles it, anything else ends the
task. -/
def stop (s : Backend) (fault : Fault) (fail : Error → Backend → Backend) : Backend :=
  match fault with
  | .error e => fail e s
  | _ => s.exit (.error fault)

/-- An error that leaves `exec`. -/
def failSession (e : Error) (s : Backend) : Backend :=
  s.exit (.error (.error e))

/-! ## Key exchanges -/

/-- Start a key exchange; `fail` says what an error leads to. -/
def startRekey (env : Env) (origin : RekeyOrigin) (serverKexMsg : Option Bytes)
    (fail : Error → Backend → Backend) (s : Backend) : Backend :=
  match sendKexInit env s with
  | .error fault s => s.stop fault fail
  | .ok clientKexMsg s =>
    match negotiateMethods env serverKexMsg clientKexMsg s with
    | .error fault s => s.stop fault fun e s => fail e (s.note (.rekeyFailed origin e))
    | .ok phase s => { s with task := .rekeying origin phase }

/-- The end of an iteration of `exec`: run the key exchange that was put off, if there is one. -/
def afterIteration (env : Env) (s : Backend) : Backend :=
  match s.renegotiateMsg with
  | none => { s with task := .idle }
  | some msg => startRekey env .deferred (some msg) failSession { s with renegotiateMsg := none }

/-- `back.send_tracing(result)`, at the end of an event. -/
def endEvent (env : Env) (s : Backend) (result : Except Error Reply) : Backend :=
  afterIteration env (s.note (.answered result))

/-- What an error of a key exchange leads to: the user's exchange is an event, the others end the
session. -/
def failRekey (env : Env) (origin : RekeyOrigin) (e : Error) (s : Backend) : Backend :=
  match origin with
  | .user => endEvent env { s with renegotiating := false } (.error e)
  | .server | .deferred => failSession e s

/-- The end of a key exchange. -/
def finishRekey (env : Env) (origin : RekeyOrigin) (s : Backend) : Backend :=
  match origin with
  | .server => afterIteration env { s with renegotiating := false }
  | .deferred => { s with renegotiating := false, task := .idle }
  | .user => endEvent env { s with renegotiating := false } (.ok .done)

/-- The backend after a turn of a key exchange. -/
def settleRekey (env : Env) (origin : RekeyOrigin) :
    EStateM.Result Fault Backend RekeyProgress → Backend
  | .ok (.again phase) s => { s with task := .rekeying origin phase }
  | .ok .finished s => finishRekey env origin s
  | .error fault s => s.stop fault fun e s => failRekey env origin e (s.note (.rekeyFailed origin e))

/-! ## Events -/

/-- The backend after a turn of an event. -/
def settleEvent (env : Env) : EStateM.Result Fault Backend Progress → Backend
  | .ok (.done reply) s => endEvent env s (.ok reply)
  | .ok (.wait wait) s => { s with task := .waiting wait }
  | .error fault s => s.stop fault fun e s => endEvent env s (.error e)

/-- An event that finds the backend idle. -/
def onEvent (s : Backend) (event : Event) (env : Env) : Backend :=
  match event with
  | .renegotiate =>
    startRekey env .user none (failRekey env .user) { s with renegotiating := true }
  | event => settleEvent env (startEvent env event s)

/-! ## Packets -/

/-- The backend after a payload has arrived: the server's sequence number goes up, or starts again
with the `SSH_MSG_NEWKEYS` of a strict key exchange. -/
def afterRecv (s : Backend) (payload : Bytes) : Backend :=
  let reset := payload.head? = some sshMsgNewkeys ∧ s.socket.client.kexStrict = true ∧
    s.socket.server.kexStrict = true
  { s with
    socket.server.sequenceNumber := if reset then 0 else s.socket.server.sequenceNumber + 1
    log := .received payload :: s.log }

/-- `recv_packet`: an empty payload is an error. -/
def recvPacket (payload : Bytes) : BackendM Unit := do
  modify fun s => s.afterRecv payload
  if payload = [] then throw (.error (.transport .payloadIsEmpty)) else return

/-- The packet branch of `select!`. -/
def idleTurn (env : Env) (payload : Bytes) : BackendM (Option Bytes) := do
  let msg ← liftExcept (Message.parse payload)
  handleMsg env msg true

/-- The backend after a packet that found it idle. -/
def settleIdle (env : Env) : EStateM.Result Fault Backend (Option Bytes) → Backend
  | .ok none s => afterIteration env s
  | .ok (some data) s => startRekey env .server (some data) (failRekey env .server) s
  | .error fault s => s.exit (.error fault)

/-- A packet that arrives. -/
def onPacket (s : Backend) (payload : Bytes) (env : Env) : Backend :=
  match s.task with
  | .idle => settleIdle env ((do recvPacket payload; idleTurn env payload) s)
  | .waiting wait => settleEvent env ((do recvPacket payload; resume env wait payload) s)
  | .rekeying origin phase =>
    settleRekey env origin ((do recvPacket payload; continueRekey env phase payload) s)
  | .exited _ => s

/-- `recv_packet` returns an error. -/
def onReceiveFailed (s : Backend) (error : Error) (env : Env) : Backend :=
  match s.task with
  | .idle => failSession error s
  | .waiting _ => endEvent env s (.error error)
  | .rekeying origin _ => failRekey env origin error (s.note (.rekeyFailed origin error))
  | .exited _ => s

/-! ## Steps -/

/-- A map in which the listener that receives from a queue has been dropped. -/
def dropListener {κ : Type} (queue : ℕ) (map : List (κ × ListenerHandle)) :
    List (κ × ListenerHandle) :=
  map.map fun (key, listener) =>
    (key, if listener.sender.queue = queue then { listener with sender.closed := true }
      else listener)

/-- The backend after an input. -/
def next (s : Backend) : Input → Backend
  | .packet payload env => s.onPacket payload env
  | .receiveFailed error env => s.onReceiveFailed error env
  | .event event env => s.onEvent event env
  | .shutdown => s.exit (.ok ())
  | .frontendDropped => { s with frontend := false }
  | .receiverDropped queue => { s with channels := s.channels.map (.dropQueue queue) }
  | .tcpListenerDropped queue => { s with forward.tcp := dropListener queue s.forward.tcp }
  | .localListenerDropped queue => { s with forward.local' := dropListener queue s.forward.local' }

end Backend

/-- The task has not ended. -/
def Task.running : Task → Bool
  | .exited _ => false
  | _ => true

/-- The task is at the `select!` of `exec`. -/
def Task.isIdle : Task → Bool
  | .idle => true
  | _ => false

/-- The `Channel` of a pair has been created. -/
def Effect.handsOver (id : IdentityPair) : Effect → Bool
  | .handedOver id' _ _ => id' = id
  | _ => false

/-- The `Channel` that receives from a queue has been created. -/
def Effect.handsOverQueue (queue : ℕ) : Effect → Bool
  | .handedOver _ queue' _ => queue' = queue
  | _ => false

/-- No write fails while an input is handled. -/
def Input.Writes : Input → Prop
  | .packet _ env | .receiveFailed _ env | .event _ env => env.Writes
  | _ => True

instance (i : Input) : Decidable i.Writes :=
  match i with
  | .packet _ env | .receiveFailed _ env | .event _ env => inferInstanceAs (Decidable env.Writes)
  | .shutdown | .frontendDropped | .receiverDropped _ | .tcpListenerDropped _
  | .localListenerDropped _ => isTrue trivial

/-- An input can occur: events are taken by an idle task, and they name channels that the user was
given; the event queue closes when no sender is left. -/
def Input.possible (s : Backend) : Input → Bool
  | .packet .. | .receiveFailed .. | .frontendDropped | .tcpListenerDropped _
  | .localListenerDropped _ => s.task.running
  | .event e _ => s.task.isIdle &&
    match e.channelId? with
    | some id => s.log.any (Effect.handsOver id)
    | none => true
  | .shutdown => s.task.isIdle && !s.frontend
  | .receiverDropped queue => s.task.running && s.log.any (Effect.handsOverQueue queue)

namespace Backend

/-- One step of the backend. -/
def Step (s : Backend) (i : Input) (s' : Backend) : Prop :=
  i.possible s = true ∧ s' = s.next i

/-- The states of the runs that meet `guard` at every step. -/
abbrev ReachableVia (guard : Backend → Input → Prop) : Backend → Prop :=
  Machine.ReachVia IsInitial Step guard

/-- The states of all runs. -/
abbrev Reachable : Backend → Prop :=
  Machine.Reachable IsInitial Step

/-! ## Concrete runs -/

/-- The backend after a list of inputs, as long as they are possible and meet `guard`. -/
def runVia (guard : Backend → Input → Prop) [∀ s i, Decidable (guard s i)] :
    Backend → List Input → Option Backend
  | s, [] => some s
  | s, i :: rest =>
    if i.possible s = true ∧ guard s i then runVia guard (s.next i) rest else none

/-- The backend after a list of inputs, as long as they are possible. -/
abbrev run : Backend → List Input → Option Backend :=
  runVia fun _ _ => True

/-- What a concrete run comes to is reachable. -/
theorem reachable_runVia {guard : Backend → Input → Prop} [∀ s i, Decidable (guard s i)]
    {s t : Backend} {inputs : List Input} (hs : ReachableVia guard s)
    (hrun : runVia guard s inputs = some t) : ReachableVia guard t := by
  induction inputs generalizing s with
  | nil =>
    injection hrun with hrun
    exact hrun ▸ hs
  | cons i rest ih =>
    rw [runVia] at hrun
    by_cases hi : i.possible s = true ∧ guard s i
    · rw [if_pos hi] at hrun
      exact ih (.next hs hi.2 ⟨hi.1, rfl⟩) hrun
    · rw [if_neg hi] at hrun
      cases hrun

/-- A session right after the handshake with a server that has no quirks. -/
def fresh (config : Config) : Backend where
  sessionId := []
  socket := { client := default, server := default, authenticated := false,
              clientKeys := none, serverKeys := none }
  config
  clientVersion := []
  serverVersion := []
  frontend := true
  compatOptions := .parse []
  channels := []
  serverAlgorithms := []
  serverPingSupported := false
  forward := ⟨[], []⟩
  renegotiating := false
  renegotiateMsg := none
  task := .idle
  nextQueue := 0
  nextListener := 0
  attempts := 0
  log := []

theorem reachable_fresh (config : Config) {guard : Backend → Input → Prop} :
    ReachableVia guard (fresh config) :=
  .start ⟨rfl, rfl, rfl, rfl, rfl, rfl, rfl, rfl⟩

end Backend

/-- A new session with one key-exchange method. -/
def Backend.agreeable : Backend :=
  .fresh (.accepting (.single (ascii "curve25519-sha256") (.accepting (ascii "curve25519-sha256")))
    false)

/-- What a concrete run of the new session shows of some reachable state. -/
theorem Backend.exists_reachable (guard : Backend → Input → Prop)
    [∀ s i, Decidable (guard s i)] (inputs : List Input) (p : Backend → Bool)
    (h : (runVia guard agreeable inputs).any p = true) :
    ∃ s, ReachableVia guard s ∧ p s = true := by
  obtain ⟨s, hs, hp⟩ := (Option.any_eq_true p _).mp h
  exact ⟨s, reachable_runVia (reachable_fresh _) hs, hp⟩

/-- Surroundings in which every write succeeds and the notifier agrees to everything. -/
def Env.agreeable : Env where
  writeErrors := []
  accept := true
  initialWindowSize := 65536
  maximumPacketSize := 32768
  streamTaken := true
  verifyServerHostKey _ _ := true
  cookie := .zero
  seed := 0
  interactive _ _ _ := .ok []
  order := 0
  idleTurns := 0

/-- The server asks for a channel to the agent under its number `sender`. -/
def agentOpen (sender : UInt32) : Bytes :=
  makeBufferWithoutHeader [.u8 sshMsgChannelOpen, .one sshChannelTypeAgentConnectOpenSSH, .u32 sender,
    .u32 65536, .u32 32768]

/-- The server confirms the client's channel under its own number `sender`. -/
def openConfirmation (recipient sender : UInt32) : Bytes :=
  makeBufferWithoutHeader [.u8 sshMsgChannelOpenConfirmation, .u32 recipient, .u32 sender,
    .u32 65536, .u32 32768]

end Flatline
