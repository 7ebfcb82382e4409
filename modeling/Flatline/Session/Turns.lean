import Flatline.Session.EventGrowth

/-!
# Turns of the backend

A turn is what the task does between two awaits: it receives a packet, or takes an event, and then a
handler, an event or a key exchange runs and the turn is settled. `Backend.handles` says which
packets come to `handle_msg`; `next_of_handles` and `grows_next_packet` say what a turn comes to in
either case.

Source: `src/session/backend.rs`.
-/

namespace Flatline

open Triple

namespace Effect

/-- What settling a turn notes besides the answer to the user. -/
def isEnds : Effect → Bool
  | .sent message => message.isRekeys
  | .rekeyFailed .. => true
  | _ => false

/-- What settling a turn notes. -/
def isSettles : Effect → Bool
  | .answered _ => true
  | effect => effect.isEnds

/-- What a turn without `handle_msg` notes. -/
def isOwn : Effect → Bool
  | .received _ => true
  | effect => effect.isEvents || effect.isSettles

theorem isSettles_of_isEnds {effect : Effect} (h : effect.isEnds = true) :
    effect.isSettles = true := by
  cases effect <;> first | exact h | rfl

theorem isEnds_of_isRekeys {effect : Effect} (h : effect.isRekeys = true) :
    effect.isEnds = true := by
  cases effect <;> first | exact h | cases h

theorem isOwn_of_isSettles {effect : Effect} (h : effect.isSettles = true) :
    effect.isOwn = true := by
  cases effect <;> first | rfl | cases h | exact Bool.or_eq_true_iff.mpr (.inr h)

theorem isOwn_of_isEvents {effect : Effect} (h : effect.isEvents = true) :
    effect.isOwn = true := by
  cases effect <;> first | rfl | cases h | exact Bool.or_eq_true_iff.mpr (.inl h)

theorem isOwn_of_isRekeys {effect : Effect} (h : effect.isRekeys = true) : effect.isOwn = true :=
  isOwn_of_isSettles (isSettles_of_isEnds (isEnds_of_isRekeys h))

end Effect

variable {s w w' : Backend} {p : Effect → Bool} {keys : List SocketAddr}

/-! ## Settling -/

theorem Grows.stop {fault : Fault} (fail : Error → Backend → Backend)
    (hfail : ∀ e, Grows p keys w (fail e w)) : Grows p keys w (w.stop fault fail) := by
  cases fault with
  | error e => exact hfail e
  | panicked | stuck => exact .of_eq

/-- How the start of a key exchange goes. -/
inductive RekeyStart (w : Backend) (env : Env) (origin : RekeyOrigin) (serverKexMsg : Option Bytes)
    (fail : Error → Backend → Backend) : Backend → Prop
  /-- The client's `SSH_MSG_KEXINIT` cannot be sent. -/
  | unsent {fault : Fault} {w₁ : Backend} (hinit : sendKexInit env w = .error fault w₁) :
    RekeyStart w env origin serverKexMsg fail (w₁.stop fault fail)
  /-- There is nothing to agree on. -/
  | failed {clientKexMsg : Bytes} {fault : Fault} {w₁ w₂ : Backend}
    (hinit : sendKexInit env w = .ok clientKexMsg w₁)
    (hmethods : negotiateMethods env serverKexMsg clientKexMsg w₁ = .error fault w₂) :
    RekeyStart w env origin serverKexMsg fail
      (w₂.stop fault fun e w => fail e (w.note (.rekeyFailed origin e)))
  | started {clientKexMsg : Bytes} {phase : RekeyPhase} {w₁ w₂ : Backend}
    (hinit : sendKexInit env w = .ok clientKexMsg w₁)
    (hmethods : negotiateMethods env serverKexMsg clientKexMsg w₁ = .ok phase w₂) :
    RekeyStart w env origin serverKexMsg fail { w₂ with task := .rekeying origin phase }

theorem rekeyStart (w : Backend) (env : Env) (origin : RekeyOrigin) (serverKexMsg : Option Bytes)
    (fail : Error → Backend → Backend) :
    RekeyStart w env origin serverKexMsg fail (w.startRekey env origin serverKexMsg fail) := by
  unfold Backend.startRekey
  cases hinit : sendKexInit env w with
  | error fault w₁ => exact .unsent hinit
  | ok clientKexMsg w₁ =>
    simp only
    cases hmethods : negotiateMethods env serverKexMsg clientKexMsg w₁ with
    | error fault w₂ => exact .failed hinit hmethods
    | ok phase w₂ => exact .started hinit hmethods

theorem grows_startRekey (env : Env) (origin : RekeyOrigin) (serverKexMsg : Option Bytes)
    {fail : Error → Backend → Backend} (hp : ∀ effect, effect.isEnds = true → p effect = true)
    (hfail : ∀ e w, Grows p keys w (fail e w)) :
    Grows p keys w (w.startRekey env origin serverKexMsg fail) := by
  have hmono : ∀ {w w'}, Extends Effect.isRekeys keys w w' → Grows p keys w w' := fun h =>
    (h.mono (fun effect h => hp effect (Effect.isEnds_of_isRekeys h)) (List.Subset.refl _)).toGrows
  have hexchange : ∀ {w w'}, Extends Effect.isExchanges keys w w' → Grows p keys w w' := fun h =>
    hmono (h.mono (fun _ => Effect.isRekeys_of_isExchanges) (List.Subset.refl _))
  have hstart := rekeyStart w env origin serverKexMsg fail
  generalize w.startRekey env origin serverKexMsg fail = t at hstart ⊢
  cases hstart with
  | unsent hinit =>
    exact (hmono ((emits_sendKexInit env).of_error hinit)).trans (.stop fail fun e => hfail e _)
  | failed hinit hmethods =>
    refine (hmono ((emits_sendKexInit env).of_ok hinit)).trans ?_
    refine (hexchange ((emits_negotiateMethods env _ _).of_error hmethods)).trans (.stop _ fun e => ?_)
    exact (Grows.cons (.rekeyFailed origin e) (hp _ rfl)).trans (hfail e _)
  | started hinit hmethods =>
    refine (hmono ((emits_sendKexInit env).of_ok hinit)).trans ?_
    exact (hexchange ((emits_negotiateMethods env _ _).of_ok hmethods)).trans .of_eq

theorem grows_afterIteration (env : Env) (w : Backend) :
    Grows Effect.isEnds keys w (w.afterIteration env) := by
  unfold Backend.afterIteration
  split
  · exact .of_eq
  · have hclear : Grows Effect.isEnds keys w { w with renegotiateMsg := none } := .of_eq
    exact hclear.trans (grows_startRekey env _ _ (fun _ h => h) fun _ _ => .of_eq)

/-- Settling an event answers it. -/
theorem grows_endEvent (env : Env) (w : Backend) (result : Except Error Reply) :
    Grows Effect.isEnds keys (w.note (.answered result)) (w.endEvent env result) :=
  grows_afterIteration env _

theorem grows_settles_endEvent (env : Env) (w : Backend) (result : Except Error Reply) :
    Grows Effect.isSettles keys w (w.endEvent env result) :=
  (Grows.cons (.answered result) rfl).trans
    ((grows_endEvent env w result).mono (fun _ => Effect.isSettles_of_isEnds)
      (List.Subset.refl _))

theorem grows_failRekey (env : Env) (origin : RekeyOrigin) (e : Error) (w : Backend) :
    Grows Effect.isSettles keys w (w.failRekey env origin e) := by
  cases origin with
  | user => exact Grows.trans (.of_eq) (grows_settles_endEvent env { w with renegotiating := false } _)
  | server | deferred => exact .of_eq

theorem grows_finishRekey (env : Env) (origin : RekeyOrigin) (w : Backend) :
    Grows Effect.isSettles keys w (w.finishRekey env origin) := by
  cases origin with
  | server =>
    have hclear : Grows Effect.isSettles keys w { w with renegotiating := false } := .of_eq
    exact hclear.trans ((grows_afterIteration env _).mono (fun _ => Effect.isSettles_of_isEnds)
      (List.Subset.refl _))
  | deferred => exact .of_eq
  | user => exact Grows.trans .of_eq (grows_settles_endEvent env { w with renegotiating := false } _)

/-- The backend a program has come to. -/
def stateOf {α : Type} : EStateM.Result Fault Backend α → Backend
  | .ok _ w => w
  | .error _ w => w

theorem grows_settleEvent (env : Env) (r : EStateM.Result Fault Backend Progress) :
    Grows Effect.isSettles keys (stateOf r) (Backend.settleEvent env r) := by
  rcases r with ⟨reply | wait, w⟩ | ⟨fault, w⟩
  · exact grows_settles_endEvent env w _
  · exact .of_eq
  · exact Grows.stop (fun e w => w.endEvent env (.error e)) fun e => grows_settles_endEvent env w _

theorem grows_settleRekey (env : Env) (origin : RekeyOrigin)
    (r : EStateM.Result Fault Backend RekeyProgress) :
    Grows Effect.isSettles keys (stateOf r) (Backend.settleRekey env origin r) := by
  rcases r with ⟨phase | _, w⟩ | ⟨fault, w⟩
  · exact .of_eq
  · exact grows_finishRekey env origin w
  · refine Grows.stop (fun e w => (w.note (.rekeyFailed origin e)).failRekey env origin e) fun e => ?_
    exact (Grows.cons (.rekeyFailed origin e) rfl).trans (grows_failRekey env origin e _)

theorem grows_settleIdle (env : Env) (r : EStateM.Result Fault Backend (Option Bytes)) :
    Grows Effect.isSettles keys (stateOf r) (Backend.settleIdle env r) := by
  rcases r with ⟨_ | data, w⟩ | ⟨fault, w⟩
  · exact (grows_afterIteration env w).mono (fun _ => Effect.isSettles_of_isEnds)
      (List.Subset.refl _)
  · exact grows_startRekey env _ _ (fun _ => Effect.isSettles_of_isEnds)
      fun e w => grows_failRekey env .server e w
  · exact .of_eq

/-! ## Packets -/

namespace Backend

/-- The message of a packet that comes to `handle_msg`. -/
def handles (s : Backend) (env : Env) (payload : Bytes) : Option Message :=
  match s.task with
  | .idle => (Message.parse payload).toOption
  | .waiting wait =>
    if (wait.react env payload).isSome then none else (Message.parse payload).toOption
  | .rekeying _ phase =>
    if payload.head? = some phase.awaits then none else (Message.parse payload).toOption
  | .exited _ => none

/-- The listeners that a packet may make or take away. -/
def touches (s : Backend) (payload : Bytes) : List SocketAddr :=
  match s.task with
  | .waiting wait => wait.touches payload
  | _ => []

/-- The end of a turn that has run `handle_msg` at the given program point. -/
def settleHandled (env : Env) (task : Task) :
    EStateM.Result Fault Backend (Option Bytes) → Backend :=
  match task with
  | .idle => settleIdle env
  | .waiting wait => fun
    | .ok _ w => { w with task := .waiting wait }
    | .error fault w => w.stop fault fun e w => endEvent env w (.error e)
  | .rekeying origin phase => fun
    | .ok _ w => { w with task := .rekeying origin phase }
    | .error fault w => w.stop fault fun e w => failRekey env origin e (w.note (.rekeyFailed origin e))
  | .exited _ => stateOf

end Backend

theorem parse_ne_nil {payload : Bytes} {msg : Message} (h : Message.parse payload = .ok msg) :
    payload ≠ [] := by
  rintro rfl
  cases h

theorem parse_of_handles {env : Env} {payload : Bytes} {msg : Message}
    (h : s.handles env payload = some msg) : Message.parse payload = .ok msg := by
  have hoption : ∀ {x : Except Error Message}, x.toOption = some msg → x = .ok msg := by
    intro x hx
    cases x with
    | error e => cases hx
    | ok a =>
      injection hx with hx
      rw [hx]
  unfold Backend.handles at h
  split at h
  · exact hoption h
  · split at h
    · cases h
    · exact hoption h
  · split at h
    · cases h
    · exact hoption h
  · cases h

theorem running_of_handles {env : Env} {payload : Bytes} {msg : Message}
    (h : s.handles env payload = some msg) : s.task.running = true := by
  unfold Backend.handles at h
  cases htask : s.task with
  | idle | waiting _ | rekeying _ _ => rfl
  | exited result =>
    rw [htask] at h
    cases h

/-- The loops of a key exchange wait for numbers of the transport layer. -/
theorem RekeyPhase.awaits_le (phase : RekeyPhase) : phase.awaits ≤ 49 := by
  cases phase with
  | kexInit | newKeys => exact of_decide_eq_true rfl
  | group rekey exchange => exact exchange.responseCode_kex.2
  | reply rekey => exact rekey.matched.kex.responseCode_kex.2

/-- The packets that come to `handle_msg` wherever the task is. -/
theorem handles_of_parse {env : Env} {payload : Bytes} {msg : Message}
    (hrunning : s.task.running = true) (hparse : Message.parse payload = .ok msg)
    (hcode : 49 < msg.code) (hsuccess : msg.code ≠ sshMsgRequestSuccess)
    (hfailure : msg.code ≠ sshMsgRequestFailure)
    (hanswer : ∀ wait : Wait, wait.answer env msg = none) : s.handles env payload = some msg := by
  have hhead := Message.head?_of_parse hparse
  unfold Backend.handles
  cases htask : s.task with
  | idle => simp only [hparse, Except.toOption]
  | waiting wait =>
    have hreact : wait.react env payload = none := by
      cases wait with
      | tcpIpForward addr window packet =>
        simp only [Wait.react, hhead, hparse, hanswer, Option.some.injEq]
        rw [if_neg hsuccess, if_neg hfailure]
      | _ => simp only [Wait.react, hparse, hanswer]
    simp [hreact, hparse, Except.toOption]
  | rekeying origin phase =>
    have hawaits : payload.head? ≠ some phase.awaits := by
      rw [hhead]
      rintro heq
      injection heq with heq
      have hle := phase.awaits_le
      rw [← heq] at hle
      exact absurd hcode (UInt8.not_lt.mpr hle)
    simp [hawaits, hparse, Except.toOption]
  | exited result =>
    rw [htask] at hrunning
    cases hrunning

/-- The requests of the server: opens, requests on a channel, and global ones. -/
def Message.isRequest : Message → Bool
  | .channelFlowControl .. | .channelExitStatus .. | .channelExitSignal ..
  | .channelUnknownRequest .. | .globalRequestKeepAliveOpenSSH _
  | .globalRequestHostKeysOpenSSH .. | .globalUnknownRequest .. | .channelOpenForwardedTcpIp ..
  | .channelOpenAgentConnect .. | .channelOpenX11 .. | .channelOpenForwardedStreamLocal ..
  | .channelOpenUnknown .. => true
  | _ => false

/-- No loop waits for a request, so each comes to `handle_msg`. -/
theorem handles_of_isRequest {env : Env} {payload : Bytes} {msg : Message}
    (hrunning : s.task.running = true) (hparse : Message.parse payload = .ok msg)
    (hmsg : msg.isRequest = true) : s.handles env payload = some msg := by
  have hcode : 49 < msg.code ∧ msg.code ≠ sshMsgRequestSuccess ∧
      msg.code ≠ sshMsgRequestFailure := by
    cases msg <;> first | exact of_decide_eq_true rfl | cases hmsg
  refine handles_of_parse hrunning hparse hcode.1 hcode.2.1 hcode.2.2 fun wait => ?_
  cases wait with
  | authentication wait => cases wait <;> cases msg <;> first | rfl | cases hmsg
  | _ => cases msg <;> first | rfl | cases hmsg

theorem next_of_handles {env : Env} {payload : Bytes} {msg : Message}
    (h : s.handles env payload = some msg) :
    s.next (.packet payload env) = Backend.settleHandled env s.task
      (handleMsg env msg s.task.isIdle (s.afterRecv payload)) := by
  have hparse := parse_of_handles h
  have hpayload := parse_ne_nil hparse
  change s.onPacket payload env = _
  unfold Backend.onPacket Backend.settleHandled
  unfold Backend.handles at h
  cases htask : s.task with
  | idle =>
    simp only
    rw [recvPacket_bind _ s hpayload, Backend.idleTurn, hparse, liftExcept_ok_bind]
    rfl
  | waiting wait =>
    rw [htask] at h
    simp only at h ⊢
    split at h
    · cases h
    · next hreact =>
        have hnone := Option.not_isSome_iff_eq_none.mp hreact
        obtain ⟨msg', hparse', -, hresume⟩ := resume_of_none hnone
        rw [hparse] at hparse'
        injection hparse' with hmsg
        subst hmsg
        rw [recvPacket_bind _ s hpayload, hresume, show (Task.waiting wait).isIdle = false from rfl]
        change Backend.settleEvent env (EStateM.bind _ _ _) = _
        unfold EStateM.bind
        cases handleMsg env msg false (s.afterRecv payload) <;> rfl
  | rekeying origin phase =>
    rw [htask] at h
    simp only at h ⊢
    split at h
    · cases h
    · next hhead =>
        rw [recvPacket_bind _ s hpayload, continueRekey, if_neg hhead, passOn, hparse,
          liftExcept_ok_bind, show (Task.rekeying origin phase).isIdle = false from rfl]
        change Backend.settleRekey env origin (EStateM.bind _ _ _) = _
        unfold EStateM.bind
        cases handleMsg env msg false (s.afterRecv payload) <;> rfl
  | exited result =>
    rw [htask] at h
    cases h

/-- A packet that a loop does not hand on. -/
theorem next_of_react {env : Env} {wait : Wait} {payload : Bytes} {m : BackendM Progress}
    (htask : s.task = .waiting wait) (hpayload : payload ≠ [])
    (hreact : wait.react env payload = some m) :
    s.next (.packet payload env) = Backend.settleEvent env (m (s.afterRecv payload)) := by
  change s.onPacket payload env = _
  unfold Backend.onPacket
  rw [htask]
  simp only
  rw [recvPacket_bind _ s hpayload, resume_of_react hreact]

/-- How a turn goes that a packet begins. -/
inductive PacketTurn (s : Backend) (payload : Bytes) (env : Env) : Backend → Prop
  /-- The message goes to `handle_msg`. -/
  | handled {msg : Message} (hhandles : s.handles env payload = some msg) :
    PacketTurn s payload env (Backend.settleHandled env s.task
      (handleMsg env msg s.task.isIdle (s.afterRecv payload)))
  /-- The loop of an event acts on the packet. -/
  | reacted {wait : Wait} {m : BackendM Progress} (htask : s.task = .waiting wait)
    (hreact : wait.react env payload = some m) (hpayload : payload ≠ []) :
    PacketTurn s payload env (Backend.settleEvent env (m (s.afterRecv payload)))
  /-- The loop of a key exchange acts on the packet. -/
  | exchanged {origin : RekeyOrigin} {phase : RekeyPhase} (htask : s.task = .rekeying origin phase)
    (hhead : payload.head? = some phase.awaits) :
    PacketTurn s payload env (Backend.settleRekey env origin
      (proceedRekey env payload phase (s.afterRecv payload)))
  /-- The payload is empty, or it is no message. -/
  | refused {e : Error} (hrunning : s.task.running = true)
    (hparse : ∀ msg, Message.parse payload ≠ .ok msg) :
    PacketTurn s payload env (Backend.settleHandled env s.task
      (.error (.error e) (s.afterRecv payload)))
  /-- The task has ended. -/
  | exited {result : Except Fault Unit} (htask : s.task = .exited result) : PacketTurn s payload env s

theorem toOption_eq_none {x : Except Error Message} (h : x.toOption = none) : ∃ e, x = .error e := by
  cases x with
  | error e => exact ⟨e, rfl⟩
  | ok a => cases h

/-- An empty payload is an error wherever the task is. -/
theorem next_nil (env : Env) (hrunning : s.task.running = true) :
    s.next (.packet [] env) = Backend.settleHandled env s.task
      (.error (.error (.transport .payloadIsEmpty)) (s.afterRecv [])) := by
  change s.onPacket [] env = _
  unfold Backend.onPacket Backend.settleHandled
  cases htask : s.task with
  | idle | waiting _ | rekeying _ _ => rfl
  | exited result =>
    rw [htask] at hrunning
    cases hrunning

/-- Every turn that a packet begins goes one of these ways. -/
theorem packetTurn (s : Backend) (payload : Bytes) (env : Env) :
    PacketTurn s payload env (s.next (.packet payload env)) := by
  by_cases hrunning : s.task.running = true
  -- whatever `handle_msg` gets is one way; what is left over fails or belongs to the task
  · cases hhandles : s.handles env payload with
    | some msg =>
      rw [next_of_handles hhandles]
      exact .handled hhandles
    | none =>
      by_cases hpayload : payload = []
      · subst hpayload
        rw [next_nil env hrunning]
        exact .refused hrunning fun msg hmsg => by cases hmsg
      · have hnone := hhandles
        unfold Backend.handles at hnone
        cases htask : s.task with
        | idle =>
          rw [htask] at hnone
          obtain ⟨e, he⟩ := toOption_eq_none hnone
          have hnext : s.next (.packet payload env) = Backend.settleHandled env s.task
              (.error (.error e) (s.afterRecv payload)) := by
            change s.onPacket payload env = _
            unfold Backend.onPacket
            rw [htask]
            simp only
            rw [recvPacket_bind _ s hpayload, Backend.idleTurn, he]
            rfl
          rw [hnext]
          exact .refused hrunning fun msg hmsg => by cases he.symm.trans hmsg
        | waiting wait =>
          rw [htask] at hnone
          simp only at hnone
          cases hreact : wait.react env payload with
          | some m =>
            rw [next_of_react htask hpayload hreact]
            exact .reacted htask hreact hpayload
          | none =>
            obtain ⟨msg, hmsg, -, -⟩ := resume_of_none hreact
            rw [hreact, hmsg] at hnone
            cases hnone
        | rekeying origin phase =>
          rw [htask] at hnone
          simp only at hnone
          -- an exchange looks at the first octet before it parses
          by_cases hhead : payload.head? = some phase.awaits
          · have hnext : s.next (.packet payload env) = Backend.settleRekey env origin
                (proceedRekey env payload phase (s.afterRecv payload)) := by
              change s.onPacket payload env = _
              unfold Backend.onPacket
              rw [htask]
              simp only
              rw [recvPacket_bind _ s hpayload, continueRekey, if_pos hhead]
            rw [hnext]
            exact .exchanged htask hhead
          · rw [if_neg hhead] at hnone
            obtain ⟨e, he⟩ := toOption_eq_none hnone
            have hnext : s.next (.packet payload env) = Backend.settleHandled env s.task
                (.error (.error e) (s.afterRecv payload)) := by
              change s.onPacket payload env = _
              unfold Backend.onPacket
              rw [htask]
              simp only
              rw [recvPacket_bind _ s hpayload, continueRekey, if_neg hhead, passOn, he]
              rfl
            rw [hnext]
            exact .refused hrunning fun msg hmsg => by cases he.symm.trans hmsg
        | exited result =>
          rw [htask] at hrunning
          cases hrunning
  · cases htask : s.task with
    | exited result =>
      have hnext : s.next (.packet payload env) = s := by
        change s.onPacket payload env = s
        unfold Backend.onPacket
        rw [htask]
      rw [hnext]
      exact .exited htask
    | idle | waiting _ | rekeying _ _ =>
      rw [htask] at hrunning
      exact absurd rfl hrunning

/-! ### What packets grow -/

theorem grows_stateOf {α : Type} {m : BackendM α} (hm : Emits p keys m) (s : Backend) :
    Grows p keys s (stateOf (m s)) := by
  cases hrun : m s with
  | ok a w => exact (hm.of_ok hrun).toGrows
  | error fault w => exact (hm.of_error hrun).toGrows

theorem Grows.settled (h : Grows Effect.isOwn keys s w) (h' : Grows Effect.isSettles keys w w') :
    Grows Effect.isOwn keys s w' :=
  h.trans (h'.mono (fun _ => Effect.isOwn_of_isSettles) (List.Subset.refl _))

/-- The end of a turn that has run `handle_msg`. -/
theorem grows_settleHandled (env : Env) (task : Task)
    (r : EStateM.Result Fault Backend (Option Bytes)) :
    Grows Effect.isSettles keys (stateOf r) (Backend.settleHandled env task r) := by
  cases task with
  | idle => exact grows_settleIdle env r
  | waiting wait =>
    rcases r with ⟨data, w⟩ | ⟨fault, w⟩
    · exact .of_eq
    · exact Grows.stop (fun e w => w.endEvent env (.error e)) fun e => grows_settles_endEvent env w _
  | rekeying origin phase =>
    rcases r with ⟨data, w⟩ | ⟨fault, w⟩
    · exact .of_eq
    · refine Grows.stop (fun e w => (w.note (.rekeyFailed origin e)).failRekey env origin e)
        fun e => ?_
      exact (Grows.cons (.rekeyFailed origin e) rfl).trans (grows_failRekey env origin e _)
  | exited result => exact .refl _

theorem Grows.received (s : Backend) (payload : Bytes) :
    Grows Effect.isOwn keys s (s.afterRecv payload) :=
  .cons (.received payload) rfl

/-- A packet that does not come to `handle_msg`. -/
theorem grows_next_packet {env : Env} {payload : Bytes} (h : s.handles env payload = none) :
    Grows Effect.isOwn (s.touches payload) s (s.next (.packet payload env)) := by
  have hown : ∀ {keys : List SocketAddr} {α : Type} {m : BackendM α} {p : Effect → Bool},
      (∀ effect, p effect = true → effect.isOwn = true) → Emits p keys m →
        Grows Effect.isOwn keys s (stateOf (m (s.afterRecv payload))) := fun hp hm =>
    (Grows.received s payload).trans ((grows_stateOf hm _).mono hp (List.Subset.refl _))
  have hturn := packetTurn s payload env
  generalize s.next (.packet payload env) = t at hturn ⊢
  cases hturn with
  | handled hhandles =>
    rw [h] at hhandles
    cases hhandles
  | @reacted wait m htask hreact hpayload =>
    have htouches : s.touches payload = wait.touches payload := by
      unfold Backend.touches
      rw [htask]
    rw [htouches]
    exact (hown (fun _ => Effect.isOwn_of_isEvents) (emits_react hreact)).settled
      (grows_settleEvent env _)
  | exchanged htask hhead =>
    exact (hown (fun _ h => Effect.isOwn_of_isRekeys (Effect.isRekeys_of_isExchanges h))
      (emits_proceedRekey env payload _)).settled
      (grows_settleRekey env _ _)
  | @refused e hrunning hparse =>
    exact (Grows.received s payload).settled (grows_settleHandled env s.task
      (.error (.error e) (s.afterRecv payload)))
  | exited htask => exact .refl s

/-- `handle_msg` notes what handlers note, whatever it does about a key exchange. -/
theorem grows_handleMsg (env : Env) (msg : Message) (idle : Bool) (s : Backend) :
    Grows Effect.isHandlers keys s (stateOf (handleMsg env msg idle s)) := by
  cases htakes : takesKexInit s msg with
  | true =>
    obtain ⟨data, -, -, hrun⟩ := handleMsg_takes env idle htakes
    rw [hrun]
    exact .of_eq
  | false =>
    cases hrun : handleMsg env msg idle s with
    | ok data w => exact ((extends_handleMsg env idle s htakes).of_ok rfl hrun).2.toGrows
    | error fault w => exact ((extends_handleMsg env idle s htakes).of_error rfl hrun).toGrows

/-- A packet that comes to `handle_msg`. -/
theorem grows_next_handled {env : Env} {payload : Bytes} {msg : Message}
    (h : s.handles env payload = some msg) :
    Grows (fun effect => effect.isOwn || effect.isHandlers) keys s
      (s.next (.packet payload env)) := by
  rw [next_of_handles h]
  have hreceive : Grows (fun effect => effect.isOwn || effect.isHandlers) keys s
      (s.afterRecv payload) := .cons (.received payload) rfl
  refine hreceive.trans ?_
  refine (Grows.mono (grows_handleMsg env msg _ _) (fun _ h => ?_) (List.Subset.refl _)).trans
    (Grows.mono (grows_settleHandled env _ _) (fun _ h => ?_) (List.Subset.refl _))
  · exact Bool.or_eq_true_iff.mpr (.inr h)
  · exact Bool.or_eq_true_iff.mpr (.inl (Effect.isOwn_of_isSettles h))

/-! ## Other inputs -/

theorem grows_next_event (s : Backend) (event : Event) (env : Env) :
    Grows Effect.isOwn event.cancels s (s.next (.event event env)) := by
  change Grows _ _ _ (s.onEvent event env)
  by_cases hrenegotiate : event = .renegotiate
  · subst hrenegotiate
    have hflag : Grows Effect.isOwn [] s { s with renegotiating := true } := .of_eq
    refine hflag.trans ?_
    refine grows_startRekey env .user none
      (fun _ h => Effect.isOwn_of_isSettles (Effect.isSettles_of_isEnds h)) fun e w => ?_
    exact (grows_failRekey env .user e w).mono (fun _ => Effect.isOwn_of_isSettles)
      (List.Subset.refl _)
  · rw [Backend.onEvent_eq hrenegotiate]
    refine Grows.settled (Grows.mono (grows_stateOf (emits_startEvent env event) s)
      (fun _ => Effect.isOwn_of_isEvents) (List.Subset.refl _)) (grows_settleEvent env _)

theorem grows_next_receiveFailed (s : Backend) (error : Error) (env : Env) :
    Grows Effect.isSettles keys s (s.next (.receiveFailed error env)) := by
  change Grows _ _ _ (s.onReceiveFailed error env)
  unfold Backend.onReceiveFailed
  cases s.task with
  | idle => exact .of_eq
  | waiting wait => exact grows_settles_endEvent env s _
  | rekeying origin phase =>
    exact (Grows.cons (.rekeyFailed origin error) rfl).trans (grows_failRekey env origin error _)
  | exited result => exact .refl s

/-! ## What a step makes -/

/-- Anything but the arrival of a packet. -/
def Effect.isMade : Effect → Bool
  | .received _ => false
  | _ => true

theorem isMade_of_isSettles {effect : Effect} (h : effect.isSettles = true) :
    effect.isMade = true := by
  cases effect <;> first | rfl | cases h

theorem isMade_of_isHandlers {effect : Effect} (h : effect.isHandlers = true) :
    effect.isMade = true := by
  cases effect <;> first | rfl | cases h

theorem isMade_of_isEvents {effect : Effect} (h : effect.isEvents = true) :
    effect.isMade = true := by
  cases effect <;> first | rfl | cases h

theorem Grows.made {q : Effect → Bool} (h : Grows q keys s w)
    (hq : ∀ effect, q effect = true → effect.isMade = true) : Grows Effect.isMade keys s w :=
  h.mono hq (List.Subset.refl _)

/-- The state a step starts from once its packet, if it has one, has been taken down. -/
def Backend.arrived (s : Backend) : Input → Backend
  | .packet payload _ => s.afterRecv payload
  | _ => s

theorem made_next_packet (hrunning : s.task.running = true) (payload : Bytes) (env : Env) :
    ∃ keys, Grows Effect.isMade keys (s.afterRecv payload) (s.next (.packet payload env)) := by
  have hturn := packetTurn s payload env
  generalize s.next (.packet payload env) = t at hturn ⊢
  cases hturn with
  | @handled msg hhandles =>
    exact ⟨[], ((grows_handleMsg env msg _ _).made fun _ => isMade_of_isHandlers).trans
      ((grows_settleHandled env _ _).made fun _ => isMade_of_isSettles)⟩
  | @reacted wait m htask hreact hpayload =>
    exact ⟨wait.touches payload,
      ((grows_stateOf (emits_react hreact) _).made fun _ => isMade_of_isEvents).trans
        ((grows_settleEvent env _).made fun _ => isMade_of_isSettles)⟩
  | exchanged htask hhead =>
    have hexchanges : ∀ effect : Effect, effect.isExchanges = true → effect.isMade = true :=
      fun _ h => isMade_of_isSettles (Effect.isSettles_of_isEnds
        (Effect.isEnds_of_isRekeys (Effect.isRekeys_of_isExchanges h)))
    exact ⟨[], ((grows_stateOf (emits_proceedRekey env payload _) _).made hexchanges).trans
      ((grows_settleRekey env _ _).made fun _ => isMade_of_isSettles)⟩
  | refused hrunning hparse =>
    exact ⟨[], (grows_settleHandled env s.task (.error (.error _) (s.afterRecv payload))).made
      fun _ => isMade_of_isSettles⟩
  | exited htask =>
    rw [htask] at hrunning
    cases hrunning

/-- A step takes down its packet first and then only what it makes. -/
theorem made_next {i : Input} (hpossible : i.possible s = true) :
    ∃ effects, (s.next i).log = effects ++ (s.arrived i).log ∧
      ∀ effect ∈ effects, effect.isMade = true := by
  cases i with
  | packet payload env =>
    obtain ⟨keys, hgrows⟩ := made_next_packet hpossible payload env
    exact hgrows.log
  | receiveFailed error env =>
    have hgrows : Grows Effect.isSettles [] s (s.next (.receiveFailed error env)) :=
      grows_next_receiveFailed s error env
    exact (hgrows.made fun _ => isMade_of_isSettles).log
  | event event env =>
    have hgrows : Grows Effect.isMade event.cancels s (s.onEvent event env) := by
      by_cases hrenegotiate : event = .renegotiate
      · subst hrenegotiate
        have hflag : Grows Effect.isMade [] s { s with renegotiating := true } := .of_eq
        exact hflag.trans (grows_startRekey env .user none
          (fun _ h => isMade_of_isSettles (Effect.isSettles_of_isEnds h))
          fun e w => (grows_failRekey env .user e w).made fun _ => isMade_of_isSettles)
      · rw [Backend.onEvent_eq hrenegotiate]
        exact ((grows_stateOf (emits_startEvent env event) s).made
          fun _ => isMade_of_isEvents).trans
            ((grows_settleEvent env _).made fun _ => isMade_of_isSettles)
    exact hgrows.log
  | shutdown | frontendDropped | receiverDropped | tcpListenerDropped | localListenerDropped =>
    exact ⟨[], rfl, fun _ h => absurd h List.not_mem_nil⟩

end Flatline
