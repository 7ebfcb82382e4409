import Flatline.Session.Turns

/-!
# Who wants a key exchange

`renegotiating`, `renegotiate_msg` and the program point together say which key exchange is due,
which is running, and for which `SSH_MSG_KEXINIT` of the server. `KexStep` is that bookkeeping on its
own; `kexStep_next` says that the backend follows it.

Source: `src/session/backend.rs` (`handle_msg`, `handle_event`, `exec`), `src/session/handshake.rs`
(`RekeyExchange`).
-/

namespace Flatline

open Triple

/-! ## The bookkeeping -/

/-- The key exchange a session is concerned with. -/
inductive KexView where
  /-- None. -/
  | quiet
  /-- The server has sent this payload, and its exchange is put off. -/
  | pending (payload : Bytes)
  /-- The client has begun, and waits for the server's payload. -/
  | awaiting
  /-- The exchange for this payload of the server is running. -/
  | serving (payload : Bytes)
  /-- The session has ended. -/
  | ended
deriving DecidableEq, Repr

/-- Which side has sent a `SSH_MSG_KEXINIT` that the other has not answered with its own. -/
inductive KexTurn where
  | even
  | client
  | server
deriving DecidableEq, Repr

namespace KexTurn

/-- The server sends a `SSH_MSG_KEXINIT`. -/
def receives : KexTurn → KexTurn
  | client => even
  | _ => server

/-- The client sends a `SSH_MSG_KEXINIT`. -/
def sends : KexTurn → KexTurn
  | server => even
  | _ => client

/-- After the `SSH_MSG_KEXINIT` that has arrived, if one has. -/
def after (turn : KexTurn) : Option Bytes → KexTurn
  | some _ => turn.receives
  | none => turn

end KexTurn

/-- One step, with the `SSH_MSG_KEXINIT` of the server that arrives in it. -/
inductive KexStep (turn : KexTurn) : KexView → Option Bytes → KexView → KexTurn → Prop
  | quiet : KexStep turn .quiet none .quiet turn
  /-- The user asks for an exchange. -/
  | starts : KexStep turn .quiet none .awaiting turn.sends
  /-- The server asks for one while an event runs. -/
  | defers (payload : Bytes) :
    KexStep turn .quiet (some payload) (.pending payload) turn.receives
  /-- The server asks for one while none runs. -/
  | serves (payload : Bytes) :
    KexStep turn .quiet (some payload) (.serving payload) turn.receives.sends
  | failsAtOnce (payload : Bytes) :
    KexStep turn .quiet (some payload) .ended turn.receives.sends
  | keeps (payload : Bytes) (arrived : Option Bytes) :
    KexStep turn (.pending payload) arrived (.pending payload) (turn.after arrived)
  /-- The event has ended. -/
  | resumes (payload : Bytes) (arrived : Option Bytes) :
    KexStep turn (.pending payload) arrived (.serving payload) (turn.after arrived).sends
  | fails (payload : Bytes) (arrived : Option Bytes) :
    KexStep turn (.pending payload) arrived .ended (turn.after arrived).sends
  | waits : KexStep turn .awaiting none .awaiting turn
  /-- The server's payload goes to the user's exchange. -/
  | agrees (payload : Bytes) :
    KexStep turn .awaiting (some payload) (.serving payload) turn.receives
  | disagrees (payload : Bytes) : KexStep turn .awaiting (some payload) .quiet turn.receives
  /-- The user's exchange fails before the server's payload has come. -/
  | abandons : KexStep turn .awaiting none .quiet turn
  | goesOn (payload : Bytes) (arrived : Option Bytes) :
    KexStep turn (.serving payload) arrived (.serving payload) (turn.after arrived)
  | ends (payload : Bytes) (arrived : Option Bytes) :
    KexStep turn (.serving payload) arrived .quiet (turn.after arrived)
  | ended (view : KexView) (arrived : Option Bytes) :
    KexStep turn view arrived .ended (turn.after arrived)

/-- What is put off is the server's turn, and the client's turn is that of an exchange of the user
that waits. -/
structure KexView.Fair (view : KexView) (turn : KexTurn) : Prop where
  pending : ∀ payload, view = .pending payload → turn = .server
  client : turn = .client → view = .awaiting

theorem KexTurn.receives_ne_client (turn : KexTurn) : turn.receives ≠ .client := by
  cases turn <;> nofun

theorem KexTurn.after_ne_client {turn : KexTurn} (h : turn ≠ .client) (arrived : Option Bytes) :
    turn.after arrived ≠ .client := by
  cases arrived with
  | none => exact h
  | some payload => exact turn.receives_ne_client

theorem KexTurn.receives_of_ne_client {turn : KexTurn} (h : turn ≠ .client) :
    turn.receives = .server := by
  cases turn with
  | client => exact absurd rfl h
  | even | server => rfl

theorem KexTurn.after_server (arrived : Option Bytes) : KexTurn.server.after arrived = .server := by
  cases arrived <;> rfl

/-- Turns stay fair unless the user's exchange is given up while it waits. -/
theorem KexStep.fair {turn turn' : KexTurn} {view view' : KexView} {arrived : Option Bytes}
    (hstep : KexStep turn view arrived view' turn') (h : view.Fair turn)
    (hawaiting : view = .awaiting → arrived = none → view' = .awaiting) : view'.Fair turn' := by
  have hclient : view ≠ .awaiting → turn ≠ .client := fun hview hturn => hview (h.client hturn)
  have hnot : ∀ {view : KexView} {turn : KexTurn}, (∀ payload, view ≠ .pending payload) →
      turn ≠ .client → view.Fair turn := fun hview hturn =>
    ⟨fun payload heq => absurd heq (hview payload), fun heq => absurd heq hturn⟩
  cases hstep with
  | quiet => exact h
  | starts => exact ⟨nofun, fun _ => rfl⟩
  | defers payload =>
    have hserver := KexTurn.receives_of_ne_client (hclient nofun)
    exact ⟨fun _ _ => hserver, fun heq => by rw [hserver] at heq; cases heq⟩
  | serves payload | failsAtOnce payload =>
    rw [KexTurn.receives_of_ne_client (hclient nofun)]
    exact hnot nofun nofun
  | keeps payload =>
    rw [h.pending payload rfl, KexTurn.after_server]
    exact ⟨fun _ _ => rfl, nofun⟩
  | resumes payload | fails payload =>
    rw [h.pending payload rfl, KexTurn.after_server]
    exact hnot nofun nofun
  | waits => exact h
  | agrees payload | disagrees payload => exact hnot nofun (KexTurn.receives_ne_client turn)
  | abandons => cases hawaiting rfl rfl
  | goesOn payload | ends payload => exact hnot nofun (KexTurn.after_ne_client (hclient nofun) _)
  | ended =>
    cases arrived with
    | some payload => exact hnot nofun (KexTurn.receives_ne_client turn)
    | none =>
      refine hnot nofun fun hturn => ?_
      cases hawaiting (h.client hturn) rfl

/-! ## The bookkeeping of the backend -/

/-- The server's payload that an exchange runs with, once it is there. -/
def RekeyPhase.serves : RekeyPhase → Option Bytes
  | .kexInit _ => none
  | .group rekey _ | .reply rekey .. | .newKeys rekey _ => some rekey.serverKexMsg

/-- What is put off while an event waits. -/
def KexView.ofPending : Option Bytes → KexView
  | none => .quiet
  | some payload => .pending payload

/-- What an exchange is about. -/
def KexView.ofServing : Option Bytes → KexView
  | none => .awaiting
  | some payload => .serving payload

/-- The key exchange the backend is concerned with. -/
def Backend.kexView (s : Backend) : KexView :=
  match s.task with
  | .idle => .quiet
  | .waiting _ => .ofPending s.renegotiateMsg
  | .rekeying _ phase => .ofServing phase.serves
  | .exited _ => .ended

/-- The `SSH_MSG_KEXINIT` in a payload. -/
def kexInit? (payload : Bytes) : Option Bytes :=
  if payload.head? = some sshMsgKexinit then some payload else none

/-- Whose turn it is, from the history. -/
def kexTurn : List Effect → KexTurn
  | [] => .even
  | .sent (.kexInit _) :: log => (kexTurn log).sends
  | .received payload :: log => (kexTurn log).after (kexInit? payload)
  | _ :: log => kexTurn log

/-- The `SSH_MSG_KEXINIT` that an input brings. -/
def Input.kexInit? : Input → Option Bytes
  | .packet payload _ => Flatline.kexInit? payload
  | _ => none

/-- Effects that change no turn. -/
def Effect.keepsTurn : Effect → Bool
  | .sent (.kexInit _) => false
  | .received payload => (kexInit? payload).isNone
  | _ => true

/-- The flags say what the program point says: nothing is due at the head of the loop, a payload is
kept while an event waits, and none is kept while an exchange runs; a client that has begun waits in
the user's exchange. -/
structure KexFlags (s : Backend) : Prop where
  idle : s.task = .idle → s.renegotiating = false ∧ s.renegotiateMsg = none
  waits : ∀ wait, s.task = .waiting wait → s.renegotiating = s.renegotiateMsg.isSome
  rekeying : ∀ origin phase, s.task = .rekeying origin phase →
    s.renegotiating = true ∧ s.renegotiateMsg = none
  awaiting : ∀ origin phase, s.task = .rekeying origin phase → phase.serves = none → origin = .user

/-- A step that keeps the flags and goes as the bookkeeping says. -/
structure KexGoes (s : Backend) (arrived : Option Bytes) (t : Backend) : Prop where
  flags : KexFlags t
  step : KexStep (kexTurn s.log) s.kexView arrived t.kexView (kexTurn t.log)

variable {s t w : Backend} {p : Effect → Bool} {keys : List SocketAddr}

theorem kexTurn_append {effects log : List Effect}
    (h : ∀ effect ∈ effects, effect.keepsTurn = true) : kexTurn (effects ++ log) = kexTurn log := by
  induction effects with
  | nil => rfl
  | cons effect rest ih =>
    have hrest := ih fun effect heffect => h effect (List.mem_cons_of_mem _ heffect)
    have hkeeps := h effect List.mem_cons_self
    cases effect with
    | sent message =>
      cases message with
      | kexInit payload => cases hkeeps
      | _ => exact hrest
    | received payload =>
      rw [List.cons_append, kexTurn, Option.isNone_iff_eq_none.mp hkeeps]
      exact hrest
    | _ => exact hrest

theorem Grows.kexTurn_eq (h : Grows p keys s w)
    (hp : ∀ effect, p effect = true → effect.keepsTurn = true) :
    kexTurn w.log = kexTurn s.log := by
  obtain ⟨effects, hlog, heffects⟩ := h.log
  rw [hlog]
  exact kexTurn_append fun effect heffect => hp effect (heffects effect heffect)

theorem keepsTurn_of_isHandlers {effect : Effect} (h : effect.isHandlers = true) :
    effect.keepsTurn = true := by
  cases effect with
  | sent message => cases message <;> first | rfl | cases h
  | received payload => cases h
  | _ => rfl

theorem keepsTurn_of_isEvents {effect : Effect} (h : effect.isEvents = true) :
    effect.keepsTurn = true := by
  cases effect with
  | sent message => cases message <;> first | rfl | cases h
  | received payload => cases h
  | _ => rfl

theorem keepsTurn_of_isExchanges {effect : Effect} (h : effect.isExchanges = true) :
    effect.keepsTurn = true := by
  cases effect with
  | sent message => cases message <;> first | rfl | cases h
  | _ => cases h

theorem kexTurn_afterRecv (s : Backend) (payload : Bytes) :
    kexTurn (s.afterRecv payload).log = (kexTurn s.log).after (kexInit? payload) := rfl

theorem Extends.task (h : Extends p keys s w) : w.task = s.task :=
  congrArg Prod.fst h.control

theorem Extends.renegotiating (h : Extends p keys s w) : w.renegotiating = s.renegotiating :=
  congrArg (·.2.1) h.control

theorem Extends.renegotiateMsg (h : Extends p keys s w) : w.renegotiateMsg = s.renegotiateMsg :=
  congrArg (·.2.2) h.control

/-! ### The payload of an exchange -/

theorem holds_true {α : Type} (m : BackendM α) :
    Holds (fun _ => True) m (fun _ _ => True) (fun _ _ => True) := by
  intro w _
  cases m w <;> trivial

/-- An exchange that begins has the payload it was given. -/
theorem serves_beginKeyExchange (env : Env) (rekey : Rekey) :
    Holds (fun _ => True) (beginKeyExchange env rekey)
      (fun phase _ => phase.serves = some rekey.serverKexMsg) (fun _ _ => True) := by
  unfold beginKeyExchange
  split
  · exact (holds_true _).bind fun _ => (holds_true _).bind fun _ => Holds.pure fun _ _ => rfl
  · exact (holds_true _).bind fun _ => (holds_true _).bind fun _ => Holds.pure fun _ _ => rfl

theorem serves_matchMethods (env : Env) (clientKexMsg payload : Bytes) :
    Holds (fun _ => True) (matchMethods env clientKexMsg payload)
      (fun phase _ => phase.serves = some payload) (fun _ _ => True) :=
  (holds_true _).bind fun _ => (holds_true _).bind fun _ => serves_beginKeyExchange env _

/-- An exchange goes on with its payload, and takes the one that arrives if it has none. -/
theorem serves_proceedRekey (env : Env) (payload : Bytes) (phase : RekeyPhase)
    (hhead : payload.head? = some phase.awaits) :
    Holds (fun _ => True) (proceedRekey env payload phase)
      (fun progress _ => ∀ phase', progress = .again phase' →
        phase'.serves = phase.serves.or (kexInit? payload)) (fun _ _ => True) := by
  have hagain : ∀ {m : BackendM RekeyPhase} {served : Option Bytes},
      Holds (fun _ => True) m (fun phase _ => phase.serves = served) (fun _ _ => True) →
        Holds (fun _ => True) (do return .again (← m) : BackendM RekeyProgress)
          (fun progress _ => ∀ phase', progress = .again phase' → phase'.serves = served)
          (fun _ _ => True) := by
    intro m served hm
    refine hm.bind fun phase => Holds.pure fun _ h phase' heq => ?_
    injection heq with heq
    rw [← heq]
    exact h
  cases phase with
  | kexInit clientKexMsg =>
    have hpayload : kexInit? payload = some payload := if_pos hhead
    rw [hpayload]
    exact hagain (serves_matchMethods env clientKexMsg payload)
  | group rekey exchange =>
    refine (holds_true _).bind fun _ => hagain ?_
    exact (holds_true _).bind fun _ => (holds_true _).bind fun _ => Holds.pure fun _ _ => rfl
  | reply rekey group seed clientPublicKey =>
    refine hagain ?_
    exact (holds_true _).bind fun _ => (holds_true _).bind fun _ => (holds_true _).bind fun _ =>
      (holds_true _).bind fun _ => Holds.pure fun _ _ => rfl
  | newKeys rekey keys =>
    exact (holds_true _).bind fun _ => Holds.pure fun _ _ phase' heq => by cases heq

/-! ### Ends of turns -/

theorem KexFlags.of_exited {result : Except Fault Unit} (h : t.task = .exited result) :
    KexFlags t where
  idle heq := by cases h.symm.trans heq
  waits _ heq := by cases h.symm.trans heq
  rekeying _ _ heq := by cases h.symm.trans heq
  awaiting _ _ heq := by cases h.symm.trans heq

theorem kexView_of_exited {result : Except Fault Unit} (h : t.task = .exited result) :
    t.kexView = .ended := by
  unfold Backend.kexView
  rw [h]

/-- The session ends. -/
theorem KexGoes.exit {arrived : Option Bytes} {result : Except Fault Unit}
    (hturn : kexTurn w.log = (kexTurn s.log).after arrived) :
    KexGoes s arrived (w.exit result) := by
  refine ⟨.of_exited rfl, ?_⟩
  change KexStep _ _ _ .ended (kexTurn w.log)
  rw [hturn]
  exact .ended _ _

theorem KexFlags.of_idle (h : t.task = .idle) (hre : t.renegotiating = false)
    (hmsg : t.renegotiateMsg = none) : KexFlags t where
  idle _ := ⟨hre, hmsg⟩
  waits _ heq := by cases h.symm.trans heq
  rekeying _ _ heq := by cases h.symm.trans heq
  awaiting _ _ heq := by cases h.symm.trans heq

theorem KexFlags.of_waiting {wait : Wait} (h : t.task = .waiting wait)
    (hre : t.renegotiating = t.renegotiateMsg.isSome) : KexFlags t where
  idle heq := by cases h.symm.trans heq
  waits _ _ := hre
  rekeying _ _ heq := by cases h.symm.trans heq
  awaiting _ _ heq := by cases h.symm.trans heq

/-- Nothing is due when the iteration ends. -/
theorem afterIteration_none (env : Env) (h : w.renegotiateMsg = none) :
    w.afterIteration env = { w with task := .idle } := by
  unfold Backend.afterIteration
  rw [h]

theorem turn_sendKexInit (env : Env) (s : Backend) :
    Holds (· = s) (sendKexInit env)
      (fun _ w => kexTurn w.log = (kexTurn s.log).sends)
      (fun _ w => kexTurn w.log = kexTurn s.log) := by
  refine Holds.get.bind fun w => Holds.of_and fun hw => ?_
  subst hw
  have hsend : ∀ payload, Holds (· = w) (sendPayload env (.kexInit payload))
      (fun _ t => kexTurn t.log = (kexTurn w.log).sends)
      (fun _ t => kexTurn t.log = kexTurn w.log) := by
    rintro payload w rfl
    unfold sendPayload
    by_cases hlen : (ClientMessage.kexInit payload).encode.length > maxPacketPayloadLength
    · rw [if_pos hlen]
    · rw [if_neg hlen]
      cases env.writeError w.attempts <;> rfl
  exact (hsend _).bind fun _ => Holds.pure fun _ h => h

/-- An exchange of the server, whose errors end the session. -/
theorem startRekey_some (env : Env) (origin : RekeyOrigin) (payload : Bytes)
    (fail : Error → Backend → Backend) (hfail : ∀ e w, fail e w = w.failSession e)
    (hre : w.renegotiating = true) (hmsg : w.renegotiateMsg = none) :
    KexFlags (w.startRekey env origin (some payload) fail) ∧
      ((w.startRekey env origin (some payload) fail).kexView = .serving payload ∧
          kexTurn (w.startRekey env origin (some payload) fail).log = (kexTurn w.log).sends ∨
        (w.startRekey env origin (some payload) fail).kexView = .ended ∧
          (kexTurn (w.startRekey env origin (some payload) fail).log = kexTurn w.log ∨
            kexTurn (w.startRekey env origin (some payload) fail).log = (kexTurn w.log).sends)) := by
  -- an error and a panic both end the session, and neither adds to the turn of the exchange
  have hstop : ∀ (fault : Fault) (w : Backend) (fail : Error → Backend → Backend),
      (∀ e w, ∃ result, (fail e w).task = .exited result ∧ kexTurn (fail e w).log = kexTurn w.log) →
      ∃ result, (w.stop fault fail).task = .exited result ∧
        kexTurn (w.stop fault fail).log = kexTurn w.log := by
    intro fault w fail hfail
    cases fault with
    | error e => exact hfail e w
    | panicked | stuck => exact ⟨_, rfl, rfl⟩
  have hstart := rekeyStart w env origin (some payload) fail
  generalize w.startRekey env origin (some payload) fail = t at hstart ⊢
  cases hstart with
  | @unsent fault w₁ hinit =>
    have hturn := (turn_sendKexInit env w).of_error rfl hinit
    obtain ⟨result, htask, hlog⟩ := hstop fault w₁ fail fun e w =>
      ⟨_, congrArg Backend.task (hfail e w), congrArg (kexTurn ·.log) (hfail e w)⟩
    exact ⟨.of_exited htask, .inr ⟨kexView_of_exited htask, .inl (hlog.trans hturn)⟩⟩
  | @failed clientKexMsg fault w₁ w₂ hinit hmethods =>
    have hturn := (turn_sendKexInit env w).of_ok rfl hinit
    have hexchange : Extends _ [] w₁ w₂ := (emits_negotiateMethods env _ _).of_error hmethods
    have hsame := hexchange.toGrows.kexTurn_eq fun _ => keepsTurn_of_isExchanges
    obtain ⟨result, htask, hlog⟩ := hstop fault w₂ _ fun e w =>
      ⟨_, congrArg Backend.task (hfail e (w.note (.rekeyFailed origin e))),
        congrArg (kexTurn ·.log) (hfail e (w.note (.rekeyFailed origin e)))⟩
    exact ⟨.of_exited htask, .inr ⟨kexView_of_exited htask,
      .inr ((hlog.trans hsame).trans hturn)⟩⟩
  | @started clientKexMsg phase w₁ w₂ hinit hmethods =>
    have hturn := (turn_sendKexInit env w).of_ok rfl hinit
    have hinit' : Extends _ [] w w₁ := (emits_sendKexInit env).of_ok hinit
    have hexchange : Extends _ [] w₁ w₂ := (emits_negotiateMethods env _ _).of_ok hmethods
    have hsame := hexchange.toGrows.kexTurn_eq fun _ => keepsTurn_of_isExchanges
    -- the first phase of an exchange keeps the payload it has been started with
    have hserves : phase.serves = some payload :=
      (serves_matchMethods env clientKexMsg payload).of_ok trivial hmethods
    refine ⟨⟨nofun, nofun, fun _ _ _ => ?_, fun origin' phase' htask hnone => ?_⟩, .inl ⟨?_, ?_⟩⟩
    · exact ⟨hexchange.renegotiating.trans (hinit'.renegotiating.trans hre),
        hexchange.renegotiateMsg.trans (hinit'.renegotiateMsg.trans hmsg)⟩
    · injection htask with _ hphase
      rw [← hphase, hserves] at hnone
      cases hnone
    · change KexView.ofServing phase.serves = _
      rw [hserves]
      rfl
    · exact hsame.trans hturn

/-! ### Turns -/

variable {arrived : Option Bytes}

/-- An iteration ends with the exchange that is due, or with none. -/
theorem kexGoes_afterIteration (env : Env) (hview : s.kexView = .ofPending w.renegotiateMsg)
    (hre : w.renegotiating = w.renegotiateMsg.isSome)
    (hturn : kexTurn w.log = (kexTurn s.log).after arrived)
    (hquiet : w.renegotiateMsg = none → arrived = none) :
    KexGoes s arrived (w.afterIteration env) := by
  cases hmsg : w.renegotiateMsg with
  | none =>
    rw [hmsg] at hview hre
    obtain rfl := hquiet hmsg
    rw [afterIteration_none env hmsg]
    refine ⟨.of_idle rfl hre hmsg, ?_⟩
    rw [hview]
    change KexStep _ .quiet none .quiet (kexTurn w.log)
    rw [hturn]
    exact .quiet
  | some payload =>
    rw [hmsg] at hview hre
    have hdeferred : w.afterIteration env = Backend.startRekey env .deferred (some payload)
        Backend.failSession { w with renegotiateMsg := none } := by
      unfold Backend.afterIteration
      rw [hmsg]
    obtain ⟨hflags, hstep⟩ := startRekey_some (w := { w with renegotiateMsg := none }) env .deferred
      payload Backend.failSession (fun _ _ => rfl) hre rfl
    rw [← hdeferred] at hflags hstep
    refine ⟨hflags, ?_⟩
    rw [hview]
    obtain ⟨hserving, hsends⟩ | ⟨hended, hsame | hsends⟩ := hstep
    · rw [hserving, hsends, hturn]
      exact .resumes payload arrived
    · rw [hended, hsame, hturn]
      exact .ended _ arrived
    · rw [hended, hsends, hturn]
      exact .fails payload arrived

theorem kexGoes_endEvent (env : Env) (result : Except Error Reply)
    (hview : s.kexView = .ofPending w.renegotiateMsg)
    (hre : w.renegotiating = w.renegotiateMsg.isSome)
    (hturn : kexTurn w.log = (kexTurn s.log).after arrived)
    (hquiet : w.renegotiateMsg = none → arrived = none) :
    KexGoes s arrived (w.endEvent env result) :=
  kexGoes_afterIteration env hview hre hturn hquiet

/-- A turn of an event leaves what is due as it is, and ends with it. -/
theorem kexGoes_settleEvent (env : Env) {r : EStateM.Result Fault Backend Progress}
    (hr : Extends p keys w (stateOf r)) (hp : ∀ effect, p effect = true → effect.keepsTurn = true)
    (hview : s.kexView = .ofPending w.renegotiateMsg)
    (hre : w.renegotiating = w.renegotiateMsg.isSome)
    (hturn : kexTurn w.log = (kexTurn s.log).after arrived)
    (hquiet : w.renegotiateMsg = none → arrived = none) :
    KexGoes s arrived (Backend.settleEvent env r) := by
  have hview' : s.kexView = .ofPending (stateOf r).renegotiateMsg := by
    rw [hr.renegotiateMsg, hview]
  have hre' : (stateOf r).renegotiating = (stateOf r).renegotiateMsg.isSome := by
    rw [hr.renegotiateMsg, hr.renegotiating, hre]
  have hturn' := (hr.toGrows.kexTurn_eq hp).trans hturn
  have hquiet' : (stateOf r).renegotiateMsg = none → arrived = none := by
    rw [hr.renegotiateMsg]
    exact hquiet
  rcases r with ⟨reply | wait, w'⟩ | ⟨fault, w'⟩
  · exact kexGoes_endEvent env _ hview' hre' hturn' hquiet'
  · refine ⟨.of_waiting rfl hre', ?_⟩
    change KexStep (kexTurn s.log) s.kexView arrived (.ofPending w'.renegotiateMsg) (kexTurn w'.log)
    change s.kexView = .ofPending w'.renegotiateMsg at hview'
    change kexTurn w'.log = _ at hturn'
    rw [hview', hturn']
    cases hmsg : w'.renegotiateMsg with
    | none =>
      rw [hquiet' hmsg]
      exact .quiet
    | some payload => exact .keeps payload arrived
  · cases fault with
    | error e => exact kexGoes_endEvent env _ hview' hre' hturn' hquiet'
    | panicked | stuck => exact .exit hturn'

/-- An exchange that has ended leaves nothing due. -/
theorem kexGoes_finished {origin : RekeyOrigin} {phase : RekeyPhase}
    (htask : s.task = .rekeying origin phase) (hmsg : w.renegotiateMsg = none)
    (hturn : kexTurn w.log = (kexTurn s.log).after arrived) :
    KexGoes s arrived { w with renegotiating := false, task := .idle } := by
  refine ⟨.of_idle rfl rfl hmsg, ?_⟩
  change KexStep _ _ _ .quiet (kexTurn w.log)
  unfold Backend.kexView
  rw [htask, hturn]
  change KexStep _ (.ofServing phase.serves) _ _ _
  cases phase.serves with
  | some payload => exact .ends payload arrived
  | none =>
    cases arrived with
    | none => exact .abandons
    | some payload => exact .disagrees payload

/-- The user's exchange ends like an event, and nothing is due then. -/
theorem endEvent_user (env : Env) (result : Except Error Reply) (hmsg : w.renegotiateMsg = none) :
    (({ w with renegotiating := false } : Backend).endEvent env result) =
      { w.note (.answered result) with renegotiating := false, task := .idle } :=
  afterIteration_none (w := ({ w with renegotiating := false } : Backend).note (.answered result))
    env hmsg

/-- The user's exchange is an event, so it ends like one. -/
theorem kexGoes_finished_user {origin : RekeyOrigin} {phase : RekeyPhase} (env : Env)
    (result : Except Error Reply) (htask : s.task = .rekeying origin phase)
    (hmsg : w.renegotiateMsg = none) (hturn : kexTurn w.log = (kexTurn s.log).after arrived) :
    KexGoes s arrived (({ w with renegotiating := false } : Backend).endEvent env result) := by
  rw [endEvent_user env result hmsg]
  exact kexGoes_finished (w := w.note (.answered result)) htask hmsg hturn

theorem kexGoes_settleRekey (env : Env) {origin : RekeyOrigin} {phase : RekeyPhase}
    {r : EStateM.Result Fault Backend RekeyProgress} (hs : KexFlags s)
    (htask : s.task = .rekeying origin phase)
    (hcontrol : w.renegotiating = s.renegotiating ∧ w.renegotiateMsg = s.renegotiateMsg)
    (hr : Extends p keys w (stateOf r)) (hp : ∀ effect, p effect = true → effect.keepsTurn = true)
    (hturn : kexTurn w.log = (kexTurn s.log).after arrived)
    (hagain : ∀ phase' w', r = .ok (.again phase') w' → phase'.serves = phase.serves.or arrived) :
    KexGoes s arrived (Backend.settleRekey env origin r) := by
  obtain ⟨hre, hmsg⟩ := hs.rekeying origin phase htask
  have hmsg' : (stateOf r).renegotiateMsg = none := by
    rw [hr.renegotiateMsg, hcontrol.2, hmsg]
  have hturn' := (hr.toGrows.kexTurn_eq hp).trans hturn
  -- the exchange goes on, is done, or fails
  rcases r with ⟨phase' | _, w'⟩ | ⟨fault, w'⟩
  · have hserves := hagain phase' w' rfl
    refine ⟨⟨nofun, nofun, fun _ _ _ => ⟨?_, hmsg'⟩, fun origin' phase'' heq hnone => ?_⟩, ?_⟩
    · exact hr.renegotiating.trans (hcontrol.1.trans hre)
    · injection heq with horigin hphase
      rw [← hphase, hserves] at hnone
      rw [← horigin]
      exact hs.awaiting origin phase htask (Option.or_eq_none_iff.mp hnone).1
    · change KexStep _ _ _ (.ofServing phase'.serves) (kexTurn w'.log)
      change kexTurn w'.log = _ at hturn'
      unfold Backend.kexView
      rw [htask, hturn', hserves]
      change KexStep _ (.ofServing phase.serves) _ _ _
      cases phase.serves with
      | some payload => exact .goesOn payload arrived
      | none =>
        cases arrived with
        | none => exact .waits
        | some payload => exact .agrees payload
  · cases origin with
    | server =>
      have hend := afterIteration_none (w := { w' with renegotiating := false }) env hmsg'
      change KexGoes s arrived (Backend.afterIteration env { w' with renegotiating := false })
      rw [hend]
      exact kexGoes_finished htask hmsg' hturn'
    | deferred => exact kexGoes_finished htask hmsg' hturn'
    | user => exact kexGoes_finished_user env _ htask hmsg' hturn'
  · cases fault with
    | error e =>
      cases origin with
      | server | deferred => exact .exit (w := w'.note (.rekeyFailed _ e)) hturn'
      | user =>
        exact kexGoes_finished_user (w := w'.note (.rekeyFailed .user e)) env _ htask hmsg' hturn'
    | panicked | stuck => exact .exit hturn'

/-! ### Packets -/

/-- A `SSH_MSG_KEXINIT` is no message of the connection layer: its payload is handed on as it is. -/
theorem parse_kexInit {payload : Bytes} (h : payload.head? = some sshMsgKexinit) :
    Message.parse payload = .ok (.unrecognized sshMsgKexinit payload) := by
  cases payload with
  | nil => cases h
  | cons number rest =>
    obtain rfl := Option.some.inj h
    rfl

theorem kexInit?_of_parse {payload data : Bytes}
    (h : Message.parse payload = .ok (.unrecognized sshMsgKexinit data)) :
    data = payload ∧ kexInit? payload = some payload := by
  have hhead : payload.head? = some sshMsgKexinit := Message.head?_of_parse h
  rw [parse_kexInit hhead] at h
  injection h with h
  injection h with _ hdata
  exact ⟨hdata.symm, if_pos hhead⟩

theorem kexInit?_eq_some {payload data : Bytes} (h : kexInit? payload = some data) :
    data = payload ∧ payload.head? = some sshMsgKexinit := by
  unfold kexInit? at h
  split at h
  · next hhead => exact ⟨(Option.some.inj h).symm, hhead⟩
  · cases h

theorem extends_stateOf {α : Type} {m : BackendM α} (hm : Emits p keys m) (s : Backend) :
    Extends p keys s (stateOf (m s)) := by
  cases hrun : m s with
  | ok a w => exact hm.of_ok hrun
  | error fault w => exact hm.of_error hrun

/-- What `handle_msg` does with a message that is no `SSH_MSG_KEXINIT` to take. -/
theorem handleMsg_extends (env : Env) {msg : Message} (idle : Bool)
    (htakes : takesKexInit s msg = false) :
    Extends Effect.isHandlers [] s (stateOf (handleMsg env msg idle s)) ∧
      ∀ data w, handleMsg env msg idle s = .ok data w → data = none := by
  have hextends : Holds (· = s) (handleMsg env msg idle)
      (fun data w => data = none ∧ Extends Effect.isHandlers [] s w)
      (fun _ => Extends Effect.isHandlers [] s) := extends_handleMsg env idle s htakes
  refine ⟨?_, fun data w hrun => (hextends.of_ok rfl hrun).1⟩
  cases hrun : handleMsg env msg idle s with
  | ok data w => exact (hextends.of_ok rfl hrun).2
  | error fault w => exact hextends.of_error rfl hrun

/-- No event waits for a `SSH_MSG_KEXINIT`. -/
theorem react_kexInit {env : Env} {wait : Wait} {payload : Bytes}
    (h : payload.head? = some sshMsgKexinit) : wait.react env payload = none := by
  have hparse := parse_kexInit h
  cases wait with
  | tcpIpForward addr window packet => simp only [Wait.react, h, hparse]; rfl
  | authentication wait => cases wait <;> simp only [Wait.react, hparse] <;> rfl
  | _ => simp only [Wait.react, hparse]; rfl

/-- While the loop or an event runs, the flags say what is put off. -/
theorem KexFlags.due (hs : KexFlags s) (h : s.task = .idle ∨ ∃ wait, s.task = .waiting wait) :
    s.kexView = .ofPending s.renegotiateMsg ∧ s.renegotiating = s.renegotiateMsg.isSome := by
  unfold Backend.kexView
  obtain htask | ⟨wait, htask⟩ := h
  · obtain ⟨hre, hmsg⟩ := hs.idle htask
    rw [htask, hmsg, hre]
    exact ⟨rfl, rfl⟩
  · rw [htask]
    exact ⟨rfl, hs.waits wait htask⟩

/-- A `SSH_MSG_KEXINIT` that is taken. -/
theorem kexGoes_takes {payload data : Bytes} {env : Env} (hs : KexFlags s)
    (hrunning : s.task.running = true) (hre : s.renegotiating = false)
    (hparse : Message.parse payload = .ok (.unrecognized sshMsgKexinit data)) :
    KexGoes s (kexInit? payload) (Backend.settleHandled env s.task
      (.ok (if s.task.isIdle then some data else none)
        { s.afterRecv payload with
          renegotiating := true
          renegotiateMsg := if s.task.isIdle then s.renegotiateMsg
            else s.renegotiateMsg.or (some data) })) := by
  obtain ⟨rfl, harrived⟩ := kexInit?_of_parse hparse
  rw [harrived]
  cases htask : s.task with
  | idle =>
    obtain ⟨-, hmsg⟩ := hs.idle htask
    let w : Backend := { s.afterRecv data with renegotiating := true }
    obtain ⟨hflags, hstep⟩ := startRekey_some (w := w) env .server data
      (Backend.failRekey env .server) (fun _ _ => rfl) rfl hmsg
    have hview : s.kexView = .quiet := by
      unfold Backend.kexView
      rw [htask]
    have hturn : kexTurn w.log = (kexTurn s.log).receives := by
      change (kexTurn s.log).after (kexInit? data) = _
      rw [harrived]
      rfl
    change KexGoes s (some data) (w.startRekey env .server (some data)
      (Backend.failRekey env .server))
    refine ⟨hflags, ?_⟩
    rw [hview]
    obtain ⟨hserving, hsends⟩ | ⟨hended, hsame | hsends⟩ := hstep
    · rw [hserving, hsends, hturn]
      exact .serves data
    · rw [hended, hsame, hturn]
      exact .ended _ (some data)
    · rw [hended, hsends, hturn]
      exact .failsAtOnce data
  | waiting wait =>
    -- the flag and the payload that is kept go together while an event waits
    have hmsg : s.renegotiateMsg = none := by
      have hsome := hs.waits wait htask
      rw [hre] at hsome
      exact Option.not_isSome_iff_eq_none.mp (by rw [← hsome]; nofun)
    refine ⟨.of_waiting rfl ?_, ?_⟩
    · change true = (s.renegotiateMsg.or (some data)).isSome
      rw [hmsg]
      rfl
    · change KexStep _ _ _ (.ofPending (s.renegotiateMsg.or (some data)))
        ((kexTurn s.log).after (kexInit? data))
      unfold Backend.kexView
      rw [htask, hmsg, harrived]
      exact .defers data
  | rekeying origin phase =>
    rw [(hs.rekeying origin phase htask).1] at hre
    cases hre
  | exited result =>
    rw [htask] at hrunning
    cases hrunning

/-- What `handle_msg` does with any other message. -/
theorem kexGoes_settleHandled {payload : Bytes} {env : Env} (hs : KexFlags s)
    {r : EStateM.Result Fault Backend (Option Bytes)} (hrunning : s.task.running = true)
    (hr : Extends p [] (s.afterRecv payload) (stateOf r))
    (hp : ∀ effect, p effect = true → effect.keepsTurn = true)
    (hnone : ∀ data w, r = .ok data w → data = none)
    (hquiet : s.renegotiating = false → kexInit? payload = none)
    (hawaiting : ∀ origin phase, s.task = .rekeying origin phase →
      phase.serves.or (kexInit? payload) = phase.serves) :
    KexGoes s (kexInit? payload) (Backend.settleHandled env s.task r) := by
  have hturn := kexTurn_afterRecv s payload
  cases htask : s.task with
  | idle =>
    obtain ⟨hview, hre⟩ := hs.due (.inl htask)
    have hturn' := (hr.toGrows.kexTurn_eq hp).trans hturn
    have hmsg := hr.renegotiateMsg
    have hflag := hr.renegotiating
    rcases r with ⟨data, w⟩ | ⟨fault, w⟩
    · obtain rfl := hnone data w rfl
      change w.renegotiateMsg = s.renegotiateMsg at hmsg
      change w.renegotiating = s.renegotiating at hflag
      exact kexGoes_afterIteration env (by rw [hmsg, hview]) (by rw [hmsg, hflag, hre]) hturn'
        fun _ => hquiet (hs.idle htask).1
    · exact .exit hturn'
  | waiting wait =>
    obtain ⟨hview, hre⟩ := hs.due (.inr ⟨wait, htask⟩)
    have hquiet' : s.renegotiateMsg = none → kexInit? payload = none := by
      intro hmsg
      apply hquiet
      rw [hre, hmsg]
      rfl
    rcases r with ⟨data, w⟩ | ⟨fault, w⟩
    · have hw : Extends p [] (s.afterRecv payload) w := hr
      exact kexGoes_settleEvent (w := s.afterRecv payload) (r := .ok (.wait wait) w) env hw hp hview
        hre hturn hquiet'
    · have hw : Extends p [] (s.afterRecv payload) w := hr
      exact kexGoes_settleEvent (w := s.afterRecv payload) (r := .error fault w) env hw hp hview hre
        hturn hquiet'
  | rekeying origin phase =>
    rcases r with ⟨data, w⟩ | ⟨fault, w⟩
    · have hw : Extends p [] (s.afterRecv payload) w := hr
      refine kexGoes_settleRekey (w := s.afterRecv payload) (r := .ok (.again phase) w) env hs htask
        ⟨rfl, rfl⟩ hw hp hturn ?_
      intro phase' w' heq
      injection heq with heq
      injection heq with heq
      rw [← heq, hawaiting origin phase htask]
    · have hw : Extends p [] (s.afterRecv payload) w := hr
      exact kexGoes_settleRekey (w := s.afterRecv payload) (r := .error fault w) env hs htask
        ⟨rfl, rfl⟩ hw hp hturn fun _ _ h => by cases h
  | exited result =>
    rw [htask] at hrunning
    cases hrunning

theorem kexGoes_next_packet (hs : KexFlags s) (hrunning : s.task.running = true) (payload : Bytes)
    (env : Env) : KexGoes s (kexInit? payload) (s.next (.packet payload env)) := by
  have hturn := packetTurn s payload env
  generalize s.next (.packet payload env) = t at hturn ⊢
  cases hturn with
  | @handled msg hhandles =>
    have hparse := parse_of_handles hhandles
    cases htakes : takesKexInit (s.afterRecv payload) msg with
    | true =>
      obtain ⟨data, rfl, hre, hrun⟩ := handleMsg_takes env s.task.isIdle htakes
      rw [hrun]
      exact kexGoes_takes hs hrunning hre hparse
    | false =>
      obtain ⟨hextends, hnone⟩ := handleMsg_extends env s.task.isIdle htakes
      refine kexGoes_settleHandled hs hrunning hextends (fun _ => keepsTurn_of_isHandlers) hnone
        ?_ ?_
      · intro hre
        cases harrived : kexInit? payload with
        | none => rfl
        | some data =>
          obtain ⟨rfl, hhead⟩ := kexInit?_eq_some harrived
          rw [parse_kexInit hhead] at hparse
          injection hparse with hmsg
          have htrue : takesKexInit (s.afterRecv data) msg = true := by
            rw [← hmsg]
            exact Bool.and_eq_true_iff.mpr ⟨rfl, (Bool.not_eq_true' _).mpr hre⟩
          cases htakes.symm.trans htrue
      · intro origin phase htask
        cases hserves : phase.serves with
        | some payload => rfl
        | none =>
          cases phase with
          | kexInit clientKexMsg =>
            -- the loop takes the payload itself
            unfold Backend.handles at hhandles
            rw [htask] at hhandles
            simp only at hhandles
            split at hhandles
            · cases hhandles
            · next hhead => exact if_neg hhead
          | group | reply | newKeys => cases hserves
  | @reacted wait m htask hreact hpayload =>
    obtain ⟨hview, hre⟩ := hs.due (.inr ⟨wait, htask⟩)
    have harrived : kexInit? payload = none := by
      refine if_neg fun hhead => ?_
      cases (react_kexInit hhead).symm.trans hreact
    have hextends : Extends Effect.isEvents (wait.touches payload) (s.afterRecv payload)
        (stateOf (m (s.afterRecv payload))) := extends_stateOf (emits_react hreact) _
    exact kexGoes_settleEvent env hextends (fun _ => keepsTurn_of_isEvents) hview hre
      (kexTurn_afterRecv s payload) fun _ => harrived
  | @exchanged origin phase htask hhead =>
    have hextends : Extends Effect.isExchanges [] (s.afterRecv payload)
        (stateOf (proceedRekey env payload phase (s.afterRecv payload))) :=
      extends_stateOf (emits_proceedRekey env payload phase) _
    refine kexGoes_settleRekey (w := s.afterRecv payload) env hs htask ⟨rfl, rfl⟩ hextends
      (fun _ => keepsTurn_of_isExchanges) (kexTurn_afterRecv s payload) fun phase' w hrun => ?_
    exact (serves_proceedRekey env payload phase hhead).of_ok trivial hrun phase' rfl
  | @refused e _ hparse =>
    have harrived : kexInit? payload = none := if_neg fun hhead => hparse _ (parse_kexInit hhead)
    have hextends : Extends Effect.isHandlers [] (s.afterRecv payload) (s.afterRecv payload) :=
      .refl _
    refine kexGoes_settleHandled (r := .error (.error e) (s.afterRecv payload)) hs hrunning hextends
      (fun _ => keepsTurn_of_isHandlers) (fun _ _ h => by cases h) (fun _ => harrived)
      fun _ _ _ => ?_
    rw [harrived, Option.or_none]
  | exited htask =>
    rw [htask] at hrunning
    cases hrunning

/-! ### Steps -/

/-- Nothing happens to the control. -/
theorem KexGoes.of_same (hs : KexFlags s) (hcontrol : t.control = s.control)
    (hlog : t.log = s.log) : KexGoes s none t := by
  have htask : t.task = s.task := congrArg Prod.fst hcontrol
  have hre : t.renegotiating = s.renegotiating := congrArg (·.2.1) hcontrol
  have hmsg : t.renegotiateMsg = s.renegotiateMsg := congrArg (·.2.2) hcontrol
  have hview : t.kexView = s.kexView := by
    unfold Backend.kexView
    rw [htask, hmsg]
  refine ⟨⟨?_, ?_, ?_, ?_⟩, ?_⟩
  · rw [htask, hre, hmsg]
    exact hs.idle
  · rw [htask, hre, hmsg]
    exact hs.waits
  · rw [htask, hre, hmsg]
    exact hs.rekeying
  · rw [htask]
    exact hs.awaiting
  · rw [hview, hlog]
    cases s.kexView with
    | quiet => exact .quiet
    | pending payload => exact .keeps payload none
    | awaiting => exact .waits
    | serving payload => exact .goesOn payload none
    | ended => exact .ended _ none

/-- The user asks for an exchange. -/
theorem kexGoes_renegotiate (hs : KexFlags s) (htask : s.task = .idle) (env : Env) :
    KexGoes s none (s.next (.event .renegotiate env)) := by
  obtain ⟨hview, -⟩ := hs.due (.inl htask)
  obtain ⟨-, hmsg⟩ := hs.idle htask
  change KexGoes s none (Backend.startRekey env .user none (Backend.failRekey env .user)
    { s with renegotiating := true })
  have hstart := rekeyStart { s with renegotiating := true } env .user none
    (Backend.failRekey env .user)
  generalize Backend.startRekey env .user none (Backend.failRekey env .user)
    { s with renegotiating := true } = t at hstart ⊢
  cases hstart with
  | @unsent fault w hinit =>
    have hturn : kexTurn w.log = kexTurn s.log :=
      (turn_sendKexInit env { s with renegotiating := true }).of_error rfl hinit
    have hextends : Extends _ [] _ w := (emits_sendKexInit env).of_error hinit
    have hmsg' : w.renegotiateMsg = none := hextends.renegotiateMsg.trans hmsg
    cases fault with
    | error e =>
      refine kexGoes_endEvent (w := { w with renegotiating := false }) env (.error e) ?_ ?_ hturn
        fun _ => rfl
      · rw [hview, hmsg]
        exact congrArg KexView.ofPending hmsg'.symm
      · exact (congrArg Option.isSome hmsg').symm
    | panicked | stuck => exact .exit hturn
  | failed hinit hmethods => cases hmethods
  | @started clientKexMsg phase w w' hinit hmethods =>
    have hturn : kexTurn w.log = (kexTurn s.log).sends :=
      (turn_sendKexInit env { s with renegotiating := true }).of_ok rfl hinit
    have hextends : Extends _ [] _ w := (emits_sendKexInit env).of_ok hinit
    cases hmethods
    refine ⟨⟨nofun, nofun, fun _ _ _ => ?_, fun origin phase heq _ => ?_⟩, ?_⟩
    · exact ⟨hextends.renegotiating, hextends.renegotiateMsg.trans hmsg⟩
    · injection heq with horigin
      exact horigin.symm
    · change KexStep (kexTurn s.log) s.kexView none .awaiting (kexTurn w.log)
      rw [hturn, hview, hmsg]
      exact .starts

/-- `recv_packet` fails. -/
theorem kexGoes_next_receiveFailed (hs : KexFlags s) (hrunning : s.task.running = true)
    (error : Error) (env : Env) : KexGoes s none (s.next (.receiveFailed error env)) := by
  change KexGoes s none (s.onReceiveFailed error env)
  unfold Backend.onReceiveFailed
  cases htask : s.task with
  | idle => exact .exit rfl
  | waiting wait =>
    obtain ⟨hview, hre⟩ := hs.due (.inr ⟨wait, htask⟩)
    exact kexGoes_endEvent env _ hview hre rfl fun _ => rfl
  | rekeying origin phase =>
    have hextends : Extends Effect.isExchanges [] s s := .refl s
    exact kexGoes_settleRekey (r := .error (.error error) s) env hs htask ⟨rfl, rfl⟩ hextends
      (fun _ => keepsTurn_of_isExchanges) rfl fun _ _ h => by cases h
  | exited result =>
    rw [htask] at hrunning
    cases hrunning

/-- The backend follows the bookkeeping. -/
theorem kexGoes_next (hs : KexFlags s) {i : Input} (hpossible : i.possible s = true) :
    KexGoes s i.kexInit? (s.next i) := by
  cases i with
  | packet payload env => exact kexGoes_next_packet hs hpossible payload env
  | receiveFailed error env => exact kexGoes_next_receiveFailed hs hpossible error env
  | event event env =>
    have hidle : s.task.isIdle = true := (Bool.and_eq_true_iff.mp hpossible).1
    have htask : s.task = .idle := by
      cases htask : s.task with
      | idle => rfl
      | waiting _ | rekeying _ _ | exited _ =>
        rw [htask] at hidle
        cases hidle
    by_cases hrenegotiate : event = .renegotiate
    · subst hrenegotiate
      exact kexGoes_renegotiate hs htask env
    · obtain ⟨hview, hre⟩ := hs.due (.inl htask)
      have hextends : Extends Effect.isEvents event.cancels s (stateOf (startEvent env event s)) :=
        extends_stateOf (emits_startEvent env event) s
      change KexGoes s none (s.onEvent event env)
      rw [Backend.onEvent_eq hrenegotiate]
      exact kexGoes_settleEvent env hextends (fun _ => keepsTurn_of_isEvents) hview hre rfl
        fun _ => rfl
  | shutdown => exact .exit rfl
  | frontendDropped | receiverDropped _ | tcpListenerDropped _ | localListenerDropped _ =>
    exact .of_same hs rfl rfl

theorem kexFlags_initial (h : s.IsInitial) : KexFlags s :=
  .of_idle h.task h.renegotiating h.renegotiateMsg

/-- The flags are right in every state of every run. -/
theorem kexFlags {guard : Backend → Input → Prop} (h : Backend.ReachableVia guard s) :
    KexFlags s := by
  refine h.invariant (fun _ => kexFlags_initial) fun w i w' hw _ hstep => ?_
  rw [hstep.2]
  exact (kexGoes_next hw hstep.1).flags

end Flatline
