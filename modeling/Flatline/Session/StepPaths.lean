import Flatline.Session.EventPaths

/-!
# Every step follows the channel ledger

`ledgerPath_next`: whatever the backend does with an input, key exchanges and the end of the
iteration included, it takes the ledger along a path of `LedgerStep`s.

Source: `src/session/backend.rs`, `src/session/handshake.rs`.
-/

namespace Flatline

open Triple Relation

/-! ## Paths with quiet effects -/

/-- More effects may be noted. -/
theorem LedgerStep.mono {s : Backend} {i : Input} {Q Q' : Effect → Prop} {L L' : Ledger}
    (h : LedgerStep s i Q L L') (hQ : ∀ effect, Q effect → Q' effect) : LedgerStep s i Q' L L' := by
  cases h with
  | note h => exact .note (hQ _ h)
  | drop hi => exact .drop hi
  | receive hi hclose hdata => exact .receive hi hclose hdata
  | peerClose hi hparse hfind => exact .peerClose hi hparse hfind
  | peerEof hi hparse hfind => exact .peerEof hi hparse hfind
  | peerData hi hparse hadmits hcontent hkept =>
    exact .peerData hi hparse hadmits hcontent hkept
  | peerDataRefill hi hparse hadmits hcontent hrefills hcount =>
    exact .peerDataRefill hi hparse hadmits hcontent hrefills hcount
  | peerAdjust hi hparse hfind hrange => exact .peerAdjust hi hparse hfind hrange
  | announce hi hopens => exact .announce hi hopens
  | accept hi hparse haccepts hsizes => exact .accept hi hparse haccepts hsizes
  | confirm hi hparse hwait hfresh => exact .confirm hi hparse hwait hfresh
  | closeEvent hi hfind => exact .closeEvent hi hfind
  | closeRefused hi hchannels hids hopened hclient hserver hid hfind =>
    exact .closeRefused hi hchannels hids hopened hclient hserver hid hfind
  | sweep hi hget hdropped hopen => exact .sweep hi hget hdropped hopen
  | reap hi hget hdropped hclient hserver => exact .reap hi hget hdropped hclient hserver
  | eof hi hfind => exact .eof hi hfind
  | data hi hsends hentries hget hserver hleft hpacket hwindow hpayload =>
    exact .data hi hsends hentries hget hserver hleft hpacket hwindow hpayload
  | request hi hid => exact .request hi hid
  | requestOpened hi hmem hopen => exact .requestOpened hi hmem hopen

/-- The turn that started in `s` has brought the backend to a point of a path. -/
structure Reached (s : Backend) (i : Input) (w : Backend) : Prop where
  path : LedgerPath s i Effect.Quiet s.ledger w.ledger

/-- A program goes on along the path from wherever it starts. -/
abbrev KeepsReached {α : Type} (s : Backend) (i : Input) (m : BackendM α) : Prop :=
  Holds (Reached s i) m (fun _ => Reached s i) (fun _ => Reached s i)

variable {s w : Backend} {i : Input} {α : Type}

theorem Along.reached (h : Along s i Effect.Ordinary w) : Reached s i w := by
  obtain ⟨L, hpath, hat⟩ := h
  have hmono : LedgerStep s i Effect.Ordinary ≤ LedgerStep s i Effect.Quiet :=
    fun _ _ hstep => hstep.mono fun _ h => h.1
  refine ⟨?_⟩
  rw [hat.ledger]
  exact ReflTransGen.mono hmono _ _ hpath

theorem Reached.note {effect : Effect} (h : Reached s i w)
    (hquiet : effect.Quiet := by exact trivial) : Reached s i (w.note effect) :=
  ⟨h.path.tail (.note hquiet)⟩

theorem Reached.of_ledger {w' : Backend} (h : Reached s i w)
    (hledger : w'.ledger = w.ledger := by rfl) : Reached s i w' :=
  ⟨hledger ▸ h.path⟩

/-- What follows the ledger by ordinary effects reaches a point of a path. -/
theorem Follows.reached {P : Backend → Prop} {m : BackendM α} (h : Follows s i P m) :
    Holds P m (fun _ => Reached s i) (fun _ => Reached s i) :=
  h.mono (fun _ h => h) (fun _ _ h => h.reached) (fun _ _ h => h.reached)

theorem keepsReached_liftExcept (x : Except Error α) : KeepsReached s i (liftExcept x) := by
  cases x with
  | error e => exact Holds.throw fun _ h => h
  | ok a => exact Holds.pure fun _ h => h

theorem keepsReached_sendPayload (env : Env) {message : ClientMessage}
    (h : message.isQuiet = true) : KeepsReached s i (sendPayload env message) := by
  intro w hw
  have hsent : ∀ w', At w (w.ledger.note (.sent message)) w' → Reached s i w' := fun w' hw' => by
    refine ⟨?_⟩
    rw [hw'.ledger]
    exact hw.path.tail (.note h)
  exact (at_sendPayload env message).mono (fun _ h => h) (fun _ => hsent)
    (fun _ _ hw' => hw.of_ledger hw'.ledger) w (At.start w)

/-! ## Key exchanges -/

theorem keepsReached_sendKexInit (env : Env) : KeepsReached s i (sendKexInit env) :=
  Holds.get.bind fun _ => Holds.of_and fun _ =>
    (keepsReached_sendPayload env (by rfl)).bind fun _ => Holds.pure fun _ h => h

theorem keepsReached_sendPublicKey (env : Env) (rekey : Rekey)
    (group : Option (Bytes × Bytes)) : KeepsReached s i (sendPublicKey env rekey group) :=
  (keepsReached_liftExcept _).bind fun _ =>
    (keepsReached_sendPayload env (by rfl)).bind fun _ => Holds.pure fun _ h => h

theorem keepsReached_beginKeyExchange (env : Env) (rekey : Rekey) :
    KeepsReached s i (beginKeyExchange env rekey) := by
  unfold beginKeyExchange
  split
  · exact keepsReached_sendPublicKey env rekey none
  · exact Holds.get.bind fun _ => Holds.of_and fun _ =>
      (keepsReached_sendPayload env (by rfl)).bind fun _ => Holds.pure fun _ h => h

theorem keepsReached_matchMethods (env : Env) (clientKexMsg serverKexMsg : Bytes) :
    KeepsReached s i (matchMethods env clientKexMsg serverKexMsg) :=
  Holds.get.bind fun _ => Holds.of_and fun _ => (keepsReached_liftExcept _).bind fun _ =>
    keepsReached_beginKeyExchange env _

theorem keepsReached_negotiateMethods (env : Env) (serverKexMsg : Option Bytes)
    (clientKexMsg : Bytes) :
    KeepsReached s i (negotiateMethods env serverKexMsg clientKexMsg) := by
  cases serverKexMsg with
  | none => exact Holds.pure fun _ h => h
  | some serverKexMsg => exact keepsReached_matchMethods env _ _

theorem keepsReached_proceedRekey (env : Env) (payload : Bytes) (phase : RekeyPhase) :
    KeepsReached s i (proceedRekey env payload phase) := by
  cases phase with
  | kexInit clientKexMsg =>
    exact (keepsReached_matchMethods env _ _).bind fun _ => Holds.pure fun _ h => h
  | group rekey exchange =>
    exact (keepsReached_liftExcept _).bind fun _ =>
      (keepsReached_sendPublicKey env _ _).bind fun _ => Holds.pure fun _ h => h
  | reply rekey group seed clientPublicKey =>
    refine Holds.bind ?_ fun _ => Holds.pure fun _ h => h
    refine Holds.get.bind fun _ => Holds.of_and fun _ =>
      (keepsReached_liftExcept _).bind fun keys => ?_
    refine (keepsReached_sendPayload env (by rfl)).bind fun _ => ?_
    exact (Holds.modify fun _ h => h.of_ledger).bind fun _ => Holds.pure fun _ h => h
  | newKeys rekey keys =>
    exact (Holds.modify fun _ h => h.of_ledger).bind fun _ => Holds.pure fun _ h => h

/-! ## The end of a turn -/

theorem Reached.stop {fault : Fault} {fail : Error → Backend → Backend} (h : Reached s i w)
    (hfail : ∀ e w, Reached s i w → Reached s i (fail e w)) : Reached s i (w.stop fault fail) := by
  cases fault with
  | error e => exact hfail e w h
  | panicked | stuck => exact h.of_ledger

theorem Reached.startRekey {env : Env} {origin : RekeyOrigin} {serverKexMsg : Option Bytes}
    {fail : Error → Backend → Backend} (h : Reached s i w)
    (hfail : ∀ e w, Reached s i w → Reached s i (fail e w)) :
    Reached s i (w.startRekey env origin serverKexMsg fail) := by
  unfold Backend.startRekey
  cases hinit : sendKexInit env w with
  | error fault w' => exact ((keepsReached_sendKexInit env).of_error h hinit).stop hfail
  | ok clientKexMsg w' =>
    have hw' := (keepsReached_sendKexInit env).of_ok h hinit
    have hnegotiate := keepsReached_negotiateMethods (s := s) (i := i) env serverKexMsg clientKexMsg
    simp only
    cases hmethods : negotiateMethods env serverKexMsg clientKexMsg w' with
    | error fault w'' =>
      refine (hnegotiate.of_error hw' hmethods).stop fun e w h => hfail e _ ?_
      exact h.note
    | ok phase w'' => exact (hnegotiate.of_ok hw' hmethods).of_ledger

theorem Reached.afterIteration (h : Reached s i w) (env : Env) :
    Reached s i (w.afterIteration env) := by
  unfold Backend.afterIteration
  split
  · exact h.of_ledger
  · exact Reached.startRekey h.of_ledger fun _ _ h => h.of_ledger

theorem Reached.endEvent (h : Reached s i w) (env : Env) (result : Except Error Reply) :
    Reached s i (w.endEvent env result) :=
  h.note.afterIteration env

theorem Reached.failRekey (h : Reached s i w) (env : Env) (origin : RekeyOrigin) (e : Error) :
    Reached s i (w.failRekey env origin e) := by
  cases origin with
  | user => exact Reached.endEvent h.of_ledger env _
  | server | deferred => exact h.of_ledger

theorem Reached.finishRekey (h : Reached s i w) (env : Env) (origin : RekeyOrigin) :
    Reached s i (w.finishRekey env origin) := by
  cases origin with
  | server => exact Reached.afterIteration h.of_ledger env
  | deferred => exact h.of_ledger
  | user => exact Reached.endEvent h.of_ledger env _

/-- A run has ended at a point of a path. -/
inductive RunReached (s : Backend) (i : Input) : EStateM.Result Fault Backend α → Prop
  | ok {a : α} {w : Backend} (h : Reached s i w) : RunReached s i (.ok a w)
  | error {fault : Fault} {w : Backend} (h : Reached s i w) : RunReached s i (.error fault w)

theorem runReached_of_holds {P : Backend → Prop} {m : BackendM α}
    (h : Holds P m (fun _ => Reached s i) (fun _ => Reached s i)) (hw : P w) :
    RunReached s i (m w) := by
  cases hrun : m w with
  | ok a w' => exact .ok (h.of_ok hw hrun)
  | error fault w' => exact .error (h.of_error hw hrun)

theorem Reached.settleEvent {r : EStateM.Result Fault Backend Progress} (h : RunReached s i r)
    (env : Env) : Reached s i (Backend.settleEvent env r) := by
  rcases h with @⟨reply | wait, w, h⟩ | @⟨fault, w, h⟩
  · exact Reached.endEvent h env _
  · exact Reached.of_ledger h
  · exact Reached.stop h fun e w h => h.endEvent env _

theorem Reached.settleRekey {r : EStateM.Result Fault Backend RekeyProgress}
    (h : RunReached s i r) (env : Env) (origin : RekeyOrigin) :
    Reached s i (Backend.settleRekey env origin r) := by
  rcases h with @⟨phase | _, w, h⟩ | @⟨fault, w, h⟩
  · exact Reached.of_ledger h
  · exact Reached.finishRekey h env origin
  · exact Reached.stop h fun e w h => Reached.failRekey h.note env origin e

theorem Reached.settleIdle {r : EStateM.Result Fault Backend (Option Bytes)}
    (h : RunReached s i r) (env : Env) : Reached s i (Backend.settleIdle env r) := by
  rcases h with @⟨_ | data, w, h⟩ | @⟨fault, w, h⟩
  · exact Reached.afterIteration h env
  · exact Reached.startRekey h fun e w h => h.failRekey env .server e
  · exact Reached.of_ledger h

/-! ## Packets -/

theorem reached_afterRecv {payload : Bytes}
    (hpath : LedgerPath s i Effect.Quiet s.ledger (s.ledger.note (.received payload))) :
    ∀ w, w = s.afterRecv payload → Reached s i w := by
  rintro _ rfl
  exact ⟨hpath⟩

theorem liftExcept_ok_bind {β : Type} (a : α) (f : α → BackendM β) :
    (liftExcept (.ok a) >>= f) = f a := rfl

/-- A payload that is not empty is received, and the turn goes on with it. -/
theorem recvPacket_bind {β : Type} {payload : Bytes} (f : Unit → BackendM β) (s : Backend)
    (hpayload : payload ≠ []) :
    (Backend.recvPacket payload >>= f) s = f () (s.afterRecv payload) := by
  show EStateM.bind (EStateM.bind (modify _) fun _ => _) f s = _
  simp only [if_neg hpayload]
  rfl

/-- A `SSH_MSG_KEXINIT` outside a key exchange. -/
theorem handleMsg_kexInit {env : Env} {data : Bytes} {idle : Bool}
    (hre : w.renegotiating = false) :
    handleMsg env (.unrecognized sshMsgKexinit data) idle w = handleKexInit data idle w := by
  change (if sshMsgKexinit = sshMsgKexinit ∧ w.renegotiating = false then handleKexInit data idle
    else _) w = _
  rw [if_pos ⟨rfl, hre⟩]

/-- A `SSH_MSG_KEXINIT` while an event waits: it is not what the event waits for. -/
theorem resume_kexInit {env : Env} {wait : Wait} {payload data : Bytes}
    (hparse : Message.parse payload = .ok (.unrecognized sshMsgKexinit data)) :
    resume env wait payload = (do
      let _ ← handleMsg env (.unrecognized sshMsgKexinit data) false
      return .wait wait) := by
  have hhead : payload.head? = some sshMsgKexinit := Message.head?_of_parse hparse
  have hanswer : wait.answer env (.unrecognized sshMsgKexinit data) = none := by
    cases wait with
    | authentication wait => cases wait <;> rfl
    | _ => rfl
  cases wait with
  | tcpIpForward addr window packet =>
    simp only [resume, hhead, hparse, liftExcept_ok_bind, hanswer]
    rw [if_neg (by decide), if_neg (by decide)]
  | _ => simp only [resume, hparse, liftExcept_ok_bind, hanswer]

/-- No loop of a key exchange waits for a close or for data. -/
theorem RekeyPhase.awaits_not_mem (phase : RekeyPhase) : phase.awaits ∉ tableNumbers := by
  have hkex : ∀ {number : UInt8}, isKexMethodCode number → number ∉ tableNumbers := by
    rintro number ⟨-, hle⟩ hmem
    simp only [tableNumbers, List.mem_cons, List.not_mem_nil, or_false] at hmem
    rcases hmem with rfl | rfl | rfl <;> exact absurd hle (by decide)
  cases phase with
  | kexInit | newKeys => exact of_decide_eq_true rfl
  | group rekey exchange => exact hkex exchange.responseCode_kex
  | reply rekey => exact hkex rekey.matched.kex.responseCode_kex

/-- What `handle_msg` does, the start of a key exchange included. -/
theorem reached_handleMsg {payload : Bytes} {env : Env} {msg : Message} (idle : Bool)
    (hi : i = .packet payload env) (hparse : Message.parse payload = .ok msg) :
    Holds (· = s.afterRecv payload) (handleMsg env msg idle) (fun _ => Reached s i)
      (fun _ => Reached s i) := by
  by_cases hkex : ∀ data, msg = .unrecognized sshMsgKexinit data → s.renegotiating = true
  · exact (follows_handleMsg idle hi hparse hkex).reached
  · push Not at hkex
    obtain ⟨data, rfl, hre⟩ := hkex
    have hreceive := path_receive (s := s) (Q := Effect.Quiet) hi hparse (by simp) rfl
    have hidle : (s.afterRecv payload).renegotiating = false := Bool.eq_false_of_not_eq_true hre
    rintro _ rfl
    rw [handleMsg_kexInit hidle]
    cases idle <;> exact ⟨hreceive⟩

theorem reached_resume {payload : Bytes} {env : Env} {wait : Wait} (hi : i = .packet payload env)
    (hwait : s.task = .waiting wait) :
    Holds (· = s.afterRecv payload) (resume env wait payload) (fun _ => Reached s i)
      (fun _ => Reached s i) := by
  by_cases hkex : ∀ data, Message.parse payload = .ok (.unrecognized sshMsgKexinit data) →
      s.renegotiating = true
  · exact (follows_resume hi hwait hkex).reached
  · push Not at hkex
    obtain ⟨data, hparse, hre⟩ := hkex
    rw [resume_kexInit hparse]
    exact (reached_handleMsg false hi hparse).bind fun _ => Holds.pure fun _ h => h

theorem reached_continueRekey {payload : Bytes} {env : Env} (phase : RekeyPhase)
    (hi : i = .packet payload env) :
    Holds (· = s.afterRecv payload) (continueRekey env phase payload) (fun _ => Reached s i)
      (fun _ => Reached s i) := by
  unfold continueRekey
  split
  · next hhead =>
      refine (keepsReached_proceedRekey env payload phase).pre (reached_afterRecv ?_)
      refine path_receive_of_head hi fun number hnumber => ?_
      rw [hhead] at hnumber
      injection hnumber with hnumber
      exact hnumber ▸ phase.awaits_not_mem
  · unfold passOn
    rcases hparse : Message.parse payload with e | msg
    · exact Holds.throw (reached_afterRecv (path_receive_of_error hi hparse))
    · rw [liftExcept_ok_bind]
      exact (reached_handleMsg false hi hparse).bind fun _ => Holds.pure fun _ h => h

theorem reached_idleTurn {payload : Bytes} {env : Env} (hi : i = .packet payload env) :
    Holds (· = s.afterRecv payload) (Backend.idleTurn env payload) (fun _ => Reached s i)
      (fun _ => Reached s i) := by
  unfold Backend.idleTurn
  rcases hparse : Message.parse payload with e | msg
  · exact Holds.throw (reached_afterRecv (path_receive_of_error hi hparse))
  · rw [liftExcept_ok_bind]
    exact reached_handleMsg true hi hparse

/-- A packet is received before anything is done with it. -/
theorem runReached_packet {payload : Bytes} {env : Env} {m : BackendM α}
    (hi : i = .packet payload env)
    (hm : Holds (· = s.afterRecv payload) m (fun _ => Reached s i) (fun _ => Reached s i)) :
    RunReached s i ((do Backend.recvPacket payload; m) s) := by
  have hrecv : Holds (· = s) (Backend.recvPacket payload) (fun _ => (· = s.afterRecv payload))
      (fun _ => Reached s i) := by
    refine Holds.bind (Q := fun _ => (· = s.afterRecv payload))
      (Holds.modify fun w hw => by rw [hw]) fun _ => ?_
    split
    · next hempty =>
        refine Holds.throw (reached_afterRecv (path_receive_of_head hi ?_))
        simp [hempty]
    · exact Holds.pure fun _ h => h
  exact runReached_of_holds (hrecv.bind fun _ => hm) rfl

/-! ## Steps -/

/-- Every event but a key exchange runs up to its first receive. -/
theorem Backend.onEvent_eq {event : Event} {env : Env} (h : event ≠ .renegotiate) :
    s.onEvent event env = Backend.settleEvent env (startEvent env event s) := by
  cases event <;> first | rfl | exact absurd rfl h

/-- Whatever the backend does with an input, the ledger follows. -/
theorem ledgerPath_next (s : Backend) (i : Input) :
    LedgerPath s i Effect.Quiet s.ledger (s.next i).ledger := by
  refine Reached.path (s := s) (i := i) ?_
  have hstart : Reached s i s := ⟨.refl⟩
  cases i with
  | packet payload env =>
    change Reached s _ (s.onPacket payload env)
    unfold Backend.onPacket
    cases htask : s.task with
    | idle => exact Reached.settleIdle (runReached_packet rfl (reached_idleTurn rfl)) env
    | waiting wait =>
      exact Reached.settleEvent (runReached_packet rfl (reached_resume rfl htask)) env
    | rekeying origin phase =>
      exact Reached.settleRekey (runReached_packet rfl (reached_continueRekey phase rfl)) env origin
    | exited result => exact hstart
  | receiveFailed error env =>
    change Reached s _ (s.onReceiveFailed error env)
    unfold Backend.onReceiveFailed
    cases s.task with
    | idle => exact hstart.of_ledger
    | waiting wait => exact hstart.endEvent env _
    | rekeying origin phase => exact Reached.failRekey hstart.note env origin error
    | exited result => exact hstart
  | event event env =>
    change Reached s _ (s.onEvent event env)
    by_cases hrenegotiate : event = .renegotiate
    · subst hrenegotiate
      show Reached s _ (Backend.startRekey env .user none (Backend.failRekey env .user)
        { s with renegotiating := true })
      exact Reached.startRekey hstart.of_ledger fun e w h => h.failRekey env .user e
    · rw [Backend.onEvent_eq hrenegotiate]
      exact Reached.settleEvent (runReached_of_holds (follows_startEvent rfl).reached rfl) env
  | shutdown | frontendDropped | tcpListenerDropped | localListenerDropped =>
    exact hstart.of_ledger
  | receiverDropped queue =>
    exact ⟨.single (.drop (by simp [Input.dropsQueue]))⟩

end Flatline
