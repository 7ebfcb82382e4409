import Flatline.Session.KexControl

/-!
# Each `SSH_MSG_KEXINIT` of the server is served

An idle backend runs the exchange at once, an event puts it off until it ends, and an exchange of
the user takes the payload it waits for. Only an exchange of the user that fails before the server's
payload has come leaves the payload to the next exchange.

Source: `src/session/backend.rs` (`handle_msg`, `handle_event`, `exec`), `src/session/handshake.rs`
(`RekeyExchange::negotiate_methods`).
-/

namespace Flatline

open Triple

/-- What becomes of the `SSH_MSG_KEXINIT` of the server that arrives next. -/
structure ServesKexInits (s : Backend) : Prop where
  /-- Nothing is due at the head of the loop. -/
  head : s.task = .idle → s.renegotiateMsg = none ∧ s.renegotiating = false
  /-- An idle backend runs the exchange for the payload at once. -/
  atOnce : s.task = .idle → ∀ payload env, payload.head? = some sshMsgKexinit →
    s.next (.packet payload env) = Backend.startRekey env .server (some payload)
      (Backend.failRekey env .server) { s.afterRecv payload with renegotiating := true }
  /-- An event keeps the first payload and goes on. -/
  putOff : ∀ wait, s.task = .waiting wait → s.renegotiateMsg = none → ∀ payload env,
    payload.head? = some sshMsgKexinit → s.next (.packet payload env) =
      { s.afterRecv payload with renegotiating := true, renegotiateMsg := some payload }
  /-- An exchange of the user that waits for a payload takes it. -/
  taken : ∀ origin clientKexMsg, s.task = .rekeying origin (.kexInit clientKexMsg) →
    ∀ payload env, payload.head? = some sshMsgKexinit → s.next (.packet payload env) =
      Backend.settleRekey env origin ((do
        return .again (← matchMethods env clientKexMsg payload) : BackendM RekeyProgress)
          (s.afterRecv payload))
  /-- A payload that is kept stays until its exchange runs, which is when the event ends; an exchange
  runs with the payload it was begun for until it ends. -/
  step : ∀ i : Input, i.possible s = true → i.Writes →
    KexStep (kexTurn s.log) s.kexView i.kexInit? (s.next i).kexView (kexTurn (s.next i).log)
  /-- As long as the server owes its answer to the client, the exchange of the user waits for it. -/
  answers : kexTurn s.log = .client →
    ∃ clientKexMsg, s.task = .rekeying .user (.kexInit clientKexMsg)

/-- The exchange of the user does not fail before the server's payload has come: nothing is wrong
with the packets that arrive until then. -/
def KeepsRekey (s : Backend) : Input → Prop
  | .packet payload env => s.kexView = .awaiting → payload.head? ≠ some sshMsgKexinit →
    ∃ msg data w, Message.parse payload = .ok msg ∧
      handleMsg env msg false (s.afterRecv payload) = .ok data w
  | .receiveFailed .. => s.kexView ≠ .awaiting
  | _ => True

variable {s : Backend}

/-! ## What a payload leads to -/

theorem next_kexInit_idle (hs : KexFlags s) (htask : s.task = .idle) {payload : Bytes} (env : Env)
    (hhead : payload.head? = some sshMsgKexinit) :
    s.next (.packet payload env) = Backend.startRekey env .server (some payload)
      (Backend.failRekey env .server) { s.afterRecv payload with renegotiating := true } := by
  have hparse := parse_kexInit hhead
  have hhandles : s.handles env payload = some (.unrecognized sshMsgKexinit payload) := by
    unfold Backend.handles
    rw [htask]
    simp only [hparse, Except.toOption]
  have hre : (s.afterRecv payload).renegotiating = false := (hs.idle htask).1
  rw [next_of_handles hhandles, handleMsg_kexInit hre, htask]
  rfl

theorem next_kexInit_waiting (hs : KexFlags s) {wait : Wait} (htask : s.task = .waiting wait)
    (hmsg : s.renegotiateMsg = none) {payload : Bytes} (env : Env)
    (hhead : payload.head? = some sshMsgKexinit) : s.next (.packet payload env) =
      { s.afterRecv payload with renegotiating := true, renegotiateMsg := some payload } := by
  have hparse := parse_kexInit hhead
  have hhandles : s.handles env payload = some (.unrecognized sshMsgKexinit payload) := by
    unfold Backend.handles
    rw [htask]
    simp only [react_kexInit hhead, hparse, Except.toOption]
    rfl
  have hre : (s.afterRecv payload).renegotiating = false := by
    change s.renegotiating = false
    rw [hs.waits wait htask, hmsg]
    rfl
  rw [next_of_handles hhandles, handleMsg_kexInit hre, htask]
  change ({ s.afterRecv payload with
    renegotiating := true
    renegotiateMsg := s.renegotiateMsg.or (some payload)
    task := .waiting wait } : Backend) = _
  rw [hmsg, ← htask]
  rfl

theorem next_kexInit_awaiting {origin : RekeyOrigin} {clientKexMsg : Bytes}
    (htask : s.task = .rekeying origin (.kexInit clientKexMsg)) {payload : Bytes} (env : Env)
    (hhead : payload.head? = some sshMsgKexinit) : s.next (.packet payload env) =
      Backend.settleRekey env origin ((do
        return .again (← matchMethods env clientKexMsg payload) : BackendM RekeyProgress)
          (s.afterRecv payload)) := by
  have hpayload : payload ≠ [] := by
    rintro rfl
    cases hhead
  have hawaits : payload.head? = some (RekeyPhase.kexInit clientKexMsg).awaits := hhead
  change s.onPacket payload env = _
  unfold Backend.onPacket
  rw [htask]
  simp only
  rw [recvPacket_bind _ s hpayload, continueRekey, if_pos hawaits]
  rfl

/-! ## Exchanges of the user -/

theorem kexView_awaiting (h : s.kexView = .awaiting) :
    ∃ origin clientKexMsg, s.task = .rekeying origin (.kexInit clientKexMsg) := by
  unfold Backend.kexView at h
  cases htask : s.task with
  | idle | exited _ =>
    rw [htask] at h
    cases h
  | waiting wait =>
    rw [htask] at h
    cases hmsg : s.renegotiateMsg with
    | none | some _ =>
      rw [hmsg] at h
      cases h
  | rekeying origin phase =>
    rw [htask] at h
    cases phase with
    | kexInit clientKexMsg => exact ⟨origin, clientKexMsg, rfl⟩
    | group | reply | newKeys => cases h

/-- An exchange that nothing goes wrong with waits for the server's payload. -/
theorem KeepsRekey.awaiting {i : Input} (hkeeps : KeepsRekey s i) (hpossible : i.possible s = true)
    (hview : s.kexView = .awaiting) (hnone : i.kexInit? = none) :
    (s.next i).kexView = .awaiting := by
  obtain ⟨origin, clientKexMsg, htask⟩ := kexView_awaiting hview
  cases i with
  | packet payload env =>
    have hhead : payload.head? ≠ some sshMsgKexinit := by
      intro hhead
      cases hnone.symm.trans (if_pos hhead)
    obtain ⟨msg, data, w, hparse, hrun⟩ := hkeeps hview hhead
    have hhandles : s.handles env payload = some msg := by
      unfold Backend.handles
      rw [htask]
      change (if payload.head? = some sshMsgKexinit then none else _) = some msg
      rw [if_neg hhead, hparse]
      rfl
    have hidle : s.task.isIdle = false := by
      rw [htask]
      rfl
    rw [next_of_handles hhandles, hidle, hrun, htask]
    rfl
  | receiveFailed => exact absurd hview hkeeps
  | event | shutdown =>
    rw [Input.possible, htask] at hpossible
    cases hpossible
  | frontendDropped | receiverDropped _ | tcpListenerDropped _ | localListenerDropped _ =>
    exact hview

/-- The flags are right, and so are the turns. -/
structure KexFair (s : Backend) : Prop extends KexFlags s where
  fair : s.kexView.Fair (kexTurn s.log)

theorem kexFair (h : Backend.ReachableVia (fun s i => KeepsRekey s i ∧ i.Writes) s) :
    KexFair s := by
  refine h.invariant (fun w hw => ⟨kexFlags_initial hw, ?_⟩) fun w i w' hw hguard hstep => ?_
  · have hview : w.kexView = .quiet := by
      unfold Backend.kexView
      rw [hw.task]
    rw [hview, hw.log]
    exact ⟨nofun, nofun⟩
  · have hgoes := kexGoes_next hw.toKexFlags hstep.1
    rw [hstep.2]
    exact ⟨hgoes.flags, hgoes.step.fair hw.fair fun hview hnone =>
      hguard.1.awaiting hstep.1 hview hnone⟩

/-- Every `SSH_MSG_KEXINIT` is served as long as no exchange of the user fails before the server's
payload has come and no write fails. -/
theorem servesKexInits (h : Backend.ReachableVia (fun s i => KeepsRekey s i ∧ i.Writes) s) :
    ServesKexInits s := by
  have hfair := kexFair h
  have hs := hfair.toKexFlags
  refine ⟨fun htask => (hs.idle htask).symm, fun htask payload env hhead => ?_,
    fun wait htask hmsg payload env hhead => ?_,
    fun origin clientKexMsg htask payload env hhead => ?_, fun i hpossible _ =>
      (kexGoes_next hs hpossible).step, fun hturn => ?_⟩
  · exact next_kexInit_idle hs htask env hhead
  · exact next_kexInit_waiting hs htask hmsg env hhead
  · exact next_kexInit_awaiting htask env hhead
  · obtain ⟨origin, clientKexMsg, htask⟩ := kexView_awaiting (hfair.fair.client hturn)
    obtain rfl := hs.awaiting origin _ htask rfl
    exact ⟨clientKexMsg, htask⟩

/-- A new session whose user asks for a key exchange. -/
def Backend.requestingRekey : Backend :=
  agreeable.next (.event .renegotiate .agreeable)

theorem reachable_requestingRekey :
    Backend.ReachableVia (fun s i => KeepsRekey s i ∧ i.Writes) .requestingRekey :=
  .next (i := .event .renegotiate .agreeable) (Backend.reachable_fresh _) ⟨trivial, rfl⟩ ⟨rfl, rfl⟩

/-- The server has not answered the client's `SSH_MSG_KEXINIT` yet, and the exchange waits. -/
theorem servesKexInits_requestingRekey :
    ServesKexInits .requestingRekey ∧ kexTurn Backend.requestingRekey.log = .client :=
  ⟨servesKexInits reachable_requestingRekey, by decide +kernel⟩

/-- A truncated `SSH_MSG_IGNORE` fails the exchange of the user, and the server's answer to it comes
to an idle session. -/
theorem servesKexInits_fails_on_truncated_ignore :
    ¬ ∀ s, Backend.ReachableVia (fun _ i => i.Writes) s → ServesKexInits s := by
  intro hserves
  obtain ⟨s, hs, hp⟩ := Backend.exists_reachable (fun _ i => i.Writes)
    [.event .renegotiate .agreeable, .packet [sshMsgIgnore, 0, 0, 0] .agreeable]
    (fun s => s.task.isIdle && decide (kexTurn s.log = .client)) (by decide +kernel)
  obtain ⟨hidle, hturn⟩ := Bool.and_eq_true_iff.mp hp
  obtain ⟨clientKexMsg, htask⟩ := (hserves s hs).answers (of_decide_eq_true hturn)
  rw [htask] at hidle
  cases hidle

end Flatline
