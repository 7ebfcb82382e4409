import Flatline.Session.KexControl

/-!
# Key exchanges that fail

An error of an exchange that the server has asked for ends `exec`. An error of the user's exchange
is the answer to an event, and the session goes on.

Source: `src/session/backend.rs` (`handle_msg`, `handle_event`, `exec`).
-/

namespace Flatline

open Triple

/-! ## Outcomes -/

/-- A key exchange has failed after the client's `SSH_MSG_KEXINIT` was sent. -/
def Effect.fails : Effect → Bool
  | .rekeyFailed .. => true
  | _ => false

variable {s t t' w : Backend} {p : Effect → Bool} {keys : List SocketAddr}

/-- No key exchange has failed from `s` to `t`. -/
def Fine (s t : Backend) : Prop :=
  ∃ effects, t.log = effects ++ s.log ∧ ∀ effect ∈ effects, effect.fails = false

/-- How a turn goes for the key exchanges in it. -/
inductive RekeyOutcome (s : Backend) : Backend → Prop
  | fine {t : Backend} (h : Fine s t) : RekeyOutcome s t
  /-- An exchange of the server has failed, and nothing comes after that. -/
  | ended {t : Backend} {origin : RekeyOrigin} {e : Error} {before : List Effect}
    (hserver : ∀ phase, s.task ≠ .rekeying .user phase)
    (htask : t.task = .exited (.error (.error e)))
    (hlog : t.log = .rekeyFailed origin e :: (before ++ s.log))
    (hbefore : ∀ effect ∈ before, effect.fails = false) : RekeyOutcome s t
  /-- The user's exchange has failed. -/
  | passedOver {t : Backend} {phase : RekeyPhase} (huser : s.task = .rekeying .user phase)
    (htask : t.task = .idle) : RekeyOutcome s t

theorem Fine.refl (s : Backend) : Fine s s :=
  ⟨[], rfl, nofun⟩

theorem Fine.trans (h : Fine s w) (h' : Fine w t) : Fine s t := by
  obtain ⟨effects, hlog, hfine⟩ := h
  obtain ⟨effects', hlog', hfine'⟩ := h'
  refine ⟨effects' ++ effects, ?_, fun effect heffect => ?_⟩
  · rw [hlog', hlog, List.append_assoc]
  · obtain heffect | heffect := List.mem_append.mp heffect
    · exact hfine' effect heffect
    · exact hfine effect heffect

theorem Grows.fine (h : Grows p keys s t) (hp : ∀ effect, p effect = true → effect.fails = false) :
    Fine s t := by
  obtain ⟨effects, hlog, heffects⟩ := h.log
  exact ⟨effects, hlog, fun effect heffect => hp effect (heffects effect heffect)⟩

theorem Fine.note (h : Fine s w) {effect : Effect} (heffect : effect.fails = false) :
    Fine s (w.note effect) :=
  h.trans ⟨[effect], rfl, fun _ hmem => List.mem_singleton.mp hmem ▸ heffect⟩

theorem fails_of_isHandlers {effect : Effect} (h : effect.isHandlers = true) :
    effect.fails = false := by
  cases effect <;> first | rfl | cases h

theorem fails_of_isEvents {effect : Effect} (h : effect.isEvents = true) :
    effect.fails = false := by
  cases effect <;> first | rfl | cases h

theorem fails_of_isRekeys {effect : Effect} (h : effect.isRekeys = true) :
    effect.fails = false := by
  cases effect <;> first | rfl | cases h

theorem fails_of_isExchanges {effect : Effect} (h : effect.isExchanges = true) :
    effect.fails = false :=
  fails_of_isRekeys (Effect.isRekeys_of_isExchanges h)

/-- The log of a turn that has failed. -/
theorem RekeyOutcome.of_fails (hserver : ∀ phase, s.task ≠ .rekeying .user phase) (h : Fine s w)
    {origin : RekeyOrigin} {e : Error} :
    RekeyOutcome s ((w.note (.rekeyFailed origin e)).failSession e) := by
  obtain ⟨before, hlog, hbefore⟩ := h
  exact .ended hserver rfl (congrArg (Effect.rekeyFailed origin e :: ·) hlog) hbefore

/-! ## Turns -/

/-- An exchange that the server has asked for. -/
theorem outcome_startRekey (env : Env) (origin : RekeyOrigin) (serverKexMsg : Option Bytes)
    {fail : Error → Backend → Backend} (hfail : ∀ e w, fail e w = w.failSession e)
    (hserver : ∀ phase, s.task ≠ .rekeying .user phase) (h : Fine s w) :
    RekeyOutcome s (w.startRekey env origin serverKexMsg fail) := by
  have hstart := rekeyStart w env origin serverKexMsg fail
  generalize w.startRekey env origin serverKexMsg fail = t at hstart ⊢
  cases hstart with
  | @unsent fault w₁ hinit =>
    have hsent : Extends _ [] w w₁ := (emits_sendKexInit env).of_error hinit
    have hfine := h.trans (hsent.toGrows.fine fun _ => fails_of_isRekeys)
    cases fault with
    | error e => exact .fine ((congrArg (Fine s) (hfail e w₁)).mpr hfine)
    | panicked | stuck => exact .fine hfine
  | @failed clientKexMsg fault w₁ w₂ hinit hmethods =>
    have hsent : Extends _ [] w w₁ := (emits_sendKexInit env).of_ok hinit
    have hexchange : Extends _ [] w₁ w₂ := (emits_negotiateMethods env _ _).of_error hmethods
    have hfine := (h.trans (hsent.toGrows.fine fun _ => fails_of_isRekeys)).trans
      (hexchange.toGrows.fine fun _ => fails_of_isExchanges)
    cases fault with
    | error e =>
      change RekeyOutcome s (fail e (w₂.note (.rekeyFailed origin e)))
      rw [hfail]
      exact .of_fails hserver hfine
    | panicked | stuck => exact .fine hfine
  | @started clientKexMsg phase w₁ w₂ hinit hmethods =>
    have hsent : Extends _ [] w w₁ := (emits_sendKexInit env).of_ok hinit
    have hexchange : Extends _ [] w₁ w₂ := (emits_negotiateMethods env _ _).of_ok hmethods
    exact .fine ((h.trans (hsent.toGrows.fine fun _ => fails_of_isRekeys)).trans
      (hexchange.toGrows.fine fun _ => fails_of_isExchanges))

theorem outcome_afterIteration (env : Env) (hserver : ∀ phase, s.task ≠ .rekeying .user phase)
    (h : Fine s w) : RekeyOutcome s (w.afterIteration env) := by
  unfold Backend.afterIteration
  split
  · exact .fine h
  · exact outcome_startRekey (w := { w with renegotiateMsg := none }) env _ _ (fun _ _ => rfl)
      hserver h

theorem outcome_endEvent (env : Env) (result : Except Error Reply)
    (hserver : ∀ phase, s.task ≠ .rekeying .user phase) (h : Fine s w) :
    RekeyOutcome s (w.endEvent env result) :=
  outcome_afterIteration env hserver (h.note rfl)

theorem outcome_settleEvent (env : Env) {r : EStateM.Result Fault Backend Progress}
    (hserver : ∀ phase, s.task ≠ .rekeying .user phase) (h : Fine s (stateOf r)) :
    RekeyOutcome s (Backend.settleEvent env r) := by
  rcases r with ⟨reply | wait, w⟩ | ⟨fault, w⟩
  · exact outcome_endEvent env _ hserver h
  · exact .fine h
  · cases fault with
    | error e => exact outcome_endEvent env _ hserver h
    | panicked | stuck => exact .fine h

theorem outcome_settleRekey (env : Env) {origin : RekeyOrigin} {phase : RekeyPhase}
    {r : EStateM.Result Fault Backend RekeyProgress} (htask : s.task = .rekeying origin phase)
    (hmsg : (stateOf r).renegotiateMsg = none) (h : Fine s (stateOf r)) :
    RekeyOutcome s (Backend.settleRekey env origin r) := by
  have hserver : origin ≠ .user → ∀ phase, s.task ≠ .rekeying .user phase := by
    intro horigin phase' huser
    rw [htask] at huser
    injection huser with huser
    exact horigin huser
  rcases r with ⟨phase' | _, w⟩ | ⟨fault, w⟩
  · exact .fine h
  · cases origin with
    | server => exact outcome_afterIteration env (hserver nofun) h
    | deferred => exact .fine h
    | user =>
      change RekeyOutcome s (({ w with renegotiating := false } : Backend).endEvent env _)
      rw [endEvent_user (w := w) env _ hmsg]
      exact .fine (h.note rfl)
  · cases fault with
    | error e =>
      cases origin with
      | server | deferred => exact .of_fails (hserver nofun) h
      | user =>
        have hend := endEvent_user (w := w.note (.rekeyFailed .user e)) env (.error e) hmsg
        refine .passedOver htask ?_
        change (({ w.note (.rekeyFailed .user e) with renegotiating := false } : Backend).endEvent
          env (.error e)).task = .idle
        rw [hend]
    | panicked | stuck => exact .fine h

/-! ## Steps -/

theorem outcome_settleHandled (env : Env) (hs : KexFlags s)
    {r : EStateM.Result Fault Backend (Option Bytes)} (h : Fine s (stateOf r))
    (hmsg : ∀ origin phase, s.task = .rekeying origin phase →
      (stateOf r).renegotiateMsg = s.renegotiateMsg) :
    RekeyOutcome s (Backend.settleHandled env s.task r) := by
  cases htask : s.task with
  | idle =>
    have hserver : ∀ phase, s.task ≠ .rekeying .user phase := by
      rw [htask]
      nofun
    rcases r with ⟨_ | data, w⟩ | ⟨fault, w⟩
    · exact outcome_afterIteration env hserver h
    · exact outcome_startRekey env .server (some data) (fun _ _ => rfl) hserver h
    · exact .fine h
  | waiting wait =>
    have hserver : ∀ phase, s.task ≠ .rekeying .user phase := by
      rw [htask]
      nofun
    rcases r with ⟨data, w⟩ | ⟨fault, w⟩
    · exact .fine h
    · exact outcome_settleEvent (r := .error fault w) env hserver h
  | rekeying origin phase =>
    have hnone := (hmsg origin phase htask).trans (hs.rekeying origin phase htask).2
    rcases r with ⟨data, w⟩ | ⟨fault, w⟩
    · exact .fine h
    · exact outcome_settleRekey (r := .error fault w) env htask hnone h
  | exited result => exact .fine h

theorem outcome_next_packet (hs : KexFlags s) (payload : Bytes) (env : Env) :
    RekeyOutcome s (s.next (.packet payload env)) := by
  have hreceive : Fine s (s.afterRecv payload) :=
    ⟨[.received payload], rfl, fun _ hmem => List.mem_singleton.mp hmem ▸ rfl⟩
  have hturn := packetTurn s payload env
  generalize s.next (.packet payload env) = t at hturn ⊢
  cases hturn with
  | @handled msg hhandles =>
    have hgrows : Grows Effect.isHandlers [] (s.afterRecv payload) (stateOf
        (handleMsg env msg s.task.isIdle (s.afterRecv payload))) := grows_handleMsg env msg _ _
    refine outcome_settleHandled env hs
      (hreceive.trans (hgrows.fine fun _ => fails_of_isHandlers)) fun origin phase htask => ?_
    have hre : (s.afterRecv payload).renegotiating = true := (hs.rekeying origin phase htask).1
    have htakes : takesKexInit (s.afterRecv payload) msg = false := by
      cases msg with
      | unrecognized code data => simp [takesKexInit, hre]
      | _ => rfl
    exact (handleMsg_extends env s.task.isIdle htakes).1.renegotiateMsg
  | @reacted wait m htask hreact hpayload =>
    have hextends : Extends Effect.isEvents (wait.touches payload) (s.afterRecv payload)
        (stateOf (m (s.afterRecv payload))) := extends_stateOf (emits_react hreact) _
    refine outcome_settleEvent env ?_
      (hreceive.trans (hextends.toGrows.fine fun _ => fails_of_isEvents))
    rw [htask]
    nofun
  | @exchanged origin phase htask hhead =>
    have hextends : Extends Effect.isExchanges [] (s.afterRecv payload)
        (stateOf (proceedRekey env payload phase (s.afterRecv payload))) :=
      extends_stateOf (emits_proceedRekey env payload phase) _
    exact outcome_settleRekey env htask
      (hextends.renegotiateMsg.trans (hs.rekeying origin phase htask).2)
      (hreceive.trans (hextends.toGrows.fine fun _ => fails_of_isExchanges))
  | @refused e _ hparse =>
    exact outcome_settleHandled (r := .error (.error e) (s.afterRecv payload)) env hs hreceive
      fun _ _ _ => rfl
  | exited htask => exact .fine (.refl s)

theorem outcome_next (hs : KexFlags s) {i : Input} (hpossible : i.possible s = true) :
    RekeyOutcome s (s.next i) := by
  cases i with
  | packet payload env => exact outcome_next_packet hs payload env
  | receiveFailed error env =>
    change RekeyOutcome s (s.onReceiveFailed error env)
    unfold Backend.onReceiveFailed
    cases htask : s.task with
    | idle => exact .fine (.refl s)
    | waiting wait =>
      refine outcome_endEvent env _ ?_ (.refl s)
      rw [htask]
      nofun
    | rekeying origin phase =>
      exact outcome_settleRekey (r := .error (.error error) s) env htask
        (hs.rekeying origin phase htask).2 (.refl s)
    | exited result => exact .fine (.refl s)
  | event event env =>
    have hidle : s.task.isIdle = true := (Bool.and_eq_true_iff.mp hpossible).1
    -- an event comes to an idle task, so no exchange of the user is under way
    have hserver : ∀ phase, s.task ≠ .rekeying .user phase := by
      intro phase htask
      rw [htask] at hidle
      cases hidle
    by_cases hrenegotiate : event = .renegotiate
    · subst hrenegotiate
      have hstart := rekeyStart { s with renegotiating := true } env .user none
        (Backend.failRekey env .user)
      change RekeyOutcome s (Backend.startRekey env .user none (Backend.failRekey env .user)
        { s with renegotiating := true })
      generalize Backend.startRekey env .user none (Backend.failRekey env .user)
        { s with renegotiating := true } = t at hstart ⊢
      cases hstart with
      | @unsent fault w hinit =>
        have hsent : Extends _ [] _ w := (emits_sendKexInit env).of_error hinit
        have hfine : Fine s w := hsent.toGrows.fine fun _ => fails_of_isRekeys
        cases fault with
        | error e =>
          exact outcome_endEvent (w := { w with renegotiating := false }) env _ hserver hfine
        | panicked | stuck => exact .fine hfine
      | failed hinit hmethods => cases hmethods
      | @started clientKexMsg phase w w' hinit hmethods =>
        have hsent : Extends _ [] _ w := (emits_sendKexInit env).of_ok hinit
        cases hmethods
        exact .fine (hsent.toGrows.fine fun _ => fails_of_isRekeys)
    · have hextends : Extends Effect.isEvents event.cancels s (stateOf (startEvent env event s)) :=
        extends_stateOf (emits_startEvent env event) s
      change RekeyOutcome s (s.onEvent event env)
      rw [Backend.onEvent_eq hrenegotiate]
      exact outcome_settleEvent env hserver (hextends.toGrows.fine fun _ => fails_of_isEvents)
  | shutdown | frontendDropped | receiverDropped _ | tcpListenerDropped _
  | localListenerDropped _ => exact .fine (.refl s)

/-! ## Failures -/

/-- The session is over: `exec` has returned the error, the failure is the last thing that has
happened, and no run goes on from here. -/
structure Fatal (t : Backend) (origin : RekeyOrigin) (e : Error) : Prop where
  exec : t.task = .exited (.error (.error e))
  last : t.log.head? = some (.rekeyFailed origin e)
  silent : ∀ t', Machine.Reachable (· = t) Backend.Step t' → t'.log = t.log

/-- A task that has ended takes no input. -/
theorem not_possible_of_exited {result : Except Fault Unit} (h : t.task = .exited result)
    (i : Input) : i.possible t = false := by
  have hrunning : t.task.running = false := by rw [h]; rfl
  have hidle : t.task.isIdle = false := by rw [h]; rfl
  cases i with
  | packet | receiveFailed | frontendDropped | tcpListenerDropped | localListenerDropped =>
    exact hrunning
  | event event env => exact Bool.and_eq_false_iff.mpr (.inl hidle)
  | shutdown => exact Bool.and_eq_false_iff.mpr (.inl hidle)
  | receiverDropped queue => exact Bool.and_eq_false_iff.mpr (.inl hrunning)

theorem eq_of_exited {result : Except Fault Unit} (h : t.task = .exited result)
    (ht : Machine.Reachable (· = t) Backend.Step t') : t' = t := by
  refine ht.invariant (fun _ hw => hw) fun w i w' hw _ hstep => ?_
  subst hw
  have hpossible := hstep.1
  rw [not_possible_of_exited h i] at hpossible
  cases hpossible

/-- A failure after which nothing else has failed is the first of the log. -/
theorem eq_of_fails {after before before' log : List Effect} {origin origin' : RekeyOrigin}
    {e e' : Error} (hbefore' : ∀ effect ∈ before', effect.fails = false)
    (h : after ++ .rekeyFailed origin e :: (before ++ log) =
      .rekeyFailed origin' e' :: (before' ++ log)) : origin = origin' ∧ e = e' := by
  cases after with
  | nil =>
    injection h with h
    injection h with horigin he
    exact ⟨horigin, he⟩
  | cons effect rest =>
    injection h with _ h
    have hbefore : rest ++ .rekeyFailed origin e :: before = before' := by
      refine (List.append_left_inj log).mp ?_
      rw [List.append_assoc]
      exact h
    have hmem : .rekeyFailed origin e ∈ before' := by
      rw [← hbefore]
      exact List.mem_append_right _ List.mem_cons_self
    cases hbefore' _ hmem

/-- A key exchange that fails after the client's `SSH_MSG_KEXINIT` ends the session if and only if it
is not the user's. -/
theorem rekeyFailure_fatal_iff {i : Input} {origin : RekeyOrigin} {e : Error}
    {after before : List Effect} (hs : Backend.Reachable s) (hpossible : i.possible s = true)
    (hfails : (s.next i).log = after ++ .rekeyFailed origin e :: (before ++ s.log)) :
    Fatal (s.next i) origin e ↔ ∀ phase, s.task ≠ .rekeying .user phase := by
  have houtcome := outcome_next (kexFlags hs) hpossible
  generalize s.next i = t at houtcome hfails ⊢
  cases houtcome with
  | fine h =>
    -- a turn without a failure has none in its log
    obtain ⟨effects, hlog, hfine⟩ := h
    have heffects : after ++ .rekeyFailed origin e :: before = effects := by
      refine (List.append_left_inj s.log).mp ?_
      rw [← hlog, hfails, List.append_assoc]
      rfl
    have hmem : .rekeyFailed origin e ∈ effects := by
      rw [← heffects]
      exact List.mem_append_right _ List.mem_cons_self
    cases hfine _ hmem
  | ended hserver htask hlog hbefore =>
    obtain ⟨rfl, rfl⟩ := eq_of_fails hbefore (hfails.symm.trans hlog)
    refine ⟨fun _ => hserver, fun _ => ⟨htask, ?_, fun t' ht' => ?_⟩⟩
    · rw [hlog]
      rfl
    · rw [eq_of_exited htask ht']
  | passedOver huser htask =>
    refine ⟨fun hfatal => ?_, fun hserver => absurd huser (hserver _)⟩
    have hexec := hfatal.exec
    rw [htask] at hexec
    cases hexec

/-- The newest effect is the failure of an exchange of the server's. -/
def failsLast : List Effect → Bool
  | .rekeyFailed .server _ :: _ => true
  | _ => false

/-- A `SSH_MSG_KEXINIT` of the server with nothing in it comes to a new session. -/
theorem rekeyFailure_fatal_server : ∃ e,
    Fatal (Backend.agreeable.next (.packet [sshMsgKexinit] .agreeable)) .server e := by
  have hhead : failsLast (Backend.agreeable.next (.packet [sshMsgKexinit] .agreeable)).log =
      true := by
    decide +kernel
  unfold failsLast at hhead
  split at hhead
  · next e before hlog =>
      have hfails : (Backend.agreeable.next (.packet [sshMsgKexinit] .agreeable)).log =
          [] ++ .rekeyFailed .server e :: (before ++ Backend.agreeable.log) := by
        rw [hlog]
        exact congrArg (Effect.rekeyFailed .server e :: ·) (List.append_nil before).symm
      refine ⟨e, (rekeyFailure_fatal_iff (Backend.reachable_fresh _) rfl hfails).mpr ?_⟩
      intro phase htask
      cases htask
  · cases hhead

/-- An exchange of the user's fails at its first packet, which is answered. -/
def failsForUser : List Effect → Bool
  | [_, .rekeyFailed .user _, _, _] => true
  | _ => false

/-- The same payload in answer to the user: the exchange fails, and the session goes on. -/
theorem rekeyFailure_fatal_fails_for_user :
    ¬ ∀ (s : Backend) (i : Input) origin e after before, s.Reachable → i.possible s = true →
      (s.next i).log = after ++ .rekeyFailed origin e :: (before ++ s.log) →
        Fatal (s.next i) origin e := by
  intro hfatal
  let s := Backend.agreeable.next (.event .renegotiate .agreeable)
  let i : Input := .packet [sshMsgKexinit] .agreeable
  have hs : s.Reachable := .next (Backend.reachable_fresh _) trivial ⟨rfl, rfl⟩
  have hhandles : s.handles .agreeable [sshMsgKexinit] = none :=
    Option.isNone_iff_eq_none.mp (by decide +kernel)
  have hgrows : Grows _ _ s (s.next i) := grows_next_packet hhandles
  obtain ⟨effects, hlog, -⟩ := hgrows.log
  obtain ⟨sent, hsent⟩ : ∃ sent, s.log = [sent] :=
    List.length_eq_one_iff.mp (by decide +kernel)
  have hshape : failsForUser (s.next i).log = true := by decide +kernel
  unfold failsForUser at hshape
  split at hshape
  · next answer e received sent' hfails =>
      have heffects : effects = [answer, .rekeyFailed .user e, received] := by
        rw [hlog, hsent] at hfails
        have hsnoc : effects ++ [sent] = [answer, .rekeyFailed .user e, received] ++ [sent'] :=
          hfails
        exact (List.append_inj' hsnoc rfl).1
      have hnew : (s.next i).log = [answer] ++ .rekeyFailed .user e :: ([received] ++ s.log) := by
        rw [hlog, heffects]
        rfl
      have hpossible : i.possible s = true := by decide +kernel
      have hexec := (hfatal s i .user e [answer] [received] hs hpossible hnew).exec
      have hidle : (s.next i).task.isIdle = true := by decide +kernel
      rw [hexec] at hidle
      cases hidle
  · cases hshape

end Flatline
