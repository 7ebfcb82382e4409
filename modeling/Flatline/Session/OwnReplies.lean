import Flatline.Session.Requests
import Flatline.Session.Tasks

/-!
# Replies go to their own requests

Replies name no request, so an event gets its own reply as long as no other is outstanding when it
asks. An event that an unrelated packet has failed leaves its reply outstanding for the next one.

Source: `src/session/backend.rs` (`match_msg`, `match_this_msg`, `wait_for_channel_response`,
`wait_for_opening_channel`, `global_request_tcp_ip_forward`).
-/

namespace Flatline

open Triple

/-! ## The server's side -/

/-- The request that a message of the server replies to. -/
def Message.repliesTo : Message → Option Request
  | .channelSuccess recipient | .channelFailure recipient => some (.channel recipient)
  | .channelOpenConfirmation recipient .. | .channelOpenFailure recipient .. =>
    some (.channelOpen recipient)
  | .requestSuccess | .requestFailure => some .global
  | _ => none

/-- The request that a payload of the server replies to. -/
def repliesTo (payload : Bytes) : Option Request :=
  (Message.parse payload).toOption.bind Message.repliesTo

/-- The requests that the server has not replied to, oldest first. -/
def outstanding : List Effect → List Request
  | [] => []
  | .received payload :: log =>
    match repliesTo payload with
    | some request => (outstanding log).erase request
    | none => outstanding log
  | effect :: log => outstanding log ++ effect.asks.toList

/-- The server replies once to each request. -/
def RepliesInTurn (s : Backend) : Input → Prop
  | .packet payload _ => ∀ request ∈ repliesTo payload, request ∈ outstanding s.log
  | _ => True

/-- A program has not failed. -/
def succeeds {α : Type} : EStateM.Result Fault Backend α → Bool
  | .ok .. => true
  | .error .. => false

/-- The server closes the channel that the request is about. -/
def Wait.isClosedBy (wait : Wait) : Message → Bool
  | .channelClose recipient => decide (wait.asks = some (.channel recipient))
  | _ => false

/-- What a wait that waits for the reply to a request is given, it can take: the packet arrives and
parses, the message does not close the channel, and the wait acts on it or `handle_msg` succeeds with
it. -/
def Wait.takes (s : Backend) (wait : Wait) : Input → Bool
  | .packet payload env =>
    match Message.parse payload with
    | .ok msg => !wait.isClosedBy msg && ((wait.react env payload).isSome ||
      succeeds (handleMsg env msg false (s.afterRecv payload)))
    | .error _ => false
  | .receiveFailed .. => false
  | _ => true

/-- Nothing that arrives ends an event that waits for the reply to its request. -/
def KeepsWaiting (s : Backend) (i : Input) : Prop :=
  match s.task with
  | .waiting wait => wait.asks.isSome = true → wait.takes s i = true
  | _ => True

-- The instance is named: with all of Mathlib, the search would enumerate the 32-bit numbers.
instance (s : Backend) (i : Input) : Decidable (RepliesInTurn s i) :=
  match i with
  | .packet payload _ => Option.decidableForallMem (repliesTo payload)
  | .receiveFailed .. | .event .. | .shutdown | .frontendDropped | .receiverDropped _
  | .tcpListenerDropped _ | .localListenerDropped _ => inferInstanceAs (Decidable True)

instance (s : Backend) (i : Input) : Decidable (KeepsWaiting s i) := by
  unfold KeepsWaiting
  cases s.task <;> infer_instance

/-- The request that the task waits for a reply to. -/
def Task.asks : Task → Option Request
  | .waiting wait => wait.asks
  | _ => none

/-- The one reply that an event can get is its own. -/
def OwnReplies (s : Backend) : Prop :=
  s.task.running = true → outstanding s.log = s.task.asks.toList

variable {s w : Backend} {i : Input} {p : Effect → Bool} {keys : List SocketAddr}

/-! ## What is outstanding -/

/-- Not a payload of the server. -/
def Effect.isAction : Effect → Bool
  | .received _ => false
  | _ => true

theorem outstanding_append {effects log : List Effect}
    (h : ∀ effect ∈ effects, effect.isAction = true) :
    outstanding (effects ++ log) = outstanding log ++ (effects.filterMap Effect.asks).reverse := by
  induction effects with
  | nil => exact (List.append_nil _).symm
  | cons effect rest ih =>
    have hrest := ih fun effect heffect => h effect (List.mem_cons_of_mem _ heffect)
    have haction := h effect List.mem_cons_self
    have hstep : outstanding (effect :: (rest ++ log)) =
        outstanding (rest ++ log) ++ effect.asks.toList := by
      cases effect <;> first | rfl | cases haction
    rw [List.cons_append, hstep, hrest]
    cases hasks : effect.asks with
    | none =>
      rw [List.filterMap_cons_none hasks]
      exact List.append_nil _
    | some request =>
      rw [List.filterMap_cons_some hasks, List.reverse_cons, List.append_assoc]
      rfl

/-- What has been asked since is outstanding. -/
theorem Grows.outstanding_eq (h : Grows p keys s w)
    (hp : ∀ effect, p effect = true → effect.isAction = true) {request : Option Request}
    (hasked : asked w.log = request.toList ++ asked s.log) :
    outstanding w.log = outstanding s.log ++ request.toList := by
  obtain ⟨effects, hlog, heffects⟩ := h.log
  have hnew : effects.filterMap Effect.asks = request.toList := by
    rw [hlog, asked, List.filterMap_append] at hasked
    exact (List.append_left_inj _).mp hasked
  rw [hlog, outstanding_append fun effect heffect => hp effect (heffects effect heffect), hnew]
  cases request <;> rfl

theorem Grows.outstanding_same (h : Grows p keys s w)
    (hp : ∀ effect, p effect = true → effect.isAction = true ∧ effect.asks = none) :
    outstanding w.log = outstanding s.log := by
  have hasked := h.asked_eq fun effect heffect => (hp effect heffect).2
  have hnone : asked w.log = (none : Option Request).toList ++ asked s.log := hasked
  rw [h.outstanding_eq (fun effect heffect => (hp effect heffect).1) hnone]
  exact List.append_nil _

theorem isAction_of_isSettles {effect : Effect} (h : effect.isSettles = true) :
    effect.isAction = true := by
  cases effect <;> first | rfl | cases h

theorem isAction_of_isEvents {effect : Effect} (h : effect.isEvents = true) :
    effect.isAction = true := by
  cases effect <;> first | rfl | cases h

theorem isAction_of_isHandlers {effect : Effect} (h : effect.isHandlers = true) :
    effect.isAction = true := by
  cases effect <;> first | rfl | cases h

theorem isAction_of_isExchanges {effect : Effect} (h : effect.isExchanges = true) :
    effect.isAction = true ∧ effect.asks = none := by
  cases effect with
  | sent message => cases message <;> first | exact ⟨rfl, rfl⟩ | cases h
  | _ => cases h

theorem Grows.outstanding_settles (h : Grows Effect.isSettles keys s w) :
    outstanding w.log = outstanding s.log :=
  h.outstanding_same fun _ heffect => ⟨isAction_of_isSettles heffect, asks_of_isSettles heffect⟩

theorem Grows.outstanding_handlers (h : Grows Effect.isHandlers keys s w) :
    outstanding w.log = outstanding s.log :=
  h.outstanding_same fun _ heffect => ⟨isAction_of_isHandlers heffect, asks_of_isHandlers heffect⟩

theorem outstanding_afterRecv_of_none {payload : Bytes} (h : repliesTo payload = none) :
    outstanding (s.afterRecv payload).log = outstanding s.log := by
  change (match repliesTo payload with
    | some request => (outstanding s.log).erase request
    | none => outstanding s.log) = _
  rw [h]

theorem outstanding_afterRecv_of_some {payload : Bytes} {request : Request}
    (h : repliesTo payload = some request) (hs : outstanding s.log = [request]) :
    outstanding (s.afterRecv payload).log = [] := by
  change (match repliesTo payload with
    | some request => (outstanding s.log).erase request
    | none => outstanding s.log) = _
  rw [h, hs]
  simp

/-- Where nothing is outstanding, the server replies to nothing. -/
theorem RepliesInTurn.repliesTo_eq_none {payload : Bytes} {env : Env}
    (h : RepliesInTurn s (.packet payload env)) (hs : outstanding s.log = []) :
    repliesTo payload = none := by
  cases hreplies : repliesTo payload with
  | none => rfl
  | some request =>
    have hmem := h request (Option.mem_def.mpr hreplies)
    rw [hs] at hmem
    cases hmem

/-! ## Replies and receive loops -/

theorem repliesTo_of_parse {payload : Bytes} {msg : Message}
    (h : Message.parse payload = .ok msg) : repliesTo payload = msg.repliesTo := by
  rw [repliesTo, h]
  rfl

/-- Only the replies to global requests have the numbers that `global_request_tcp_ip_forward` looks
at. -/
theorem repliesTo_of_head? {payload : Bytes} {msg : Message}
    (hparse : Message.parse payload = .ok msg)
    (h : payload.head? = some sshMsgRequestSuccess ∨ payload.head? = some sshMsgRequestFailure) :
    msg.repliesTo = some .global := by
  cases payload with
  | nil => rcases h with h | h <;> cases h
  | cons number rest =>
    rcases h with h | h
    · obtain rfl := Option.some.inj h
      obtain rfl : Message.requestSuccess = msg := Except.ok.inj hparse
      rfl
    · obtain rfl := Option.some.inj h
      obtain rfl : Message.requestFailure = msg := Except.ok.inj hparse
      rfl

/-- A loop acts on a message that replies to something, or on the close of its channel. -/
theorem repliesTo_of_react {env : Env} {wait : Wait} {payload : Bytes} {msg : Message}
    {m : BackendM Progress} {request : Request} (hasks : wait.asks = some request)
    (hparse : Message.parse payload = .ok msg) (hreact : wait.react env payload = some m) :
    msg.repliesTo.isSome = true ∨
      ∃ recipient, msg = .channelClose recipient ∧ request = .channel recipient := by
  cases wait with
  | serviceAccept | authentication _ => cases hasks
  | channelResponse id opened =>
    obtain rfl := Option.some.inj hasks
    simp only [Wait.react, hparse, Wait.answer] at hreact
    cases msg with
    | channelSuccess | channelFailure => exact .inl rfl
    | channelClose recipient =>
      simp only [answerChannelRequest] at hreact
      by_cases hid : recipient = id.client
      · exact .inr ⟨recipient, rfl, by rw [hid]⟩
      · rw [if_neg hid] at hreact
        cases hreact
    | _ => cases hreact
  | openingChannel clientId window packet sftp =>
    simp only [Wait.react, hparse, Wait.answer] at hreact
    cases msg <;> first | exact .inl rfl | cases hreact
  | streamLocalForward | cancelTcpIpForward | cancelStreamLocalForward =>
    simp only [Wait.react, hparse, Wait.answer] at hreact
    cases msg <;> first | exact .inl rfl | cases hreact
  | tcpIpForward addr window packet =>
    refine .inl ?_
    simp only [Wait.react] at hreact
    split at hreact
    · next hhead =>
        rw [repliesTo_of_head? hparse (.inl hhead)]
        rfl
    · split at hreact
      · next hhead =>
          rw [repliesTo_of_head? hparse (.inr hhead)]
          rfl
      · rw [hparse] at hreact
        cases hreact

/-- A loop acts on the reply to its request. -/
theorem react_of_repliesTo {wait : Wait} {payload : Bytes} {msg : Message} {request : Request}
    (env : Env) (hasks : wait.asks = some request) (hparse : Message.parse payload = .ok msg)
    (hreplies : msg.repliesTo = some request) : wait.react env payload ≠ none := by
  intro hreact
  cases wait with
  | serviceAccept | authentication _ => cases hasks
  | channelResponse | openingChannel | streamLocalForward | cancelTcpIpForward
  | cancelStreamLocalForward =>
    obtain rfl := Option.some.inj hasks
    simp only [Wait.react, hparse, Wait.answer] at hreact
    cases msg <;> cases hreplies <;> cases hreact
  | tcpIpForward addr window packet =>
    obtain rfl := Option.some.inj hasks
    simp only [Wait.react] at hreact
    cases msg with
    | requestSuccess =>
      have hhead : payload.head? = some sshMsgRequestSuccess := Message.head?_of_parse hparse
      rw [if_pos hhead] at hreact
      cases hreact
    | requestFailure =>
      have hhead : payload.head? = some sshMsgRequestFailure := Message.head?_of_parse hparse
      rw [if_neg (by rw [hhead]; decide), if_pos hhead] at hreact
      cases hreact
    | _ => cases hreplies

/-! ## Turns -/

theorem Task.asks_of_not_waiting {task : Task} (h : task.isWaiting = false) : task.asks = none := by
  cases task with
  | waiting wait => cases h
  | _ => rfl

theorem ownReplies_of_not_waiting (hwaiting : w.task.isWaiting = false)
    (hnone : outstanding w.log = []) : OwnReplies w := fun _ => by
  rw [hnone, Task.asks_of_not_waiting hwaiting]
  rfl

/-- The end of a turn of an event. -/
theorem ownReplies_settleEvent (env : Env) {r : EStateM.Result Fault Backend Progress}
    (hok : ∀ progress w, r = .ok progress w → outstanding w.log = progress.asks.toList)
    (herror : ∀ fault w, r = .error fault w → outstanding w.log = []) :
    OwnReplies (Backend.settleEvent env r) := by
  have hgrows : Grows Effect.isSettles [] (stateOf r) (Backend.settleEvent env r) :=
    grows_settleEvent env r
  have hsame := hgrows.outstanding_settles
  rcases r with ⟨reply | wait, w⟩ | ⟨fault, w⟩
  · exact ownReplies_of_not_waiting (endEvent_not_waiting env w _) (hsame.trans (hok _ _ rfl))
  · exact fun _ => hok _ _ rfl
  · exact ownReplies_of_not_waiting (stop_not_waiting fun e w => endEvent_not_waiting env w _)
      (hsame.trans (herror _ _ rfl))

/-- An event that starts, or goes on, where nothing is outstanding. -/
theorem ownReplies_runs (env : Env) {m : BackendM Progress} {extra : List SocketAddr} {w : Backend}
    (hemits : Emits Effect.isEvents keys m)
    (hasks : Holds (· = w) m (Awaits extra w) (fun _ w' => asked w'.log = asked w.log))
    (hnone : outstanding w.log = []) : OwnReplies (Backend.settleEvent env (m w)) := by
  refine ownReplies_settleEvent env (fun progress w' hrun => ?_) fun fault w' hrun => ?_
  · have hgrows := (hemits.of_ok hrun).toGrows
    rw [hgrows.outstanding_eq (fun _ => isAction_of_isEvents) (hasks.of_ok rfl hrun).asked, hnone]
    rfl
  · have hgrows := (hemits.of_error hrun).toGrows
    have hasked : asked w'.log = (none : Option Request).toList ++ asked w.log :=
      hasks.of_error rfl hrun
    rw [hgrows.outstanding_eq (fun _ => isAction_of_isEvents) hasked, hnone]
    rfl

/-- The message of a packet that comes to `handle_msg` replies to nothing. -/
theorem repliesTo_of_handles {payload : Bytes} {env : Env} {msg : Message} (h : OwnReplies s)
    (hturn : RepliesInTurn s (.packet payload env)) (hhandles : s.handles env payload = some msg) :
    repliesTo payload = none := by
  have hout := h (running_of_handles hhandles)
  have hparse := parse_of_handles hhandles
  cases hasks : s.task.asks with
  | none =>
    rw [hasks] at hout
    exact hturn.repliesTo_eq_none hout
  | some request =>
    by_contra hreplies
    obtain ⟨request', hsome⟩ := Option.ne_none_iff_exists'.mp hreplies
    have hmem := hturn request' (Option.mem_def.mpr hsome)
    rw [hout, hasks] at hmem
    obtain rfl := List.mem_singleton.mp hmem
    rw [repliesTo_of_parse hparse] at hsome
    cases htask : s.task with
    | waiting wait =>
      rw [htask] at hasks
      have hreact := react_of_repliesTo env hasks hparse hsome
      unfold Backend.handles at hhandles
      rw [htask] at hhandles
      simp only [if_pos (Option.isSome_iff_ne_none.mpr hreact)] at hhandles
      cases hhandles
    | idle | rekeying _ _ | exited _ =>
      rw [htask] at hasks
      cases hasks

theorem ownReplies_handled {payload : Bytes} {env : Env} {msg : Message} (h : OwnReplies s)
    (hturn : RepliesInTurn s (.packet payload env)) (hkeeps : KeepsWaiting s (.packet payload env))
    (hhandles : s.handles env payload = some msg) :
    OwnReplies (Backend.settleHandled env s.task
      (handleMsg env msg s.task.isIdle (s.afterRecv payload))) := by
  have hrunning := running_of_handles hhandles
  have hhandled : Grows Effect.isHandlers [] (s.afterRecv payload)
      (stateOf (handleMsg env msg s.task.isIdle (s.afterRecv payload))) :=
    grows_handleMsg env msg s.task.isIdle _
  have hsettled : Grows Effect.isSettles [] _ (Backend.settleHandled env s.task
      (handleMsg env msg s.task.isIdle (s.afterRecv payload))) := grows_settleHandled env s.task _
  have hout : outstanding (Backend.settleHandled env s.task
      (handleMsg env msg s.task.isIdle (s.afterRecv payload))).log = s.task.asks.toList := by
    rw [hsettled.outstanding_settles, hhandled.outstanding_handlers,
      outstanding_afterRecv_of_none (repliesTo_of_handles h hturn hhandles), h hrunning]
  intro _
  rw [hout]
  congr 1
  cases hwaits : (Backend.settleHandled env s.task
      (handleMsg env msg s.task.isIdle (s.afterRecv payload))).task with
  | waiting wait => rw [(settleHandled_eq_waiting hrunning hwaits).1]
  | _ =>
    -- the event has ended, which it does not while a reply is outstanding
    by_contra hne
    cases htask : s.task with
    | waiting wait =>
      rw [htask] at hne
      have hasks : wait.asks.isSome = true := Option.isSome_iff_ne_none.mpr hne
      unfold KeepsWaiting at hkeeps
      rw [htask] at hkeeps
      have htakes := hkeeps hasks
      have hreact : (wait.react env payload).isSome = false := by
        by_contra hreact
        unfold Backend.handles at hhandles
        rw [htask] at hhandles
        simp only [if_pos (Bool.eq_true_of_not_eq_false hreact)] at hhandles
        cases hhandles
      unfold Wait.takes at htakes
      simp only [parse_of_handles hhandles, hreact, Bool.false_or, Bool.and_eq_true] at htakes
      rw [htask] at hwaits
      change (Backend.settleHandled env (.waiting wait)
        (handleMsg env msg false (s.afterRecv payload))).task = _ at hwaits
      cases hrun : handleMsg env msg false (s.afterRecv payload) with
      | ok data w =>
        rw [hrun] at hwaits
        cases hwaits
      | error fault w =>
        rw [hrun] at htakes
        cases htakes.2
    | idle | rekeying _ _ | exited _ =>
      rw [htask] at hne
      exact hne rfl

/-- The packet that a loop acts on is the reply to its request. -/
theorem repliesTo_of_acts {payload : Bytes} {env : Env} {wait : Wait} {m : BackendM Progress}
    {request : Request} (h : OwnReplies s) (hturn : RepliesInTurn s (.packet payload env))
    (hkeeps : KeepsWaiting s (.packet payload env)) (htask : s.task = .waiting wait)
    (hasks : wait.asks = some request) (hreact : wait.react env payload = some m) :
    repliesTo payload = some request := by
  have hout : outstanding s.log = [request] := by
    rw [h (by rw [htask]; rfl), htask]
    change wait.asks.toList = _
    rw [hasks]
    rfl
  unfold KeepsWaiting at hkeeps
  rw [htask] at hkeeps
  have htakes := hkeeps (Option.isSome_of_eq_some hasks)
  unfold Wait.takes at htakes
  cases hparse : Message.parse payload with
  | error e =>
    simp only [hparse] at htakes
    cases htakes
  | ok msg =>
    rw [repliesTo_of_parse hparse]
    rcases repliesTo_of_react hasks hparse hreact with hsome | ⟨recipient, rfl, rfl⟩
    · obtain ⟨request', hrequest⟩ := Option.isSome_iff_exists.mp hsome
      have hmem := hturn request' (by rw [repliesTo_of_parse hparse, hrequest]; rfl)
      rw [hout] at hmem
      rw [hrequest, List.mem_singleton.mp hmem]
    · have hcloses : wait.isClosedBy (.channelClose recipient) = true := decide_eq_true hasks
      simp only [hparse, hcloses, Bool.not_true, Bool.false_and] at htakes
      cases htakes

/-- A packet. -/
theorem OwnReplies.packet {payload : Bytes} {env : Env} (h : OwnReplies s)
    (hrunning : s.task.running = true) (hturn : RepliesInTurn s (.packet payload env))
    (hkeeps : KeepsWaiting s (.packet payload env)) :
    OwnReplies (s.next (.packet payload env)) := by
  have hidle (hasks : s.task.asks = none) : outstanding (s.afterRecv payload).log = [] := by
    have hout : outstanding s.log = [] := by rw [h hrunning, hasks]; rfl
    rw [outstanding_afterRecv_of_none (hturn.repliesTo_eq_none hout), hout]
  have hpacket := packetTurn s payload env
  generalize s.next (.packet payload env) = t at hpacket ⊢
  cases hpacket with
  | handled hhandles => exact ownReplies_handled h hturn hkeeps hhandles
  | @reacted wait m htask hreact hpayload =>
    refine ownReplies_runs env (emits_react hreact) (asks_react hreact _) ?_
    cases hasks : wait.asks with
    | none => exact hidle (by rw [htask]; exact hasks)
    | some request =>
      refine outstanding_afterRecv_of_some
        (repliesTo_of_acts h hturn hkeeps htask hasks hreact) ?_
      rw [h hrunning, htask]
      change wait.asks.toList = _
      rw [hasks]
      rfl
  | @exchanged origin phase htask hhead =>
    -- an exchange waits for no reply
    have hasks : s.task.asks = none := by rw [htask]; rfl
    have hexchange : Grows Effect.isExchanges [] (s.afterRecv payload)
        (stateOf (proceedRekey env payload phase (s.afterRecv payload))) :=
      grows_stateOf (emits_proceedRekey env payload phase) _
    have hsettled : Grows Effect.isSettles [] _ (Backend.settleRekey env origin
        (proceedRekey env payload phase (s.afterRecv payload))) := grows_settleRekey env origin _
    refine ownReplies_of_not_waiting (settleRekey_not_waiting env origin _) ?_
    rw [hsettled.outstanding_settles,
      hexchange.outstanding_same fun _ heffect => isAction_of_isExchanges heffect, hidle hasks]
  | @refused e _ hparse =>
    have hasks : s.task.asks = none := by
      -- where a reply is awaited, what cannot be parsed is against `KeepsWaiting`
      by_contra hne
      cases htask : s.task with
      | waiting wait =>
        rw [htask] at hne
        unfold KeepsWaiting at hkeeps
        rw [htask] at hkeeps
        have htakes := hkeeps (Option.isSome_iff_ne_none.mpr hne)
        unfold Wait.takes at htakes
        cases hmsg : Message.parse payload with
        | error e =>
          simp only [hmsg] at htakes
          cases htakes
        | ok msg => exact hparse msg hmsg
      | idle | rekeying _ _ | exited _ =>
        rw [htask] at hne
        exact hne rfl
    have hsettled : Grows Effect.isSettles [] (s.afterRecv payload)
        (Backend.settleHandled env s.task (.error (.error e) (s.afterRecv payload))) :=
      grows_settleHandled env s.task (.error (.error e) (s.afterRecv payload))
    -- a refused packet ends the event, so that no event waits afterwards
    refine ownReplies_of_not_waiting ?_ (by rw [hsettled.outstanding_settles, hidle hasks])
    by_contra hwaiting
    cases hwaits : (Backend.settleHandled env s.task
        (.error (.error e) (s.afterRecv payload))).task with
    | waiting wait =>
      obtain ⟨-, data, w, hrun⟩ := settleHandled_eq_waiting hrunning hwaits
      cases hrun
    | idle | rekeying _ _ | exited _ =>
      rw [hwaits] at hwaiting
      exact hwaiting rfl
  | exited htask => exact h

/-- A step. -/
theorem OwnReplies.next (h : OwnReplies s) (hpossible : i.possible s = true)
    (hturn : RepliesInTurn s i) (hkeeps : KeepsWaiting s i) : OwnReplies (s.next i) := by
  cases i with
  | packet payload env => exact h.packet hpossible hturn hkeeps
  | receiveFailed error env =>
    have hgrows : Grows Effect.isSettles [] s (s.next (.receiveFailed error env)) :=
      grows_next_receiveFailed s error env
    refine ownReplies_of_not_waiting (receiveFailed_not_waiting s error env) ?_
    rw [hgrows.outstanding_settles, h hpossible]
    cases htask : s.task with
    | waiting wait =>
      unfold KeepsWaiting at hkeeps
      rw [htask] at hkeeps
      change wait.asks.toList = []
      cases hasks : wait.asks with
      | none => rfl
      | some request => cases hkeeps (Option.isSome_of_eq_some hasks)
    | idle | rekeying _ _ | exited _ => rfl
  | event event env =>
    have hidle := (Bool.and_eq_true_iff.mp hpossible).1
    have hnone : outstanding s.log = [] := by
      cases htask : s.task with
      | idle =>
        rw [h (by rw [htask]; rfl), htask]
        rfl
      | waiting _ | rekeying _ _ | exited _ =>
        rw [htask] at hidle
        cases hidle
    change OwnReplies (s.onEvent event env)
    by_cases hrenegotiate : event = .renegotiate
    · subst hrenegotiate
      have hgrows : Grows Effect.isSettles [] { s with renegotiating := true }
          (s.onEvent .renegotiate env) :=
        grows_startRekey env .user none (fun _ => Effect.isSettles_of_isEnds)
          fun e w => grows_failRekey env .user e w
      refine ownReplies_of_not_waiting ?_ (hgrows.outstanding_settles.trans hnone)
      exact startRekey_not_waiting env .user none (failRekey_not_waiting env .user)
    · rw [Backend.onEvent_eq hrenegotiate]
      exact ownReplies_runs env (emits_startEvent env event) (awaits_startEvent env event s) hnone
  | shutdown => exact fun hrunning => by cases hrunning
  | frontendDropped | receiverDropped | tcpListenerDropped | localListenerDropped => exact h

/-- In a run in which every event keeps waiting for its reply and no write fails, no reply is
outstanding but that of the event that waits, and the packet that ends its wait is that reply. -/
theorem replies_own
    (h : Backend.ReachableVia (fun s i => RepliesInTurn s i ∧ KeepsWaiting s i ∧ i.Writes) s) :
    OwnReplies s ∧ ∀ payload env wait request, s.task = .waiting wait → wait.asks = some request →
      RepliesInTurn s (.packet payload env) → KeepsWaiting s (.packet payload env) →
        (wait.react env payload).isSome = true → repliesTo payload = some request := by
  have hown : OwnReplies s := by
    refine h.invariant (fun s hs _ => ?_) fun s i s' hs hguard hstep => ?_
    · rw [hs.log, hs.task]
      rfl
    · exact hstep.2 ▸ hs.next hstep.1 hguard.1 hguard.2.1
  refine ⟨hown, fun payload env wait request htask hasks hturn hkeeps hreact => ?_⟩
  obtain ⟨m, hm⟩ := Option.isSome_iff_exists.mp hreact
  exact repliesTo_of_acts hown hturn hkeeps htask hasks hm

/-- A success for the client's channel. -/
def channelSuccessOf (recipient : UInt32) : Bytes :=
  makeBufferWithoutHeader [.u8 sshMsgChannelSuccess, .u32 recipient]

/-- A channel is opened, and a shell is started on it. -/
theorem replies_own_shell :
    ∃ s, OwnReplies s ∧ s.task.asks = some (.channel 1) ∧ outstanding s.log = [.channel 1] := by
  obtain ⟨s, hs, htask⟩ := Backend.exists_reachable
    (fun s i => RepliesInTurn s i ∧ KeepsWaiting s i ∧ i.Writes)
    [.event (.channelOpenSession 65536 32768) .agreeable,
      .packet (openConfirmation 1 7) .agreeable,
      .event (.channelRequestShell ⟨1, 7⟩ true) .agreeable]
    (fun s => s.task.asks = some (.channel 1) ∧ outstanding s.log = [.channel 1])
    (by decide +kernel)
  obtain ⟨hasks, hout⟩ := of_decide_eq_true htask
  exact ⟨s, (replies_own hs).1, hasks, hout⟩

/-- A message that does not parse fails the request for a shell. The success of the shell then goes
to the request for a command, which the server has not replied to. -/
theorem replies_own_fails_after_error :
    ¬ ∀ s, Backend.ReachableVia (fun s i => RepliesInTurn s i ∧ i.Writes) s → OwnReplies s := by
  intro hall
  obtain ⟨s, hs, hlog⟩ := Backend.exists_reachable (fun s i => RepliesInTurn s i ∧ i.Writes)
    [.event (.channelOpenSession 65536 32768) .agreeable,
      .packet (openConfirmation 1 7) .agreeable,
      .event (.channelRequestShell ⟨1, 7⟩ true) .agreeable,
      .packet [sshMsgDebug, 1, 0, 0, 0, 1, 255, 0, 0, 0, 0] .agreeable,
      .event (.channelRequestExec ⟨1, 7⟩ true (ascii "ls")) .agreeable,
      .packet (channelSuccessOf 1) .agreeable]
    (fun s => s.task.isIdle = true ∧ outstanding s.log = [.channel 1]) (by decide +kernel)
  obtain ⟨hidle, hout⟩ := of_decide_eq_true hlog
  have hown := hall s hs
  unfold OwnReplies at hown
  cases htask : s.task with
  | idle =>
    rw [htask, hout] at hown
    cases hown rfl
  | waiting _ | rekeying _ _ | exited _ =>
    rw [htask] at hidle
    cases hidle

end Flatline
