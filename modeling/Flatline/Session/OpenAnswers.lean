import Flatline.Session.ClientIds
import Flatline.Session.Views

/-!
# What a confirmation leads to

A channel exists for the server from its `SSH_MSG_CHANNEL_OPEN_CONFIRMATION` on. The client
registers the channel if the open still waits and the server's number is free; in every other case
it forgets the confirmation, and sends no `SSH_MSG_CHANNEL_CLOSE` for the channel either.

Source: `src/session/backend.rs` (`wait_for_opening_channel`, `handle_msg`).
-/

namespace Flatline

open Triple

/-- The numbers in a confirmation, the client's first. -/
def confirmation? (payload : Bytes) : Option IdentityPair :=
  match Message.parse payload with
  | .ok (.channelOpenConfirmation clientId sender _ _) => some ⟨clientId, sender⟩
  | _ => none

/-- A payload confirms, under these numbers, an open of the client that the server has not answered
yet. -/
def Confirms (log : List Effect) (payload : Bytes) (id : IdentityPair) : Prop :=
  confirmation? payload = some id ∧ id.client ∈ unanswered log

/-- The channel with these numbers is registered, or the server is told to close its side. -/
def Leads (effects : List Effect) (id : IdentityPair) : Prop :=
  (∃ queue, .registered id queue ∈ effects) ∨
    ∃ other, other.server = id.server ∧ .sent (.channelClose other) ∈ effects

/-- Every confirmation of a history has led to something. -/
def NoOrphans (log : List Effect) : Prop :=
  ∀ later payload earlier id, log = later ++ .received payload :: earlier →
    Confirms earlier payload id → Leads later id

/-- The turn of a confirmation leaves no orphan: the channel is registered and stays in the table,
or the server is told to close its side. -/
def LeavesNoOrphan (s : Backend) (payload : Bytes) (env : Env) (id : IdentityPair) : Prop :=
  ∃ effects, (s.next (.packet payload env)).log = effects ++ .received payload :: s.log ∧
    ((∃ queue, .registered id queue ∈ effects ∧ ∃ handle ∈ (s.next (.packet payload env)).channels,
        handle.id = id ∧ handle.sender.queue = queue) ∨
      ∃ other, other.server = id.server ∧ .sent (.channelClose other) ∈ effects)

/-- The open of that number waits, and the server's number is not in use. -/
def TakesUp (s : Backend) (id : IdentityPair) : Prop :=
  s.task.opening = some id.client ∧ id.server ∉ s.ledger.serverIds

/-- A confirmation comes when its open waits, and with a number that is not in use. -/
def ConfirmsInTime (s : Backend) : Input → Prop
  | .packet payload _ => ∀ id ∈ confirmation? payload, id.client ∈ unanswered s.log → TakesUp s id
  | _ => True

instance (s : Backend) : (i : Input) → Decidable (ConfirmsInTime s i)
  | .packet payload _ => by
    dsimp only [ConfirmsInTime, TakesUp]
    infer_instance
  | .receiveFailed .. | .event .. | .shutdown | .frontendDropped | .receiverDropped _
  | .tcpListenerDropped _ | .localListenerDropped _ => instDecidableTrue

theorem parse_of_confirmation? {payload : Bytes} {id : IdentityPair}
    (h : confirmation? payload = some id) : ∃ window packet,
      Message.parse payload = .ok (.channelOpenConfirmation id.client id.server window packet) := by
  unfold confirmation? at h
  split at h
  · next hparse =>
    obtain rfl := Option.some.inj h
    exact ⟨_, _, hparse⟩
  · cases h

/-- An effect that neither registers a channel nor closes one. -/
def Effect.isIdle : Effect → Bool
  | .registered .. | .sent (.channelClose _) => false
  | _ => true

variable {s w : Backend} {payload : Bytes} {env : Env} {clientId sender window packet : UInt32}

theorem isIdle_of_isSettles {effect : Effect} (h : effect.isSettles = true) :
    effect.isIdle = true := by
  cases effect with
  | sent message => cases message <;> first | rfl | cases h
  | _ => first | rfl | cases h

/-- A turn of which only idle effects are noted leads to nothing. -/
theorem not_leaves_of_idle {keys : List SocketAddr} {id : IdentityPair}
    (h : Grows Effect.isIdle keys (s.afterRecv payload) (s.next (.packet payload env))) :
    ¬LeavesNoOrphan s payload env id := by
  rintro ⟨effects, hlog, hleads⟩
  obtain ⟨effects', hlog', hidle⟩ := h.log
  obtain rfl : effects' = effects := List.append_cancel_right (hlog'.symm.trans hlog)
  rcases hleads with ⟨queue, hmem, -⟩ | ⟨other, -, hmem⟩
  · cases hidle _ hmem
  · cases hidle _ hmem

/-! ## A confirmation nobody waits for -/

/-- The general handler rejects a confirmation. -/
theorem grows_rejected (idle : Bool) :
    Grows Effect.isIdle [] s (stateOf (handleMsg env
      (.channelOpenConfirmation clientId sender window packet) idle s)) := by
  rw [handleMsg_rejects env idle rfl]
  exact grows_stateOf (Emits.bind (.get_bind fun _ => emits_sendPayload env rfl)
    fun _ => emits_pure _) s

/-- What the loop of an event makes of a confirmation: only the open of a channel takes it. -/
theorem react_confirmation {wait : Wait} {m : BackendM Progress}
    (hparse : Message.parse payload = .ok (.channelOpenConfirmation clientId sender window packet))
    (hreact : wait.react env payload = some m) :
    ∃ clientId' window' packet' sftp, wait = .openingChannel clientId' window' packet' sftp ∧
      m = if clientId ≠ clientId' then
          throw (.error (.session (.unexpectedMessage
            (ascii "Unexpected recipient channel: expected " ++ ascii (toString clientId') ++
              ascii ", got " ++ ascii (toString clientId)))))
        else finishOpening env (.opened clientId' window' packet') sftp sender window packet := by
  have hhead := Message.head?_of_parse hparse
  cases wait with
  | openingChannel clientId' window' packet' sftp =>
    simp only [Wait.react, hparse] at hreact
    exact ⟨clientId', window', packet', sftp, rfl, (Option.some.inj hreact).symm⟩
  | tcpIpForward addr window' packet' =>
    simp only [Wait.react, hparse, hhead, Wait.answer] at hreact
    rw [if_neg (of_decide_eq_false rfl), if_neg (of_decide_eq_false rfl)] at hreact
    cases hreact
  | authentication wait =>
    simp only [Wait.react, hparse] at hreact
    cases wait <;> cases hreact
  | _ =>
    simp only [Wait.react, hparse] at hreact
    cases hreact

/-- A confirmation that nobody waits for, or whose number is in use, leads to nothing. -/
theorem grows_unexpected (hrunning : s.task.running = true)
    (hparse : Message.parse payload = .ok (.channelOpenConfirmation clientId sender window packet))
    (hnot : ¬TakesUp s ⟨clientId, sender⟩) :
    Grows Effect.isIdle [] (s.afterRecv payload) (s.next (.packet payload env)) := by
  have hsettled {w t : Backend} (h : Grows Effect.isSettles [] w t) : Grows Effect.isIdle [] w t :=
    h.mono (fun _ => isIdle_of_isSettles) (List.Subset.refl _)
  have hturn := packetTurn s payload env
  generalize s.next (.packet payload env) = t at hturn ⊢
  cases hturn with
  | handled hhandles =>
    obtain rfl := Except.ok.inj ((parse_of_handles hhandles).symm.trans hparse)
    exact (grows_rejected _).trans (hsettled (grows_settleHandled env _ _))
  | @reacted wait m htask hreact hpayload =>
    obtain ⟨clientId', window', packet', sftp, rfl, rfl⟩ := react_confirmation hparse hreact
    refine Grows.trans ?_ (hsettled (grows_settleEvent env _))
    by_cases hclient : clientId = clientId'
    · subst hclient
      have hused : ((s.afterRecv payload).byServer sender).isSome = true := by
        by_contra hfree
        refine hnot ⟨by rw [htask]; rfl, ?_⟩
        exact (Backend.byServer_eq_none_iff s sender).mp (Bool.eq_false_of_not_eq_true hfree)
      rw [if_neg (not_not.mpr rfl), finishOpening]
      change Grows _ _ _ (stateOf ((get >>= fun w => if (w.byServer sender).isSome then _
        else _ : BackendM Progress) (s.afterRecv payload)))
      rw [get_bind, if_pos hused]
      exact .refl _
    · rw [if_pos hclient]
      exact .refl _
  | @exchanged origin phase htask hhead =>
    rw [Message.head?_of_parse hparse] at hhead
    injection hhead with hcode
    have hle := phase.awaits_le
    rw [← hcode] at hle
    exact absurd hle (of_decide_eq_false rfl)
  | refused _ hnone => exact absurd hparse (hnone _)
  | exited htask =>
    rw [htask] at hrunning
    cases hrunning

/-! ## A confirmation that is waited for -/

/-- The numbers and queues of the channels. -/
def Backend.pairs (s : Backend) : List (IdentityPair × ℕ) :=
  s.channels.map fun handle => (handle.id, handle.sender.queue)

theorem untraced_pairs : Untraced Backend.pairs where
  sent _ _ := rfl
  attempted _ := rfl
  noted _ _ := rfl
  placed _ _ _ _ := rfl

theorem leaves_upgradeFrontend (queue : ℕ) : Leaves Backend.pairs (upgradeFrontend queue) := by
  refine .get_bind fun w => ?_
  split
  · exact leaves_pure _
  · refine Leaves.bind (m := dropReceiver queue) (leaves_modify fun w => ?_) fun _ => leaves_throw _
    have hqueue (handle : ChannelHandle) :
        (handle.dropQueue queue).sender.queue = handle.sender.queue := by
      unfold ChannelHandle.dropQueue
      split <;> rfl
    simp [Backend.pairs, Function.comp_def, hqueue]

/-- What follows the registration of a channel that the client has asked for. -/
def handOverOpened (env : Env) (id : IdentityPair) (queue : ℕ) (sftp : Bool) :
    BackendM Progress := do
  upgradeFrontend queue
  note (.handedOver id queue .user)
  if sftp then
    channelRequestSubsystem env id true (ascii "sftp") (some queue)
  else
    return .done (.channel id queue)

theorem finishOpening_eq {client : ChannelEndpoint} (sftp : Bool)
    (hfree : (s.byServer sender).isSome = false) :
    finishOpening env client sftp sender window packet s =
      handOverOpened env ⟨client.id, sender⟩ s.nextQueue sftp { s with
        channels := s.channels ++ [⟨client, .opened sender window packet, ⟨s.nextQueue, false⟩⟩]
        nextQueue := s.nextQueue + 1
        log := .registered ⟨client.id, sender⟩ s.nextQueue :: s.log } := by
  have hpush : pushChannel client (.opened sender window packet) s =
      .ok s.nextQueue { s with
        channels := s.channels ++ [⟨client, .opened sender window packet, ⟨s.nextQueue, false⟩⟩]
        nextQueue := s.nextQueue + 1
        log := .registered ⟨client.id, sender⟩ s.nextQueue :: s.log } := rfl
  unfold finishOpening
  rw [get_bind, if_neg (by simp [hfree])]
  exact bind_of_ok hpush

/-- The channel is registered before anything else can fail. -/
theorem registers_finishOpening (env : Env) (client : ChannelEndpoint) (sftp : Bool)
    (window packet : UInt32) (hfree : (s.byServer sender).isSome = false) :
    (∃ effects, (stateOf (finishOpening env client sftp sender window packet s)).log =
        effects ++ .registered ⟨client.id, sender⟩ s.nextQueue :: s.log) ∧
      (⟨client.id, sender⟩, s.nextQueue) ∈
        (stateOf (finishOpening env client sftp sender window packet s)).pairs := by
  rw [finishOpening_eq sftp hfree]
  constructor
  · have hemits : Emits Effect.isEvents []
        (handOverOpened env ⟨client.id, sender⟩ s.nextQueue sftp) := by
      refine (emits_upgradeFrontend _).bind fun _ => (emits_note rfl).bind fun _ => ?_
      split
      · exact emits_channelRequest env _ _ _ _ _
      · exact emits_pure _
    obtain ⟨effects, hlog, -⟩ := (grows_stateOf hemits _).log
    exact ⟨effects, hlog⟩
  · have hleaves : Leaves Backend.pairs
        (handOverOpened env ⟨client.id, sender⟩ s.nextQueue sftp) := by
      refine (leaves_upgradeFrontend _).bind fun _ => (untraced_pairs.note _).bind fun _ => ?_
      split
      · exact untraced_pairs.sendAndWait env _ _
      · exact leaves_pure _
    rw [hleaves.stateOf]
    simp [Backend.pairs, ChannelHandle.id, ChannelEndpoint.opened]

/-! ## Turns and runs -/

/-- A confirmation registers its channel, or has the server close it, exactly when the open of that
very number waits and the server's number is not in use. -/
theorem leavesNoOrphan_iff (env : Env) {id : IdentityPair} (hrunning : s.task.running = true)
    (hconfirms : Confirms s.log payload id) :
    LeavesNoOrphan s payload env id ↔ TakesUp s id := by
  obtain ⟨clientId, sender⟩ := id
  obtain ⟨window, packet, hparse⟩ := parse_of_confirmation? hconfirms.1
  refine ⟨fun hleads => ?_, ?_⟩
  · by_contra hnot
    exact not_leaves_of_idle (grows_unexpected hrunning hparse hnot) hleads
  · rintro ⟨hopening, hfresh⟩
    obtain ⟨window', packet', sftp, htask⟩ := Task.opening_eq_some hopening
    have hreact : (Wait.openingChannel clientId window' packet' sftp).react env payload =
        some (finishOpening env (.opened clientId window' packet') sftp sender window packet) := by
      simp only [Wait.react, hparse]
      exact congrArg some (if_neg fun hne => hne rfl)
    have hfree : ((s.afterRecv payload).byServer sender).isSome = false :=
      (Backend.byServer_eq_none_iff s sender).mpr hfresh
    obtain ⟨⟨effects, hlog⟩, hmem⟩ := registers_finishOpening env (.opened clientId window' packet')
      sftp window packet hfree
    rw [LeavesNoOrphan, next_of_react htask (parse_ne_nil hparse) hreact]
    generalize finishOpening env (.opened clientId window' packet') sftp sender window packet
      (s.afterRecv payload) = r at hlog hmem ⊢
    have hgrows : Grows Effect.isSettles [] (stateOf r) (Backend.settleEvent env r) :=
      grows_settleEvent env r
    obtain ⟨effects', hlog', -⟩ := hgrows.log
    rw [← untraced_pairs.settleEvent env r] at hmem
    obtain ⟨handle, hhandle, hpair⟩ := List.mem_map.mp hmem
    obtain ⟨hid, hqueue⟩ := Prod.mk.inj hpair
    refine ⟨effects' ++ effects ++ [.registered ⟨clientId, sender⟩ s.nextQueue], ?_, .inl ?_⟩
    · rw [hlog', hlog]
      simp [ChannelEndpoint.opened, Backend.afterRecv]
    · exact ⟨s.nextQueue, by simp, handle, hhandle, hid, hqueue⟩

theorem Leads.mono {effects effects' : List Effect} {id : IdentityPair} (h : Leads effects id)
    (hsub : effects ⊆ effects') : Leads effects' id :=
  h.imp (fun ⟨queue, hmem⟩ => ⟨queue, hsub hmem⟩) fun ⟨other, hid, hmem⟩ => ⟨other, hid, hsub hmem⟩

/-- What is made after a history stands before every arrival in it. -/
theorem split_made {effects base later earlier : List Effect}
    (hmade : ∀ effect ∈ effects, effect.isMade = true)
    (h : effects ++ base = later ++ .received payload :: earlier) :
    ∃ rest, later = effects ++ rest ∧ base = rest ++ .received payload :: earlier := by
  rcases List.append_eq_append_iff.mp h with ⟨rest, hlater, hbase⟩ | ⟨rest, heffects, hrest⟩
  · exact ⟨rest, hlater, hbase⟩
  · cases rest with
    | nil => exact ⟨[], by simp_all, by simp_all⟩
    | cons effect rest =>
      -- the arrival would be among the effects that are made
      injection hrest with hhead
      have hmem := hmade (.received payload) (by simp [heffects, hhead])
      cases hmem

/-- A step leaves no orphan if its confirmation comes in time. -/
theorem NoOrphans.next {i : Input} (h : NoOrphans s.log) (hpossible : i.possible s = true)
    (hguard : ConfirmsInTime s i) : NoOrphans (s.next i).log := by
  intro later payload earlier id hlog hconfirms
  obtain ⟨effects, hnext, hmade⟩ := made_next hpossible
  obtain ⟨rest, rfl, hbase⟩ := split_made hmade (hnext.symm.trans hlog)
  have hold {rest : List Effect} (hbase : s.log = rest ++ .received payload :: earlier) :
      Leads rest id := h rest payload earlier id hbase hconfirms
  cases i with
  | packet payload' env =>
    cases rest with
    | nil =>
      obtain ⟨hpayload, rfl⟩ := List.cons.inj hbase
      obtain rfl := Effect.received.inj hpayload
      obtain ⟨effects', hlog', hleads⟩ :=
        (leavesNoOrphan_iff env hpossible hconfirms).mpr (hguard id hconfirms.1 hconfirms.2)
      obtain rfl := List.append_cancel_right (hlog'.symm.trans hnext)
      rw [List.append_nil]
      exact hleads.imp_left fun ⟨queue, hmem, _⟩ => ⟨queue, hmem⟩
    | cons effect rest =>
      refine (hold (List.cons.inj hbase).2).mono fun effect hmem => ?_
      exact List.mem_append_right _ (List.mem_cons_of_mem _ hmem)
  | _ => exact (hold hbase).mono (List.subset_append_right _ _)

/-- In a run whose confirmations come in time every one of them has led to a registered channel, or
to a close; and a confirmation leads to one in its turn exactly when it comes in time. -/
theorem confirmations_lead (h : Backend.ReachableVia ConfirmsInTime s) :
    NoOrphans s.log ∧ ∀ payload env id, s.task.running = true → Confirms s.log payload id →
      (LeavesNoOrphan s payload env id ↔ TakesUp s id) := by
  refine ⟨?_, fun payload env id hrunning hconfirms => leavesNoOrphan_iff env hrunning hconfirms⟩
  induction h with
  | start h =>
    rintro later payload earlier id hlog -
    rw [h.log] at hlog
    simp at hlog
  | next hprev hguard hstep ih =>
    obtain ⟨hpossible, rfl⟩ := hstep
    exact ih.next hpossible hguard

/-- A debug message that is no UTF-8. -/
def undecodableDebug : Bytes := [sshMsgDebug, 1, 0, 0, 0, 1, 255, 0, 0, 0, 0]

/-- A channel is opened and confirmed. -/
theorem confirmations_lead_one :
    ∃ s : Backend, NoOrphans s.log ∧ s.log.any (Effect.handsOver ⟨1, 7⟩) = true := by
  obtain ⟨s, hs, hlog⟩ := Backend.exists_reachable ConfirmsInTime
    [.event (.channelOpenSession 65536 32768) .agreeable,
      .packet (openConfirmation 1 7) .agreeable]
    (fun s => s.log.any (Effect.handsOver ⟨1, 7⟩)) (by decide +kernel)
  exact ⟨s, (confirmations_lead hs).1, hlog⟩

/-- A channel is confirmed after the message that does not parse has ended its open. -/
def confirmsLate : List Effect → Bool
  | [.sent (.unimplemented _), .received payload, .answered (.error _), .received payload',
      .sent (.channelOpen _ 1 _ _ _)] =>
    payload = openConfirmation 1 7 ∧ payload' = undecodableDebug
  | _ => false

/-- A message that does not parse ends the open; the server, which knows nothing of that, confirms
the channel, and keeps it. -/
theorem confirmations_lead_fails_on_late :
    ¬ ∀ s, Backend.Reachable s → NoOrphans s.log := by
  intro hall
  obtain ⟨s, hs, hlog⟩ := Backend.exists_reachable (fun _ _ => True)
    [.event (.channelOpenSession 65536 32768) .agreeable, .packet undecodableDebug .agreeable,
      .packet (openConfirmation 1 7) .agreeable]
    (fun s => confirmsLate s.log) (by decide +kernel)
  unfold confirmsLate at hlog
  split at hlog
  · next heq =>
    obtain ⟨rfl, rfl⟩ := of_decide_eq_true hlog
    have hnone : answeredOpen undecodableDebug = none := rfl
    have hleads := hall s hs [_] _ _ ⟨1, 7⟩ heq ⟨rfl, by simp [unanswered, hnone]⟩
    rcases hleads with ⟨queue, hmem⟩ | ⟨other, -, hmem⟩ <;> cases hmem with
      | tail _ hmem => cases hmem
  · cases hlog

end Flatline
