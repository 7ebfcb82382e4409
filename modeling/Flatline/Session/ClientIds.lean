import Flatline.Session.Numbers

/-!
# The client's channel numbers are unique

The number of a new channel is one above the registered ones. The number of a channel that the
client has asked for, and that is not registered yet, is not looked at: as long as every number that
is picked differs from those, the client's numbers are distinct and no number is announced twice.

Source: `src/session/backend.rs`.
-/

namespace Flatline

open Relation

/-! ## Announcements -/

/-- The client's number in a message that announces it to the server. -/
def ClientMessage.announces : ClientMessage → Option UInt32
  | .channelOpen _ clientId .. => some clientId
  | .channelOpenConfirmation id .. => some id.client
  | _ => none

/-- The numbers of the `SSH_MSG_CHANNEL_OPEN`s that the server has not answered. An answer is for one
of them. -/
def unanswered : List Effect → List UInt32
  | [] => []
  | .sent (.channelOpen _ clientId ..) :: rest => clientId :: unanswered rest
  | .received payload :: rest =>
    match answeredOpen payload with
    | some clientId => (unanswered rest).erase clientId
    | none => unanswered rest
  | _ :: rest => unanswered rest

/-- The client's numbers of the registered channels. -/
def registeredIds : List Effect → List UInt32
  | [] => []
  | .registered id _ :: rest => id.client :: registeredIds rest
  | .removed id _ :: rest => (registeredIds rest).erase id.client
  | _ :: rest => registeredIds rest

/-- No number has been announced while a channel of that number was registered or asked for. -/
def AnnouncedOnce : List Effect → Prop
  | [] => True
  | .sent message :: rest =>
    (∀ clientId ∈ message.announces, clientId ∉ unanswered rest ∧ clientId ∉ registeredIds rest) ∧
      AnnouncedOnce rest
  | _ :: rest => AnnouncedOnce rest

/-- The numbers of the registered channels are distinct, and a number the client has announced is
not announced again while its channel is pending or registered. -/
structure UniqueClientIds (s : Backend) : Prop where
  distinct : (s.channels.map (·.client.id)).Nodup
  announced : AnnouncedOnce s.log

variable {effect : Effect} {log : List Effect}

/-- A packet leaves no open unanswered that was not. -/
theorem mem_of_mem_unanswered {payload : Bytes} {clientId : UInt32}
    (h : clientId ∈ unanswered (.received payload :: log)) : clientId ∈ unanswered log := by
  rw [unanswered] at h
  split at h
  · exact List.mem_of_mem_erase h
  · exact h

/-! ### Quiet effects -/

theorem unanswered_quiet (h : effect.Quiet) : unanswered (effect :: log) = unanswered log := by
  cases effect with
  | sent message =>
    cases message with
    | channelOpen => cases h
    | _ => rfl
  | received => exact h.elim
  | _ => rfl

theorem registeredIds_quiet (h : effect.Quiet) :
    registeredIds (effect :: log) = registeredIds log := by
  cases effect with
  | registered | removed => exact h.elim
  | _ => rfl

theorem announcedOnce_quiet (h : effect.Quiet) :
    AnnouncedOnce (effect :: log) ↔ AnnouncedOnce log := by
  cases effect with
  | sent message =>
    refine ⟨And.right, fun hlog => ⟨fun clientId hannounces => ?_, hlog⟩⟩
    cases message with
    | channelOpen | channelOpenConfirmation => cases h
    | _ => cases hannounces
  | _ => exact Iff.rfl

/-! ## The history agrees with the table -/

variable {s : Backend} {i : Input} {L L' : Ledger}

theorem clientIds_perm_remove {index : ℕ} {handle : ChannelHandle}
    (hget : L.channels[index]? = some handle) :
    L.clientIds.Perm (handle.id.client :: (L.remove index handle).clientIds) := by
  obtain ⟨hlt, rfl⟩ := List.getElem?_eq_some_iff.mp hget
  exact ((List.getElem_cons_eraseIdx_perm hlt).map (·.client.id)).symm

/-- The registered numbers that the history tells are those of the table. -/
structure NumbersAgree (L : Ledger) : Prop where
  perm : (registeredIds L.log).Perm L.clientIds

theorem NumbersAgree.of_ids (h : NumbersAgree L) (hids : L'.ids = L.ids)
    (hlog : registeredIds L'.log = registeredIds L.log) : NumbersAgree L' := by
  refine ⟨?_⟩
  rw [Ledger.clientIds_eq, hids, ← Ledger.clientIds_eq, hlog]
  exact h.perm

theorem NumbersAgree.remove {index : ℕ} {handle : ChannelHandle} (h : NumbersAgree L)
    (hget : L.channels[index]? = some handle) : NumbersAgree (L.remove index handle) := by
  have herase := (h.perm.trans (clientIds_perm_remove hget)).erase handle.id.client
  rw [List.erase_cons_head] at herase
  exact ⟨herase⟩

theorem NumbersAgree.register (h : NumbersAgree L) (handle : ChannelHandle) :
    NumbersAgree (L.register handle) := by
  refine ⟨?_⟩
  rw [Ledger.clientIds_eq, Ledger.ids_register, List.map_append, ← Ledger.clientIds_eq]
  exact (h.perm.cons handle.id.client).trans (List.perm_append_singleton _ _).symm

theorem NumbersAgree.set {index : ℕ} {handle : ChannelHandle} (h : NumbersAgree L)
    (hget : L.channels[index]? = some handle) (handle' : ChannelHandle)
    (hid : handle'.id = handle.id) : NumbersAgree (L.set index handle') :=
  h.of_ids (Ledger.ids_set hget hid) rfl

theorem NumbersAgree.tell (h : NumbersAgree L) (sender : QueueSender) (message : ChannelMessage) :
    NumbersAgree (L.tell sender message) := by
  refine h.of_ids (L.ids_tell _ _) ?_
  unfold Ledger.tell
  split <;> rfl

theorem NumbersAgree.closeClient {index : ℕ} {handle : ChannelHandle} (h : NumbersAgree L)
    (hget : L.channels[index]? = some handle) : NumbersAgree (L.closeClient index handle) := by
  have hset := h.set hget handle.closeClient rfl
  unfold Ledger.closeClient
  split
  · exact hset.remove (Ledger.getElem?_set hget)
  · exact hset

theorem NumbersAgree.closeServer {index : ℕ} {handle : ChannelHandle} (h : NumbersAgree L)
    (hget : L.channels[index]? = some handle) : NumbersAgree (L.closeServer index handle) := by
  have hget' : (L.tell handle.sender .close).channels[index]? = some handle := by
    rw [Ledger.channels_tell, hget]
  have hset := (h.tell handle.sender .close).set hget' handle.closeServer rfl
  unfold Ledger.closeServer
  simp only
  split
  · exact hset.remove (Ledger.getElem?_set hget')
  · exact hset

/-- Every step keeps the table and the history together. -/
theorem NumbersAgree.step (h : NumbersAgree L) (hstep : LedgerStep s i Effect.Quiet L L') :
    NumbersAgree L' := by
  cases hstep with
  | note hquiet => exact h.of_ids rfl (registeredIds_quiet hquiet)
  | drop => exact h.of_ids (Ledger.ids_dropQueue _ _) rfl
  | receive | announce | request | requestOpened => exact h.of_ids rfl rfl
  | peerClose _ _ hfind =>
    exact NumbersAgree.closeServer (L := s.ledger.note _) (h.of_ids rfl rfl)
      (Ledger.getElem?_of_find hfind)
  | peerEof _ _ hfind =>
    have hget := Ledger.getElem?_of_find hfind
    exact (h.tell _ _).set ((Ledger.channels_tell _ _).symm ▸ hget) _ (ChannelHandle.id_eofServer _)
  | peerData _ _ hadmits =>
    refine NumbersAgree.tell ?_ _ _
    exact NumbersAgree.set (L := s.ledger.note _) (h.of_ids rfl rfl) (getElem?_of_admitted hadmits)
      _ rfl
  | @peerDataRefill payload _ _ _ handle data content count _ _ hadmits =>
    have hnoted : NumbersAgree (s.ledger.note (.received payload)) := h.of_ids rfl rfl
    have htaken := hnoted.set (getElem?_of_admitted hadmits) _ (handle.id_take data.length)
    refine NumbersAgree.set ?_ (Ledger.getElem?_taken hadmits _ _ _) _ rfl
    exact (htaken.tell handle.sender content).of_ids rfl rfl
  | peerAdjust _ _ hfind =>
    have hget := Ledger.getElem?_of_find hfind
    exact (h.set hget _ (ChannelHandle.id_grant _ _)).tell _ _
  | accept => exact NumbersAgree.register (L := (s.ledger.note _).note _) (h.of_ids rfl rfl) _
  | confirm => exact h.register _
  | closeEvent _ hfind =>
    exact NumbersAgree.closeClient (L := s.ledger.note _) (h.of_ids rfl rfl)
      (Ledger.getElem?_of_find hfind)
  | closeRefused _ _ _ _ _ _ _ hfind =>
    exact NumbersAgree.closeClient (L := L.note _) (h.of_ids rfl rfl)
      (Ledger.getElem?_of_find hfind)
  | sweep _ hget => exact NumbersAgree.closeClient (L := L.note _) (h.of_ids rfl rfl) hget
  | reap _ hget => exact h.remove hget
  | eof _ hfind =>
    exact NumbersAgree.set (L := s.ledger.note _) (h.of_ids rfl rfl)
      (Ledger.getElem?_of_find hfind) _ rfl
  | data _ _ _ hget => exact NumbersAgree.set (L := L.note _) (h.of_ids rfl rfl) hget _ rfl

/-! ## Picking a number -/

/-- A number that the input makes the client pick is not that of an unanswered open. -/
def FreshNumber (s : Backend) (i : Input) : Prop :=
  s.picksNumber i = true → s.ledger.nextId ∉ unanswered s.log

instance (s : Backend) (i : Input) : Decidable (FreshNumber s i) :=
  inferInstanceAs (Decidable (_ → _))

theorem log_closeClient (L : Ledger) (index : ℕ) (handle : ChannelHandle) :
    (L.closeClient index handle).log =
      if handle.server.closed then .removed handle.id handle.sender.queue :: L.log else L.log := by
  unfold Ledger.closeClient
  split <;> rfl

theorem log_tell (L : Ledger) (sender : QueueSender) (message : ChannelMessage) :
    (L.tell sender message).log =
      if sender.closed then L.log else .delivered sender.queue message :: L.log := by
  unfold Ledger.tell
  split <;> rfl

theorem log_closeServer (L : Ledger) (index : ℕ) (handle : ChannelHandle) :
    (L.closeServer index handle).log =
      if handle.client.closed then
        .removed handle.id handle.sender.queue :: (L.tell handle.sender .close).log
      else (L.tell handle.sender .close).log := by
  unfold Ledger.closeServer
  simp only
  split <;> rfl

theorem announcedOnce_closeClient {index : ℕ} {handle : ChannelHandle} :
    AnnouncedOnce (L.closeClient index handle).log ↔ AnnouncedOnce L.log := by
  rw [log_closeClient]
  split <;> exact Iff.rfl

theorem unanswered_closeClient {index : ℕ} {handle : ChannelHandle} :
    unanswered (L.closeClient index handle).log = unanswered L.log := by
  rw [log_closeClient]
  split <;> rfl

theorem announcedOnce_tell {sender : QueueSender} {message : ChannelMessage} :
    AnnouncedOnce (L.tell sender message).log ↔ AnnouncedOnce L.log := by
  rw [log_tell]
  split <;> exact Iff.rfl

theorem unanswered_tell {sender : QueueSender} {message : ChannelMessage} :
    unanswered (L.tell sender message).log = unanswered L.log := by
  rw [log_tell]
  split <;> rfl

theorem announcedOnce_closeServer {index : ℕ} {handle : ChannelHandle} :
    AnnouncedOnce (L.closeServer index handle).log ↔ AnnouncedOnce L.log := by
  rw [log_closeServer]
  split <;> exact announcedOnce_tell

theorem unanswered_closeServer {index : ℕ} {handle : ChannelHandle} :
    unanswered (L.closeServer index handle).log = unanswered L.log := by
  rw [log_closeServer]
  split <;> exact unanswered_tell

/-- A message that announces nothing may be sent at any time. -/
theorem AnnouncedOnce.sent {message : ClientMessage} (h : AnnouncedOnce log)
    (hmessage : message.announces = none) : AnnouncedOnce (.sent message :: log) := by
  refine ⟨fun clientId hannounces => ?_, h⟩
  rw [hmessage] at hannounces
  cases hannounces

/-- A step announces a number only if it is free. -/
theorem AnnouncedOnce.step (h : AnnouncedOnce L.log)
    (hfree : s.picksNumber i = true →
      s.ledger.nextId ∉ unanswered s.log ∧ s.ledger.nextId ∉ registeredIds s.log)
    (hstep : LedgerStep s i Effect.Quiet L L') : AnnouncedOnce L'.log := by
  cases hstep with
  | note hquiet => exact (announcedOnce_quiet hquiet).mpr h
  | drop | receive | confirm | reap => exact h
  | peerEof | peerData | peerAdjust => exact announcedOnce_tell.mpr h
  | peerDataRefill =>
    refine AnnouncedOnce.sent ?_ rfl
    exact announcedOnce_tell.mpr h
  | data | request | requestOpened | eof => exact h.sent rfl
  | peerClose => exact announcedOnce_closeServer.mpr h
  | closeEvent => exact announcedOnce_closeClient.mpr (h.sent rfl)
  | closeRefused | sweep => exact announcedOnce_closeClient.mpr (h.sent rfl)
  | announce hi hopens =>
    refine ⟨fun clientId hannounces => ?_, h⟩
    obtain rfl := Option.some.inj hannounces
    exact hfree (by subst hi; exact hopens)
  | @accept payload env msg _ _ _ _ _ hi hparse haccepts =>
    refine ⟨fun clientId hannounces => ?_, h⟩
    obtain rfl := Option.some.inj hannounces
    have hpicks : s.picksNumber i = true := by
      subst hi
      simp only [Backend.picksNumber, hparse, haccepts, Option.isSome_some]
    obtain ⟨hunanswered, hregistered⟩ := hfree hpicks
    exact ⟨fun hmem => hunanswered (mem_of_mem_unanswered hmem), hregistered⟩

/-- An open stays unanswered until its answer arrives. -/
theorem mem_unanswered_step {clientId : UInt32} (h : clientId ∈ unanswered L.log)
    (hi : ∀ payload env, i = .packet payload env → answeredOpen payload = none)
    (hstep : LedgerStep s i Effect.Quiet L L') : clientId ∈ unanswered L'.log := by
  have hreceived {payload : Bytes} {env : Env} {log : List Effect}
      (hpacket : i = .packet payload env) (h : clientId ∈ unanswered log) :
      clientId ∈ unanswered (.received payload :: log) := by
    rw [unanswered, hi payload env hpacket]
    exact h
  cases hstep with
  | note hquiet => exact (unanswered_quiet hquiet).symm ▸ h
  | drop | accept | confirm | reap | data | request | requestOpened | eof => exact h
  | peerEof | peerAdjust => exact unanswered_tell.symm ▸ h
  | peerData hpacket =>
    rw [unanswered_tell]
    exact hreceived hpacket h
  | peerDataRefill hpacket =>
    show clientId ∈ unanswered (Ledger.tell _ _ _).log
    rw [unanswered_tell]
    exact hreceived hpacket h
  | receive hpacket => exact hreceived hpacket h
  | peerClose hpacket =>
    rw [unanswered_closeServer]
    exact hreceived hpacket h
  | closeEvent | closeRefused | sweep =>
    rw [unanswered_closeClient]
    exact h
  | announce => exact List.mem_cons_of_mem _ h

/-- What every run that picks fresh numbers keeps. -/
structure ClientIdsKept (s : Backend) : Prop where
  numbers : DistinctNumbers s
  agree : NumbersAgree s.ledger
  announced : AnnouncedOnce s.log
  opening : ∀ clientId, s.task.opening = some clientId → clientId ∈ unanswered s.log

theorem Backend.IsInitial.clientIdsKept (h : s.IsInitial) : ClientIdsKept s where
  numbers := h.distinctNumbers
  agree := ⟨by simp [Backend.ledger, Ledger.clientIds, h.channels, h.log, registeredIds]⟩
  announced := by
    rw [h.log]
    trivial
  opening clientId hwait := by
    rw [h.task] at hwait
    cases hwait

/-- A fresh number is in particular not the one an open waits with. -/
theorem ClientIdsKept.picksFree (h : ClientIdsKept s) (hleft : NumbersLeft s i)
    (hfresh : FreshNumber s i) : PicksFree s i := fun hpicks =>
  ⟨hleft hpicks, fun hwait => hfresh hpicks (h.opening _ hwait)⟩

theorem ClientIdsKept.next (h : ClientIdsKept s) (hleft : NumbersLeft s i)
    (hfresh : FreshNumber s i) : ClientIdsKept (s.next i) := by
  have hfree : s.picksNumber i = true →
      s.ledger.nextId ∉ unanswered s.log ∧ s.ledger.nextId ∉ registeredIds s.log := by
    intro hpicks
    refine ⟨hfresh hpicks, fun hmem => ?_⟩
    exact Ledger.nextId_not_mem (hleft hpicks) (h.agree.perm.mem_iff.mp hmem)
  have hpath := ledgerPath_next s i
  have hkept : ∀ L, LedgerPath s i Effect.Quiet s.ledger L → NumbersAgree L ∧ AnnouncedOnce L.log := by
    intro L hL
    induction hL with
    | refl => exact ⟨h.agree, h.announced⟩
    | tail _ hstep ih => exact ⟨ih.1.step hstep, ih.2.step hfree hstep⟩
  refine ⟨h.numbers.next (h.picksFree hleft hfresh), (hkept _ hpath).1, (hkept _ hpath).2, ?_⟩
  intro clientId hwait
  obtain ⟨window, packet, sftp, htask⟩ := Task.opening_eq_some hwait
  rcases openingChannel_of_next htask with
    ⟨hold, hanswer⟩ | ⟨-, rfl, type, fields, hledger⟩
  · have hpending : clientId ∈ unanswered s.ledger.log := h.opening clientId (by rw [hold]; rfl)
    have hpaths : ∀ L, LedgerPath s i Effect.Quiet s.ledger L → clientId ∈ unanswered L.log := by
      intro L hL
      induction hL with
      | refl => exact hpending
      | tail _ hstep ih => exact mem_unanswered_step ih hanswer hstep
    exact hpaths _ hpath
  · change _ ∈ unanswered (s.next i).ledger.log
    rw [hledger]
    exact List.mem_cons_self

/-- In every run that picks only fresh numbers and in which no write fails, the client's numbers are
unique. -/
theorem uniqueClientIds
    (h : Backend.ReachableVia (fun s i => NumbersLeft s i ∧ FreshNumber s i ∧ i.Writes) s) :
    UniqueClientIds s := by
  have hkept : ClientIdsKept s := h.invariant (fun _ hs => hs.clientIdsKept)
    fun s i s' hs hguard hstep => hstep.2 ▸ hs.next hguard.1 hguard.2.1
  exact ⟨hkept.numbers.nodup, hkept.announced⟩

/-- A channel that the client opens and one that the server opens, one after the other. -/
theorem uniqueClientIds_two_channels :
    ∃ s, UniqueClientIds s ∧ s.channels.map (·.client.id) = [1, 2] := by
  obtain ⟨s, hs, hids⟩ := Backend.exists_reachable
    (fun s i => NumbersLeft s i ∧ FreshNumber s i ∧ i.Writes)
    [.event (.channelOpenSession 65536 32768) .agreeable,
      .packet (openConfirmation 1 7) .agreeable, .packet (agentOpen 8) .agreeable]
    (fun s => s.channels.map (·.client.id) = [1, 2]) (by decide +kernel)
  exact ⟨s, uniqueClientIds hs, of_decide_eq_true hids⟩

/-- The server opens a channel while the client waits for one: both get the number 1. -/
theorem uniqueClientIds_fails_on_crossing_opens :
    ¬ ∀ s, Backend.ReachableVia (fun s i => NumbersLeft s i ∧ i.Writes) s → UniqueClientIds s := by
  intro hunique
  obtain ⟨s, hs, hids⟩ := Backend.exists_reachable (fun s i => NumbersLeft s i ∧ i.Writes)
    [.event (.channelOpenSession 65536 32768) .agreeable,
      .packet (agentOpen 7) .agreeable, .packet (openConfirmation 1 8) .agreeable]
    (fun s => s.channels.map (·.client.id) = [1, 1]) (by decide +kernel)
  have hdistinct := (hunique s hs).distinct
  rw [of_decide_eq_true hids] at hdistinct
  exact absurd hdistinct (by decide)

end Flatline
