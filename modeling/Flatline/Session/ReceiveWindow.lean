import Flatline.Session.ReceiveBooks

/-!
# The client's windows

As long as data fits, the client's own count of a channel with a receiver is what the messages that
have passed leave of the window, everything that has arrived is in the channel's queue, in order,
and the window never stays low. Data that does not fit ends the session where errors do.

Source: `src/session/backend.rs`.
-/

namespace Flatline

open Relation

variable {s : Backend} {i : Input} {L L' : Ledger} {log : List Effect}

/-! ## Steps -/

/-- The client announces another number, and the server answers none of its opens. -/
theorem pendingWindows_step {clientId : UInt32}
    (hne : s.picksNumber i = true → s.ledger.nextId ≠ clientId)
    (hi : ∀ payload env, i = .packet payload env → answeredOpen payload = none)
    (hstep : LedgerStep s i Effect.Quiet L L') :
    pendingWindows clientId L'.log = pendingWindows clientId L.log := by
  have htell : ∀ {M : Ledger} (sender : QueueSender) (message : ChannelMessage),
      pendingWindows clientId (M.tell sender message).log = pendingWindows clientId M.log := by
    intro M sender message
    rw [log_tell]
    split <;> rfl
  have hreceived {payload : Bytes} {env : Env} {log : List Effect}
      (hpacket : i = .packet payload env) :
      pendingWindows clientId (.received payload :: log) = pendingWindows clientId log := by
    refine if_neg ?_
    rw [hi payload env hpacket]
    exact Option.some_ne_none clientId ∘ Eq.symm
  cases hstep with
  | @note _ effect hquiet =>
    cases effect with
    | sent message =>
      cases message with
      | channelOpen => cases hquiet
      | _ => rfl
    | received => exact hquiet.elim
    | _ => rfl
  | drop | confirm | reap | eof | data | request | requestOpened | accept => rfl
  | receive hpacket => exact hreceived hpacket
  | peerClose hpacket =>
    rw [log_closeServer]
    split <;> exact (htell _ _).trans (hreceived hpacket)
  | peerEof | peerAdjust => exact htell _ _
  | peerData hpacket => exact (htell _ _).trans (hreceived hpacket)
  | peerDataRefill hpacket => exact (htell _ _).trans (hreceived hpacket)
  | announce hevent hopens =>
    refine if_neg (hne ?_)
    subst hevent
    exact hopens
  | closeEvent | closeRefused | sweep =>
    rw [log_closeClient]
    split <;> rfl

/-- Data for a channel with a receiver fits into its window. -/
structure Counted (s : Backend) (i : Input) : Prop where
  fits : ∀ payload env msg clientId data index handle, i = .packet payload env →
    Message.parse payload = .ok msg → msg.channelData? = some (clientId, data) →
    s.ledger.find clientId = some (index, handle) → handle.sender.closed = false →
      handle.admits data.length = true

/-- The payload of a `receive` step has no data for a channel with a receiver. -/
theorem Counted.dataOf_eq_none {payload : Bytes} {env : Env} (hcounted : Counted s i)
    (hnodup : s.ledger.clientIds.Nodup) (hi : i = .packet payload env)
    (hdata : ∀ msg, Message.parse payload = .ok msg → s.admittedData msg = none)
    {handle : ChannelHandle} (hmem : handle ∈ s.ledger.channels)
    (halive : handle.sender.closed = false) : dataOf handle.id.client payload = none := by
  unfold dataOf
  rcases hparse : Message.parse payload with e | msg
  · rfl
  · simp only
    rcases hchannel : msg.channelData? with _ | ⟨recipient, data⟩
    · rfl
    · simp only
      refine if_neg fun hid => ?_
      obtain ⟨j, hj⟩ := List.getElem?_of_mem hmem
      obtain ⟨hlt, hat⟩ := List.getElem?_eq_some_iff.mp hj
      -- the lookup finds this handle, and the data fits
      rcases hfind : s.ledger.find recipient with _ | ⟨index, found⟩
      · have hnone := locate_eq_none_iff.mp hfind handle hmem
        simp [hid, ChannelHandle.id] at hnone
      · obtain ⟨hget, hfound⟩ := locate_eq_some hfind
        obtain ⟨hlt', hat'⟩ := List.getElem?_eq_some_iff.mp hget
        have hsame : index = j := by
          refine index_eq_of_map hnodup hlt' hlt ?_
          rw [hat, hat', show found.client.id = recipient from eq_of_beq hfound, hid]
          rfl
        subst hsame
        have hhandle : found = handle := by rw [← hat', hat]
        subst hhandle
        have hadmits := hcounted.fits _ _ _ _ _ _ _ hi hparse hchannel hfind halive
        have hnone := hdata msg hparse
        rw [admittedData_of_find hchannel hfind, if_pos hadmits] at hnone
        cases hnone

/-- What a run keeps between its steps. -/
structure RecvInvariant (s : Backend) : Prop where
  ids : ClientIdsKept s
  kept : RecvKept s.ledger
  pending : ∀ clientId window packet sftp,
    s.task = .waiting (.openingChannel clientId window packet sftp) →
      pendingWindows clientId s.log = [window]

/-- Every step keeps the books. -/
theorem RecvKept.step (hs : RecvInvariant s) (hfree : PicksFree s i) (hwrites : i.Writes)
    (hcounted : Counted s i) (h : RecvKept L) (hstep : LedgerStep s i Effect.Quiet L L') : RecvKept L' := by
  have hnodup := hs.ids.numbers.nodup
  -- a message that is no data is received by every channel as nothing
  have hnone : ∀ {payload : Bytes} {msg : Message}, Message.parse payload = .ok msg →
      msg.channelData? = none → ∀ client, dataOf client payload = none := by
    intro payload msg hparse hmsg client
    simp only [dataOf, hparse, hmsg]
  cases hstep with
  | note hquiet => exact h.note hquiet.unreceived
  | drop => exact h.dropQueue _
  | receive hi _ hdata =>
    exact h.received fun handle hmem => hcounted.dataOf_eq_none hnodup hi hdata hmem
  | peerClose _ hparse hfind =>
    have hreceived : RecvKept (s.ledger.note _) := h.received fun _ _ _ => hnone hparse rfl _
    exact hreceived.closeServer (Ledger.getElem?_of_find hfind)
  | peerEof _ _ hfind =>
    have hget := Ledger.getElem?_of_find hfind
    exact (h.tell _ rfl).set (Ledger.getElem?_told (L := s.ledger.note _) hget _ _) (by rfl)
  | @peerData payload env msg index handle data content hi hparse hadmits hcontent hkept =>
    refine h.peerData hnodup (taken_of_admitted hparse hadmits hcontent) fun halive => ?_
    have hrefills : s.refills msg = none := by
      rcases hkept with hkept | hfails
      · exact hkept
      · subst hi
        rw [Env.Writes.writeError_eq_none hwrites] at hfails
        cases hfails
    rw [refills_of_admitted hadmits] at hrefills
    cases hlow : (handle.take data.length).runsLow with
    | false => rfl
    | true =>
      rw [if_pos ⟨halive, hlow⟩] at hrefills
      cases hrefills
  | @peerDataRefill payload env msg index handle data content count hi hparse hadmits hcontent
      hrefills hcount =>
    refine h.peerDataRefill hnodup (taken_of_admitted hparse hadmits hcontent) ?_ hcount
    rw [refills_of_admitted hadmits] at hrefills
    split at hrefills
    · next hboth => exact hboth.1
    · cases hrefills
  | peerAdjust _ _ hfind =>
    have hget := Ledger.getElem?_of_find hfind
    exact RecvKept.tell (h.set (L := s.ledger.note _) hget (by rfl)) _ rfl
  | announce => exact h.note rfl
  | @accept payload env msg sender _ _ _ _ hi hparse haccepts =>
    have hpicks : s.picksNumber i = true := by
      subst hi
      simp only [Backend.picksNumber, hparse, haccepts, Option.isSome_some]
    exact RecvKept.register (L := (s.ledger.note _).note _) (h.note rfl)
      (Ledger.nextId_not_mem (hfree hpicks).1) (if_pos rfl)
  | @confirm payload env clientId _ _ _ ownWindow ownPacket sftp hi hparse hwait =>
    have hanswer : answeredOpen payload = some clientId := by rw [answeredOpen, hparse]
    refine RecvKept.register (L := s.ledger.note _) h ?_ ?_
    · exact hs.ids.numbers.opening clientId (by rw [hwait]; rfl)
    · show (if answeredOpen payload = some clientId then
        (pendingWindows clientId s.log).getLast? else _) = some ownWindow
      rw [if_pos hanswer, hs.pending _ _ _ _ hwait]
      rfl
  | closeEvent _ hfind =>
    exact (h.note rfl).closeClient (Ledger.getElem?_of_find (L := s.ledger) hfind)
  | closeRefused _ _ _ _ _ _ _ hfind =>
    exact (h.note rfl).closeClient (Ledger.getElem?_of_find hfind)
  | sweep _ hget => exact (h.note rfl).closeClient hget
  | reap => exact h.remove _ _
  | eof _ hfind => exact (h.note rfl).set (Ledger.getElem?_of_find (L := s.ledger) hfind) rfl
  | data _ _ _ hget => exact (h.note rfl).set hget rfl
  | request | requestOpened => exact h.note rfl

theorem RecvInvariant.path (hs : RecvInvariant s) (hfree : PicksFree s i) (hwrites : i.Writes)
    (hcounted : Counted s i) (hpath : LedgerPath s i Effect.Quiet s.ledger L) : RecvKept L := by
  induction hpath with
  | refl => exact hs.kept
  | tail _ hstep ih => exact RecvKept.step hs hfree hwrites hcounted ih hstep

theorem RecvInvariant.next (hs : RecvInvariant s) (hleft : NumbersLeft s i)
    (hfresh : FreshNumber s i) (hwrites : i.Writes) (hcounted : Counted s i) :
    RecvInvariant (s.next i) := by
  have hfree := hs.ids.picksFree hleft hfresh
  refine ⟨hs.ids.next hleft hfresh, hs.path hfree hwrites hcounted (ledgerPath_next s i), ?_⟩
  intro clientId window packet sftp htask
  rcases openingChannel_of_next htask with
    ⟨hold, hanswer⟩ | ⟨⟨event, env, rfl, hopens⟩, rfl, type, fields, hledger⟩
  · have hwindow := hs.pending _ _ _ _ hold
    have hne : s.picksNumber i = true → s.ledger.nextId ≠ clientId := by
      rintro hpicks rfl
      exact (hfree hpicks).2 (by rw [hold]; rfl)
    have hpaths : ∀ L, LedgerPath s i Effect.Quiet s.ledger L →
        pendingWindows clientId L.log = [window] := by
      intro L hL
      induction hL with
      | refl => exact hwindow
      | tail _ hstep ih => exact (pendingWindows_step hne hanswer hstep).trans ih
    exact hpaths _ (ledgerPath_next s i)
  -- no other open waits with the number that has just been announced
  · have hnone := pendingWindows_eq_nil (hfresh hopens)
    show pendingWindows _ (s.next _).ledger.log = [window]
    rw [hledger]
    show (if _ then window :: pendingWindows _ s.log else _) = [window]
    rw [if_pos rfl, hnone]

theorem Backend.IsInitial.recvInvariant (h : s.IsInitial) : RecvInvariant s := by
  have hchannels : s.ledger.channels = [] := h.channels
  have hlog : s.ledger.log = [] := h.log
  refine ⟨h.clientIdsKept, ⟨?_, ?_, ?_, ?_⟩, ?_⟩
  · simp [hchannels]
  · simp [hchannels]
  · simp [hchannels]
  · simp [hlog, deliveredData]
  · intro clientId window packet sftp htask
    rw [h.task] at htask
    cases htask

/-! ## Failures -/

/-- An error ends the session: it is not one of an event of the user. -/
def Task.failsSession : Task → Bool
  | .idle | .rekeying .server _ | .rekeying .deferred _ => true
  | _ => false

/-- `handle_msg` with data. -/
theorem handleMsg_data (env : Env) {msg : Message} {clientId : UInt32} {data : Bytes}
    (hdata : msg.channelData? = some (clientId, data)) :
    ∃ stderr, ∀ idle, handleMsg env msg idle =
      (do handleChannelData env clientId data stderr; return none) := by
  cases msg with
  | channelData recipient data' =>
    injection hdata with hdata
    injection hdata with hrecipient hdata
    subst hrecipient hdata
    exact ⟨false, fun _ => rfl⟩
  | channelExtendedData recipient dataType data' =>
    simp only [Message.channelData?] at hdata
    split at hdata
    · next htype =>
        injection hdata with hdata
        injection hdata with hrecipient hdata
        subst hrecipient hdata
        refine ⟨true, fun _ => ?_⟩
        simp only [handleMsg]
        rw [if_pos htype]
    · cases hdata
  | _ => cases hdata

/-- Data that does not fit into the window is an error. -/
theorem handleChannelData_error (env : Env) {payload data : Bytes} {clientId : UInt32} {index : ℕ}
    {handle : ChannelHandle} (stderr : Bool)
    (hfind : s.byClient clientId = some (index, handle))
    (hsize : data.length ≤ handle.client.maximumPacketSize.toNat)
    (hadmits : handle.admits data.length = false) :
    ∃ fault w, handleChannelData env clientId data stderr (s.afterRecv payload) =
      .error fault w := by
  have hfind' : (s.afterRecv payload).byClient clientId = some (index, handle) := hfind
  rw [handleChannelData_not_admitted env stderr hfind' hadmits, if_pos hsize]
  exact ⟨_, _, rfl⟩

/-- An error of `handle_channel_data` ends the task where errors end the session. -/
theorem exited_of_error {env : Env} {payload data : Bytes} {msg : Message} {clientId : UInt32}
    (hparse : Message.parse payload = .ok msg) (hdata : msg.channelData? = some (clientId, data))
    (htask : s.task.failsSession = true)
    (hfails : ∀ stderr, ∃ fault w, handleChannelData env clientId data stderr
      (s.afterRecv payload) = .error fault w) :
    (s.next (.packet payload env)).task.running = false := by
  obtain ⟨stderr, hmsg⟩ := handleMsg_data env hdata
  obtain ⟨fault, w, hrun⟩ := hfails stderr
  have hhead := Message.head?_of_parse hparse
  have hpayload : payload ≠ [] := by
    rintro rfl
    cases hhead
  show (s.onPacket payload env).task.running = false
  unfold Backend.onPacket
  cases hat : s.task with
  | idle =>
    simp only
    rw [recvPacket_bind _ s hpayload, Backend.idleTurn, hparse, liftExcept_ok_bind, hmsg]
    show (Backend.settleIdle env (EStateM.bind (handleChannelData env clientId data stderr) _
      (s.afterRecv payload))).task.running = false
    rw [EStateM.bind, hrun]
    rfl
  | rekeying origin phase =>
    have hawaits : payload.head? ≠ some phase.awaits := by
      rw [hhead]
      rintro heq
      injection heq with heq
      refine phase.awaits_not_mem (heq ▸ ?_)
      cases msg with
      | channelData | channelExtendedData => simp [tableNumbers, Message.code]
      | _ => cases hdata
    simp only
    rw [recvPacket_bind _ s hpayload, continueRekey, if_neg hawaits, passOn, hparse,
      liftExcept_ok_bind, hmsg]
    show (Backend.settleRekey env origin (EStateM.bind (EStateM.bind
      (handleChannelData env clientId data stderr) _) _ (s.afterRecv payload))).task.running = false
    simp only [EStateM.bind, hrun]
    rw [hat] at htask
    cases origin with
    | server | deferred => cases fault <;> rfl
    | user => cases htask
  | waiting | exited =>
    rw [hat] at htask
    cases htask

/-! ## Runs -/

/-- Data for a channel with a receiver fits into a packet. When an error would be one of an event
of the user, the data also fits into the window. -/
def DataFits (s : Backend) : Input → Prop
  | .packet payload _ =>
    match Message.parse payload with
    | .ok msg =>
      match msg.channelData? with
      | some (clientId, data) =>
        match s.ledger.find clientId with
        | some (_, handle) => handle.sender.closed = false →
          data.length ≤ handle.client.maximumPacketSize.toNat ∧
            (s.task.failsSession = true ∨ handle.admits data.length = true)
        | none => True
      | none => True
    | .error _ => True
  | _ => True

instance (s : Backend) (i : Input) : Decidable (DataFits s i) := by
  unfold DataFits
  split
  · split
    · split
      · split <;> infer_instance
      · infer_instance
    · infer_instance
  · infer_instance

/-- Data is counted, or it ends the session. -/
theorem DataFits.counted_or_exited (h : DataFits s i) :
    Counted s i ∨ (s.next i).task.running = false := by
  by_cases hcounted : Counted s i
  · exact .inl hcounted
  · refine .inr (by_contra fun hrunning => hcounted ⟨?_⟩)
    rintro payload env msg clientId data index handle rfl hparse hdata hfind halive
    simp only [DataFits, hparse, hdata, hfind] at h
    obtain ⟨hsize, htask | hadmits⟩ := h halive
    · refine eq_true_of_ne_false fun hadmits => hrunning ?_
      exact exited_of_error hparse hdata htask fun stderr =>
        handleChannelData_error env stderr hfind hsize hadmits
    · exact hadmits

/-- The books of a handle, as the statement about runs has them. -/
theorem RecvAgrees.inStep {handle : ChannelHandle} {book : RecvBook}
    (h : RecvAgrees s.log handle book) : ∃ left, RecvInStep s handle book left := by
  have hinitial := h.initial
  have hused := h.used
  have hnonneg := h.nonneg
  have hlt := handle.client.initialWindowSize.toNat_lt
  have hle : handle.client.usedWindowSize ≤ handle.client.initialWindowSize.toNat := by
    rcases h.refilled with hzero | hlow <;> omega
  refine ⟨(handle.client.initialWindowSize.toNat - handle.client.usedWindowSize).toNat,
    h.kept, ?_, ?_, h.delivered, ?_⟩
  · unfold ChannelEndpoint.left
    simp only
    rw [if_pos ⟨by omega, by omega⟩]
  · omega
  · rcases h.refilled with hzero | hlow <;> omega

/-- The session has failed, or the books are kept. -/
inductive RecvState (s : Backend) : Prop
  | exited (h : s.task.running = false)
  | kept (h : RecvInvariant s)

/-- A task that has ended takes no input. -/
theorem Input.not_possible (h : s.task.running = false) : i.possible s = false := by
  cases htask : s.task with
  | exited => cases i <;> simp [Input.possible, htask, Task.isIdle, Task.running]
  | _ =>
    rw [htask] at h
    cases h

/-- In every run that picks only fresh numbers, whose data fits and in which no write fails, as long
as the session has not failed, the client's window of every channel with a receiver is in step with
the server. -/
theorem receiveWindow
    (h : Backend.ReachableVia
      (fun s i => NumbersLeft s i ∧ FreshNumber s i ∧ DataFits s i ∧ i.Writes) s)
    (hrunning : s.task.running = true) {handle : ChannelHandle} (hmem : handle ∈ s.channels)
    (halive : handle.sender.closed = false) : ∃ book left, RecvInStep s handle book left := by
  have hkept : RecvState s := by
    refine h.invariant (fun s hs => .kept hs.recvInvariant) fun s i s' hs hguard hstep => ?_
    obtain ⟨hpossible, rfl⟩ := hstep
    obtain ⟨hleft, hfresh, hfits, hwrites⟩ := hguard
    rcases hs with hexited | hs
    · rw [Input.not_possible hexited] at hpossible
      cases hpossible
    · rcases hfits.counted_or_exited with hcounted | hexited
      · exact .kept (hs.next hleft hfresh hwrites hcounted)
      · exact .exited hexited
  rcases hkept with hexited | hkept
  · rw [hexited] at hrunning
    cases hrunning
  · obtain ⟨book, hagrees⟩ := hkept.kept.handles handle hmem halive
    exact ⟨book, hagrees.inStep⟩

/-- The server sends three octets on the client's channel `recipient`. -/
def threeOctets (recipient : UInt32) : Bytes :=
  makeBufferWithoutHeader [.u8 sshMsgChannelData, .u32 recipient, .one [1, 2, 3]]

/-- A channel that has received three octets. -/
theorem receiveWindow_three_octets :
    ∃ s : Backend, ∃ handle ∈ s.channels, handle.id = ⟨1, 7⟩ ∧
      handle.client.usedWindowSize = 3 ∧ ∃ book left, RecvInStep s handle book left := by
  obtain ⟨s, hs, hp⟩ := Backend.exists_reachable
    (fun s i => NumbersLeft s i ∧ FreshNumber s i ∧ DataFits s i ∧ i.Writes)
    [.packet (agentOpen 7) .agreeable, .packet (threeOctets 1) .agreeable]
    (fun s => s.task.running && decide (s.channels.map (fun handle =>
      (handle.id, handle.sender.closed, handle.client.usedWindowSize)) = [(⟨1, 7⟩, false, 3)]))
    (by decide +kernel)
  simp only [Bool.and_eq_true, decide_eq_true_eq, List.map_eq_singleton_iff, Prod.mk.injEq] at hp
  obtain ⟨hrunning, handle, hchannels, hid, halive, hused⟩ := hp
  have hmem : handle ∈ s.channels := hchannels ▸ List.mem_singleton_self handle
  exact ⟨s, handle, hmem, hid, hused, receiveWindow hs hrunning hmem halive⟩

/-- Three octets on a channel whose packets carry two: they are neither counted nor an error. -/
theorem receiveWindow_fails_on_long_packets :
    ¬ ∀ (s : Backend) (handle : ChannelHandle), s.Reachable → s.task.running = true →
      handle ∈ s.channels → handle.sender.closed = false →
        ∃ book left, RecvInStep s handle book left := by
  intro hstep
  obtain ⟨s, hs, hp⟩ := Backend.exists_reachable (fun _ _ => True)
    [.packet (agentOpen 7) { Env.agreeable with maximumPacketSize := 2 },
      .packet (threeOctets 1) .agreeable]
    (fun s => s.task.running && decide (s.channels.map (fun handle =>
      (handle.id, handle.sender.closed, handle.client.left)) = [(⟨1, 7⟩, false, some 65536)]) &&
        decide (recvBook ⟨1, 7⟩ s.log = some ⟨65536, 0, [.stdout [1, 2, 3]]⟩)) (by decide +kernel)
  simp only [Bool.and_eq_true, decide_eq_true_eq, List.map_eq_singleton_iff, Prod.mk.injEq] at hp
  obtain ⟨⟨hrunning, handle, hchannels, hid, halive, hleft⟩, hbook⟩ := hp
  obtain ⟨book, left, hin⟩ := hstep s handle hs hrunning
    (hchannels ▸ List.mem_singleton_self handle) halive
  have hkept := hin.kept
  have hwindow := hin.window
  rw [hid, hbook] at hkept
  obtain rfl := Option.some.inj hkept
  obtain rfl := Option.some.inj (hleft.symm.trans hin.count)
  exact absurd hwindow (by decide)

end Flatline
