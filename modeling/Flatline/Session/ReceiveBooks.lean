import Flatline.Session.ClientIds

/-!
# The client's books on its windows

What the server may still send on a channel, as the messages that have passed say: the window the
client announced, plus its adjustments, minus the octets of data that have arrived; and how a client whose
own count agrees with that keeps it so.

Source: `src/session/backend.rs`.
-/

namespace Flatline

open Relation

variable {s : Backend} {i : Input} {L L' : Ledger} {log : List Effect}

/-! ## The client's books -/

/-- The octets of data in a message for a receiver. -/
def ChannelMessage.octets : ChannelMessage → ℕ
  | .stdout data | .stderr data => data.length
  | _ => 0

def ChannelMessage.isData : ChannelMessage → Bool
  | .stdout _ | .stderr _ => true
  | _ => false

/-- The data in a payload for the channel with the client's number `client`. -/
def dataOf (client : UInt32) (payload : Bytes) : Option ChannelMessage :=
  match Message.parse payload with
  | .ok msg =>
    match msg.channelData? with
    | some (recipient, _) => if recipient = client then msg.channelContent else none
    | none => none
  | .error _ => none

/-- The books on what a channel receives: the window the client announced, the octets it has granted
since, and the data that has arrived, newest first. -/
structure RecvBook where
  initial : ℕ
  granted : ℕ
  contents : List ChannelMessage
deriving DecidableEq, Repr

/-- The octets of data that have arrived. -/
def RecvBook.received (book : RecvBook) : ℕ :=
  (book.contents.map ChannelMessage.octets).sum

/-- The windows of the `SSH_MSG_CHANNEL_OPEN`s under the number `client` that the server has not
answered, newest first. The server answers them in order. -/
def pendingWindows (client : UInt32) : List Effect → List UInt32
  | [] => []
  | .sent (.channelOpen _ client' window _ _) :: rest =>
    if client' = client then window :: pendingWindows client rest else pendingWindows client rest
  | .received payload :: rest =>
    if answeredOpen payload = some client then (pendingWindows client rest).dropLast
    else pendingWindows client rest
  | _ :: rest => pendingWindows client rest

/-- The window the client has announced for the channel that was last agreed on under its number
`client`: that of the open which the server's confirmation answers, or of the client's own
confirmation. -/
def announcedWindow (client : UInt32) : List Effect → Option UInt32
  | [] => none
  | .received payload :: rest =>
    if answeredOpen payload = some client then (pendingWindows client rest).getLast?
    else announcedWindow client rest
  | .sent (.channelOpenConfirmation id window _) :: rest =>
    if id.client = client then some window else announcedWindow client rest
  | _ :: rest => announcedWindow client rest

/-- The books on the channel that was last registered with the pair `id`. -/
def recvBook (id : IdentityPair) : List Effect → Option RecvBook
  | [] => none
  | .registered id' _ :: rest =>
    if id' = id then (announcedWindow id.client rest).map fun window => ⟨window.toNat, 0, []⟩
    else recvBook id rest
  | .received payload :: rest =>
    (recvBook id rest).map fun book =>
      { book with contents := (dataOf id.client payload).toList ++ book.contents }
  | .sent (.channelWindowAdjust id' count) :: rest =>
    if id' = id then
      (recvBook id rest).map fun book => { book with granted := book.granted + count.toNat }
    else recvBook id rest
  | _ :: rest => recvBook id rest

/-- The data that has been put into a queue, newest first. -/
def deliveredData (queue : ℕ) : List Effect → List ChannelMessage
  | [] => []
  | .delivered queue' message :: rest =>
    if queue' = queue ∧ message.isData = true then message :: deliveredData queue rest
    else deliveredData queue rest
  | _ :: rest => deliveredData queue rest

/-- The client's window of a channel in step with the server: what is left is what the messages
leave, all data is in the queue, in order, and the window is not low. -/
structure RecvInStep (s : Backend) (handle : ChannelHandle) (book : RecvBook) (left : ℕ) :
    Prop where
  kept : recvBook handle.id s.log = some book
  count : handle.client.left = some left
  window : left + book.received = book.initial + book.granted
  delivered : deliveredData handle.sender.queue s.log = book.contents
  refilled : min minWindowLeft book.initial ≤ left

/-- There is a window for each open that the server has not answered. -/
theorem length_pendingWindows (client : UInt32) (log : List Effect) :
    (pendingWindows client log).length = (unanswered log).count client := by
  induction log with
  | nil => rfl
  | cons effect rest ih =>
    cases effect with
    | sent message =>
      cases message with
      | channelOpen _ client' =>
        simp only [pendingWindows, unanswered, List.count_cons, beq_iff_eq]
        split <;> simp [ih]
      | _ => exact ih
    | received payload =>
      rw [pendingWindows, unanswered]
      rcases answeredOpen payload with _ | answered
      · exact ih
      · by_cases hanswered : answered = client
        · subst hanswered
          rw [if_pos rfl, List.length_dropLast, ih, List.count_erase_self]
        · rw [if_neg (by simpa using hanswered), ih, List.count_erase_of_ne (Ne.symm hanswered)]
    | _ => exact ih

/-- No window is pending under a number that no open waits with. -/
theorem pendingWindows_eq_nil {client : UInt32} (h : client ∉ unanswered log) :
    pendingWindows client log = [] := by
  rw [← List.length_eq_zero_iff, length_pendingWindows]
  exact List.count_eq_zero_of_not_mem h

/-! ## Effects the books do not show -/

/-- An effect that the books on receiving do not show. -/
def Effect.unreceived : Effect → Bool
  | .received _ | .registered .. | .sent (.channelWindowAdjust ..) => false
  | .delivered _ message => !message.isData
  | _ => true

theorem recvBook_unreceived {effect : Effect} (h : effect.unreceived = true) (id : IdentityPair) :
    recvBook id (effect :: log) = recvBook id log := by
  cases effect with
  | received | registered => cases h
  | sent message =>
    cases message with
    | channelWindowAdjust => cases h
    | _ => rfl
  | _ => rfl

theorem deliveredData_unreceived {effect : Effect} (h : effect.unreceived = true) (queue : ℕ) :
    deliveredData queue (effect :: log) = deliveredData queue log := by
  cases effect with
  | delivered queue' message =>
    simp only [Effect.unreceived, Bool.not_eq_true'] at h
    rw [deliveredData, if_neg (by simp [h])]
  | _ => rfl

theorem Effect.Quiet.unreceived {effect : Effect} (h : effect.Quiet) :
    effect.unreceived = true := by
  cases effect with
  | received | registered | removed => cases h
  | sent message =>
    cases message with
    | channelWindowAdjust => cases h
    | _ => rfl
  | delivered queue message =>
    cases message with
    | exit | flowControl => rfl
    | _ => cases h
  | _ => rfl

/-! ## The client's count -/

/-- The part of a handle that says what may be received. -/
def ChannelHandle.recvSide (handle : ChannelHandle) : IdentityPair × UInt32 × ℤ × QueueSender :=
  (handle.id, handle.client.initialWindowSize, handle.client.usedWindowSize, handle.sender)

/-- The client's count of a channel is that of the books. -/
structure RecvCounts (log : List Effect) (handle : ChannelHandle) (book : RecvBook) : Prop where
  kept : recvBook handle.id log = some book
  initial : book.initial = handle.client.initialWindowSize.toNat
  used : handle.client.usedWindowSize = book.received - book.granted
  delivered : deliveredData handle.sender.queue log = book.contents
  nonneg : 0 ≤ handle.client.usedWindowSize

/-- The client's count is that of the books, and not low. -/
structure RecvAgrees (log : List Effect) (handle : ChannelHandle) (book : RecvBook) : Prop
    extends RecvCounts log handle book where
  refilled : handle.client.usedWindowSize = 0 ∨
    handle.client.usedWindowSize + minWindowLeft ≤ handle.client.initialWindowSize.toNat

theorem RecvAgrees.of_recvSide {handle handle' : ChannelHandle} {book : RecvBook}
    (h : RecvAgrees log handle book) (hside : handle'.recvSide = handle.recvSide) :
    RecvAgrees log handle' book := by
  simp only [ChannelHandle.recvSide, Prod.mk.injEq] at hside
  obtain ⟨hid, hinitial, hused, hsender⟩ := hside
  refine ⟨⟨?_, ?_, ?_, ?_, ?_⟩, ?_⟩
  · rw [hid, h.kept]
  · rw [hinitial, h.initial]
  · rw [hused, h.used]
  · rw [hsender, h.delivered]
  · rw [hused]
    exact h.nonneg
  · rw [hused, hinitial]
    exact h.refilled

/-- What a run keeps of the windows it grants. -/
structure RecvKept (L : Ledger) : Prop where
  handles : ∀ handle ∈ L.channels, handle.sender.closed = false →
    ∃ book, RecvAgrees L.log handle book
  queues : (L.channels.map (·.sender.queue)).Nodup
  below : ∀ handle ∈ L.channels, handle.sender.queue < L.nextQueue
  unused : ∀ queue, L.nextQueue ≤ queue → deliveredData queue L.log = []

theorem RecvKept.note (h : RecvKept L) {effect : Effect} (heffect : effect.unreceived = true) :
    RecvKept (L.note effect) := by
  have hdelivered (queue : ℕ) :
      deliveredData queue (effect :: L.log) = deliveredData queue L.log :=
    deliveredData_unreceived heffect queue
  refine ⟨fun handle hmem halive => ?_, h.queues, h.below, fun queue hqueue => ?_⟩
  · obtain ⟨book, hagrees⟩ := h.handles handle hmem halive
    refine ⟨book, { hagrees with kept := ?_, delivered := ?_ }⟩
    · exact (recvBook_unreceived heffect _).trans hagrees.kept
    · exact (hdelivered _).trans hagrees.delivered
  · exact (hdelivered queue).trans (h.unused queue hqueue)

theorem RecvKept.tell (h : RecvKept L) (sender : QueueSender) {message : ChannelMessage}
    (hmessage : message.isData = false) : RecvKept (L.tell sender message) := by
  unfold Ledger.tell
  split
  · exact h
  · exact h.note (by simp [Effect.unreceived, hmessage])

theorem map_queue_set {channels : List ChannelHandle} {index : ℕ} {handle handle' : ChannelHandle}
    (hget : channels[index]? = some handle) (hsender : handle'.sender = handle.sender) :
    (channels.set index handle').map (·.sender.queue) = channels.map (·.sender.queue) := by
  obtain ⟨hlt, rfl⟩ := List.getElem?_eq_some_iff.mp hget
  refine List.ext_getElem (by simp) fun j _ _ => ?_
  by_cases hj : index = j
  · subst hj
    simp [hsender]
  · simp [hj]

theorem RecvKept.set (h : RecvKept L) {index : ℕ} {handle handle' : ChannelHandle}
    (hget : L.channels[index]? = some handle) (hside : handle'.recvSide = handle.recvSide) :
    RecvKept (L.set index handle') := by
  have hsender : handle'.sender = handle.sender := congrArg (fun side => side.2.2.2) hside
  refine ⟨fun handle'' hmem halive => ?_, ?_, fun handle'' hmem => ?_, h.unused⟩
  · rcases List.mem_or_eq_of_mem_set hmem with hmem | rfl
    · exact h.handles handle'' hmem halive
    · obtain ⟨book, hagrees⟩ := h.handles handle (List.mem_of_getElem? hget) (hsender ▸ halive)
      exact ⟨book, hagrees.of_recvSide hside⟩
  · exact (map_queue_set hget hsender).symm ▸ h.queues
  · rcases List.mem_or_eq_of_mem_set hmem with hmem | rfl
    · exact h.below handle'' hmem
    · exact hsender ▸ h.below handle (List.mem_of_getElem? hget)

theorem RecvKept.remove (h : RecvKept L) (index : ℕ) (handle : ChannelHandle) :
    RecvKept (L.remove index handle) := by
  have hnote : RecvKept (L.note (.removed handle.id handle.sender.queue)) := h.note rfl
  have hsub := List.eraseIdx_sublist L.channels index
  exact ⟨fun handle' hmem => hnote.handles handle' (hsub.subset hmem),
    hnote.queues.sublist (hsub.map _), fun handle' hmem => hnote.below handle' (hsub.subset hmem),
    hnote.unused⟩

theorem RecvKept.dropQueue (h : RecvKept L) (queue : ℕ) : RecvKept (L.dropQueue queue) := by
  have hqueue (handle : ChannelHandle) :
      (handle.dropQueue queue).sender.queue = handle.sender.queue := by
    unfold ChannelHandle.dropQueue
    split <;> rfl
  have hsame {handle : ChannelHandle} (halive : (handle.dropQueue queue).sender.closed = false) :
      handle.dropQueue queue = handle := by
    unfold ChannelHandle.dropQueue at halive ⊢
    split at halive
    · cases halive
    · next hne => rw [if_neg hne]
  refine ⟨fun handle' hmem halive => ?_, ?_, fun handle' hmem => ?_, h.unused⟩
  · obtain ⟨handle, hold, rfl⟩ := List.mem_map.mp hmem
    have heq := hsame halive
    rw [heq] at halive ⊢
    exact h.handles handle hold halive
  · simpa [Ledger.dropQueue, Function.comp_def, hqueue] using h.queues
  · obtain ⟨handle, hold, rfl⟩ := List.mem_map.mp hmem
    exact hqueue handle ▸ h.below handle hold

theorem RecvKept.closeClient (h : RecvKept L) {index : ℕ} {handle : ChannelHandle}
    (hget : L.channels[index]? = some handle) : RecvKept (L.closeClient index handle) := by
  have hset : RecvKept (L.set index handle.closeClient) := h.set hget rfl
  unfold Ledger.closeClient
  split
  · exact hset.remove _ _
  · exact hset

theorem RecvKept.closeServer (h : RecvKept L) {index : ℕ} {handle : ChannelHandle}
    (hget : L.channels[index]? = some handle) : RecvKept (L.closeServer index handle) := by
  have hset : RecvKept ((L.tell handle.sender .close).set index handle.closeServer) :=
    (h.tell _ rfl).set (Ledger.getElem?_told hget _ _) (by rfl)
  unfold Ledger.closeServer
  simp only
  split
  · exact hset.remove _ _
  · exact hset

/-! ## Data and new channels -/

/-- A payload without data for any of the channels that have a receiver. -/
theorem RecvKept.received (h : RecvKept L) {payload : Bytes}
    (hnone : ∀ handle ∈ L.channels, handle.sender.closed = false →
      dataOf handle.id.client payload = none) : RecvKept (L.note (.received payload)) := by
  refine ⟨fun handle hmem halive => ?_, h.queues, h.below, h.unused⟩
  obtain ⟨book, hagrees⟩ := h.handles handle hmem halive
  refine ⟨book, { hagrees with kept := ?_ }⟩
  show (recvBook handle.id L.log).map _ = some book
  rw [hagrees.kept, Option.map_some, hnone handle hmem halive]
  rfl

/-- What a data message has for a receiver. -/
theorem channelContent_of_data {msg : Message} {clientId : UInt32} {data : Bytes}
    {content : ChannelMessage} (hdata : msg.channelData? = some (clientId, data))
    (hcontent : msg.channelContent = some content) :
    content.octets = data.length ∧ content.isData = true := by
  cases msg with
  | channelData recipient data' =>
    injection hdata with hdata
    injection hdata with _ hdata
    injection hcontent with hcontent
    subst hdata hcontent
    exact ⟨rfl, rfl⟩
  | channelExtendedData recipient dataType data' =>
    simp only [Message.channelData?] at hdata
    simp only [Message.channelContent] at hcontent
    split at hdata
    · next htype =>
        rw [if_pos htype] at hcontent
        injection hdata with hdata
        injection hdata with _ hdata
        injection hcontent with hcontent
        subst hdata hcontent
        exact ⟨rfl, rfl⟩
    · cases hdata
  | _ => cases hdata

theorem dataOf_of_data {payload : Bytes} {msg : Message} {clientId : UInt32} {data : Bytes}
    {content : ChannelMessage} (hparse : Message.parse payload = .ok msg)
    (hdata : msg.channelData? = some (clientId, data))
    (hcontent : msg.channelContent = some content) (client : UInt32) :
    dataOf client payload = if clientId = client then some content else none := by
  simp only [dataOf, hparse, hdata, hcontent]

/-- The handle that data for its channel is for, once the data is in the queue. -/
theorem RecvAgrees.take {handle : ChannelHandle} {book : RecvBook} {payload data : Bytes}
    {content : ChannelMessage} (h : RecvAgrees log handle book)
    (hdata : dataOf handle.id.client payload = some content)
    (hcontent : content.octets = data.length ∧ content.isData = true) :
    RecvCounts (.delivered handle.sender.queue content :: .received payload :: log)
      (handle.take data.length) { book with contents := content :: book.contents } where
  kept := by
    show (recvBook handle.id log).map (fun book =>
      { book with contents := (dataOf handle.id.client payload).toList ++ book.contents }) = _
    rw [h.kept, Option.map_some, hdata]
    rfl
  initial := h.initial
  used := by
    show handle.client.usedWindowSize + data.length = _
    rw [h.used]
    simp only [RecvBook.received, List.map_cons, List.sum_cons, hcontent.1]
    push_cast
    omega
  delivered := by
    show (if _ then content :: deliveredData _ log else _) = _
    rw [if_pos ⟨rfl, hcontent.2⟩]
    exact congrArg (content :: ·) h.delivered
  nonneg := by
    have hnonneg := h.nonneg
    show (0 : ℤ) ≤ handle.client.usedWindowSize + data.length
    omega

/-- A channel that the data is not for. -/
theorem RecvAgrees.pass {handle : ChannelHandle} {book : RecvBook} {payload : Bytes}
    {sender : QueueSender} {content : ChannelMessage} (h : RecvAgrees L.log handle book)
    (hdata : dataOf handle.id.client payload = none)
    (hqueue : sender.queue ≠ handle.sender.queue) :
    RecvAgrees ((L.note (.received payload)).tell sender content).log handle book := by
  have hreceived : RecvAgrees (.received payload :: L.log) handle book := by
    refine { h with kept := ?_ }
    show (recvBook handle.id L.log).map _ = _
    rw [h.kept, Option.map_some, hdata]
    rfl
  unfold Ledger.tell
  split
  · exact hreceived
  · refine { hreceived with delivered := ?_ }
    show (if sender.queue = handle.sender.queue ∧ _ then _ else _) = _
    rw [if_neg fun hboth => hqueue hboth.1]
    exact h.delivered

/-- Where data goes: to the handle with its number. -/
structure Taken (L : Ledger) (payload : Bytes) (index : ℕ) (handle : ChannelHandle) (data : Bytes)
    (content : ChannelMessage) : Prop where
  get : L.channels[index]? = some handle
  admits : handle.admits data.length = true
  octets : content.octets = data.length ∧ content.isData = true
  data : ∀ client, dataOf client payload = if handle.id.client = client then some content else none

theorem taken_of_admitted {payload : Bytes} {msg : Message} {index : ℕ} {handle : ChannelHandle}
    {data : Bytes} {content : ChannelMessage} (hparse : Message.parse payload = .ok msg)
    (hadmits : s.admittedData msg = some (index, handle, data))
    (hcontent : msg.channelContent = some content) :
    Taken s.ledger payload index handle data content := by
  obtain ⟨clientId, hdata, hfind, hroom⟩ := admittedData_eq_some hadmits
  obtain ⟨hget, hid⟩ := locate_eq_some hfind
  refine ⟨hget, hroom, channelContent_of_data hdata hcontent, fun client => ?_⟩
  have hid : handle.id.client = clientId := eq_of_beq hid
  rw [dataOf_of_data hparse hdata hcontent, hid]

/-- The other handles, after data has arrived for one. -/
theorem RecvKept.others_taken (h : RecvKept L) (hnodup : L.clientIds.Nodup) {payload data : Bytes}
    {index j : ℕ} {handle other : ChannelHandle} {content : ChannelMessage}
    (htaken : Taken L payload index handle data content) (hj : j ≠ index)
    (hother : L.channels[j]? = some other) (halive : other.sender.closed = false) :
    ∃ book, RecvAgrees ((L.note (.received payload)).tell handle.sender content).log other book := by
  obtain ⟨hlt, hat⟩ := List.getElem?_eq_some_iff.mp htaken.get
  obtain ⟨hlt', hat'⟩ := List.getElem?_eq_some_iff.mp hother
  obtain ⟨book, hagrees⟩ := h.handles other (List.mem_of_getElem? hother) halive
  refine ⟨book, hagrees.pass ?_ fun hqueue => hj ?_⟩
  · rw [htaken.data, if_neg fun hid => hj (index_eq_of_map hnodup hlt' hlt ?_)]
    rw [hat, hat']
    exact hid.symm
  · exact index_eq_of_map h.queues hlt' hlt (by rw [hat, hat', hqueue])

theorem Ledger.nextQueue_tell (sender : QueueSender) (message : ChannelMessage) :
    (L.tell sender message).nextQueue = L.nextQueue := by
  unfold Ledger.tell
  split <;> rfl

theorem RecvKept.unused_tell (h : RecvKept L) {payload : Bytes} {sender : QueueSender}
    (content : ChannelMessage) (hsender : sender.queue < L.nextQueue) (queue : ℕ)
    (hqueue : L.nextQueue ≤ queue) :
    deliveredData queue ((L.note (.received payload)).tell sender content).log = [] := by
  unfold Ledger.tell
  split
  · exact h.unused queue hqueue
  · show (if sender.queue = queue ∧ _ then _ else _) = _
    rw [if_neg fun hboth => absurd hboth.1 (by omega)]
    exact h.unused queue hqueue

/-- A window that is not low after data needs no refill. -/
theorem refilled_of_runsLow {handle : ChannelHandle} {size : ℕ} (hadmits : handle.admits size = true)
    (hlow : (handle.take size).runsLow = false) :
    (handle.take size).client.usedWindowSize + minWindowLeft ≤
      (handle.take size).client.initialWindowSize.toNat := by
  obtain ⟨left, hleft, hroom, htaken⟩ := ChannelHandle.left_take hadmits
  have hcount := ChannelEndpoint.left_eq_some htaken
  have hhigh : minWindowLeft ≤ left - size := by
    simpa [ChannelHandle.runsLow, htaken] using hlow
  omega

/-- Data that does not run the window low. -/
theorem RecvKept.peerData (h : RecvKept L) (hnodup : L.clientIds.Nodup) {payload data : Bytes}
    {index : ℕ} {handle : ChannelHandle} {content : ChannelMessage}
    (htaken : Taken L payload index handle data content)
    (hhigh : handle.sender.closed = false → (handle.take data.length).runsLow = false) :
    RecvKept (((L.note (.received payload)).set index (handle.take data.length)).tell
      handle.sender content) := by
  have hmem := List.mem_of_getElem? htaken.get
  have hchannels : (((L.note (.received payload)).set index (handle.take data.length)).tell
      handle.sender content).channels = L.channels.set index (handle.take data.length) :=
    Ledger.channels_tell _ _
  have hlog : (((L.note (.received payload)).set index (handle.take data.length)).tell
      handle.sender content).log = ((L.note (.received payload)).tell handle.sender content).log := by
    rw [Ledger.tell_eq, Ledger.tell_eq]
    rfl
  refine ⟨fun handle' hmem' halive => ?_, ?_, fun handle' hmem' => ?_, fun queue hqueue => ?_⟩
  · rw [hlog]
    rw [hchannels] at hmem'
    rcases mem_set_cases hmem' with rfl | ⟨j, hj, hother⟩
    · have halive : handle.sender.closed = false := halive
      obtain ⟨book, hagrees⟩ := h.handles handle hmem halive
      have hcounts := hagrees.take (by rw [htaken.data, if_pos rfl]) htaken.octets
      refine ⟨_, { hcounts with kept := ?_, delivered := ?_, refilled := .inr ?_ }⟩
      · rw [Ledger.tell_eq, halive]
        exact hcounts.kept
      · rw [Ledger.tell_eq, halive]
        exact hcounts.delivered
      · exact refilled_of_runsLow htaken.admits (hhigh halive)
    · exact h.others_taken hnodup htaken hj hother halive
  · rw [hchannels, map_queue_set htaken.get (by rfl)]
    exact h.queues
  · rw [hchannels] at hmem'
    rw [Ledger.nextQueue_tell]
    rcases List.mem_or_eq_of_mem_set hmem' with hmem' | rfl
    · exact h.below handle' hmem'
    · exact h.below handle hmem
  · rw [Ledger.nextQueue_tell] at hqueue
    rw [hlog]
    exact h.unused_tell content (h.below handle hmem) queue hqueue

/-- What the client grants is what it has counted. -/
theorem toNat_adjustment {endpoint : ChannelEndpoint} (hnonneg : 0 ≤ endpoint.usedWindowSize)
    (hle : endpoint.usedWindowSize ≤ endpoint.initialWindowSize.toNat) :
    (endpoint.adjustment.toNat : ℤ) = endpoint.usedWindowSize := by
  have hlt := endpoint.initialWindowSize.toNat_lt
  have hsize : endpoint.usedWindowSize.natAbs < UInt32.size := by
    simp only [UInt32.size]
    omega
  have htoNat : (UInt32.ofNat endpoint.usedWindowSize.natAbs).toNat =
      endpoint.usedWindowSize.natAbs := UInt32.toNat_ofNat_of_lt hsize
  rw [ChannelEndpoint.adjustment, if_pos hsize, htoNat]
  omega

/-- Data that runs the window low, and the adjustment after it. -/
theorem RecvKept.peerDataRefill (h : RecvKept L) (hnodup : L.clientIds.Nodup)
    {payload data : Bytes} {index : ℕ} {handle : ChannelHandle} {content : ChannelMessage}
    {count : UInt32} (htaken : Taken L payload index handle data content)
    (halive : handle.sender.closed = false)
    (hcount : count = (handle.take data.length).client.adjustment) :
    RecvKept (((((L.note (.received payload)).set index (handle.take data.length)).tell
      handle.sender content).note (.sent (.channelWindowAdjust handle.id count))).set index
        ((handle.take data.length).refill count)) := by
  have hmem := List.mem_of_getElem? htaken.get
  obtain ⟨book, hagrees⟩ := h.handles handle hmem halive
  have hcounts := hagrees.take (by rw [htaken.data, if_pos rfl]) htaken.octets
  obtain ⟨left, -, -, hleft⟩ := ChannelHandle.left_take htaken.admits
  have hleft := ChannelEndpoint.left_eq_some hleft
  -- the adjustment gives back all that has been used, so that the window is whole again
  have hcount : (count.toNat : ℤ) = (handle.take data.length).client.usedWindowSize := by
    rw [hcount]
    exact toNat_adjustment hcounts.nonneg (by omega)
  -- the two changes of the entry are one
  have hall : (((((L.note (.received payload)).set index (handle.take data.length)).tell
      handle.sender content).note (.sent (.channelWindowAdjust handle.id count))).set index
        ((handle.take data.length).refill count)) =
      { L with
        channels := L.channels.set index ((handle.take data.length).refill count)
        log := .sent (.channelWindowAdjust handle.id count) ::
          ((L.note (.received payload)).tell handle.sender content).log } := by
    rw [Ledger.tell_eq, Ledger.tell_eq]
    simp [Ledger.note, Ledger.set]
  rw [hall]
  refine ⟨fun handle' hmem' halive' => ?_, ?_, fun handle' hmem' => ?_, fun queue hqueue => ?_⟩
  · rcases mem_set_cases hmem' with rfl | ⟨j, hj, hother⟩
    · refine ⟨{ book with contents := content :: book.contents, granted := book.granted + count.toNat },
        ⟨?_, hcounts.initial, ?_, ?_, ?_⟩, .inl ?_⟩
      · show (if handle.id = handle.id then (recvBook handle.id _).map _ else _) = _
        rw [if_pos rfl, Ledger.tell_eq, halive]
        exact congrArg (Option.map _) hcounts.kept
      · have hused := hcounts.used
        show (handle.take data.length).client.usedWindowSize - count.toNat =
          (RecvBook.received ⟨book.initial, book.granted, content :: book.contents⟩ : ℤ) -
            ((book.granted + count.toNat : ℕ) : ℤ)
        rw [hused] at hcount ⊢
        simp only [RecvBook.received] at hcount ⊢
        push_cast
        omega
      · rw [Ledger.tell_eq, halive]
        exact hcounts.delivered
      · show (0 : ℤ) ≤ (handle.take data.length).client.usedWindowSize - count.toNat
        omega
      · show (handle.take data.length).client.usedWindowSize - count.toNat = (0 : ℤ)
        omega
    · obtain ⟨book', hagrees'⟩ := h.others_taken hnodup htaken hj hother halive'
      refine ⟨book', { hagrees' with kept := ?_ }⟩
      obtain ⟨hlt, hat⟩ := List.getElem?_eq_some_iff.mp htaken.get
      obtain ⟨hlt', hat'⟩ := List.getElem?_eq_some_iff.mp hother
      show (if handle.id = handle'.id then _ else recvBook handle'.id _) = _
      rw [if_neg fun hid => hj (index_eq_of_map hnodup hlt' hlt ?_)]
      · exact hagrees'.kept
      · rw [hat, hat']
        exact (congrArg IdentityPair.client hid).symm
  · show ((L.channels.set index _).map (·.sender.queue)).Nodup
    rw [map_queue_set htaken.get (by rfl)]
    exact h.queues
  · rcases List.mem_or_eq_of_mem_set hmem' with hmem' | rfl
    · exact h.below handle' hmem'
    · exact h.below handle hmem
  · exact h.unused_tell content (h.below handle hmem) queue hqueue

/-- A new channel starts with the window that was announced for it. -/
theorem RecvKept.register (h : RecvKept L) {id : IdentityPair}
    {clientWindow clientPacket serverWindow serverPacket : UInt32}
    (hfresh : id.client ∉ L.clientIds)
    (hwindow : announcedWindow id.client L.log = some clientWindow) :
    RecvKept (L.register
      (.opened id clientWindow clientPacket serverWindow serverPacket L.nextQueue)) := by
  have hnew : ∀ id', recvBook id' (.registered id L.nextQueue :: L.log) =
      if id = id' then some ⟨clientWindow.toNat, 0, []⟩ else recvBook id' L.log := by
    intro id'
    rw [recvBook]
    by_cases hid : id = id'
    · subst hid
      rw [if_pos rfl, if_pos rfl, hwindow, Option.map_some]
    · rw [if_neg hid, if_neg hid]
  refine ⟨fun handle hmem halive => ?_, ?_, fun handle hmem => ?_, fun queue hqueue => ?_⟩
  · rcases List.mem_append.mp hmem with hold | hmem
    · obtain ⟨book, hagrees⟩ := h.handles handle hold halive
      refine ⟨book, { hagrees with kept := (hnew _).trans ((if_neg ?_).trans hagrees.kept) }⟩
      rintro rfl
      exact hfresh (List.mem_map.mpr ⟨handle, hold, rfl⟩)
    · obtain rfl := List.mem_singleton.mp hmem
      refine ⟨_, ⟨(hnew _).trans (if_pos rfl), rfl, rfl, ?_, le_refl _⟩, .inl rfl⟩
      exact h.unused L.nextQueue (le_refl _)
  · show (List.map _ (L.channels ++ [_])).Nodup
    rw [List.map_append, List.map_singleton]
    refine List.nodup_append.mpr ⟨h.queues, List.nodup_singleton _, ?_⟩
    rintro queue hold _ hqueue rfl
    obtain ⟨handle, hmem, rfl⟩ := List.mem_map.mp hold
    have hbelow := h.below handle hmem
    rw [List.mem_singleton.mp hqueue] at hbelow
    exact absurd hbelow (lt_irrefl _)
  · show handle.sender.queue < L.nextQueue + 1
    rcases List.mem_append.mp hmem with hmem | hmem
    · exact Nat.lt_succ_of_lt (h.below handle hmem)
    · obtain rfl := List.mem_singleton.mp hmem
      exact Nat.lt_succ_self _
  · have hqueue : L.nextQueue + 1 ≤ queue := hqueue
    exact h.unused queue (by omega)

end Flatline
