import Flatline.Session.ServerIds

/-!
# The server's windows

What the client may still send on a channel, as the server counts it from the messages that have
passed: the window it announced, plus its adjustments, minus the octets of data. The client stays
within that count, and its own count stays in range unless the adjustments drive it out.

Source: `src/session/backend.rs`.
-/

namespace Flatline

open Relation

variable {s : Backend} {i : Input} {L L' : Ledger} {log : List Effect}

/-! ## The server's books -/

/-- The server's books on a channel: the client's number, the window and the packet size it
announced, the octets it has granted since, and the octets of data it has been sent. -/
structure SendBook where
  client : UInt32
  initial : ℕ
  packet : ℕ
  granted : ℕ
  sent : ℕ
deriving DecidableEq, Repr

/-- The octets that may still be sent. -/
def SendBook.left (book : SendBook) : ℕ :=
  book.initial + book.granted - book.sent

/-- What a payload grants to the channel with the client's number `client`. -/
def grantOf (client : UInt32) (payload : Bytes) : ℕ :=
  match Message.parse payload with
  | .ok (.channelWindowAdjust recipient count) => if recipient = client then count.toNat else 0
  | _ => 0

/-- The window and the packet size in the payload that has arrived last. -/
def lastSizes : List Effect → Option (UInt32 × UInt32)
  | [] => none
  | .received payload :: _ =>
    match Message.parse payload with
    | .ok msg => msg.openSizes
    | .error _ => none
  | _ :: rest => lastSizes rest

/-- The books on the channel that was last registered under the server's number `server`. -/
def sendBook (server : UInt32) : List Effect → Option SendBook
  | [] => none
  | .registered id _ :: rest =>
    if id.server = server then
      (lastSizes rest).map fun (window, packet) => ⟨id.client, window.toNat, packet.toNat, 0, 0⟩
    else sendBook server rest
  | .received payload :: rest =>
    (sendBook server rest).map fun book =>
      { book with granted := book.granted + grantOf book.client payload }
  | .sent (.channelData id data) :: rest =>
    if id.server = server then
      (sendBook server rest).map fun book => { book with sent := book.sent + data.length }
    else sendBook server rest
  | _ :: rest => sendBook server rest

/-- Every data message fitted into the packet size, the window and the payload when it was sent. -/
def SendsWithin : List Effect → Prop
  | [] => True
  | .sent (.channelData id data) :: rest =>
    (∃ book, sendBook id.server rest = some book ∧
      data.length ≤ min (min book.packet book.left) (maxPacketPayloadLength - 9)) ∧
      SendsWithin rest
  | _ :: rest => SendsWithin rest

/-! ## The client's books -/

/-- An effect that the books on sending do not show. -/
def Effect.unbooked : Effect → Bool
  | .received _ | .registered .. | .sent (.channelData ..) => false
  | _ => true

theorem sendBook_unbooked {effect : Effect} (h : effect.unbooked = true) (server : UInt32) :
    sendBook server (effect :: log) = sendBook server log := by
  cases effect with
  | received | registered => cases h
  | sent message =>
    cases message with
    | channelData => cases h
    | _ => rfl
  | _ => rfl

theorem sendsWithin_unbooked {effect : Effect} (h : effect.unbooked = true) :
    SendsWithin (effect :: log) ↔ SendsWithin log := by
  cases effect with
  | received | registered => cases h
  | sent message =>
    cases message with
    | channelData => cases h
    | _ => exact Iff.rfl
  | _ => exact Iff.rfl

theorem Effect.Quiet.unbooked {effect : Effect} (h : effect.Quiet) : effect.unbooked = true := by
  cases effect with
  | received | registered => cases h
  | sent message =>
    cases message with
    | channelData => cases h
    | _ => rfl
  | _ => rfl

/-- The part of a handle that says what may be sent. -/
def ChannelHandle.sendSide (handle : ChannelHandle) : UInt32 × UInt32 × UInt32 × ℤ × UInt32 :=
  (handle.client.id, handle.server.id, handle.server.initialWindowSize,
    handle.server.usedWindowSize, handle.server.maximumPacketSize)

/-- The client's count of a channel agrees with the server's books: it has sent no more than it
counts, and it counts no more than the window. -/
structure SendAgrees (log : List Effect) (handle : ChannelHandle) (book : SendBook) : Prop where
  kept : sendBook handle.server.id log = some book
  client : book.client = handle.client.id
  initial : book.initial = handle.server.initialWindowSize.toNat
  packet : book.packet = handle.server.maximumPacketSize.toNat
  sent : (book.sent : ℤ) ≤ handle.server.usedWindowSize + book.granted
  used : handle.server.usedWindowSize ≤ handle.server.initialWindowSize.toNat
  range : handle.server.initialWindowSize.toNat - handle.server.usedWindowSize < 2 ^ 63

theorem SendAgrees.of_sendSide {handle handle' : ChannelHandle} {book : SendBook}
    (h : SendAgrees log handle book) (hside : handle'.sendSide = handle.sendSide) :
    SendAgrees log handle' book := by
  simp only [ChannelHandle.sendSide, Prod.mk.injEq] at hside
  obtain ⟨hclient, hserver, hinitial, hused, hpacket⟩ := hside
  refine ⟨?_, ?_, ?_, ?_, ?_, ?_, ?_⟩
  · rw [hserver, h.kept]
  · rw [hclient, h.client]
  · rw [hinitial, h.initial]
  · rw [hpacket, h.packet]
  · rw [hused]
    exact h.sent
  · rw [hused, hinitial]
    exact h.used
  · rw [hused, hinitial]
    exact h.range

/-- What a run keeps of the windows. -/
structure SendKept (L : Ledger) : Prop where
  handles : ∀ handle ∈ L.channels, ∃ book, SendAgrees L.log handle book
  books : ∀ server book, sendBook server L.log = some book → book.sent ≤ book.initial + book.granted
  within : SendsWithin L.log

theorem SendKept.note (h : SendKept L) {effect : Effect} (heffect : effect.unbooked = true) :
    SendKept (L.note effect) := by
  refine ⟨fun handle hmem => ?_, fun server book hbook => ?_, ?_⟩
  · obtain ⟨book, hagrees⟩ := h.handles handle hmem
    exact ⟨book, { hagrees with kept := by rw [← hagrees.kept]; exact sendBook_unbooked heffect _ }⟩
  · exact h.books server book ((sendBook_unbooked heffect server).symm.trans hbook)
  · exact (sendsWithin_unbooked heffect).mpr h.within

theorem SendKept.tell (h : SendKept L) (sender : QueueSender) (message : ChannelMessage) :
    SendKept (L.tell sender message) := by
  unfold Ledger.tell
  split
  · exact h
  · exact h.note rfl

/-- Other handles with the same books. -/
theorem SendKept.of_channels (h : SendKept L) (hlog : L'.log = L.log)
    (hchannels : ∀ handle' ∈ L'.channels, ∃ handle ∈ L.channels,
      handle'.sendSide = handle.sendSide) : SendKept L' := by
  refine ⟨fun handle' hmem => ?_, ?_, ?_⟩
  · obtain ⟨handle, hmem, hside⟩ := hchannels handle' hmem
    obtain ⟨book, hagrees⟩ := h.handles handle hmem
    exact ⟨book, hlog ▸ hagrees.of_sendSide hside⟩
  · rw [hlog]
    exact h.books
  · rw [hlog]
    exact h.within

theorem SendKept.set (h : SendKept L) {index : ℕ} {handle handle' : ChannelHandle}
    (hget : L.channels[index]? = some handle) (hside : handle'.sendSide = handle.sendSide) :
    SendKept (L.set index handle') := by
  refine h.of_channels rfl fun handle'' hmem => ?_
  rcases List.mem_or_eq_of_mem_set hmem with hmem | rfl
  · exact ⟨handle'', hmem, rfl⟩
  · exact ⟨handle, List.mem_of_getElem? hget, hside⟩

theorem SendKept.remove (h : SendKept L) (index : ℕ) (handle : ChannelHandle) :
    SendKept (L.remove index handle) := by
  have hnote : SendKept (L.note (.removed handle.id handle.sender.queue)) := h.note rfl
  exact hnote.of_channels rfl
    fun handle' hmem => ⟨handle', (List.eraseIdx_sublist _ _).subset hmem, rfl⟩

theorem SendKept.dropQueue (h : SendKept L) (queue : ℕ) : SendKept (L.dropQueue queue) := by
  refine h.of_channels rfl fun handle' hmem => ?_
  obtain ⟨handle, hold, rfl⟩ := List.mem_map.mp hmem
  refine ⟨handle, hold, ?_⟩
  simp only [ChannelHandle.sendSide, ChannelHandle.client_dropQueue,
    ChannelHandle.server_dropQueue]

theorem SendKept.closeClient (h : SendKept L) {index : ℕ} {handle : ChannelHandle}
    (hget : L.channels[index]? = some handle) : SendKept (L.closeClient index handle) := by
  have hset : SendKept (L.set index handle.closeClient) := h.set hget rfl
  unfold Ledger.closeClient
  split
  · exact hset.remove _ _
  · exact hset

theorem SendKept.closeServer (h : SendKept L) {index : ℕ} {handle : ChannelHandle}
    (hget : L.channels[index]? = some handle) : SendKept (L.closeServer index handle) := by
  have hset : SendKept ((L.tell handle.sender .close).set index handle.closeServer) := by
    exact (h.tell _ _).set (Ledger.getElem?_told hget _ _) (by rfl)
  unfold Ledger.closeServer
  simp only
  split
  · exact hset.remove _ _
  · exact hset

/-! ## Grants, data and new channels -/

theorem SendAgrees.received {handle : ChannelHandle} {book : SendBook}
    (h : SendAgrees log handle book) (payload : Bytes) :
    SendAgrees (.received payload :: log) handle
      { book with granted := book.granted + grantOf book.client payload } where
  kept := by rw [sendBook, h.kept, Option.map_some]
  client := h.client
  initial := h.initial
  packet := h.packet
  sent := by
    have hsent := h.sent
    push_cast
    omega
  used := h.used
  range := h.range

theorem SendKept.received (h : SendKept L) (payload : Bytes) :
    SendKept (L.note (.received payload)) := by
  refine ⟨fun handle hmem => ?_, fun server book hbook => ?_, h.within⟩
  · obtain ⟨book, hagrees⟩ := h.handles handle hmem
    exact ⟨_, hagrees.received payload⟩
  · change (sendBook server L.log).map _ = some book at hbook
    obtain ⟨old, hold, rfl⟩ := Option.map_eq_some_iff.mp hbook
    have hsent := h.books server old hold
    show old.sent ≤ old.initial + (old.granted + grantOf old.client payload)
    omega

/-- An adjustment is counted by the client as the server's books count it. -/
theorem SendKept.grant (h : SendKept L) {payload : Bytes} {clientId count : UInt32} {index : ℕ}
    {handle : ChannelHandle}
    (hparse : Message.parse payload = .ok (.channelWindowAdjust clientId count))
    (hfind : L.find clientId = some (index, handle))
    (hrange : handle.server.initialWindowSize.toNat - handle.server.usedWindowSize + count.toNat <
      2 ^ 63) :
    SendKept ((L.note (.received payload)).set index (handle.grant count)) := by
  have hreceived := h.received payload
  refine ⟨fun handle' hmem => ?_, hreceived.books, hreceived.within⟩
  rcases List.mem_or_eq_of_mem_set hmem with hmem | rfl
  · exact hreceived.handles handle' hmem
  · have hmem := List.mem_of_getElem? (Ledger.getElem?_of_find hfind)
    have hid : handle.client.id = clientId := by simpa using (locate_eq_some hfind).2
    obtain ⟨book, hagrees⟩ := h.handles handle hmem
    have hgrant : grantOf book.client payload = count.toNat := by
      simp only [grantOf, hparse]
      rw [if_pos (hid.symm.trans hagrees.client.symm)]
    have hsent := hagrees.sent
    have hused := hagrees.used
    have hnew := hagrees.received payload
    rw [hgrant] at hnew
    refine ⟨_, { hnew with sent := ?_, used := ?_, range := ?_ }⟩
    · show (book.sent : ℤ) ≤ handle.server.usedWindowSize - count.toNat + ↑(book.granted + count.toNat)
      push_cast
      omega
    · show handle.server.usedWindowSize - count.toNat ≤ (handle.server.initialWindowSize.toNat : ℤ)
      omega
    · show (handle.server.initialWindowSize.toNat : ℤ) -
        (handle.server.usedWindowSize - count.toNat) < 2 ^ 63
      omega

/-- Data that fits is counted by the client as the server's books count it. -/
theorem SendKept.charge (h : SendKept L) (hnodup : L.serverIds.Nodup) {id : IdentityPair}
    {data : Bytes} {index left : ℕ} {handle : ChannelHandle}
    (hget : L.channels[index]? = some handle) (hserver : handle.server.id = id.server)
    (hleft : handle.server.left = some left)
    (hpacket : data.length ≤ handle.server.maximumPacketSize.toNat) (hwindow : data.length ≤ left)
    (hpayload : data.length ≤ maxPacketPayloadLength - 1 - 4 - 4) :
    SendKept ((L.note (.sent (.channelData id data))).set index (handle.charge data.length)) := by
  obtain ⟨book, hagrees⟩ := h.handles handle (List.mem_of_getElem? hget)
  have hbook : sendBook id.server L.log = some book := hserver ▸ hagrees.kept
  have hsent := hagrees.sent
  have hleft := ChannelEndpoint.left_eq_some hleft
  have hinitial := hagrees.initial
  have hnew : sendBook id.server (.sent (.channelData id data) :: L.log) =
      some { book with sent := book.sent + data.length } := by
    rw [sendBook, if_pos rfl, hbook, Option.map_some]
  have hother : ∀ server, id.server ≠ server →
      sendBook server (.sent (.channelData id data) :: L.log) = sendBook server L.log :=
    fun server hne => if_neg hne
  refine ⟨fun handle' hmem => ?_, fun server book' hbook' => ?_, ⟨book, hbook, ?_⟩, h.within⟩
  · rcases mem_set_cases hmem with rfl | ⟨j, hj, hold⟩
    · refine ⟨{ book with sent := book.sent + data.length }, ⟨?_, hagrees.client, hinitial,
        hagrees.packet, ?_, ?_, ?_⟩⟩
      · show sendBook handle.server.id _ = _
        rw [hserver]
        exact hnew
      · show ((book.sent + data.length : ℕ) : ℤ) ≤
          handle.server.usedWindowSize + data.length + book.granted
        push_cast
        omega
      · show handle.server.usedWindowSize + data.length ≤
          (handle.server.initialWindowSize.toNat : ℤ)
        omega
      · have hrange := hagrees.range
        show (handle.server.initialWindowSize.toNat : ℤ) -
          (handle.server.usedWindowSize + data.length) < 2 ^ 63
        omega
    · obtain ⟨hlt, hat⟩ := List.getElem?_eq_some_iff.mp hget
      have hold : L.channels[j]? = some handle' := hold
      obtain ⟨hlt', hat'⟩ := List.getElem?_eq_some_iff.mp hold
      obtain ⟨book', hagrees'⟩ := h.handles handle' (List.mem_of_getElem? hold)
      refine ⟨book', { hagrees' with kept := (hother _ ?_).trans hagrees'.kept }⟩
      -- a second handle with this server's number would be the same one
      exact fun hsame => hj (index_eq_of_map hnodup hlt' hlt
        (by rw [hat', hat, hserver, hsame]))
  · by_cases hserver' : id.server = server
    · subst hserver'
      obtain rfl := Option.some.inj (hnew.symm.trans hbook')
      show book.sent + data.length ≤ book.initial + book.granted
      omega
    · exact h.books server book' ((hother server hserver').symm.trans hbook')
  · have hpack := hagrees.packet
    simp only [SendBook.left]
    simp only [maxPacketPayloadLength] at hpayload ⊢
    omega

/-- A new channel starts with what its message announces. -/
theorem SendKept.register (h : SendKept L) {id : IdentityPair}
    {clientWindow clientPacket serverWindow serverPacket : UInt32} {queue : ℕ}
    (hfresh : id.server ∉ L.serverIds)
    (hsizes : lastSizes L.log = some (serverWindow, serverPacket)) :
    SendKept (L.register
      (.opened id clientWindow clientPacket serverWindow serverPacket queue)) := by
  have hnew : ∀ server, sendBook server (.registered id queue :: L.log) =
      if id.server = server then
        some ⟨id.client, serverWindow.toNat, serverPacket.toNat, 0, 0⟩
      else sendBook server L.log := fun server => by rw [sendBook, hsizes, Option.map_some]
  refine ⟨fun handle hmem => ?_, fun server book hbook => ?_, h.within⟩
  · rcases List.mem_append.mp hmem with hmem | hmem
    · obtain ⟨book, hagrees⟩ := h.handles handle hmem
      refine ⟨book, { hagrees with kept := ?_ }⟩
      refine (hnew _).trans ((if_neg ?_).trans hagrees.kept)
      exact fun hsame => hfresh (hsame ▸ List.mem_map_of_mem hmem)
    · obtain rfl := List.mem_singleton.mp hmem
      have hlt := serverWindow.toNat_lt
      refine ⟨_, ⟨(hnew _).trans (if_pos rfl), rfl, rfl, rfl, ?_, ?_, ?_⟩⟩
      · show ((0 : ℕ) : ℤ) ≤ 0 + (0 : ℕ)
        omega
      · show (0 : ℤ) ≤ serverWindow.toNat
        omega
      · show (serverWindow.toNat : ℤ) - 0 < 2 ^ 63
        omega
  · have hbook := (hnew server).symm.trans hbook
    split at hbook
    · injection hbook with hbook
      subst hbook
      exact Nat.zero_le _
    · exact h.books server book hbook

/-! ## Runs -/

/-- An adjustment that `checked_sub` lets pass leaves the window in the range of `i64` as well. -/
def AdjustsInRange (s : Backend) : Input → Prop
  | .packet payload _ =>
    match Message.parse payload with
    | .ok (.channelWindowAdjust clientId count) =>
      match s.ledger.find clientId with
      | some (_, handle) => -2 ^ 63 ≤ handle.server.usedWindowSize - count.toNat →
        handle.server.initialWindowSize.toNat - handle.server.usedWindowSize + count.toNat < 2 ^ 63
      | none => True
    | _ => True
  | _ => True

/-- What can be decided of a message, and of an error, can be decided of a parse. -/
def decidableOfParsed {p : Except Error Message → Prop} (hok : ∀ msg, Decidable (p (.ok msg)))
    (herror : ∀ e, Decidable (p (.error e))) : ∀ parsed, Decidable (p parsed)
  | .ok msg => hok msg
  | .error e => herror e

/-- What can be decided of an entry, and of none, can be decided of a lookup. -/
def decidableOfFound {α : Type} {p : Option α → Prop} (hsome : ∀ entry, Decidable (p (some entry)))
    (hnone : Decidable (p none)) : ∀ found, Decidable (p found)
  | some entry => hsome entry
  | none => hnone

instance (s : Backend) : (i : Input) → Decidable (AdjustsInRange s i)
  | .packet payload _ => by
    dsimp only [AdjustsInRange]
    generalize Message.parse payload = parsed
    revert parsed
    refine decidableOfParsed (fun msg => ?_) fun _ => instDecidableTrue
    cases msg with
    | channelWindowAdjust clientId count =>
      dsimp only
      generalize s.ledger.find clientId = found
      revert found
      exact decidableOfFound (fun _ => inferInstance) instDecidableTrue
    | _ => exact instDecidableTrue
  | .receiveFailed .. | .event .. | .shutdown | .frontendDropped | .receiverDropped _
  | .tcpListenerDropped _ | .localListenerDropped _ => instDecidableTrue

theorem AdjustsInRange.lt {payload : Bytes} {env : Env} {clientId count : UInt32} {index : ℕ}
    {handle : ChannelHandle} (h : AdjustsInRange s i) (hi : i = .packet payload env)
    (hparse : Message.parse payload = .ok (.channelWindowAdjust clientId count))
    (hfind : s.ledger.find clientId = some (index, handle))
    (hrange : -2 ^ 63 ≤ handle.server.usedWindowSize - count.toNat) :
    handle.server.initialWindowSize.toNat - handle.server.usedWindowSize + count.toNat <
      2 ^ 63 := by
  subst hi
  simp only [AdjustsInRange, hparse, hfind] at h
  exact h hrange

/-- Every step keeps the books. -/
theorem SendKept.step (hs : SendKept s.ledger) (hnodup : L.serverIds.Nodup)
    (hfresh : ForwardsFresh s i) (hrange : AdjustsInRange s i) (h : SendKept L)
    (hstep : LedgerStep s i Effect.Quiet L L') : SendKept L' := by
  have hsizes : ∀ {payload : Bytes} {msg : Message} {sizes : UInt32 × UInt32},
      Message.parse payload = .ok msg → msg.openSizes = some sizes →
        lastSizes (.received payload :: s.log) = some sizes := by
    intro payload msg sizes hparse hopen
    rw [lastSizes, hparse]
    exact hopen
  cases hstep with
  | note hquiet => exact h.note hquiet.unbooked
  | drop => exact h.dropQueue _
  | receive => exact h.received _
  | peerClose _ _ hfind =>
    exact (h.received _).closeServer (Ledger.getElem?_of_find (L := s.ledger) hfind)
  | peerEof _ _ hfind =>
    have hget := Ledger.getElem?_of_find hfind
    exact (h.tell _ _).set (Ledger.getElem?_told (L := s.ledger.note _) hget _ _) (by rfl)
  | peerData _ _ hadmits =>
    exact (SendKept.set (h.received _) (getElem?_of_admitted hadmits) (by rfl)).tell _ _
  | @peerDataRefill payload _ _ _ handle data content count _ _ hadmits =>
    have htaken : SendKept ((s.ledger.note (.received payload)).set _ (handle.take data.length)) :=
      (h.received payload).set (getElem?_of_admitted hadmits) rfl
    exact ((htaken.tell handle.sender content).note rfl).set
      (Ledger.getElem?_taken hadmits _ _ _) (by rfl)
  | peerAdjust hi hparse hfind hchecked =>
    exact (hs.grant hparse hfind (hrange.lt hi hparse hfind hchecked)).tell _ _
  | announce => exact h.note rfl
  | @accept payload env msg sender _ _ _ _ hi hparse haccepts hopen =>
    refine SendKept.register (L := (s.ledger.note _).note _) (h.note rfl) ?_ ?_
    · exact hfresh.not_mem hi hparse haccepts
    · exact hsizes hparse hopen
  | confirm hi hparse _ hnew => exact h.register hnew (hsizes hparse rfl)
  | closeEvent _ hfind =>
    exact (h.note rfl).closeClient (Ledger.getElem?_of_find (L := s.ledger) hfind)
  | closeRefused _ _ _ _ _ _ _ hfind =>
    exact (h.note rfl).closeClient (Ledger.getElem?_of_find hfind)
  | sweep _ hget => exact (h.note rfl).closeClient hget
  | reap => exact h.remove _ _
  | eof _ hfind => exact (h.note rfl).set (Ledger.getElem?_of_find (L := s.ledger) hfind) rfl
  | data _ _ _ hget hserver hleft hpacket hwindow hpayload =>
    exact h.charge hnodup hget hserver hleft hpacket hwindow hpayload
  | request | requestOpened => exact h.note rfl

theorem sendKept_path (hs : SendKept s.ledger) (hnodup : s.ledger.serverIds.Nodup)
    (hfresh : ForwardsFresh s i) (hrange : AdjustsInRange s i)
    (hpath : LedgerPath s i Effect.Quiet s.ledger L) : SendKept L := by
  induction hpath with
  | refl => exact hs
  | tail hpath hstep ih => exact hs.step (serverIds_path hnodup hfresh hpath) hfresh hrange ih hstep

/-- The window of a channel whose count agrees with the server's is defined. -/
theorem SendAgrees.left_isSome {handle : ChannelHandle} {book : SendBook}
    (h : SendAgrees log handle book) : handle.server.left.isSome = true := by
  have hused := h.used
  have hrange := h.range
  unfold ChannelEndpoint.left
  simp only
  rw [if_pos ⟨by omega, by omega⟩]
  rfl

/-- A turn of `channel_send` never sends a payload that is too long. -/
theorem length_encode_chunk (id : IdentityPair) (server : ChannelEndpoint) (data : Bytes)
    (left : ℕ) :
    (ClientMessage.channelData id (data.take (server.chunk data.length left))).encode.length ≤
      maxPacketPayloadLength := by
  obtain ⟨-, -, -, hpayload⟩ := server.chunk_le data left
  simp only [maxPacketPayloadLength] at hpayload ⊢
  simp only [ClientMessage.encode, makeBufferWithoutHeader, List.flatMap_cons, List.flatMap_nil,
    Field.put, List.length_append, length_toBeBytes, List.length_cons, List.length_nil]
  omega

/-- What holds between the steps of a run. -/
structure SendInvariant (s : Backend) : Prop where
  nodup : s.ledger.serverIds.Nodup
  kept : SendKept s.ledger

theorem Backend.IsInitial.sendInvariant (h : s.IsInitial) : SendInvariant s := by
  have hchannels : s.ledger.channels = [] := h.channels
  have hlog : s.ledger.log = [] := h.log
  refine ⟨by simp [Ledger.serverIds, hchannels], ⟨?_, ?_, ?_⟩⟩
  · simp [hchannels]
  · simp [hlog, sendBook]
  · simp [hlog, SendsWithin]

theorem SendInvariant.next (h : SendInvariant s) (hfresh : ForwardsFresh s i)
    (hrange : AdjustsInRange s i) : SendInvariant (s.next i) :=
  ⟨serverIds_path h.nodup hfresh (ledgerPath_next s i),
    sendKept_path h.kept h.nodup hfresh hrange (ledgerPath_next s i)⟩

/-- In every run in which connections are forwarded under fresh numbers, the adjustments stay in range
and no write fails, the client never sends more on a channel than the server's windows allow, every
data message fits, and the client's count stays defined. -/
theorem sendWindow
    (h : Backend.ReachableVia (fun s i => ForwardsFresh s i ∧ AdjustsInRange s i ∧ i.Writes) s) :
    (∀ server book, sendBook server s.log = some book →
      book.sent ≤ book.initial + book.granted) ∧
    SendsWithin s.log ∧ (∀ handle ∈ s.channels, handle.server.left.isSome = true) ∧
    ∀ (id : IdentityPair) (endpoint : ChannelEndpoint) (data : Bytes) (left : ℕ),
      (ClientMessage.channelData id (data.take (endpoint.chunk data.length left))).encode.length ≤
        maxPacketPayloadLength := by
  have hkept : SendInvariant s := h.invariant (fun s hs => hs.sendInvariant)
    fun s i s' hs hguard hstep => hstep.2 ▸ hs.next hguard.1 hguard.2.1
  refine ⟨hkept.kept.books, hkept.kept.within, fun handle hmem => ?_, length_encode_chunk⟩
  obtain ⟨book, hagrees⟩ := hkept.kept.handles handle hmem
  exact hagrees.left_isSome

/-- A channel with an adjustment, and octets sent on it. -/
theorem sendWindow_one_channel :
    ∃ s : Backend, (∃ book, sendBook 7 s.log = some book ∧ book.granted = 100 ∧ book.sent = 3 ∧
      book.sent ≤ book.initial + book.granted) ∧ SendsWithin s.log ∧
        ∀ handle ∈ s.channels, handle.server.left.isSome = true := by
  obtain ⟨s, hs, hp⟩ := Backend.exists_reachable
    (fun s i => ForwardsFresh s i ∧ AdjustsInRange s i ∧ i.Writes)
    [.packet (agentOpen 7) .agreeable, .packet (makeBufferWithoutHeader
      [.u8 sshMsgChannelWindowAdjust, .u32 1, .u32 100]) .agreeable,
      .event (.channelSendData ⟨1, 7⟩ [1, 2, 3]) .agreeable]
    (fun s => decide (sendBook 7 s.log = some ⟨1, 65536, 32768, 100, 3⟩)) (by decide +kernel)
  obtain ⟨hbooks, hwithin, hleft, -⟩ := sendWindow hs
  have hbook := of_decide_eq_true hp
  exact ⟨s, ⟨_, hbook, rfl, rfl, hbooks 7 _ hbook⟩, hwithin, hleft⟩

/-! ## Maximal adjustments -/

/-- The server grants as much as one message can. -/
def maximalAdjust : Bytes :=
  makeBufferWithoutHeader [.u8 sshMsgChannelWindowAdjust, .u32 1, .u32 lastNumber]

theorem parse_maximalAdjust :
    Message.parse maximalAdjust = .ok (.channelWindowAdjust 1 lastNumber) := by
  rfl

/-- The client after `n` maximal adjustments of the one channel it has. -/
structure Adjusted (n : ℕ) (s : Backend) : Prop where
  reachable : s.Reachable
  task : s.task = .idle
  renegotiateMsg : s.renegotiateMsg = none
  channels : ∃ handle, s.channels = [handle] ∧ handle.client.id = 1 ∧
    handle.server.initialWindowSize = lastNumber ∧
    handle.server.usedWindowSize = -(n * (2 ^ 32 - 1))

theorem handleChannelWindowAdjust_run {clientId count : UInt32} {index : ℕ}
    {handle : ChannelHandle} {w : Backend} (hfind : w.byClient clientId = some (index, handle))
    (hrange : -2 ^ 63 ≤ handle.server.usedWindowSize - count.toNat) :
    ∃ w', handleChannelWindowAdjust clientId count w = .ok () w' ∧
      w'.channels = w.channels.set index (handle.grant count) ∧ w'.task = w.task ∧
        w'.renegotiateMsg = w.renegotiateMsg := by
  unfold handleChannelWindowAdjust
  rw [get_bind_apply, hfind]
  simp only
  rw [if_neg (not_lt.mpr hrange)]
  unfold deliver
  cases handle.sender.closed with
  | true => exact ⟨_, rfl, rfl, rfl, rfl⟩
  | false => exact ⟨_, rfl, rfl, rfl, rfl⟩

/-- One more maximal adjustment. -/
theorem Adjusted.next {n : ℕ} (h : Adjusted n s) (hn : (n + 1 : ℤ) * (2 ^ 32 - 1) ≤ 2 ^ 63) :
    Adjusted (n + 1) (s.next (.packet maximalAdjust .agreeable)) := by
  obtain ⟨handle, hchannels, hid, hinitial, hused⟩ := h.channels
  have hfind : (s.afterRecv maximalAdjust).byClient 1 = some (0, handle) := by
    show locate _ s.channels = _
    rw [hchannels, locate, if_pos (by simp [hid])]
  have hlast : (lastNumber.toNat : ℤ) = 2 ^ 32 - 1 := rfl
  have hrange : -2 ^ 63 ≤ handle.server.usedWindowSize - lastNumber.toNat := by
    rw [hused, hlast]
    omega
  obtain ⟨w, hrun, hw, htask, hmsg⟩ := handleChannelWindowAdjust_run hfind hrange
  have hnext : s.next (.packet maximalAdjust .agreeable) = { w with task := .idle } := by
    show s.onPacket _ _ = _
    unfold Backend.onPacket
    rw [h.task]
    simp only
    rw [recvPacket_bind _ s (by decide), Backend.idleTurn, parse_maximalAdjust, liftExcept_ok_bind]
    show Backend.settleIdle _ (EStateM.bind (handleChannelWindowAdjust 1 lastNumber)
      (fun _ => pure none) (s.afterRecv maximalAdjust)) = _
    rw [EStateM.bind, hrun]
    show Backend.afterIteration _ w = _
    rw [Backend.afterIteration, hmsg, show (s.afterRecv maximalAdjust).renegotiateMsg = none from
      h.renegotiateMsg]
  have hpossible : Input.possible s (.packet maximalAdjust .agreeable) = true := by
    show s.task.running = true
    rw [h.task]
    rfl
  refine ⟨.next h.reachable trivial ⟨hpossible, rfl⟩, ?_, ?_, handle.grant lastNumber, ?_, hid,
    hinitial, ?_⟩
  · rw [hnext]
  · rw [hnext]
    exact hmsg.trans h.renegotiateMsg
  · rw [hnext]
    show w.channels = _
    rw [hw]
    show s.channels.set 0 _ = _
    rw [hchannels]
    rfl
  · show handle.server.usedWindowSize - lastNumber.toNat = _
    rw [hused, hlast]
    push_cast
    omega

/-- The server asks for a channel to the agent with the largest window there is. -/
def wideOpen : Bytes :=
  makeBufferWithoutHeader [.u8 sshMsgChannelOpen, .one sshChannelTypeAgentConnectOpenSSH, .u32 7,
    .u32 lastNumber, .u32 32768]

theorem Adjusted.start : ∃ s, Adjusted 0 s := by
  obtain ⟨s, hs, hp⟩ := Backend.exists_reachable (fun _ _ => True) [.packet wideOpen .agreeable]
    (fun s => s.task.isIdle && s.renegotiateMsg.isNone && decide (s.channels.map (fun handle =>
      (handle.client.id, handle.server.initialWindowSize, handle.server.usedWindowSize)) =
        [(1, lastNumber, 0)])) (by decide +kernel)
  simp only [Bool.and_eq_true, decide_eq_true_eq, Option.isNone_iff_eq_none,
    List.map_eq_singleton_iff, Prod.mk.injEq] at hp
  obtain ⟨⟨htask, hmsg⟩, handle, hchannels, hid, hinitial, hused⟩ := hp
  refine ⟨s, hs, ?_, hmsg, handle, hchannels, hid, hinitial, hused⟩
  cases hidle : s.task with
  | idle => rfl
  | _ => rw [hidle] at htask; cases htask

theorem Adjusted.run {n : ℕ} (hn : (n : ℤ) * (2 ^ 32 - 1) ≤ 2 ^ 63) : ∃ s, Adjusted n s := by
  induction n with
  | zero => exact Adjusted.start
  | succ n ih =>
    obtain ⟨s, hs⟩ := ih (by push_cast at hn ⊢; omega)
    exact ⟨_, hs.next hn⟩

/-- After 2³¹ maximal adjustments the client's count of the window is not defined. -/
theorem sendWindow_fails_on_maximal_adjustments :
    ¬ ∀ s, Backend.Reachable s → ∀ handle ∈ s.channels, handle.server.left.isSome = true := by
  intro hdefined
  obtain ⟨s, hs⟩ := Adjusted.run (n := 2 ^ 31) (by decide)
  obtain ⟨handle, hchannels, -, hinitial, hused⟩ := hs.channels
  have hleft := hdefined s hs.reachable handle (hchannels ▸ List.mem_singleton_self handle)
  have hlast : lastNumber.toNat = 2 ^ 32 - 1 := rfl
  unfold ChannelEndpoint.left at hleft
  simp only [hinitial, hused, hlast] at hleft
  rw [if_neg (by decide)] at hleft
  cases hleft

end Flatline
