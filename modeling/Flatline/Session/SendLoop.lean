import Flatline.Session.SendWindow

/-!
# The loop of `channel_send`

A turn of the loop sends the least of four quantities: what is left of the data, the longest
payload, and the packet size and the window of the server. It is positive for a channel with
packets of a positive size, and the loop then sends as much of the data as the window holds.
For packets of size zero the loop goes on with empty messages for ever.

Source: `src/session/backend.rs` (`channel_send`, `ChannelEndpoint::left`).
-/

namespace Flatline

open Triple

variable {env : Env} {id : IdentityPair} {index : ℕ}

/-! ## What a loop sends -/

/-- The history after the chunks have been sent. -/
def sentChunks (id : IdentityPair) : (chunks : List Bytes) → List Effect → List Effect
  | [], log => log
  | chunk :: chunks, log => sentChunks id chunks (.sent (.channelData id chunk) :: log)

/-- From `s` on, `n` octets of the data are sent in chunks that are not empty, and then `a` is
returned; or a write fails before that. -/
inductive SendsExactly {α : Type} (env : Env) (id : IdentityPair) (data : Bytes) (n : ℕ) (a : α)
    (s : Backend) : EStateM.Result Fault Backend α → Prop
  | sent (chunks : List Bytes) {s' : Backend} (hne : [] ∉ chunks)
      (hflatten : chunks.flatten = data.take n) (hlog : s'.log = sentChunks id chunks s.log) :
    SendsExactly env id data n a s (.ok a s')
  | failed (chunks : List Bytes) {e : Error} {s' : Backend} (hne : [] ∉ chunks)
      (hbegins : chunks.flatten <+: data.take n) (hlog : s'.log = sentChunks id chunks s.log)
      (hwrite : ∃ attempt, env.writeError attempt = some e) :
    SendsExactly env id data n a s (.error (.error e) s')

/-- One chunk first, and then the rest of the data. -/
theorem SendsExactly.cons {α : Type} {data : Bytes} {size n : ℕ} {a : α} {s s₁ : Backend}
    {result : EStateM.Result Fault Backend α} (hsize : 0 < size) (hdata : size ≤ data.length)
    (hlog : s₁.log = .sent (.channelData id (data.take size)) :: s.log)
    (h : SendsExactly env id (data.drop size) n a s₁ result) :
    SendsExactly env id data (size + n) a s result := by
  have htake : data.take (size + n) = data.take size ++ (data.drop size).take n := by
    rw [List.take_add]
  have hchunk : data.take size ≠ [] := by
    intro hnil
    have hlength := congrArg List.length hnil
    rw [List.length_take, List.length_nil] at hlength
    omega
  cases h with
  | sent chunks hne hflatten hrest =>
    refine .sent (data.take size :: chunks) ?_ ?_ ?_
    · rw [List.mem_cons, not_or]
      exact ⟨hchunk.symm, hne⟩
    · rw [List.flatten_cons, hflatten, htake]
    · rw [hrest, hlog]
      rfl
  | failed chunks hne hbegins hrest hwrite =>
    refine .failed (data.take size :: chunks) ?_ ?_ ?_ hwrite
    · rw [List.mem_cons, not_or]
      exact ⟨hchunk.symm, hne⟩
    · rw [List.flatten_cons, htake]
      exact (List.prefix_append_right_inj _).mpr hbegins
    · rw [hrest, hlog]
      rfl

theorem SendsExactly.map {α β : Type} {data : Bytes} {n : ℕ} {a : α} {s : Backend} {m : BackendM α}
    (f : α → β) (h : SendsExactly env id data n a s (m s)) :
    SendsExactly env id data n (f a) s ((m >>= fun a => pure (f a)) s) := by
  cases hrun : m s with
  | ok a' s' =>
    rw [bind_of_ok hrun]
    rw [hrun] at h
    cases h with
    | sent chunks hne hflatten hlog => exact .sent chunks hne hflatten hlog
  | error fault s' =>
    rw [bind_of_error hrun]
    rw [hrun] at h
    cases h with
    | failed chunks hne hbegins hlog hwrite => exact .failed chunks hne hbegins hlog hwrite

/-! ## The loop -/

/-- The backend after a chunk has been sent. -/
def Backend.afterChunk (s : Backend) (id : IdentityPair) (index : ℕ) (channel : ChannelHandle)
    (chunk : Bytes) : Backend :=
  { s.afterSend (.channelData id chunk) with
    channels := s.channels.set index (channel.charge chunk.length) }

section Turns

variable {fuel left sent : ℕ} {channel : ChannelHandle} {data : Bytes} {s : Backend}

/-- A turn that sends a chunk. -/
theorem channelSendLoop_turn (hdata : data ≠ []) (hleft : channel.server.left = some left)
    (hwindow : left ≠ 0) (hwrite : env.writeError s.attempts = none) {chunk : Bytes}
    (hchunk : data.take (channel.server.chunk data.length left) = chunk) :
    channelSendLoop env id index (fuel + 1) channel data sent s =
      channelSendLoop env id index fuel (channel.charge chunk.length) (data.drop chunk.length)
        (sent + chunk.length) (s.afterChunk id index channel chunk) := by
  have hlength : chunk.length = channel.server.chunk data.length left := by
    rw [← hchunk]
    exact (channel.server.chunk_le data left).1
  have hrun := sendPayload_run env s (length_encode_chunk id channel.server data left)
  rw [hwrite, hchunk] at hrun
  conv_lhs => unfold channelSendLoop
  rw [if_neg hdata, leftOrPanic_of_some hleft, pure_bind, if_neg hwindow]
  dsimp only
  rw [hchunk, bind_of_ok hrun, ← hlength]
  rfl

/-- A turn whose write fails. -/
theorem channelSendLoop_unsent (hdata : data ≠ []) (hleft : channel.server.left = some left)
    (hwindow : left ≠ 0) {e : Error} (hwrite : env.writeError s.attempts = some e) :
    channelSendLoop env id index (fuel + 1) channel data sent s =
      .error (.error e) { s with attempts := s.attempts + 1 } := by
  have hrun := sendPayload_run env s (length_encode_chunk id channel.server data left)
  rw [hwrite] at hrun
  unfold channelSendLoop
  rw [if_neg hdata, leftOrPanic_of_some hleft, pure_bind, if_neg hwindow]
  exact bind_of_error hrun

/-- The loop of a channel with packets of a positive size sends the data, or as much of it as the
window holds. -/
theorem sendsExactly_channelSendLoop (hpacket : 0 < channel.server.maximumPacketSize.toNat)
    (hleft : channel.server.left = some left) (hfuel : data.length ≤ fuel) :
    SendsExactly env id data (min data.length left) (sent + min data.length left) s
      (channelSendLoop env id index fuel channel data sent s) := by
  induction fuel generalizing channel data left sent s with
  | zero =>
    obtain rfl : data = [] := List.length_eq_zero_iff.mp (by omega)
    rw [channelSendLoop_of_not_sends (.inl rfl)]
    exact .sent [] List.not_mem_nil rfl rfl
  | succ fuel ih =>
    by_cases hstop : data = [] ∨ left = 0
    · have hnone : min data.length left = 0 := by
        rcases hstop with rfl | rfl
        · exact Nat.zero_min _
        · exact Nat.min_zero _
      have hsends : data = [] ∨ channel.server.left = some 0 := by
        rcases hstop with h | rfl
        · exact .inl h
        · exact .inr hleft
      rw [channelSendLoop_of_not_sends hsends, hnone]
      exact .sent [] List.not_mem_nil rfl rfl
    · obtain ⟨hdata, hwindow⟩ := not_or.mp hstop
      cases hwrite : env.writeError s.attempts with
      | some e =>
        rw [channelSendLoop_unsent hdata hleft hwindow hwrite]
        exact .failed [] List.not_mem_nil List.nil_prefix rfl ⟨_, hwrite⟩
      | none =>
        rw [channelSendLoop_turn hdata hleft hwindow hwrite rfl]
        obtain ⟨hlength, -, hroom, -⟩ := channel.server.chunk_le data left
        generalize hchunk : data.take (channel.server.chunk data.length left) = chunk at *
        have hshort : chunk.length ≤ data.length := by
          rw [← hchunk]
          exact List.length_take_le' _ _
        -- the least of the four quantities is positive
        have hpos : 0 < chunk.length := by
          have hsome : 0 < data.length := List.length_pos_iff.mpr hdata
          rw [hlength]
          unfold ChannelEndpoint.chunk maxPacketPayloadLength
          omega
        have hnext : (channel.charge chunk.length).server.left = some (left - chunk.length) :=
          ChannelEndpoint.left_add hleft hroom
        have hpacket' : 0 < (channel.charge chunk.length).server.maximumPacketSize.toNat := hpacket
        have hfuel' : (data.drop chunk.length).length ≤ fuel := by
          rw [List.length_drop]
          omega
        have hcount : min data.length left =
            chunk.length + min (data.drop chunk.length).length (left - chunk.length) := by
          rw [List.length_drop]
          omega
        rw [hcount, ← Nat.add_assoc]
        refine .cons hpos hshort ?_ (ih hpacket' hnext hfuel')
        have htake : data.take chunk.length = chunk := by rw [hlength, hchunk]
        rw [htake]
        rfl

/-- With packets of size zero, a turn changes nothing that the loop looks at. -/
theorem channelSendLoop_stuck (hpacket : channel.server.maximumPacketSize.toNat = 0)
    (hleft : channel.server.left = some left) (hwindow : left ≠ 0) (hdata : data ≠ [])
    (hwrites : ∀ attempt, env.writeError attempt = none) :
    ∃ s', channelSendLoop env id index fuel channel data sent s = .error .stuck s' := by
  induction fuel generalizing channel sent s with
  | zero =>
    unfold channelSendLoop
    rw [if_neg hdata, leftOrPanic_of_some hleft, pure_bind, if_neg hwindow]
    exact ⟨s, rfl⟩
  | succ fuel ih =>
    have hchunk : data.take (channel.server.chunk data.length left) = [] := by
      unfold ChannelEndpoint.chunk
      rw [hpacket, Nat.min_zero, Nat.zero_min, List.take_zero]
    rw [channelSendLoop_turn hdata hleft hwindow (hwrites _) hchunk]
    have hnext : (channel.charge 0).server.left = some left :=
      ChannelEndpoint.left_add hleft (Nat.zero_le left)
    have hpacket' : (channel.charge 0).server.maximumPacketSize.toNat = 0 := hpacket
    exact ih hpacket' hnext

end Turns

/-! ## `channel_send` -/

/-- `channel_send` on a channel that the client has. -/
theorem channelSend_run {channel : ChannelHandle} {data : Bytes} {s : Backend}
    (hfind : s.byServer id.server = some (index, channel)) :
    channelSend env id data s =
      (channelSendLoop env id index (data.length + env.idleTurns) channel data 0 >>=
        fun sent => pure (.done (.sent sent))) s := by
  unfold channelSend
  rw [get_bind, hfind]

/-- Whatever becomes of the writes, `channel_send` sends as much of the data as the window holds, in
chunks that are not empty, and returns how much: exactly when there is nothing to send, or the
window is empty, or it is defined and the server takes packets of a positive size. -/
theorem channelSend_exact_iff (s : Backend) (id : IdentityPair) (data : Bytes) (index : ℕ)
    (channel : ChannelHandle) (hfind : s.byServer id.server = some (index, channel)) :
    (∀ env, SendsExactly env id data (min data.length (channel.server.left.getD 0))
      (.done (.sent (min data.length (channel.server.left.getD 0)))) s
        (channelSend env id data s)) ↔
    data = [] ∨ channel.server.left = some 0 ∨
      channel.server.left.isSome = true ∧ 0 < channel.server.maximumPacketSize.toNat := by
  constructor
  -- without the condition the loop panics or spins for ever where the writes succeed
  · intro hsends
    by_contra hnone
    obtain ⟨hdata, hwindow, hpacket⟩ : data ≠ [] ∧ channel.server.left ≠ some 0 ∧
        (channel.server.left.isSome = true → channel.server.maximumPacketSize.toNat = 0) := by
      simp only [not_or, not_and, not_lt, Nat.le_zero] at hnone
      exact hnone
    have hagreeable := hsends .agreeable
    rw [channelSend_run hfind] at hagreeable
    cases hleft : channel.server.left with
    | none =>
      have hpanic : channelSendLoop .agreeable id index (data.length + 0) channel data 0 s =
          .error .panicked s := by
        unfold channelSendLoop
        rw [if_neg hdata, leftOrPanic_of_none hleft]
        rfl
      rw [show Env.agreeable.idleTurns = 0 from rfl, bind_of_error hpanic] at hagreeable
      cases hagreeable
    | some left =>
      rw [hleft] at hpacket hwindow
      have hpositive : left ≠ 0 := fun hzero => hwindow (congrArg some hzero)
      have hwrites : ∀ attempt, Env.agreeable.writeError attempt = none := fun _ => rfl
      obtain ⟨s', hstuck⟩ : ∃ s', channelSendLoop .agreeable id index (data.length + 0) channel
          data 0 s = .error .stuck s' :=
        channelSendLoop_stuck (hpacket rfl) hleft hpositive hdata hwrites
      rw [show Env.agreeable.idleTurns = 0 from rfl, bind_of_error hstuck] at hagreeable
      cases hagreeable
  · intro hcondition env
    rw [channelSend_run hfind]
    refine SendsExactly.map (fun sent => Progress.done (Reply.sent sent)) ?_
    -- the loop has nothing to send, or no room for it
    have hnothing : data = [] ∨ channel.server.left = some 0 →
        SendsExactly env id data (min data.length (channel.server.left.getD 0))
          (min data.length (channel.server.left.getD 0)) s
          (channelSendLoop env id index (data.length + env.idleTurns) channel data 0 s) := by
      intro hnone
      have hzero : min data.length (channel.server.left.getD 0) = 0 := by
        rcases hnone with rfl | hleft
        · exact Nat.zero_min _
        · rw [hleft]
          exact Nat.min_zero _
      rw [channelSendLoop_of_not_sends hnone, hzero]
      exact .sent [] List.not_mem_nil rfl rfl
    rcases hcondition with hdata | hwindow | ⟨hsome, hpacket⟩
    · exact hnothing (.inl hdata)
    · exact hnothing (.inr hwindow)
    · obtain ⟨left, hleft⟩ := Option.isSome_iff_exists.mp hsome
      have hloop : SendsExactly env id data (min data.length left) (0 + min data.length left) s
          (channelSendLoop env id index (data.length + env.idleTurns) channel data 0 s) :=
        sendsExactly_channelSendLoop hpacket hleft (Nat.le_add_right _ _)
      rw [Nat.zero_add] at hloop
      rw [hleft]
      exact hloop

/-! ## Runs -/

/-- The server's side of the channel is such that `channel_send` works. -/
def ChannelHandle.HasRoom (handle : ChannelHandle) : Prop :=
  handle.server.left.isSome = true ∧ 0 < handle.server.maximumPacketSize.toNat

/-- Every registered channel is such that `channel_send` works. -/
def Ledger.HasRoom (L : Ledger) : Prop :=
  ∀ handle ∈ L.channels, handle.HasRoom

/-- A packet that announces or confirms a channel has a positive packet size. -/
def AnnouncesPackets : Input → Prop
  | .packet payload _ =>
    match Message.parse payload with
    | .ok msg => ∀ sizes ∈ msg.openSizes, 0 < sizes.2.toNat
    | .error _ => True
  | _ => True

instance : (i : Input) → Decidable (AnnouncesPackets i)
  | .packet payload _ => by
    dsimp only [AnnouncesPackets]
    generalize Message.parse payload = parsed
    revert parsed
    exact decidableOfParsed (fun _ => Option.decidableForallMem _) fun _ => instDecidableTrue
  | .receiveFailed .. | .event .. | .shutdown | .frontendDropped | .receiverDropped _
  | .tcpListenerDropped _ | .localListenerDropped _ => instDecidableTrue

section Runs

variable {s : Backend} {i : Input} {L L' : Ledger}

theorem ChannelEndpoint.left_isSome_iff {endpoint : ChannelEndpoint} :
    endpoint.left.isSome = true ↔
      (0 : ℤ) ≤ endpoint.initialWindowSize.toNat - endpoint.usedWindowSize ∧
        endpoint.initialWindowSize.toNat - endpoint.usedWindowSize < 2 ^ 63 := by
  unfold ChannelEndpoint.left
  dsimp only
  split
  · next hrange => exact iff_of_true rfl hrange
  · next hrange => exact iff_of_false Bool.false_ne_true hrange

theorem ChannelHandle.HasRoom.of_sendSide {handle handle' : ChannelHandle} (h : handle.HasRoom)
    (hside : handle'.sendSide = handle.sendSide) : handle'.HasRoom := by
  simp only [ChannelHandle.sendSide, Prod.mk.injEq] at hside
  obtain ⟨-, -, hinitial, hused, hpacket⟩ := hside
  unfold HasRoom ChannelEndpoint.left
  rw [hinitial, hused, hpacket]
  exact h

namespace Ledger.HasRoom

theorem tell (h : L.HasRoom) (sender : QueueSender) (message : ChannelMessage) :
    (L.tell sender message).HasRoom := by
  unfold Ledger.tell
  split
  · exact h
  · exact h

theorem set (h : L.HasRoom) {index : ℕ} {handle : ChannelHandle} (hnew : handle.HasRoom) :
    (L.set index handle).HasRoom := by
  intro handle' hmem
  rcases List.mem_or_eq_of_mem_set hmem with hmem | rfl
  · exact h handle' hmem
  · exact hnew

theorem remove (h : L.HasRoom) (index : ℕ) (handle : ChannelHandle) :
    (L.remove index handle).HasRoom :=
  fun handle' hmem => h handle' ((List.eraseIdx_sublist _ _).subset hmem)

theorem dropQueue (h : L.HasRoom) (queue : ℕ) : (L.dropQueue queue).HasRoom := by
  intro handle' hmem
  obtain ⟨handle, hold, rfl⟩ := List.mem_map.mp hmem
  apply (h handle hold).of_sendSide
  simp only [ChannelHandle.sendSide, ChannelHandle.client_dropQueue,
    ChannelHandle.server_dropQueue]

theorem closeClient (h : L.HasRoom) (index : ℕ) {handle : ChannelHandle}
    (hroom : handle.HasRoom) : (L.closeClient index handle).HasRoom := by
  have hset : (L.set index handle.closeClient).HasRoom := h.set hroom
  unfold Ledger.closeClient
  split
  · exact hset.remove _ _
  · exact hset

theorem closeServer (h : L.HasRoom) (index : ℕ) {handle : ChannelHandle}
    (hroom : handle.HasRoom) : (L.closeServer index handle).HasRoom := by
  have hset : ((L.tell handle.sender .close).set index handle.closeServer).HasRoom :=
    (h.tell _ _).set hroom
  unfold Ledger.closeServer
  simp only
  split
  · exact hset.remove _ _
  · exact hset

theorem register (h : L.HasRoom) (id : IdentityPair) (clientWindow clientPacket serverWindow
    serverPacket : UInt32) (queue : ℕ) (hpacket : 0 < serverPacket.toNat) :
    (L.register (.opened id clientWindow clientPacket serverWindow serverPacket queue)).HasRoom := by
  intro handle hmem
  rcases List.mem_append.mp hmem with hmem | hmem
  · exact h handle hmem
  · obtain rfl := List.mem_singleton.mp hmem
    refine ⟨ChannelEndpoint.left_isSome_iff.mpr ?_, hpacket⟩
    have hlt := serverWindow.toNat_lt
    change (0 : ℤ) ≤ serverWindow.toNat - 0 ∧ (serverWindow.toNat - 0 : ℤ) < 2 ^ 63
    omega

end Ledger.HasRoom

/-- Octets that have come in change nothing of the server's side. -/
theorem ChannelHandle.HasRoom.take {handle : ChannelHandle} (h : handle.HasRoom) (size : ℕ) :
    (handle.take size).HasRoom :=
  h.of_sendSide rfl

/-- Octets that fit leave the window defined. -/
theorem ChannelHandle.HasRoom.charge {handle : ChannelHandle} {left size : ℕ} (h : handle.HasRoom)
    (hleft : handle.server.left = some left) (hsize : size ≤ left) :
    (handle.charge size).HasRoom := by
  refine ⟨?_, h.2⟩
  have hnew : (handle.charge size).server.left = some (left - size) :=
    ChannelEndpoint.left_add hleft hsize
  rw [hnew]
  rfl

/-- An adjustment in range leaves the window defined. -/
theorem ChannelHandle.HasRoom.grant {handle : ChannelHandle} {count : UInt32} (h : handle.HasRoom)
    (hrange : handle.server.initialWindowSize.toNat - handle.server.usedWindowSize + count.toNat <
      2 ^ 63) : (handle.grant count).HasRoom := by
  have hold := ChannelEndpoint.left_isSome_iff.mp h.1
  refine ⟨ChannelEndpoint.left_isSome_iff.mpr ?_, h.2⟩
  dsimp only [ChannelHandle.grant]
  omega

/-- Every step leaves room on every channel. -/
theorem Ledger.HasRoom.step (hs : s.ledger.HasRoom) (hpackets : AnnouncesPackets i)
    (hrange : AdjustsInRange s i) (h : L.HasRoom) (hstep : LedgerStep s i Effect.Quiet L L') :
    L'.HasRoom := by
  have hfound : ∀ {clientId : UInt32} {index : ℕ} {handle : ChannelHandle},
      s.ledger.find clientId = some (index, handle) → handle.HasRoom := fun hfind =>
    hs _ (List.mem_of_getElem? (Ledger.getElem?_of_find hfind))
  have hpositive : ∀ {payload : Bytes} {env : Env} {msg : Message} {sizes : UInt32 × UInt32},
      i = .packet payload env → Message.parse payload = .ok msg → msg.openSizes = some sizes →
        0 < sizes.2.toNat := by
    intro payload env msg sizes hi hparse hsizes
    subst hi
    simp only [AnnouncesPackets, hparse] at hpackets
    exact hpackets sizes hsizes
  cases hstep with
  | note => exact h
  | drop => exact h.dropQueue _
  | receive => exact h
  | peerClose _ _ hfind => exact closeServer (L := s.ledger.note _) h _ (hfound hfind)
  | peerEof _ _ hfind => exact (h.tell _ _).set ((hfound hfind).of_sendSide rfl)
  | peerData _ _ hadmits =>
    have hold := hs _ (List.mem_of_getElem? (getElem?_of_admitted hadmits))
    exact (set (L := s.ledger.note _) h (hold.take _)).tell _ _
  | peerDataRefill _ _ hadmits =>
    have hold := hs _ (List.mem_of_getElem? (getElem?_of_admitted hadmits))
    exact set (L := Ledger.note _ _)
      ((set (L := s.ledger.note _) h (hold.take _)).tell _ _) (hold.of_sendSide rfl)
  | peerAdjust hi hparse hfind hchecked =>
    exact (h.set ((hfound hfind).grant (hrange.lt hi hparse hfind hchecked))).tell _ _
  | announce => exact h
  | accept hi hparse _ hopen =>
    exact register (L := (s.ledger.note _).note _) h _ _ _ _ _ _ (hpositive hi hparse hopen)
  | confirm hi hparse => exact h.register _ _ _ _ _ _ (hpositive hi hparse rfl)
  | closeEvent _ hfind => exact closeClient (L := s.ledger.note _) h _ (hfound hfind)
  | closeRefused _ _ _ _ _ _ _ hfind =>
    exact closeClient (L := Ledger.note _ _) h _
      (h _ (List.mem_of_getElem? (Ledger.getElem?_of_find hfind)))
  | sweep _ hget =>
    exact closeClient (L := Ledger.note _ _) h _ (h _ (List.mem_of_getElem? hget))
  | reap => exact h.remove _ _
  | eof _ hfind => exact set (L := s.ledger.note _) h ((hfound hfind).of_sendSide rfl)
  | data _ _ _ hget _ hleft _ hwindow =>
    exact set (L := Ledger.note _ _) h ((h _ (List.mem_of_getElem? hget)).charge hleft hwindow)
  | request | requestOpened => exact h

theorem hasRoom_path (hs : s.ledger.HasRoom) (hpackets : AnnouncesPackets i)
    (hrange : AdjustsInRange s i) (hpath : LedgerPath s i Effect.Quiet s.ledger L) :
    L.HasRoom := by
  induction hpath with
  | refl => exact hs
  | tail _ hstep ih => exact hs.step hpackets hrange ih hstep

/-- In every run whose packets announce positive packet sizes and adjustments in range, there is
room on every channel. -/
theorem hasRoom_of_reachable
    (h : Backend.ReachableVia (fun s i => AnnouncesPackets i ∧ AdjustsInRange s i) s) :
    s.ledger.HasRoom := by
  induction h with
  | start hs =>
    intro handle hmem
    rw [show Ledger.channels _ = [] from hs.channels] at hmem
    cases hmem
  | next _ hguard hstep ih =>
    obtain ⟨-, rfl⟩ := hstep
    exact hasRoom_path ih hguard.1 hguard.2 (ledgerPath_next _ _)

end Runs

/-- `channel_send` on a channel sends as much of the data as the window holds, in finitely many
chunks that are not empty, and returns how much, whatever becomes of the writes: exactly when there
is nothing to send, or the window is empty, or it is defined and the server takes packets of a
positive size. In every run in which the server announces positive packet sizes and keeps its
adjustments in range, it does so on every channel. -/
theorem channelSend_exact (s : Backend) :
    (∀ (id : IdentityPair) (data : Bytes) (index : ℕ) (channel : ChannelHandle),
      s.byServer id.server = some (index, channel) →
      ((∀ env, SendsExactly env id data (min data.length (channel.server.left.getD 0))
        (Progress.done (.sent (min data.length (channel.server.left.getD 0)))) s
          (channelSend env id data s)) ↔
      data = [] ∨ channel.server.left = some 0 ∨
        channel.server.left.isSome = true ∧ 0 < channel.server.maximumPacketSize.toNat)) ∧
    (Backend.ReachableVia (fun s i => AnnouncesPackets i ∧ AdjustsInRange s i) s →
      ∀ (id : IdentityPair) (index : ℕ) (channel : ChannelHandle),
        s.byServer id.server = some (index, channel) → ∃ window,
          channel.server.left = some window ∧ ∀ (env : Env) (data : Bytes),
            SendsExactly env id data (min data.length window)
              (Progress.done (.sent (min data.length window))) s
                (channelSend env id data s)) := by
  refine ⟨channelSend_exact_iff s, fun hs id index channel hfind => ?_⟩
  have hroom := hasRoom_of_reachable hs channel
    (List.mem_of_getElem? (locate_eq_some hfind).1)
  obtain ⟨window, hwindow⟩ := Option.isSome_iff_exists.mp hroom.1
  refine ⟨window, hwindow, fun env data => ?_⟩
  have hsends := (channelSend_exact_iff s id data index channel hfind).mpr (.inr (.inr hroom)) env
  rw [hwindow] at hsends
  exact hsends

/-- A channel of the agent, and three octets sent on it: both halves apply. -/
theorem channelSend_exact_one_channel :
    ∃ (s : Backend) (channel : ChannelHandle), s.byServer 7 = some (0, channel) ∧
      channel.server.left = some 65536 ∧
      SendsExactly .agreeable ⟨1, 7⟩ [1, 2, 3] 3 (Progress.done (.sent 3)) s
        (channelSend .agreeable ⟨1, 7⟩ [1, 2, 3] s) ∧
      ∃ window, channel.server.left = some window := by
  obtain ⟨s, hs, hp⟩ := Backend.exists_reachable
    (fun s i => AnnouncesPackets i ∧ AdjustsInRange s i) [.packet (agentOpen 7) .agreeable]
    (fun s => (s.byServer 7).any fun (found : ℕ × ChannelHandle) => decide (found.1 = 0 ∧
      found.2.server.left = some 65536 ∧ 0 < found.2.server.maximumPacketSize.toNat))
    (by decide +kernel)
  obtain ⟨⟨index, channel⟩, hfind, hshown⟩ := (Option.any_eq_true _ _).mp hp
  obtain ⟨hindex, hleft, hpacket⟩ := of_decide_eq_true hshown
  obtain rfl : index = 0 := hindex
  have hsends := ((channelSend_exact s).1 ⟨1, 7⟩ [1, 2, 3] 0 channel hfind).mpr
    (.inr (.inr ⟨by rw [hleft]; rfl, hpacket⟩)) .agreeable
  rw [hleft] at hsends
  obtain ⟨window, hwindow, -⟩ := (channelSend_exact s).2 hs ⟨1, 7⟩ 0 channel hfind
  exact ⟨s, channel, hfind, hleft, hsends, window, hwindow⟩

/-- The server asks for a channel to the agent with packets of size zero. -/
def emptyPacketOpen : Bytes :=
  makeBufferWithoutHeader [.u8 sshMsgChannelOpen, .one sshChannelTypeAgentConnectOpenSSH, .u32 7,
    .u32 65536, .u32 0]

/-- On a channel with packets of size zero, `channel_send` never returns. -/
theorem channelSend_never_returns :
    ¬ ∀ s, Backend.Reachable s → ∀ (id : IdentityPair) (data : Bytes) (index : ℕ)
      (channel : ChannelHandle), s.byServer id.server = some (index, channel) →
      ∀ env, SendsExactly env id data (min data.length (channel.server.left.getD 0))
        (Progress.done (.sent (min data.length (channel.server.left.getD 0)))) s
          (channelSend env id data s) := by
  intro hexact
  obtain ⟨s, hs, hp⟩ := Backend.exists_reachable (fun _ _ => True)
    [.packet emptyPacketOpen .agreeable]
    (fun s => (s.byServer 7).any fun (found : ℕ × ChannelHandle) => decide (
      found.2.server.left = some 65536 ∧ found.2.server.maximumPacketSize.toNat = 0))
    (by decide +kernel)
  obtain ⟨⟨index, channel⟩, hfind, hshown⟩ := (Option.any_eq_true _ _).mp hp
  obtain ⟨hleft, hpacket⟩ := of_decide_eq_true hshown
  have hcondition := (channelSend_exact_iff s ⟨1, 7⟩ [1] index channel hfind).mp
    (hexact s hs ⟨1, 7⟩ [1] index channel hfind)
  rw [hleft, hpacket] at hcondition
  rcases hcondition with h | h | h
  · cases h
  · cases h
  · exact absurd h.2 (Nat.lt_irrefl 0)

end Flatline
