import Flatline.Session.Numbers

/-!
# What a channel marked closed has had

The client marks a channel closed where it sends an `SSH_MSG_CHANNEL_CLOSE`. `channel_close` names the
server's number of the event but marks the channel it finds under the client's number: the two belong
to one channel as long as the event is not late, that is, as long as no other channel has come to
that client's number in the meantime.

Source: `src/session/backend.rs` (`channel_close`, `channel_clean`).
-/

namespace Flatline

open Relation

variable {s : Backend} {i : Input} {Q : Effect → Prop} {L L' : Ledger} {index : ℕ}
  {handle handle' : ChannelHandle}

/-- The channel a close event names is registered, or no registered channel has its client's
number. -/
def ClosesOwn (s : Backend) : Input → Prop
  | .event (.channelClose id) _ => id ∈ s.ledger.ids ∨ id.client ∉ s.ledger.clientIds
  | _ => True

instance (s : Backend) (i : Input) : Decidable (ClosesOwn s i) := by
  unfold ClosesOwn
  split <;> infer_instance

/-- Every channel that is marked closed has had its `SSH_MSG_CHANNEL_CLOSE`. -/
def ClosesSent (L : Ledger) : Prop :=
  ∀ handle ∈ L.channels, handle.client.closed = true →
    Effect.sent (.channelClose handle.id) ∈ L.log

/-! ## What keeps the marks true -/

namespace ClosesSent

theorem note (h : ClosesSent L) (effect : Effect) : ClosesSent (L.note effect) :=
  fun handle hmem hclosed => List.mem_cons_of_mem _ (h handle hmem hclosed)

theorem tell (h : ClosesSent L) (sender : QueueSender) (message : ChannelMessage) :
    ClosesSent (L.tell sender message) := by
  unfold Ledger.tell
  split
  · exact h
  · exact h.note _

/-- A channel is changed: if it is marked closed now, it has had its close. -/
theorem set (h : ClosesSent L) (hsent : handle'.client.closed = true →
    Effect.sent (.channelClose handle'.id) ∈ L.log) : ClosesSent (L.set index handle') := by
  intro other hmem hclosed
  rcases mem_set_cases hmem with rfl | ⟨j, -, hj⟩
  · exact hsent hclosed
  · exact h other (List.mem_of_getElem? hj) hclosed

/-- A channel is changed in another respect. -/
theorem change (h : ClosesSent L) (hget : L.channels[index]? = some handle)
    (hid : handle'.id = handle.id) (hmark : handle'.client.closed = handle.client.closed) :
    ClosesSent (L.set index handle') := by
  refine h.set fun hclosed => ?_
  rw [hid]
  exact h handle (List.mem_of_getElem? hget) (hmark ▸ hclosed)

theorem remove (h : ClosesSent L) (index : ℕ) (handle : ChannelHandle) :
    ClosesSent (L.remove index handle) :=
  fun other hmem hclosed =>
    List.mem_cons_of_mem _ (h other (List.mem_of_mem_eraseIdx hmem) hclosed)

theorem register (h : ClosesSent L) (hopen : handle.client.closed = false) :
    ClosesSent (L.register handle) := by
  intro other hmem hclosed
  rcases List.mem_append.mp hmem with hmem | hmem
  · exact List.mem_cons_of_mem _ (h other hmem hclosed)
  · rw [List.mem_singleton.mp hmem, hopen] at hclosed
    cases hclosed

theorem dropQueue (h : ClosesSent L) (queue : ℕ) : ClosesSent (L.dropQueue queue) := by
  intro other hmem hclosed
  obtain ⟨handle, hhandle, rfl⟩ := List.mem_map.mp hmem
  rw [ChannelHandle.client_dropQueue] at hclosed
  rw [ChannelHandle.id_dropQueue]
  exact h handle hhandle hclosed

/-- The close that is sent is that of the channel that is marked. -/
theorem closeClient (h : ClosesSent L) :
    ClosesSent ((L.note (.sent (.channelClose handle.id))).closeClient index handle) := by
  have hset : ClosesSent ((L.note (.sent (.channelClose handle.id))).set index handle.closeClient) :=
    (h.note _).set fun _ => List.mem_cons_self
  unfold Ledger.closeClient
  split
  · exact hset.remove _ _
  · exact hset

theorem closeServer (h : ClosesSent L) (hget : L.channels[index]? = some handle) :
    ClosesSent (L.closeServer index handle) := by
  have hset : ClosesSent ((L.tell handle.sender .close).set index handle.closeServer) := by
    refine (h.tell handle.sender .close).change ?_ handle.id_closeServer rfl
    rw [Ledger.channels_tell]
    exact hget
  unfold Ledger.closeServer
  simp only
  split
  · exact hset.remove _ _
  · exact hset

end ClosesSent

/-- With distinct numbers, the channel found under a client's number is the only one there. -/
theorem Ledger.eq_of_find {clientId : UInt32} (hnodup : L.clientIds.Nodup)
    (hfind : L.find clientId = some (index, handle)) (hmem : handle' ∈ L.channels)
    (hclient : handle'.client.id = clientId) : handle = handle' := by
  obtain ⟨hget, hfound⟩ := locate_eq_some hfind
  obtain ⟨hlt, rfl⟩ := List.getElem?_eq_some_iff.mp hget
  obtain ⟨k, hk, rfl⟩ := List.getElem_of_mem hmem
  have hsame : L.channels[index].client.id = L.channels[k].client.id :=
    (beq_iff_eq.mp hfound).trans hclient.symm
  have hindex : index = k := index_eq_of_map hnodup hlt hk hsame
  subst hindex
  rfl

/-- A step of the ledger keeps the marks true. -/
theorem ClosesSent.step (h : ClosesSent L) (hs : ClosesSent s.ledger) (hnodup : L.clientIds.Nodup)
    (hdistinct : s.ledger.clientIds.Nodup) (hguard : ClosesOwn s i)
    (hstep : LedgerStep s i Q L L') : ClosesSent L' := by
  cases hstep with
  | note | announce | request | requestOpened | receive => exact h.note _
  | drop => exact h.dropQueue _
  | peerClose _ _ hfind => exact (hs.note _).closeServer (Ledger.getElem?_of_find hfind)
  | @peerEof payload env clientId index handle _ _ hfind =>
    refine ((hs.note _).tell handle.sender .eof).change ?_ handle.id_eofServer (by rfl)
    rw [Ledger.channels_tell]
    exact Ledger.getElem?_of_find hfind
  | peerData _ _ hadmits =>
    exact ((hs.note _).change (getElem?_of_admitted hadmits) (by rfl) (by rfl)).tell _ _
  | @peerDataRefill payload env msg index handle data content count _ _ hadmits =>
    have htaken := (hs.note (.received payload)).change (getElem?_of_admitted hadmits)
      (handle.id_take data.length) rfl
    refine ((htaken.tell handle.sender content).note _).change
      (Ledger.getElem?_taken hadmits payload content _) (ChannelHandle.id_refill _ count) rfl
  | peerAdjust _ _ hfind =>
    exact ((hs.note _).change (Ledger.getElem?_of_find hfind) (by rfl) (by rfl)).tell _ _
  | accept => exact ((hs.note _).note _).register (by rfl)
  | confirm => exact (hs.note _).register (by rfl)
  | @closeEvent id env index handle hi hfind =>
    subst hi
    -- the event is not late, so it names the channel that is found
    have hclient : handle.client.id = id.client := beq_iff_eq.mp (locate_eq_some hfind).2
    have hmem : handle ∈ s.ledger.channels := List.mem_of_getElem? (Ledger.getElem?_of_find hfind)
    have hown : id ∈ s.ledger.ids := by
      refine hguard.resolve_right fun hnot => hnot ?_
      exact List.mem_map.mpr ⟨handle, hmem, hclient⟩
    obtain ⟨own, howned, rfl⟩ := List.mem_map.mp hown
    obtain rfl := Ledger.eq_of_find hdistinct hfind howned rfl
    exact h.closeClient
  | @closeRefused L payload env channels opened handle id index _ hchannels _ hopened _ _ _ hfind =>
    have hmem : opened ∈ L.channels := by
      rw [hchannels]
      exact List.mem_append_right _ List.mem_cons_self
    subst hopened
    obtain rfl := Ledger.eq_of_find hnodup hfind hmem rfl
    exact h.closeClient
  | sweep => exact h.closeClient
  | reap => exact h.remove _ _
  | eof _ hfind =>
    exact (hs.note _).change (Ledger.getElem?_of_find hfind) (by rfl) (by rfl)
  | data _ _ _ hget => exact (h.note _).change hget (by rfl) (by rfl)

theorem ClosesSent.path (hs : ClosesSent s.ledger) (hdistinct : DistinctNumbers s)
    (hpicks : PicksFree s i) (hguard : ClosesOwn s i) (hpath : LedgerPath s i Q s.ledger L) :
    ClosesSent L := by
  induction hpath with
  | refl => exact hs
  | tail hprefix hstep ih =>
    exact ih.step hs (hdistinct.path hpicks hprefix).1 hdistinct.nodup hguard hstep

end Flatline
