import Flatline.Common.Triple
import Flatline.Session.Ledger

/-!
# The backend refines the channel ledger

Every handler and every event of the backend follows a path of the channel ledger. `At s L` holds of
a backend that the current turn, started in `s`, has brought to the ledger `L`; `Along` of one that
is at the end of some path. One lemma per function says that it keeps `Along`.

Source: `src/session/backend.rs`.
-/

namespace Flatline

open Triple Relation

/-! ## Lookups -/

/-- What `locate` finds is at the index it returns, and has the property. -/
theorem locate_eq_some {α : Type} {p : α → Bool} {l : List α} {index : ℕ} {a : α}
    (h : locate p l = some (index, a)) : l[index]? = some a ∧ p a = true := by
  induction l generalizing index with
  | nil => cases h
  | cons b l ih =>
    rw [locate] at h
    split at h
    · next hp =>
        injection h with h
        injection h with hindex ha
        subst hindex ha
        exact ⟨rfl, hp⟩
    · rw [Option.map_eq_some_iff] at h
      obtain ⟨⟨k, c⟩, hk, heq⟩ := h
      injection heq with hindex ha
      subst hindex ha
      exact ih hk

/-- `locate` finds something exactly when something has the property. -/
theorem locate_eq_none_iff {α : Type} {p : α → Bool} {l : List α} :
    locate p l = none ↔ ∀ a ∈ l, p a = false := by
  induction l with
  | nil => simp [locate]
  | cons b l ih =>
    rw [locate]
    split
    · next hp => simp [hp]
    · next hp => simp [hp, ih]

namespace Backend

@[simp] theorem ledger_note (s : Backend) (effect : Effect) :
    (s.note effect).ledger = s.ledger.note effect := rfl

theorem find_ledger (s : Backend) (clientId : UInt32) :
    s.ledger.find clientId = s.byClient clientId := rfl

theorem nextId_ledger (s : Backend) : s.ledger.nextId = s.nextChannelId := by
  simp only [Ledger.nextId, Ledger.clientIds, Backend.ledger, SessionInner.nextChannelId,
    List.foldl_map]

theorem byServer_eq_none_iff (s : Backend) (serverId : UInt32) :
    (s.byServer serverId).isSome = false ↔ serverId ∉ s.ledger.serverIds := by
  rw [Option.isSome_eq_false_iff, Option.isNone_iff_eq_none, SessionInner.byServer,
    locate_eq_none_iff]
  simp only [beq_eq_false_iff_ne, Ledger.serverIds, Backend.ledger, List.mem_map, not_exists,
    not_and]

end Backend

/-! ## Where a turn has come to -/

/-- The turn that started in `s` has brought the backend to the ledger `L`; program point and
pending key exchange are still those of `s`. -/
structure At (s : Backend) (L : Ledger) (w : Backend) : Prop where
  ledger : w.ledger = L
  task : w.task = s.task
  renegotiating : w.renegotiating = s.renegotiating
  renegotiateMsg : w.renegotiateMsg = s.renegotiateMsg

/-- The turn has followed a path of the ledger. -/
def Along (s : Backend) (i : Input) (Q : Effect → Prop) (w : Backend) : Prop :=
  ∃ L, LedgerPath s i Q s.ledger L ∧ At s L w

/-- A program goes on along the ledger, whether it returns or stops. -/
abbrev Follows {α : Type} (s : Backend) (i : Input) (P : Backend → Prop) (m : BackendM α) : Prop :=
  Holds P m (fun _ => Along s i Effect.Ordinary) (fun _ => Along s i Effect.Ordinary)

/-- A program that goes on along the ledger from wherever it starts. -/
abbrev Keeps {α : Type} (s : Backend) (i : Input) (m : BackendM α) : Prop :=
  Follows s i (Along s i Effect.Ordinary) m

variable {s w : Backend} {i : Input} {L : Ledger} {α β : Type} {E : Fault → Backend → Prop}

theorem At.start (s : Backend) : At s s.ledger s := ⟨rfl, rfl, rfl, rfl⟩

theorem At.of_ledger {L' : Ledger} {w' : Backend} (h : At s L w) (hledger : w'.ledger = L')
    (htask : w'.task = w.task) (hre : w'.renegotiating = w.renegotiating)
    (hmsg : w'.renegotiateMsg = w.renegotiateMsg) : At s L' w' :=
  ⟨hledger, htask.trans h.task, hre.trans h.renegotiating, hmsg.trans h.renegotiateMsg⟩

theorem At.along (h : At s L w) {Q : Effect → Prop} (hpath : LedgerPath s i Q s.ledger L) :
    Along s i Q w :=
  ⟨L, hpath, h⟩

/-! ### From one ledger -/

/-- Reading the backend: the ledger is that of the value read. -/
theorem at_get : Holds (At s L) get (fun w w' => At s L w ∧ At s L w') E :=
  Holds.get

theorem at_note (effect : Effect) :
    Holds (At s L) (note effect) (fun _ => At s (L.note effect)) E :=
  Holds.modify fun _ h => h.of_ledger (by rw [Backend.ledger_note, h.ledger]) rfl rfl rfl

/-- A change the ledger does not see. -/
theorem at_modify {f : Backend → Backend} (hledger : ∀ w, (f w).ledger = w.ledger)
    (htask : ∀ w, (f w).task = w.task) (hre : ∀ w, (f w).renegotiating = w.renegotiating)
    (hmsg : ∀ w, (f w).renegotiateMsg = w.renegotiateMsg) :
    Holds (At s L) (modify f) (fun _ => At s L) E :=
  Holds.modify fun w h =>
    h.of_ledger ((hledger w).trans h.ledger) (htask w) (hre w) (hmsg w)

theorem at_sendPayload (env : Env) (message : ClientMessage) :
    Holds (At s L) (sendPayload env message) (fun _ => At s (L.note (.sent message)))
      (fun _ => At s L) := by
  intro w h
  simp only [sendPayload]
  by_cases hlong : message.encode.length > maxPacketPayloadLength
  · rw [if_pos hlong]
    exact h
  · rw [if_neg hlong]
    cases env.writeError w.attempts with
    | some e => exact h.of_ledger h.ledger rfl rfl rfl
    | none => exact h.of_ledger (by rw [← h.ledger]; rfl) rfl rfl rfl

theorem at_deliver (sender : QueueSender) (message : ChannelMessage) :
    Holds (At s L) (deliver sender message)
      (fun delivered w => delivered = !sender.closed ∧
        At s (L.tell sender message) w) E := by
  unfold deliver Ledger.tell
  cases hclosed : sender.closed with
  | true => exact Holds.pure fun w h => ⟨rfl, h⟩
  | false => exact (at_note _).bind fun _ => Holds.pure fun w h => ⟨rfl, h⟩

theorem at_setChannel (index : ℕ) (handle : ChannelHandle) :
    Holds (At s L) (setChannel index handle) (fun _ => At s (L.set index handle)) E :=
  Holds.modify fun w h => h.of_ledger (by rw [← h.ledger]; rfl) rfl rfl rfl

theorem at_removeChannel (index : ℕ) (handle : ChannelHandle) :
    Holds (At s L) (removeChannel index handle) (fun _ => At s (L.remove index handle)) E :=
  Holds.modify fun w h => h.of_ledger (by rw [← h.ledger]; rfl) rfl rfl rfl

theorem at_pushChannel (id : IdentityPair) (clientWindow clientPacket serverWindow serverPacket :
    UInt32) :
    Holds (At s L) (pushChannel (.opened id.client clientWindow clientPacket)
        (.opened id.server serverWindow serverPacket))
      (fun queue w => queue = L.nextQueue ∧ At s (L.register
        (.opened id clientWindow clientPacket serverWindow serverPacket queue)) w) E := by
  refine at_get.bind fun w => Holds.of_and fun hw => ?_
  have hqueue : w.nextQueue = L.nextQueue := congrArg Ledger.nextQueue hw.ledger
  refine (Holds.modify fun w' h => ?_).bind fun _ => Holds.pure fun _ h => ⟨hqueue, h⟩
  exact h.of_ledger (by rw [← h.ledger]; rfl) rfl rfl rfl

theorem at_dropReceiver (queue : ℕ) :
    Holds (At s L) (dropReceiver queue) (fun _ => At s (L.dropQueue queue)) E :=
  Holds.modify fun w h => h.of_ledger (by rw [← h.ledger]; rfl) rfl rfl rfl

theorem at_upgradeFrontend (queue : ℕ) :
    Holds (At s L) (upgradeFrontend queue) (fun _ => At s L)
      (fun _ => At s (L.dropQueue queue)) :=
  at_get.bind fun w => Holds.of_and fun _ => by
    split
    · exact Holds.pure fun _ h => h
    · exact (at_dropReceiver queue).bind fun _ => Holds.throw fun _ h => h

theorem at_leftOrPanic (endpoint : ChannelEndpoint) :
    Holds (At s L) (leftOrPanic endpoint) (fun left w => endpoint.left = some left ∧ At s L w)
      (fun _ => At s L) := by
  unfold leftOrPanic
  cases endpoint.left with
  | none => exact Holds.throw fun _ h => h
  | some left => exact Holds.pure fun _ h => ⟨rfl, h⟩

/-! ### From anywhere on the path -/

theorem along_of_at {Q : Effect → Prop} (hpath : LedgerPath s i Q s.ledger L) :
    ∀ w, At s L w → Along s i Q w :=
  fun _ h => h.along hpath

/-- What follows the ledger from every point of the path keeps it. -/
theorem Keeps.of_at {m : BackendM α}
    (h : ∀ L, LedgerPath s i Effect.Ordinary s.ledger L → Follows s i (At s L) m) :
    Keeps s i m :=
  Holds.of_exists fun L => Holds.of_and (h L)

theorem keeps_pure (a : α) : Keeps s i (pure a : BackendM α) :=
  Holds.pure fun _ h => h

theorem keeps_throw (fault : Fault) : Keeps s i (throw fault : BackendM α) :=
  Holds.throw fun _ h => h

theorem Keeps.bind {m : BackendM α} {f : α → BackendM β} (hm : Keeps s i m)
    (hf : ∀ a, Keeps s i (f a)) : Keeps s i (m >>= f) :=
  Holds.bind hm hf

theorem Keeps.get_bind {f : Backend → BackendM β} (hf : ∀ w, Keeps s i (f w)) :
    Keeps s i (get >>= f) :=
  Holds.get.bind fun w => Holds.of_and fun _ => hf w

theorem keeps_note {effect : Effect} (h : effect.Ordinary) : Keeps s i (note effect) :=
  .of_at fun _ hpath => (at_note effect).post fun _ => along_of_at (hpath.tail (.note h))

/-- A change the ledger does not see. -/
theorem keeps_modify {f : Backend → Backend} (hledger : ∀ w, (f w).ledger = w.ledger)
    (htask : ∀ w, (f w).task = w.task) (hre : ∀ w, (f w).renegotiating = w.renegotiating)
    (hmsg : ∀ w, (f w).renegotiateMsg = w.renegotiateMsg) : Keeps s i (modify f) :=
  .of_at fun _ hpath => (at_modify hledger htask hre hmsg).post fun _ => along_of_at hpath

/-- Sending a message, given the step the ledger takes with it. -/
theorem follows_sendPayload (env : Env) {message : ClientMessage}
    (hpath : LedgerPath s i Effect.Ordinary s.ledger L)
    (hstep : LedgerStep s i Effect.Ordinary L (L.note (.sent message))) :
    Follows s i (At s L) (sendPayload env message) :=
  (at_sendPayload env message).mono (fun _ h => h) (fun _ => along_of_at (hpath.tail hstep))
    (fun _ => along_of_at hpath)

theorem keeps_sendPayload (env : Env) {message : ClientMessage}
    (h : (Effect.sent message).Ordinary) : Keeps s i (sendPayload env message) :=
  .of_at fun _ hpath => follows_sendPayload env hpath (.note h)

theorem keeps_liftExcept (x : Except Error α) : Keeps s i (liftExcept x) := by
  cases x with
  | error e => exact keeps_throw _
  | ok a => exact keeps_pure a

theorem keeps_deliver (sender : QueueSender) (message : ChannelMessage)
    (h : (Effect.delivered sender.queue message).Ordinary) :
    Keeps s i (deliver sender message) := by
  unfold deliver
  split
  · exact keeps_pure _
  · exact (keeps_note h).bind fun _ => keeps_pure _

/-! ## Handlers that leave the table alone -/

/-- A lookup by the client's number, as the ledger sees it. -/
theorem At.find {clientId : UInt32} {found : Option (ℕ × ChannelHandle)} (h : At s L w)
    (hfind : w.byClient clientId = found) : L.find clientId = found := by
  rw [← h.ledger, Backend.find_ledger, hfind]

/-- The handle a lookup finds stands at the index it returns. -/
theorem Ledger.getElem?_of_find {clientId : UInt32} {index : ℕ} {handle : ChannelHandle}
    (h : L.find clientId = some (index, handle)) : L.channels[index]? = some handle :=
  (locate_eq_some h).1

theorem keeps_notifyChannel (clientId : UInt32) {message : ChannelMessage}
    (h : ∀ queue, (Effect.delivered queue message).Ordinary) :
    Keeps s i (notifyChannel clientId message) :=
  .get_bind fun _ => by
    split
    · exact keeps_pure _
    · exact (keeps_deliver _ message (h _)).bind fun _ => keeps_pure _

theorem keeps_handleChannelUnknownRequest (env : Env) (recipientChannel : UInt32)
    (wantReply : Bool) :
    Keeps s i (handleChannelUnknownRequest env recipientChannel wantReply) :=
  .get_bind fun _ => by
    split
    · exact keeps_pure _
    · split
      · exact keeps_sendPayload env ⟨rfl, rfl⟩
      · exact keeps_pure _

theorem keeps_sendUnimplemented (env : Env) : Keeps s i (sendUnimplemented env) :=
  .get_bind fun _ => keeps_sendPayload env ⟨rfl, rfl⟩

theorem keeps_handleExtInfo (extensions : List (Text × Bytes)) :
    Keeps s i (handleExtInfo extensions) := by
  have hping : Keeps s i (if extensions.lookup (ascii "ping@openssh.com") = some (ascii "0") then
      modify fun s : Backend => { s with serverPingSupported := true }
      else pure ()) := by
    split
    · exact keeps_modify (fun _ => rfl) (fun _ => rfl) (fun _ => rfl) (fun _ => rfl)
    · exact keeps_pure _
  unfold handleExtInfo
  simp only
  split
  · exact hping
  · split
    · refine Keeps.bind ?_ fun _ => hping
      exact keeps_modify (fun _ => rfl) (fun _ => rfl) (fun _ => rfl) (fun _ => rfl)
    · exact keeps_pure _

/-- A reply to a global request, if one is wanted. -/
theorem keeps_reply (env : Env) (wantReply : Bool) {message : ClientMessage}
    (h : (Effect.sent message).Ordinary) :
    Keeps s i (if wantReply then sendPayload env message else pure ()) := by
  split
  · exact keeps_sendPayload env h
  · exact keeps_pure _

theorem keeps_handleGlobalRequestHostsKeyOpenSSH (env : Env) (wantReply : Bool) :
    Keeps s i (handleGlobalRequestHostsKeyOpenSSH env wantReply) :=
  keeps_reply env wantReply (by split <;> exact ⟨rfl, rfl⟩)

/-! ## Window, close and end of data -/

/-- Where a packet takes the backend before it is looked at. -/
theorem At.afterRecv (s : Backend) (payload : Bytes) :
    At s (s.ledger.note (.received payload)) (s.afterRecv payload) :=
  ⟨rfl, rfl, rfl, rfl⟩

/-- A message that is no data is admitted nowhere. -/
theorem admittedData_of_none {msg : Message} (session : SessionInner)
    (h : msg.channelData? = none) : session.admittedData msg = none := by
  rw [SessionInner.admittedData, h]

/-- A packet that is no close, and that has no data a channel admits, is received as it is. -/
theorem path_receive_of_not_admitted {payload : Bytes} {env : Env} {msg : Message}
    {Q : Effect → Prop} (hi : i = .packet payload env) (hparse : Message.parse payload = .ok msg)
    (hmsg : ∀ clientId, msg ≠ .channelClose clientId) (hdata : s.admittedData msg = none) :
    LedgerPath s i Q s.ledger (s.ledger.note (.received payload)) := by
  refine .single (.receive hi (fun clientId hclose _ => ?_) fun msg' hparse' => ?_)
  · rw [hparse] at hclose
    injection hclose with hclose
    exact absurd hclose (hmsg clientId)
  · rw [hparse] at hparse'
    injection hparse' with hmsg'
    exact hmsg' ▸ hdata

/-- A packet that is neither a close nor data is received as it is. -/
theorem path_receive {payload : Bytes} {env : Env} {msg : Message} {Q : Effect → Prop}
    (hi : i = .packet payload env) (hparse : Message.parse payload = .ok msg)
    (hmsg : ∀ clientId, msg ≠ .channelClose clientId) (hdata : msg.channelData? = none) :
    LedgerPath s i Q s.ledger (s.ledger.note (.received payload)) :=
  path_receive_of_not_admitted hi hparse hmsg (admittedData_of_none _ hdata)

theorem follows_handleChannelWindowAdjust {payload : Bytes} {env : Env} {clientId count : UInt32}
    (hi : i = .packet payload env)
    (hparse : Message.parse payload = .ok (.channelWindowAdjust clientId count)) :
    Follows s i (At s (s.ledger.note (.received payload)))
      (handleChannelWindowAdjust clientId count) := by
  have hreceive := path_receive (s := s) (Q := Effect.Ordinary) hi hparse (by simp) rfl
  refine at_get.bind fun w => Holds.of_and fun hw => ?_
  rcases hfind : w.byClient clientId with _ | ⟨index, channel⟩
  · exact Holds.pure (along_of_at hreceive)
  · simp only
    split
    · exact Holds.throw (along_of_at hreceive)
    · next hrange =>
        refine (at_setChannel index _).bind fun _ => (at_deliver _ _).bind fun _ =>
          Holds.of_and fun _ => Holds.pure fun w' h => ?_
        have hstep : LedgerStep s i Effect.Ordinary (s.ledger.note (.received payload)) _ :=
          .peerAdjust hi hparse (hw.find hfind) (not_lt.mp hrange)
        exact h.along (hreceive.tail hstep)

theorem follows_handleChannelEof {payload : Bytes} {env : Env} {clientId : UInt32}
    (hi : i = .packet payload env)
    (hparse : Message.parse payload = .ok (.channelEof clientId)) :
    Follows s i (At s (s.ledger.note (.received payload))) (handleChannelEof clientId) := by
  have hreceive := path_receive (s := s) (Q := Effect.Ordinary) hi hparse (by simp) rfl
  refine at_get.bind fun w => Holds.of_and fun hw => ?_
  rcases hfind : w.byClient clientId with _ | ⟨index, channel⟩
  · exact Holds.pure (along_of_at hreceive)
  · refine (at_deliver _ _).bind fun _ => Holds.of_and fun _ => ?_
    refine (at_setChannel index _).post fun _ w' h => ?_
    have hstep : LedgerStep s i Effect.Ordinary (s.ledger.note (.received payload)) _ :=
      .peerEof hi hparse (hw.find hfind)
    exact h.along (hreceive.tail hstep)

/-- Replacing a handle by one with the same entry keeps the entries. -/
theorem Ledger.entries_set {index : ℕ} {handle handle' : ChannelHandle}
    (hget : L.channels[index]? = some handle) (hentry : handle'.entry = handle.entry) :
    (L.set index handle').entries = L.entries := by
  obtain ⟨hlt, rfl⟩ := List.getElem?_eq_some_iff.mp hget
  have hlt' : index < (L.channels.map ChannelHandle.entry).length := by simpa using hlt
  have hself := List.set_getElem_self hlt'
  rw [List.getElem_map] at hself
  simp only [Ledger.entries, Ledger.set, List.map_set, hentry, hself]

@[simp] theorem Ledger.channels_note (effect : Effect) : (L.note effect).channels = L.channels :=
  rfl

@[simp] theorem Ledger.channels_tell (sender : QueueSender) (message : ChannelMessage) :
    (L.tell sender message).channels = L.channels := by
  unfold Ledger.tell
  split <;> rfl

theorem Ledger.getElem?_set {index : ℕ} {handle handle' : ChannelHandle}
    (hget : L.channels[index]? = some handle) :
    (L.set index handle').channels[index]? = some handle' := by
  obtain ⟨hlt, -⟩ := List.getElem?_eq_some_iff.mp hget
  simp [Ledger.set, hlt]

/-! ## Data -/

/-- What an endpoint has left. -/
theorem ChannelEndpoint.left_eq_some {endpoint : ChannelEndpoint} {left : ℕ}
    (h : endpoint.left = some left) :
    (left : ℤ) = endpoint.initialWindowSize.toNat - endpoint.usedWindowSize := by
  unfold ChannelEndpoint.left at h
  simp only at h
  split at h
  · injection h with h
    omega
  · cases h

/-- What a window that holds `size` octets has left after them. -/
theorem ChannelEndpoint.left_add {endpoint : ChannelEndpoint} {left size : ℕ}
    (hleft : endpoint.left = some left) (hroom : size ≤ left) :
    { endpoint with usedWindowSize := endpoint.usedWindowSize + size }.left =
      some (left - size) := by
  unfold ChannelEndpoint.left at hleft ⊢
  simp only at hleft ⊢
  split at hleft
  · next hrange =>
      injection hleft with hleft
      rw [if_pos ⟨by omega, by omega⟩]
      exact congrArg some (by omega)
  · cases hleft

theorem leftOrPanic_of_some {endpoint : ChannelEndpoint} {left : ℕ}
    (hleft : endpoint.left = some left) : leftOrPanic endpoint = pure left := by
  unfold leftOrPanic
  rw [hleft]

theorem leftOrPanic_of_none {endpoint : ChannelEndpoint} (hleft : endpoint.left = none) :
    leftOrPanic endpoint = throw .panicked := by
  unfold leftOrPanic
  rw [hleft]

/-- `send_payload` with a payload of at most the maximum length. -/
theorem sendPayload_run (env : Env) {message : ClientMessage} (w : Backend)
    (hlength : message.encode.length ≤ maxPacketPayloadLength) :
    sendPayload env message w =
      match env.writeError w.attempts with
      | some e => .error (.error e) { w with attempts := w.attempts + 1 }
      | none => .ok () (w.afterSend message) :=
  if_neg (not_lt.mpr hlength)

/-- The end of `handle_channel_data`. -/
theorem adjustWindow_run (env : Env) (index : ℕ) {channel : ChannelHandle} {left n : ℕ}
    {w : Backend} (hleft : channel.client.left = some left) (hattempts : w.attempts = n) :
    adjustWindow env index channel w =
      if left < minWindowLeft then
        match env.writeError n with
        | some e => .error (.error e) { w with attempts := w.attempts + 1 }
        | none => .ok () { w.afterSend (.channelWindowAdjust channel.id channel.client.adjustment)
            with channels := w.channels.set index (channel.refill channel.client.adjustment) }
      else .ok () w := by
  subst hattempts
  unfold adjustWindow
  rw [leftOrPanic_of_some hleft, pure_bind]
  split
  · show EStateM.bind (sendPayload env _) _ w = _
    have hlength : (ClientMessage.channelWindowAdjust channel.id
        channel.client.adjustment).encode.length ≤ maxPacketPayloadLength := by
      simp [ClientMessage.encode, makeBufferWithoutHeader, Field.put, maxPacketPayloadLength]
    simp only [EStateM.bind]
    rw [sendPayload_run env w hlength]
    cases env.writeError w.attempts with
    | some e => rfl
    | none => rfl
  · rfl

theorem get_bind_apply {α : Type} (f : Backend → BackendM α) (w : Backend) :
    (get >>= f) w = f w w := rfl

/-- `handle_channel_data` with data the channel admits. -/
theorem handleChannelData_run (env : Env) {clientId : UInt32} {data : Bytes} (stderr : Bool)
    {index : ℕ} {channel : ChannelHandle} {w : Backend}
    (hfind : w.byClient clientId = some (index, channel))
    (hadmits : channel.admits data.length = true) :
    handleChannelData env clientId data stderr w =
      (do
        if ← deliver channel.sender (if stderr then .stderr data else .stdout data) then
          adjustWindow env index (channel.take data.length)
        else
          return)
        { w with channels := w.channels.set index (channel.take data.length) } := by
  simp only [ChannelHandle.admits, Bool.and_eq_true, decide_eq_true_eq, Option.any_eq_true] at hadmits
  obtain ⟨hfits, left, hleft, hroom⟩ := hadmits
  unfold handleChannelData
  rw [get_bind_apply, hfind]
  simp only
  rw [if_neg (not_lt.mpr hfits), leftOrPanic_of_some hleft, pure_bind, if_neg (not_lt.mpr hroom)]
  rfl

/-- `handle_channel_data` with data the channel does not admit leaves everything as it is. -/
theorem handleChannelData_not_admitted (env : Env) {clientId : UInt32} {data : Bytes}
    (stderr : Bool) {index : ℕ} {channel : ChannelHandle} {w : Backend}
    (hfind : w.byClient clientId = some (index, channel))
    (hadmits : channel.admits data.length = false) :
    handleChannelData env clientId data stderr w =
      if data.length ≤ channel.client.maximumPacketSize.toNat then
        .error (match channel.client.left with
          | none => .panicked
          | some _ => .error (.session .channelWindowOverflow)) w
      else .ok () w := by
  unfold handleChannelData
  rw [get_bind_apply, hfind]
  simp only
  by_cases hfits : data.length ≤ channel.client.maximumPacketSize.toNat
  · rw [if_neg (not_lt.mpr hfits), if_pos hfits]
    rcases hleft : channel.client.left with _ | left
    · rw [leftOrPanic_of_none hleft]
      rfl
    · have hroom : left < data.length := by
        simpa [ChannelHandle.admits, hfits, hleft] using hadmits
      rw [leftOrPanic_of_some hleft, pure_bind, if_pos hroom]
      rfl
  · rw [if_pos (not_le.mp hfits), if_neg hfits]
    rfl

/-- What a data message admits is found by its number. -/
theorem admittedData_eq_some {msg : Message} {index : ℕ} {channel : ChannelHandle} {data : Bytes}
    (h : s.admittedData msg = some (index, channel, data)) :
    ∃ clientId, msg.channelData? = some (clientId, data) ∧
      s.byClient clientId = some (index, channel) ∧ channel.admits data.length = true := by
  unfold SessionInner.admittedData at h
  rcases hdata : msg.channelData? with _ | ⟨clientId, data'⟩
  · rw [hdata] at h
    cases h
  · rw [hdata] at h
    simp only at h
    rcases hfind : s.byClient clientId with _ | ⟨index', channel'⟩
    · rw [hfind] at h
      cases h
    · rw [hfind] at h
      simp only at h
      split at h
      · next hadmits =>
          simp only [Option.some.injEq, Prod.mk.injEq] at h
          obtain ⟨rfl, rfl, rfl⟩ := h
          exact ⟨clientId, rfl, hfind, hadmits⟩
      · cases h

theorem getElem?_of_admitted {msg : Message} {index : ℕ} {channel : ChannelHandle} {data : Bytes}
    (h : s.admittedData msg = some (index, channel, data)) : s.channels[index]? = some channel := by
  obtain ⟨_, _, hfind, _⟩ := admittedData_eq_some h
  exact (locate_eq_some hfind).1

theorem admittedData_of_find {msg : Message} {clientId : UInt32} {index : ℕ}
    {channel : ChannelHandle} {data : Bytes} (hdata : msg.channelData? = some (clientId, data))
    (hfind : s.byClient clientId = some (index, channel)) :
    s.admittedData msg =
      if channel.admits data.length = true then some (index, channel, data) else none := by
  simp only [SessionInner.admittedData, hdata, hfind]

theorem refills_of_admitted {msg : Message} {index : ℕ} {channel : ChannelHandle} {data : Bytes}
    (h : s.admittedData msg = some (index, channel, data)) :
    s.refills msg =
      if channel.sender.closed = false ∧ (channel.take data.length).runsLow = true then some channel
      else none := by
  simp only [SessionInner.refills, h]

/-- A channel that has admitted data has a window left. -/
theorem ChannelHandle.left_take {channel : ChannelHandle} {size : ℕ}
    (h : channel.admits size = true) :
    ∃ left, channel.client.left = some left ∧ size ≤ left ∧
      (channel.take size).client.left = some (left - size) := by
  simp only [ChannelHandle.admits, Bool.and_eq_true, decide_eq_true_eq, Option.any_eq_true] at h
  obtain ⟨-, left, hleft, hroom⟩ := h
  exact ⟨left, hleft, hroom, ChannelEndpoint.left_add hleft hroom⟩

/-- Where the handle of admitted data stands before its window is refilled. -/
theorem Ledger.getElem?_taken {msg : Message} {index : ℕ} {channel : ChannelHandle} {data : Bytes}
    (h : s.admittedData msg = some (index, channel, data)) (payload : Bytes)
    (content : ChannelMessage) (effect : Effect) :
    ((((s.ledger.note (.received payload)).set index (channel.take data.length)).tell
      channel.sender content).note effect).channels[index]? = some (channel.take data.length) := by
  rw [Ledger.channels_note, Ledger.channels_tell]
  exact Ledger.getElem?_set (L := s.ledger.note _) (getElem?_of_admitted h)

theorem Ledger.tell_eq (L : Ledger) (sender : QueueSender) (message : ChannelMessage) :
    L.tell sender message =
      { L with log := if sender.closed then L.log else .delivered sender.queue message :: L.log } := by
  unfold Ledger.tell Ledger.note
  split <;> rfl

theorem follows_handleChannelData {payload : Bytes} {env : Env} {msg : Message}
    {clientId : UInt32} {data : Bytes} (stderr : Bool) (hi : i = .packet payload env)
    (hparse : Message.parse payload = .ok msg)
    (hdata : msg.channelData? = some (clientId, data))
    (hcontent : msg.channelContent = some (if stderr then .stderr data else .stdout data)) :
    Follows s i (· = s.afterRecv payload) (handleChannelData env clientId data stderr) := by
  have hmsg : ∀ clientId, msg ≠ .channelClose clientId := by
    rintro clientId rfl
    cases hdata
  rintro _ rfl
  have hat := At.afterRecv s payload
  rcases hfind : s.byClient clientId with _ | ⟨index, channel⟩
  -- the channel is not registered: nothing but the receipt
  · have hnone : s.admittedData msg = none := by simp only [SessionInner.admittedData, hdata, hfind]
    have hrun : handleChannelData env clientId data stderr (s.afterRecv payload) =
        .ok () (s.afterRecv payload) := by
      have hfind' : (s.afterRecv payload).byClient clientId = none := hfind
      unfold handleChannelData
      rw [get_bind_apply, hfind']
      rfl
    rw [hrun]
    exact hat.along (path_receive_of_not_admitted hi hparse hmsg hnone)
  · have hfind' : (s.afterRecv payload).byClient clientId = some (index, channel) := hfind
    have hadmitted := admittedData_of_find hdata hfind
    -- what is longer than a packet or the window is not counted
    cases hadmits : channel.admits data.length with
    | false =>
      rw [hadmits, if_neg (by simp)] at hadmitted
      rw [handleChannelData_not_admitted env stderr hfind' hadmits]
      split_ifs <;> exact hat.along (path_receive_of_not_admitted hi hparse hmsg hadmitted)
    | true =>
      rw [hadmits, if_pos rfl] at hadmitted
      obtain ⟨left, -, -, hleft⟩ := ChannelHandle.left_take hadmits
      have hrefills := refills_of_admitted hadmitted
      have hkept (hkept : s.refills msg = none ∨ (env.writeError s.attempts).isSome = true) :=
        ReflTransGen.single
          (LedgerStep.peerData (Q := Effect.Ordinary) hi hparse hadmitted hcontent hkept)
      rw [handleChannelData_run env stderr hfind' hadmits]
      -- a queue without a receiver takes the data away, and the window is not opened again
      cases hclosed : channel.sender.closed with
      | true =>
        rw [hclosed, if_neg (by simp)] at hrefills
        simp only [deliver, hclosed, if_true]
        exact ⟨_, hkept (.inl hrefills), by rw [Ledger.tell_eq, hclosed]; rfl, rfl, rfl, rfl⟩
      | false =>
        have hrun : ∀ w : Backend, (do
            if ← deliver channel.sender (if stderr then .stderr data else .stdout data) then
              adjustWindow env index (channel.take data.length)
            else return : BackendM Unit) w = adjustWindow env index (channel.take data.length)
              (w.note (.delivered channel.sender.queue
                (if stderr then .stderr data else .stdout data))) := by
          intro w
          simp only [deliver, hclosed]
          rfl
        rw [hrun, adjustWindow_run env index (n := s.attempts) hleft (by rfl)]
        -- whether the adjustment is due depends on the window after the data
        by_cases hlow : left - data.length < minWindowLeft
        · rw [if_pos hlow]
          have hrefills : s.refills msg = some channel := by
            rw [hrefills, if_pos ⟨hclosed, by simpa [ChannelHandle.runsLow, hleft] using hlow⟩]
          cases hwrite : env.writeError s.attempts with
          | some e =>
            refine ⟨_, hkept (.inr (by rw [hwrite]; rfl)), ?_, rfl, rfl, rfl⟩
            rw [Ledger.tell_eq, hclosed]
            rfl
          | none =>
            refine ⟨_, .single (.peerDataRefill hi hparse hadmitted hcontent hrefills rfl), ?_,
              rfl, rfl, rfl⟩
            rw [Ledger.tell_eq, hclosed]
            rfl
        · rw [if_neg hlow]
          have hrefills : s.refills msg = none := by
            rw [hrefills, if_neg fun h => hlow (by simpa [ChannelHandle.runsLow, hleft] using h.2)]
          exact ⟨_, hkept (.inl hrefills), by rw [Ledger.tell_eq, hclosed]; rfl, rfl, rfl, rfl⟩

theorem Ledger.getElem?_told {index : ℕ} {handle : ChannelHandle}
    (hget : L.channels[index]? = some handle) (sender : QueueSender) (message : ChannelMessage) :
    (L.tell sender message).channels[index]? = some handle := by
  rw [Ledger.channels_tell, hget]

/-- The common end of the functions that set a `closed` flag: replace the handle, and remove it if
the other side has closed the channel too. -/
theorem at_setOrRemove (index : ℕ) (handle : ChannelHandle) (both : Bool) :
    Holds (At s L)
      (do setChannel index handle; if both then removeChannel index handle else pure ())
      (fun _ => At s (if both then (L.set index handle).remove index handle
        else L.set index handle)) E := by
  refine (at_setChannel index handle).bind fun _ => ?_
  cases both with
  | true => exact at_removeChannel index handle
  | false => exact Holds.pure fun _ h => h

/-- `handle_channel_close`: the receiver is told, then the flag is set. -/
theorem at_handleChannelClose (clientId : UInt32) :
    Holds (At s L) (handleChannelClose clientId)
      (fun _ w => match L.find clientId with
        | none => At s L w
        | some (index, handle) => At s (L.closeServer index handle) w) E := by
  refine at_get.bind fun w => Holds.of_and fun hw => ?_
  rcases hfind : w.byClient clientId with _ | ⟨index, channel⟩
  · rw [hw.find hfind]
    exact Holds.pure fun _ h => h
  · rw [hw.find hfind]
    exact (at_deliver _ _).bind fun _ => Holds.of_and fun _ =>
      at_setOrRemove index channel.closeServer channel.client.closed

/-- `channel_close`: the close is sent, then the flag is set. -/
theorem at_channelClose (env : Env) (id : IdentityPair) :
    Holds (At s L) (channelClose env id)
      (fun _ w => ∃ index handle, L.find id.client = some (index, handle) ∧
        At s ((L.note (.sent (.channelClose id))).closeClient index handle) w)
      (fun _ => At s L) := by
  refine at_get.bind fun w => Holds.of_and fun hw => ?_
  rcases hfind : w.byClient id.client with _ | ⟨index, channel⟩
  · exact Holds.throw fun _ h => h
  · refine (at_sendPayload env _).bind fun _ => ?_
    refine (at_setOrRemove index channel.closeClient channel.server.closed).post fun _ w' h => ?_
    exact ⟨index, channel, hw.find hfind, h⟩

theorem follows_handleChannelClose {payload : Bytes} {env : Env} {clientId : UInt32}
    (hi : i = .packet payload env)
    (hparse : Message.parse payload = .ok (.channelClose clientId)) :
    Follows s i (At s (s.ledger.note (.received payload))) (handleChannelClose clientId) := by
  refine (at_handleChannelClose clientId).post fun _ w h => ?_
  change match s.ledger.find clientId with | none => _ | some (index, e) => _ at h
  rcases hfind : s.ledger.find clientId with _ | ⟨index, e⟩
  · rw [hfind] at h
    refine h.along (.single (.receive hi (fun clientId' hclose hne => ?_) fun msg hmsg => ?_))
    · rw [hparse] at hclose
      cases hclose
      exact absurd hfind hne
    · rw [hparse] at hmsg
      cases hmsg
      rfl
  · rw [hfind] at h
    exact h.along (.single (.peerClose hi hparse hfind))

/-! ## Channels the server opens -/

theorem follows_acceptChannel {payload : Bytes} {env : Env} {msg : Message}
    {sender : UInt32} (window packet : UInt32) (grant : OpenGrant)
    (hi : i = .packet payload env) (hparse : Message.parse payload = .ok msg)
    (hreceive : LedgerPath s i Effect.Ordinary s.ledger (s.ledger.note (.received payload)))
    (haccepts : s.acceptsOpen env msg = some sender)
    (hsizes : msg.openSizes = some (window, packet)) :
    Follows s i (At s (s.ledger.note (.received payload)))
      (acceptChannel env sender window packet grant) := by
  refine at_get.bind fun w => Holds.of_and fun hw => ?_
  have hnext : w.nextChannelId = s.ledger.nextId := by
    rw [← Backend.nextId_ledger, hw.ledger]
    rfl
  rw [hnext]
  refine ((at_sendPayload env _).error fun _ => along_of_at hreceive).bind fun _ => ?_
  refine (at_pushChannel ⟨s.ledger.nextId, sender⟩ _ _ _ _).bind fun queue => ?_
  refine Holds.of_and fun hqueue => ?_
  obtain rfl : queue = s.nextQueue := hqueue
  let queue := s.nextQueue
  let opened : ChannelHandle := .opened ⟨s.ledger.nextId, sender⟩ grant.initialWindowSize
    grant.maximumPacketSize window packet queue
  -- the confirmation and the registration are one step of the ledger
  have haccept : LedgerPath s i Effect.Ordinary s.ledger
      (((s.ledger.note (.received payload)).note (.sent (.channelOpenConfirmation
        ⟨s.ledger.nextId, sender⟩ grant.initialWindowSize grant.maximumPacketSize))).register
          opened) :=
    hreceive.tail (.accept hi hparse haccepts hsizes)
  have hdrops : i.dropsQueue queue = true := by rw [hi]; rfl
  refine ((at_upgradeFrontend queue).error fun _ =>
    along_of_at (haccept.tail (.drop hdrops))).bind fun _ => ?_
  have hordinary : Effect.Ordinary
    (.handedOver ⟨s.ledger.nextId, sender⟩ queue grant.holder) := ⟨trivial, trivial⟩
  have hhanded := haccept.tail (.note hordinary)
  refine (at_note _).bind fun _ => ?_
  -- whoever should get the stream may be gone; the channel is then closed at once
  split
  · exact Holds.pure (along_of_at hhanded)
  · refine (at_dropReceiver queue).bind fun _ => ?_
    have hdropped := hhanded.tail (.drop hdrops)
    refine (at_channelClose env _).mono (fun _ h => h) ?_ (fun _ => along_of_at hdropped)
    rintro _ w ⟨index, handle, hfind, h⟩
    have hchannels : (s.channels ++ [opened]).map (ChannelHandle.dropQueue queue) =
        s.channels.map (.dropQueue queue) ++ [opened.dropQueue queue] := by
      simp
    have hids : (s.channels.map (ChannelHandle.dropQueue queue)).map (·.id) = s.ledger.ids := by
      simp [Ledger.ids, Backend.ledger, Function.comp_def]
    refine h.along (hdropped.tail (.closeRefused hi hchannels hids ?_ ?_ ?_ rfl hfind))
    · exact opened.id_dropQueue queue
    · rw [opened.client_dropQueue]
      rfl
    · rw [opened.server_dropQueue]
      rfl

theorem follows_openChannel {payload : Bytes} {env : Env} {msg : Message}
    {sender : UInt32} (window packet : UInt32) (verdict : Except OpenRefusal OpenGrant)
    (hi : i = .packet payload env) (hparse : Message.parse payload = .ok msg)
    (hreceive : LedgerPath s i Effect.Ordinary s.ledger (s.ledger.note (.received payload)))
    (hopen : s.serverOpen env msg = some (sender, verdict))
    (hsizes : msg.openSizes = some (window, packet)) :
    Follows s i (At s (s.ledger.note (.received payload)))
      (openChannel env sender window packet verdict) := by
  cases verdict with
  | error refusal =>
    exact follows_sendPayload env hreceive (.note ⟨rfl, rfl⟩)
  | ok grant =>
    refine follows_acceptChannel window packet grant hi hparse hreceive ?_ hsizes
    rw [SessionInner.acceptsOpen, hopen]

/-! ## `handle_msg` -/

/-- What `handle_msg` does follows the ledger, the start of a key exchange apart. -/
theorem follows_handleMsg {payload : Bytes} {env : Env} {msg : Message} (idle : Bool)
    (hi : i = .packet payload env) (hparse : Message.parse payload = .ok msg)
    (hkex : ∀ data, msg = .unrecognized sshMsgKexinit data → s.renegotiating = true) :
    Follows s i (· = s.afterRecv payload) (handleMsg env msg idle) := by
  have hat : ∀ w, w = s.afterRecv payload → At s (s.ledger.note (.received payload)) w := by
    rintro _ rfl
    exact At.afterRecv s payload
  -- a `SSH_MSG_CHANNEL_CLOSE` is a step with its receipt; all others begin with the receipt alone
  by_cases hclose : ∃ clientId, msg = .channelClose clientId
  · obtain ⟨clientId, rfl⟩ := hclose
    exact ((follows_handleChannelClose hi hparse).pre hat).bind fun _ => keeps_pure none
  · have hmsg : ∀ clientId, msg ≠ .channelClose clientId := fun clientId h => hclose ⟨clientId, h⟩
    have halong : msg.channelData? = none → ∀ w, w = s.afterRecv payload →
        Along s i Effect.Ordinary w := fun hdata w hw =>
      (hat w hw).along (path_receive hi hparse hmsg hdata)
    -- the arms that leave the channels alone
    have hkeeps : ∀ {m : BackendM Unit}, msg.channelData? = none → Keeps s i m →
        Follows s i (· = s.afterRecv payload) (do m; return none : BackendM (Option Bytes)) :=
      fun hdata hm => (hm.pre (halong hdata)).bind fun _ => keeps_pure none
    -- the arms that open a channel, each with its verdict
    have hopens : ∀ {sender window packet : UInt32}
        (verdict : Backend → Except OpenRefusal OpenGrant), msg.channelData? = none →
        s.serverOpen env msg = some (sender, verdict (s.afterRecv payload)) →
        msg.openSizes = some (window, packet) →
        Follows s i (· = s.afterRecv payload)
          (do
            openChannel env sender window packet (verdict (← get))
            return none : BackendM (Option Bytes)) := by
      intro sender window packet verdict hdata hopen hsizes
      have hreceive := path_receive (s := s) (Q := Effect.Ordinary) hi hparse hmsg hdata
      refine Holds.get.bind fun w => Holds.of_and ?_
      rintro rfl
      exact ((follows_openChannel window packet _ hi hparse hreceive hopen hsizes).pre hat).bind
        fun _ => keeps_pure none
    cases msg with
    | channelClose clientId => exact absurd rfl (hmsg clientId)
    | unrecognized code data =>
      refine Holds.get.bind fun w => Holds.of_and ?_
      rintro rfl
      rw [if_neg]
      · exact hkeeps rfl (keeps_sendUnimplemented env)
      · rintro ⟨rfl, hre⟩
        rw [show (s.afterRecv payload).renegotiating = s.renegotiating from rfl,
          hkex data rfl] at hre
        cases hre
    | disconnect reason description language => exact Holds.throw (halong rfl)
    | debug | ignore | unimplemented | authenticationBanner | pong | requestSuccess
    | requestFailure => exact Holds.pure (halong rfl)
    | serviceAccept | authenticationFailure | authenticationSuccess | channelOpenConfirmation
    | channelOpenFailure | channelSuccess | channelFailure =>
      exact hkeeps rfl (keeps_sendUnimplemented env)
    | extInfo extensions => exact hkeeps rfl (keeps_handleExtInfo extensions)
    | channelData recipient data =>
      exact (follows_handleChannelData false hi hparse rfl rfl).bind fun _ => keeps_pure none
    | channelExtendedData recipient dataType data =>
      simp only [handleMsg]
      by_cases htype : dataType = sshExtendedDataStderr
      · rw [if_pos htype]
        exact (follows_handleChannelData true hi hparse
          (by simp [Message.channelData?, htype])
          (by simp [Message.channelContent, htype])).bind fun _ => keeps_pure none
      · rw [if_neg htype]
        exact hkeeps (if_neg htype) (keeps_sendUnimplemented env)
    | ping data => exact hkeeps rfl (keeps_sendPayload env ⟨rfl, rfl⟩)
    | channelWindowAdjust recipient count =>
      exact ((follows_handleChannelWindowAdjust hi hparse).pre hat).bind fun _ => keeps_pure none
    | channelFlowControl recipient wantReply on =>
      exact hkeeps rfl (keeps_notifyChannel recipient fun _ => ⟨rfl, trivial⟩)
    | channelExitStatus recipient wantReply status =>
      exact hkeeps rfl (keeps_notifyChannel recipient fun _ => ⟨rfl, trivial⟩)
    | channelExitSignal recipient wantReply signal coreDumped errorMessage language =>
      exact hkeeps rfl (keeps_notifyChannel recipient fun _ => ⟨rfl, trivial⟩)
    | channelEof recipient =>
      exact ((follows_handleChannelEof hi hparse).pre hat).bind fun _ => keeps_pure none
    | channelUnknownRequest recipient type wantReply =>
      exact hkeeps rfl (keeps_handleChannelUnknownRequest env recipient wantReply)
    | globalRequestKeepAliveOpenSSH wantReply =>
      exact hkeeps rfl (keeps_reply env wantReply ⟨rfl, rfl⟩)
    | globalRequestHostKeysOpenSSH wantReply hostKeys =>
      exact hkeeps rfl (keeps_handleGlobalRequestHostsKeyOpenSSH env wantReply)
    | globalUnknownRequest wantReply type =>
      exact hkeeps rfl (keeps_reply env wantReply ⟨rfl, rfl⟩)
    | channelOpenForwardedTcpIp sender window packet address port originator originatorPort =>
      exact hopens (fun w => w.verifyForwardedTcpIp address port originator originatorPort) rfl rfl rfl
    | channelOpenAgentConnect sender window packet =>
      exact hopens (fun w => w.verifyAgentConnect env sender) rfl rfl rfl
    | channelOpenX11 sender window packet originator originatorPort =>
      exact hopens (fun w => w.verifyX11 env sender originatorPort) rfl rfl rfl
    | channelOpenForwardedStreamLocal sender window packet path reserved =>
      exact hopens (fun w => w.verifyForwardedStreamLocal path) rfl rfl rfl
    | channelOpenUnknown sender type => exact hkeeps rfl (keeps_sendPayload env ⟨rfl, rfl⟩)

end Flatline
