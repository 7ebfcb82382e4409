import Flatline.Sftp.Session

/-!
# SFTP sessions in step with their server

A server answers each request, in order, with one reply that carries its id. `receive_msg` drops a
reply from the read buffer only after `Message::parse` has accepted it: a reply that is refused stays
there, and the next operation reads it again in place of its own.

Source: `src/session/sftp/mod.rs` (`Handle::receive_msg`, `Handle::handle`).
-/

namespace Flatline.Sftp

/-- The replies of a server: the type and the content of the reply to each request, which are at
most 1 GiB long with the id between them. -/
structure Server where
  type : ℕ → UInt8
  content : ℕ → Bytes
  short : ∀ k, (content k).length + 5 ≤ Handle.maxPacketSize

/-- What an operation makes of a reply. -/
def Operation.outcome (operation : Operation) (reply : Bytes) : Outcome :=
  match Message.parse reply with
  | .error e => operation.fails e
  | .ok msg => operation.interpret msg.payload operation.files

namespace Server

/-- The reply to the request after the first `k`. -/
def reply (server : Server) (k : ℕ) : Bytes :=
  server.type k :: (toBeBytes (UInt32.ofNat (k + 1)) ++ server.content k)

/-- A reply behind its length. -/
def frame (server : Server) (k : ℕ) : Bytes :=
  toBeBytes (UInt32.ofNat (server.reply k).length) ++ server.reply k

/-- The replies to the first `n` requests, as they come through the channel. -/
def frames (server : Server) : (n : ℕ) → Bytes
  | 0 => []
  | n + 1 => server.frames n ++ server.frame n

/-- `Message::parse` accepts a reply. -/
def parses (server : Server) (k : ℕ) : Bool :=
  (Message.parse (server.reply k)).isOk

/-- The results of operations, newest first, each from its own reply. -/
def resultsOf (server : Server) : List Operation → List (Operation × Outcome)
  | [] => []
  | operation :: earlier =>
    (operation, operation.outcome (server.reply earlier.length)) :: server.resultsOf earlier

/-- The channel works, and brings what the server sends: no more than the replies to the requests so
far. -/
def Serves (server : Server) (h : Handle) : HandleInput → Prop
  | .operate _ => True
  | .channel (.arrives message) => message.ends = false ∧
    h.channel.arrived ++ message.stdoutOf <+: server.frames h.operations.length
  | .channel input => input.isHealthy = true

/-- An operation is called only when every earlier reply parses. -/
def RepliesParse (server : Server) (h : Handle) : HandleInput → Prop
  | .operate _ => ∀ k < h.operations.length, server.parses k = true
  | .channel _ => True

instance (server : Server) (h : Handle) (i : HandleInput) : Decidable (server.Serves h i) := by
  unfold Serves
  split <;> infer_instance

instance (server : Server) (h : Handle) (i : HandleInput) :
    Decidable (server.RepliesParse h i) := by
  unfold RepliesParse
  split <;> infer_instance

/-! ## Frames -/

variable {server : Server} {k : ℕ}

theorem length_reply (server : Server) (k : ℕ) :
    (server.reply k).length = (server.content k).length + 5 := by
  rw [reply, List.length_cons, List.length_append, length_toBeBytes]
  omega

theorem length_frame (server : Server) (k : ℕ) :
    (server.frame k).length = (server.reply k).length + 4 := by
  rw [frame, List.length_append, length_toBeBytes]
  omega

theorem drop_frame (server : Server) (k : ℕ) : (server.frame k).drop 4 = server.reply k := rfl

/-- The length in front of a reply is its length. -/
theorem lengthOf_take_frame (server : Server) (k : ℕ) :
    Handle.lengthOf ((server.frame k).take 4) = (server.reply k).length := by
  have hshort := server.short k
  have hlen : (server.reply k).length < UInt32.size := by
    rw [length_reply]
    exact Nat.lt_of_le_of_lt hshort (by decide)
  have h : (UInt32.ofNat (server.reply k).length).toNat = (server.reply k).length :=
    UInt32.toNat_ofNat_of_lt hlen
  conv_rhs => rw [← h]
  exact congrArg UInt32.toNat (fromBeBytes_toBeBytes _)

/-- A message that is read from a reply carries the id of its request. -/
theorem id_parse {msg : Message} (h : Message.parse (server.reply k) = .ok msg) :
    msg.id = UInt32.ofNat (k + 1) := by
  unfold Message.parse Consumer.run' at h
  split at h
  · next message rest hrun =>
      injection h with h
      rw [reply, Triple.bind_of_ok (Consumer.consumeU8_cons _ _),
        Triple.bind_of_ok (Consumer.consumeU32_append _ _)] at hrun
      obtain ⟨payload, rest', -, hrun⟩ := Triple.bind_eq_ok_iff.mp hrun
      injection hrun with hmessage
      rw [← h, ← hmessage]
  · cases h

/-- The result of an operation whose reply does not parse. -/
theorem outcome_of_error {operation : Operation} {e : Error}
    (h : Message.parse (server.reply k) = .error e) :
    operation.outcome (server.reply k) = operation.fails e := by
  rw [Operation.outcome, h]

theorem frames_ne (server : Server) (k : ℕ) : server.frames (k + 1) ≠ server.frames k := by
  intro h
  have := congrArg List.length h
  rw [frames, List.length_append, length_frame] at this
  omega

end Server

/-! ## Sessions in step -/

namespace Handle

/-- A new session: its handshake has consumed the version packet. -/
structure IsInitial (h : Handle) : Prop where
  channel : h.channel.IsInitial
  isOpen : h.channel.Open
  quiet : h.channel.arrived = []
  requestId : h.requestId = 0
  task : h.task = .idle
  operations : h.operations = []
  results : h.results = []

/-- One step of a session. -/
abbrev Step : Handle → HandleInput → Handle → Prop :=
  Machine.Step possible next

/-- The states of the runs that meet `guard` at every step. -/
abbrev ReachableVia (guard : Handle → HandleInput → Prop) : Handle → Prop :=
  Machine.ReachVia IsInitial Step guard

/-- The channel shows what the server has sent, which is no more than the replies to the requests so
far. -/
structure Served (server : Server) (h : Handle) : Prop where
  isOpen : h.channel.Open
  shows : h.channel.ShowsStdout
  starves : h.channel.Starves
  arrived : h.channel.arrived <+: server.frames h.operations.length
  requestId : h.requestId = UInt32.ofNat h.operations.length

/-- An operation is in progress: the earlier ones have consumed their replies and no more. -/
structure Waits (server : Server) (h : Handle) (operation : Operation)
    (earlier : List Operation) : Prop extends Served server h where
  operations : h.operations = operation :: earlier
  results : h.results = server.resultsOf earlier
  consumed : h.channel.consumed = server.frames earlier.length
  parse : ∀ k < earlier.length, server.parses k = true

/-- No operation is in progress: each has the result of its own reply. The last reply is consumed if
it parses; the earlier ones do. -/
structure Rests (server : Server) (h : Handle) : Prop extends Served server h where
  task : h.task = .idle
  ready : h.channel.task = .ready
  results : h.results = server.resultsOf h.operations
  consumed : (∀ k < h.operations.length, server.parses k = true) ∧
      h.channel.consumed = server.frames h.operations.length ∨
    ∃ k, h.operations.length = k + 1 ∧ server.parses k = false ∧
      h.channel.consumed = server.frames k

/-- Where the channel is while an operation waits, by what the operation awaits. -/
def Awaits (server : Server) (h : Handle) (k : ℕ) : HandleTask → Prop
  | .idle => False
  | .sending _ => h.channel.task.sends = true
  | .flushing _ => h.channel.task.flushes = true
  | .header _ => h.channel.task = .filling (.fillExact 4)
  | .body _ len => h.channel.task = .filling (.fillExact (len + 4)) ∧
      len = (server.reply k).length

/-- The operation in progress. -/
def HandleTask.operation? : HandleTask → Option Operation
  | .idle => none
  | .sending operation | .flushing operation | .header operation | .body operation _ =>
    some operation

/-- The session and its server are in step. -/
def InSync (server : Server) (h : Handle) : Prop :=
  Rests server h ∨ ∃ operation earlier, HandleTask.operation? h.task = some operation ∧
    Waits server h operation earlier ∧ Awaits server h earlier.length h.task

variable {server : Server} {h : Handle} {operation : Operation} {earlier : List Operation}

/-- What is left of the last reply is in the read buffer. -/
theorem Waits.readBuf_prefix (hw : Waits server h operation earlier) :
    h.channel.readBuf <+: server.frame earlier.length := by
  have harrived := hw.arrived
  rw [hw.operations, List.length_cons, Server.frames, ← hw.consumed] at harrived
  have hshows : h.channel.consumed ++ h.channel.readBuf = h.channel.stdout := hw.shows
  rw [BufferChannel.arrived, ← hshows, List.append_assoc] at harrived
  exact (List.prefix_append _ _).trans ((List.prefix_append_right_inj _).mp harrived)

theorem Served.with_channel (hs : Served server h) {b : BufferChannel}
    (hcarries : h.channel.Carries b) (hshows : b.ShowsStdout) (hstarves : b.Starves) :
    Served server { h with channel := b } where
  isOpen := hcarries.opened hs.isOpen
  shows := hshows
  starves := hstarves
  arrived := by
    rw [hcarries.arrived]
    exact hs.arrived
  requestId := hs.requestId

/-- The channel goes on. -/
theorem Waits.with_channel (hw : Waits server h operation earlier) {b : BufferChannel}
    (hcarries : h.channel.Carries b) (hshows : b.ShowsStdout) (hstarves : b.Starves) :
    Waits server { h with channel := b } operation earlier where
  toServed := hw.toServed.with_channel hcarries hshows hstarves
  operations := hw.operations
  results := hw.results
  consumed := hcarries.consumed.trans hw.consumed
  parse := hw.parse

/-- The operation awaits something else. -/
theorem Waits.with_task (hw : Waits server h operation earlier) (task : HandleTask) :
    Waits server { h with task } operation earlier :=
  ⟨⟨hw.isOpen, hw.shows, hw.starves, hw.arrived, hw.requestId⟩, hw.operations, hw.results,
    hw.consumed, hw.parse⟩

theorem Waits.startRead (hw : Waits server h operation earlier) (hready : h.channel.task = .ready)
    (len : ℕ) :
    Waits server { h with channel := h.channel.startRead (.fillExact len) } operation earlier := by
  have hpossible : h.channel.possible (.read (.fillExact len)) = true :=
    decide_eq_true ⟨hready, rfl⟩
  exact hw.with_channel (BufferChannel.carries_startRead _ _)
    (BufferChannel.showsStdout_next hw.shows hpossible)
    (BufferChannel.starves_next hw.starves hpossible)

/-! ### The end of an operation -/

/-- A reply that does not parse stays in the read buffer. -/
theorem rests_of_error (hw : Waits server h operation earlier) (hready : h.channel.task = .ready)
    {e : Error} (hparse : Message.parse (server.reply earlier.length) = .error e) :
    Rests server (h.finish operation (operation.fails e)) where
  isOpen := hw.isOpen
  shows := hw.shows
  starves := hw.starves
  arrived := hw.arrived
  requestId := hw.requestId
  task := rfl
  ready := hready
  results := by
    change (operation, operation.fails e) :: h.results = server.resultsOf h.operations
    rw [hw.operations, hw.results, Server.resultsOf, Server.outcome_of_error hparse]
  consumed := by
    refine .inr ⟨earlier.length, ?_, ?_, hw.consumed⟩
    · change h.operations.length = _
      rw [hw.operations, List.length_cons]
    · rw [Server.parses, hparse]
      rfl

/-- A reply that parses is dropped from the read buffer, and the operation makes of it what it
makes. -/
theorem rests_of_ok (hw : Waits server h operation earlier) (hready : h.channel.task = .ready)
    (hfull : h.channel.readBuf = server.frame earlier.length) {msg : Message}
    (hparse : Message.parse (server.reply earlier.length) = .ok msg) :
    Rests server ({ h with
      channel := h.channel.consumerReadBuffer ((server.reply earlier.length).length + 4)
      }.finish operation (operation.interpret msg.payload operation.files)) := by
  have hlen : h.operations.length = earlier.length + 1 := by
    rw [hw.operations, List.length_cons]
  have hconsumed : (h.channel.consumerReadBuffer
      ((server.reply earlier.length).length + 4)).consumed =
        server.frames h.operations.length := by
    rw [BufferChannel.consumed_consumerReadBuffer, hfull, ← Server.length_frame, List.take_length,
      hw.consumed, hlen, Server.frames]
  have hpossible : h.channel.possible
      (.consume ((server.reply earlier.length).length + 4)) = true := by
    refine decide_eq_true ⟨hready, .inl (Nat.le_of_eq ?_)⟩
    rw [hfull, Server.length_frame]
  exact {
    isOpen := hw.isOpen.consumerReadBuffer _
    shows := BufferChannel.showsStdout_next hw.shows hpossible
    starves := BufferChannel.starves_next hw.starves hpossible
    arrived := by
      change (h.channel.consumerReadBuffer _).arrived <+: _
      rw [BufferChannel.arrived_consumerReadBuffer]
      exact hw.arrived
    requestId := hw.requestId
    task := rfl
    ready := (BufferChannel.task_consumerReadBuffer _).trans hready
    results := by
      change (operation, operation.interpret msg.payload operation.files) :: h.results =
        server.resultsOf h.operations
      rw [hw.operations, hw.results, Server.resultsOf, Operation.outcome, hparse]
    consumed := by
      refine .inl ⟨fun k hk => ?_, hconsumed⟩
      change k < h.operations.length at hk
      rw [hlen] at hk
      obtain hk | rfl := Nat.lt_succ_iff_lt_or_eq.mp hk
      · exact hw.parse k hk
      · rw [Server.parses, hparse]
        rfl }

/-- The end of `receive_msg`, once the whole reply has been read. -/
theorem rests_receiveReply (hw : Waits server h operation earlier)
    (hready : h.channel.task = .ready)
    (hfull : h.channel.readBuf = server.frame earlier.length) :
    Rests server (h.receiveReply operation (server.reply earlier.length).length
      h.channel.readBuf) := by
  unfold receiveReply
  rw [hfull, Server.drop_frame]
  cases hparse : Message.parse (server.reply earlier.length) with
  | error e => exact rests_of_error hw hready hparse
  | ok msg =>
    have hid : msg.id = h.requestId := by
      rw [Server.id_parse hparse, hw.requestId, hw.operations, List.length_cons]
    simp only [hid, ne_eq, not_true_eq_false, if_false]
    exact rests_of_ok hw hready hfull hparse

/-! ### Awaits -/

theorem inSync_afterBody (hw : Waits server h operation earlier)
    (hreads : h.channel.Reads ((server.reply earlier.length).length + 4)) :
    InSync server (h.afterBody operation (server.reply earlier.length).length) := by
  unfold afterBody
  obtain htask | ⟨hlen, hreturned⟩ := hreads
  · rw [BufferChannel.returned?_eq_none (by rw [htask]; nofun)]
    exact .inr ⟨operation, earlier, rfl, hw.with_task _, htask, rfl⟩
  · have hfull : h.channel.readBuf = server.frame earlier.length := by
      apply hw.readBuf_prefix.eq_of_length_le
      rw [Server.length_frame]
      exact hlen
    have htake : h.channel.readBuf.take ((server.reply earlier.length).length + 4) =
        h.channel.readBuf := by
      rw [hfull, ← Server.length_frame, List.take_length]
    rw [hreturned, htake]
    exact .inl (rests_receiveReply hw (BufferChannel.task_of_returned? hreturned) hfull)

theorem inSync_afterHeader (hw : Waits server h operation earlier)
    (hreads : h.channel.Reads 4) : InSync server (h.afterHeader operation) := by
  unfold afterHeader
  obtain htask | ⟨hlen, hreturned⟩ := hreads
  · rw [BufferChannel.returned?_eq_none (by rw [htask]; nofun)]
    exact .inr ⟨operation, earlier, rfl, hw.with_task _, htask⟩
  · have hlength : lengthOf (h.channel.readBuf.take 4) = (server.reply earlier.length).length := by
      obtain ⟨rest, hrest⟩ := hw.readBuf_prefix
      rw [← Server.lengthOf_take_frame, ← hrest, List.take_append_of_le_length hlen]
    have hshort := server.short earlier.length
    rw [← Server.length_reply] at hshort
    rw [hreturned]
    simp only [hlength]
    rw [if_neg (by omega)]
    exact inSync_afterBody (hw.startRead (BufferChannel.task_of_returned? hreturned) _)
      (BufferChannel.reads_startRead _ _)

theorem inSync_afterFlush (hw : Waits server h operation earlier) (hflushes : h.channel.Flushes) :
    InSync server (h.afterFlush operation) := by
  unfold afterFlush
  obtain htask | hreturned := hflushes
  · rw [BufferChannel.returned?_eq_none (by intro hready; rw [hready] at htask; cases htask)]
    exact .inr ⟨operation, earlier, rfl, hw.with_task _, htask⟩
  · rw [hreturned]
    exact inSync_afterHeader (hw.startRead (BufferChannel.task_of_returned? hreturned) 4)
      (BufferChannel.reads_startRead _ 4)

theorem inSync_afterSend (hw : Waits server h operation earlier) (hsends : h.channel.Sends) :
    InSync server (h.afterSend operation) := by
  unfold afterSend
  obtain htask | hreturned := hsends
  · rw [BufferChannel.returned?_eq_none (by intro hready; rw [hready] at htask; cases htask)]
    exact .inr ⟨operation, earlier, rfl, hw.with_task _, htask⟩
  · have hready := BufferChannel.task_of_returned? hreturned
    rw [hreturned]
    have hpossible : h.channel.possible .flush = true := decide_eq_true hready
    exact inSync_afterFlush (hw.with_channel (BufferChannel.carries_startFlush _)
      (BufferChannel.showsStdout_next hw.shows hpossible)
      (BufferChannel.starves_next hw.starves hpossible)) (BufferChannel.flushes_startFlush _)

/-! ### Steps -/

/-- What the replies so far are, if they all parse, is what the session has consumed. -/
theorem Rests.consumed_iff (hr : Rests server h) :
    h.channel.consumed = server.frames h.operations.length ↔
      ∀ k < h.operations.length, server.parses k = true := by
  obtain ⟨hparse, hconsumed⟩ | ⟨k, hlen, hparse, hconsumed⟩ := hr.consumed
  · exact ⟨fun _ => hparse, fun _ => hconsumed⟩
  · rw [hlen, hconsumed]
    constructor
    · exact fun h => absurd h.symm (server.frames_ne k)
    · intro h
      rw [h k (Nat.lt_succ_self k)] at hparse
      cases hparse

/-- An operation begins. -/
theorem inSync_start (hr : Rests server h)
    (hparse : ∀ k < h.operations.length, server.parses k = true) (operation : Operation) :
    InSync server (h.start operation) := by
  have hcarries := BufferChannel.carries_startSend h.channel
    (operation.encode (nextRequestId h.requestId))
  have hpossible : h.channel.possible
      (.send (operation.encode (nextRequestId h.requestId))) = true := decide_eq_true hr.ready
  have hw : Waits server { h with
      channel := h.channel.startSend (operation.encode (nextRequestId h.requestId))
      requestId := nextRequestId h.requestId
      operations := operation :: h.operations } operation h.operations := {
    isOpen := hcarries.opened hr.isOpen
    shows := BufferChannel.showsStdout_next hr.shows hpossible
    starves := BufferChannel.starves_next hr.starves hpossible
    arrived := by
      change (h.channel.startSend _).arrived <+: server.frames (h.operations.length + 1)
      rw [hcarries.arrived]
      exact hr.arrived.trans (List.prefix_append _ _)
    requestId := by
      change nextRequestId h.requestId = UInt32.ofNat (h.operations.length + 1)
      rw [hr.requestId, nextRequestId, UInt32.ofNat_add]
      rfl
    operations := rfl
    results := hr.results
    consumed := by
      change (h.channel.startSend _).consumed = _
      rw [hcarries.consumed]
      exact hr.consumed_iff.mpr hparse
    parse := hparse }
  exact inSync_afterSend hw (BufferChannel.sends_startSend _ _)

/-- The channel goes on, or brings more of what the server sends. -/
theorem served_next (hs : Served server h) {i : BufferInput} (hevent : i.isEvent = true)
    (hserves : server.Serves h (.channel i)) (hi : h.channel.possible i = true) :
    Served server { h with channel := h.channel.next i } ∧
      (h.channel.next i).consumed = h.channel.consumed ∧ i.isHealthy = true := by
  have hshows := BufferChannel.showsStdout_next hs.shows hi
  have hstarves := BufferChannel.starves_next hs.starves hi
  by_cases harrives : ∃ message, i = .arrives message
  · obtain ⟨message, rfl⟩ := harrives
    obtain ⟨hmessage, hprefix⟩ := hserves
    refine ⟨⟨hs.isOpen.arrives hmessage, hshows, hstarves, ?_, hs.requestId⟩, rfl, ?_⟩
    · change (h.channel.next (.arrives message)).arrived <+: _
      rw [BufferChannel.arrived_arrives]
      exact hprefix
    · change (!message.ends) = true
      rw [hmessage]
      rfl
  · have hhealthy : i.isHealthy = true := by
      cases i with
      | arrives message => exact absurd ⟨message, rfl⟩ harrives
      | _ => exact hserves
    have hcarries := BufferChannel.carries_next hs.isOpen hevent hhealthy
      (fun message hmessage => harrives ⟨message, hmessage⟩) hi
    exact ⟨hs.with_channel hcarries hshows hstarves, hcarries.consumed, hhealthy⟩

/-- No operation is in progress, so nothing but the queue of the channel can change. -/
theorem rests_next (hr : Rests server h) {i : BufferInput} (hevent : i.isEvent = true)
    (hserves : server.Serves h (.channel i)) (hi : h.channel.possible i = true) :
    Rests server { h with channel := h.channel.next i } := by
  obtain ⟨hserved, hconsumed, hhealthy⟩ := served_next hr.toServed hevent hserves hi
  have hready : (h.channel.next i).task = .ready := by
    cases i with
    | send _ | flush | read _ | consume _ | dropped => cases hevent
    | refused _ _ | senderDropped => cases hhealthy
    | arrives message => exact hr.ready
    | accepted size =>
      change (h.channel.outgoing.any fun data => decide (size ≤ data.length)) = true at hi
      rw [BufferChannel.outgoing, hr.ready] at hi
      cases hi
    | receive =>
      change (h.channel.task.receives && _) = true at hi
      rw [hr.ready] at hi
      cases hi
  refine ⟨hserved, hr.task, hready, hr.results, ?_⟩
  change _ ∧ (h.channel.next i).consumed = _ ∨ _
  rw [hconsumed]
  exact hr.consumed

/-- The channel goes on under an operation, and the operation with it. -/
theorem waits_next (hw : Waits server h operation earlier)
    (hoperation : HandleTask.operation? h.task = some operation)
    (hawaits : Awaits server h earlier.length h.task) {i : BufferInput}
    (hevent : i.isEvent = true) (hserves : server.Serves h (.channel i))
    (hi : h.channel.possible i = true) : InSync server (h.next (.channel i)) := by
  obtain ⟨hserved, hconsumed, hhealthy⟩ := served_next hw.toServed hevent hserves hi
  have hw' : Waits server { h with channel := h.channel.next i } operation earlier :=
    ⟨hserved, hw.operations, hw.results, hconsumed.trans hw.consumed, hw.parse⟩
  change InSync server { h with channel := h.channel.next i }.resume
  unfold resume
  cases htask : h.task with
  | idle =>
    rw [htask] at hawaits
    cases hawaits
  | sending operation' =>
    rw [htask] at hawaits hoperation
    cases hoperation
    exact inSync_afterSend (hw'.with_task _) (BufferChannel.sends_next hawaits hevent hhealthy hi)
  | flushing operation' =>
    rw [htask] at hawaits hoperation
    cases hoperation
    exact inSync_afterFlush (hw'.with_task _)
      (BufferChannel.flushes_next hw.isOpen hawaits hevent hhealthy hi)
  | header operation' =>
    rw [htask] at hawaits hoperation
    cases hoperation
    exact inSync_afterHeader (hw'.with_task _)
      (BufferChannel.reads_next hw.isOpen hawaits hevent hhealthy hi)
  | body operation' len =>
    rw [htask] at hawaits hoperation
    cases hoperation
    obtain ⟨hawaits, rfl⟩ := hawaits
    exact inSync_afterBody (hw'.with_task _)
      (BufferChannel.reads_next hw.isOpen hawaits hevent hhealthy hi)

theorem inSync_next (hsync : InSync server h) {i : HandleInput} (hserves : server.Serves h i)
    (hparse : server.RepliesParse h i) (hi : h.possible i = true) : InSync server (h.next i) := by
  cases i with
  | operate operation =>
    have hidle : h.task = .idle := of_decide_eq_true hi
    obtain hr | ⟨operation', earlier, hoperation, -, -⟩ := hsync
    · exact inSync_start hr hparse operation
    · rw [hidle] at hoperation
      cases hoperation
  | channel i =>
    obtain ⟨hevent, hi⟩ := Bool.and_eq_true_iff.mp hi
    obtain hr | ⟨operation, earlier, hoperation, hw, hawaits⟩ := hsync
    · have hidle : { h with channel := h.channel.next i }.resume =
          { h with channel := h.channel.next i } := by
        unfold resume
        simp only [hr.task]
      change InSync server { h with channel := h.channel.next i }.resume
      rw [hidle]
      exact .inl (rests_next hr hevent hserves hi)
    · exact waits_next hw hoperation hawaits hevent hserves hi

theorem IsInitial.inSync (hh : h.IsInitial) : InSync server h := by
  refine .inl ⟨⟨hh.isOpen, ?_, ?_, ?_, ?_⟩, hh.task, hh.channel.task, ?_, .inl ⟨?_, ?_⟩⟩
  · unfold BufferChannel.ShowsStdout BufferChannel.exposed BufferChannel.stdout
    rw [hh.channel.log, hh.channel.readBuf]
    rfl
  · apply BufferChannel.starves_of_task
    intro call hfilling
    rw [hh.channel.task] at hfilling
    cases hfilling
  · rw [hh.quiet]
    exact List.nil_prefix
  · rw [hh.requestId, hh.operations]
    rfl
  · rw [hh.results, hh.operations]
    rfl
  · rw [hh.operations]
    nofun
  · unfold BufferChannel.consumed
    rw [hh.channel.log, hh.operations]
    rfl

/-- The operation in progress awaits its reply. -/
def HandleTask.reads : HandleTask → Bool
  | .header _ | .body _ _ => true
  | _ => false

/-- An operation waits for its reply only while it has not been taken from the queue. -/
theorem not_taken_of_awaits {task : HandleTask} (hw : Waits server h operation earlier)
    (hawaits : Awaits server h earlier.length task) (hreads : HandleTask.reads task = true) :
    ¬ server.frames (earlier.length + 1) <+: h.channel.stdout := by
  have hshows : h.channel.consumed ++ h.channel.readBuf = h.channel.stdout := hw.shows
  have hstarves := hw.starves
  -- what is read for is no longer than the reply, and the read buffer is shorter
  have hshort {len : ℕ} (htask : h.channel.task = .filling (.fillExact len))
      (hlen : len ≤ (server.frame earlier.length).length) :
      h.channel.readBuf.length < (server.frame earlier.length).length := by
    have hanswer : (if h.channel.readBuf.length < len then none
        else some (h.channel.readBuf.take len)) = none := hstarves _ htask
    apply Nat.lt_of_lt_of_le _ hlen
    by_contra hnot
    rw [if_neg hnot] at hanswer
    cases hanswer
  rw [← hshows, Server.frames, ← hw.consumed, List.prefix_append_right_inj]
  intro hprefix
  apply Nat.not_lt_of_le hprefix.length_le
  cases task with
  | idle | sending _ | flushing _ => cases hreads
  | header _ =>
    refine hshort hawaits ?_
    rw [Server.length_frame]
    omega
  | body _ len =>
    obtain ⟨htask, rfl⟩ := hawaits
    exact hshort htask (Nat.le_of_eq (Server.length_frame _ _).symm)

/-- A session with a server that sends one reply to each request, in order, where an operation is
called only once every earlier reply has parsed: the result of each operation comes from its own
reply, an operation in progress has in front of it what follows the earlier replies and waits for its
reply only until that has been taken from the queue, and one that is done has consumed its own reply
exactly if that reply parses. -/
theorem stays_in_sync (server : Server) (hreach : ReachableVia
    (fun h i => server.Serves h i ∧ server.RepliesParse h i) h) :
    (h.task = .idle → h.results = server.resultsOf h.operations ∧
      (h.channel.consumed = server.frames h.operations.length ↔
        ∀ k < h.operations.length, server.parses k = true)) ∧
    (h.task ≠ .idle → ∃ operation earlier, h.operations = operation :: earlier ∧
      h.results = server.resultsOf earlier ∧
      h.channel.consumed = server.frames earlier.length ∧
      (HandleTask.reads h.task = true →
        ¬ server.frames (earlier.length + 1) <+: h.channel.stdout)) := by
  have hsync : InSync server h := by
    refine Machine.ReachVia.invariant hreach (fun _ => IsInitial.inSync) ?_
    rintro h i _ hsync ⟨hserves, hparse⟩ ⟨hi, rfl⟩
    exact inSync_next hsync hserves hparse hi
  obtain hr | ⟨operation, earlier, hoperation, hw, hawaits⟩ := hsync
  · exact ⟨fun _ => ⟨hr.results, hr.consumed_iff⟩, fun hbusy => absurd hr.task hbusy⟩
  · refine ⟨fun hidle => ?_, fun _ => ⟨operation, earlier, hw.operations, hw.results, hw.consumed,
      not_taken_of_awaits hw hawaits⟩⟩
    rw [hidle] at hoperation
    cases hoperation

/-- A new session on a new channel. -/
def fresh : Handle where
  channel := .fresh
  requestId := 0
  task := .idle
  operations := []
  results := []

theorem isInitial_fresh : fresh.IsInitial :=
  ⟨⟨rfl, rfl, rfl, rfl⟩, ⟨rfl, nofun⟩, rfl, rfl, rfl, rfl, rfl⟩

/-- A server that answers the first request with a status and the others with attributes. -/
def statusServer (code : UInt32) : Server where
  type k := if k = 0 then sshFxpStatus else sshFxpAttrs
  content k := toBeBytes (if k = 0 then code else 0)
  short k := by
    rw [length_toBeBytes]
    decide

/-- The reply to the first of two operations comes in two parts. -/
theorem stays_in_sync_two :
    ∃ h : Handle, h.results.length = 2 ∧
      h.results = (statusServer 0).resultsOf h.operations := by
  obtain ⟨h, hrun, hidle, hlen⟩ : ∃ h, Machine.runVia possible next
      (fun h i => (statusServer 0).Serves h i ∧ (statusServer 0).RepliesParse h i) fresh
      [.operate (.rmdir [97]), .channel (.accepted 14),
        .channel (.arrives (.stdout (((statusServer 0).frame 0).take 6))), .channel .receive,
        .channel (.arrives (.stdout (((statusServer 0).frame 0).drop 6))), .channel .receive,
        .operate (.stat [97]), .channel (.accepted 14),
        .channel (.arrives (.stdout ((statusServer 0).frame 1))), .channel .receive] = some h ∧
        h.task = .idle ∧ h.results.length = 2 := ⟨_, rfl, rfl, rfl⟩
  have hreach := Machine.reachVia_runVia (.start isInitial_fresh) hrun
  exact ⟨h, hlen, ((stays_in_sync (statusServer 0) hreach).1 hidle).1⟩

/-- After a reply with an unknown status code, the next operation fails with the same error, not with
the result of its own reply. -/
theorem unknown_status_read_twice :
    ∃ h : Handle, ReachableVia (statusServer 9999).Serves h ∧
      h.results.head? = some (.stat [97], Operation.fails (.stat [97]) (fault (.unexpectedStatus 9999))) ∧
      h.results ≠ (statusServer 9999).resultsOf h.operations := by
  obtain ⟨h, hrun, hhead, hne⟩ : ∃ h, Machine.runVia possible next
      (statusServer 9999).Serves fresh
      [.operate (.rmdir [97]), .channel (.accepted 14),
        .channel (.arrives (.stdout ((statusServer 9999).frame 0))), .channel .receive,
        .operate (.stat [97]), .channel (.accepted 14)] = some h ∧
        h.results.head? = some (.stat [97], Operation.fails (.stat [97]) (fault (.unexpectedStatus 9999))) ∧
        ((statusServer 9999).resultsOf h.operations).head? =
          some (.stat [97], .ok (.attributes ⟨none, none, none, none, none⟩) []) := ⟨_, rfl, rfl, rfl⟩
  refine ⟨h, Machine.reachVia_runVia (.start isInitial_fresh) hrun, hhead, fun heq => ?_⟩
  rw [heq, hne] at hhead
  cases hhead

end Handle

end Flatline.Sftp
