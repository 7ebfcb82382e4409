import Flatline.Session.BufferReads

/-!
# What the calls of a buffered channel come to

While the channel stays open, each call goes on until it returns what it was called for: `send` and
`flush` return `Ok`, and `fill_exact(len)` the first `len` octets of the read buffer. Stdout passes
from the queue to the read buffer, and only `consumer_read_buffer` takes it from there.

Source: `src/session/channel.rs`.
-/

namespace Flatline

/-- The stdout in a message. -/
def ChannelMessage.stdoutOf : ChannelMessage → Bytes
  | .stdout data => data
  | .close | .eof | .stderr _ | .exit _ | .flowControl _ | .windowChange _ => []

/-- The message ends the reads. -/
def ChannelMessage.ends : ChannelMessage → Bool
  | .close | .eof => true
  | .stdout _ | .stderr _ | .exit _ | .flowControl _ | .windowChange _ => false

/-- `send` is in progress. -/
def BufferTask.sends : BufferTask → Bool
  | .sendingFirst _ | .sendingAgain => true
  | .ready | .flushing _ | .draining _ | .filling _ => false

/-- `flush` is in progress. -/
def BufferTask.flushes : BufferTask → Bool
  | .flushing _ | .draining _ => true
  | .ready | .sendingFirst _ | .sendingAgain | .filling _ => false

/-- What the last call has returned, once it has returned. -/
def BufferChannel.returned? (b : BufferChannel) : Option (Except Error Bytes) :=
  match b.task, b.log with
  | .ready, .returned result :: _ => some result
  | _, _ => none

/-- The inputs that are not calls of the user. -/
def BufferInput.isEvent : BufferInput → Bool
  | .accepted _ | .refused .. | .receive | .arrives _ | .senderDropped => true
  | .send _ | .flush | .read _ | .consume _ | .dropped => false

/-- The inputs of a channel that works: `Channel::send` does not fail, and neither the end of the
stream nor that of the queue comes. -/
def BufferInput.isHealthy : BufferInput → Bool
  | .refused .. | .senderDropped => false
  | .arrives message => !message.ends
  | .send _ | .flush | .read _ | .consume _ | .dropped | .accepted _ | .receive => true

namespace BufferChannel

variable {b : BufferChannel}

/-- All octets the user has dropped from the read buffer. -/
def consumed (b : BufferChannel) : Bytes :=
  BufferEffect.consumedOf b.log

/-- All stdout that has reached the queue. -/
def arrived (b : BufferChannel) : Bytes :=
  b.stdout ++ b.queue.flatMap ChannelMessage.stdoutOf

/-- The sender is there, and no message of the queue ends the reads. -/
structure Open (b : BufferChannel) : Prop where
  closed : b.closed = false
  queue : ∀ message ∈ b.queue, message.ends = false

/-! ## Returns -/

theorem returned?_eq_none (h : b.task ≠ .ready) : b.returned? = none := by
  unfold returned?
  cases htask : b.task with
  | ready => exact absurd htask h
  | sendingFirst _ | sendingAgain | flushing _ | draining _ | filling _ => rfl

theorem task_of_returned? {result : Except Error Bytes} (h : b.returned? = some result) :
    b.task = .ready := by
  by_contra htask
  rw [returned?_eq_none htask] at h
  cases h

/-- A `send` that is in progress or has returned. -/
def Sends (b : BufferChannel) : Prop :=
  b.task.sends = true ∨ b.returned? = some (.ok [])

/-- A `flush` that is in progress or has returned. -/
def Flushes (b : BufferChannel) : Prop :=
  b.task.flushes = true ∨ b.returned? = some (.ok [])

/-- A `fill_exact` that is in progress or has returned. -/
def Reads (b : BufferChannel) (len : ℕ) : Prop :=
  b.task = .filling (.fillExact len) ∨
    (len ≤ b.readBuf.length ∧ b.returned? = some (.ok (b.readBuf.take len)))

theorem sends_startSend (b : BufferChannel) (data : Bytes) : (b.startSend data).Sends := by
  unfold startSend
  split
  · split
    · exact .inr rfl
    · exact .inl rfl
  · exact .inl rfl

theorem flushes_startFlush (b : BufferChannel) : b.startFlush.Flushes := by
  unfold startFlush
  split
  · exact .inr rfl
  · exact .inl rfl

theorem reads_startRead (b : BufferChannel) (len : ℕ) : (b.startRead (.fillExact len)).Reads len := by
  unfold startRead ReadCall.answer
  by_cases hlen : b.readBuf.length < len
  · simp only [if_pos hlen]
    exact .inl rfl
  · simp only [if_neg hlen]
    exact .inr ⟨Nat.le_of_not_lt hlen, rfl⟩

/-! ## Turns -/

theorem sends_accept (hb : b.task.sends = true) (size : ℕ) : (b.accept size).Sends := by
  cases htask : b.task with
  | sendingFirst data =>
    simp only [accept, take, outgoing, htask, note]
    split <;> exact .inr rfl
  | sendingAgain =>
    simp only [accept, take, outgoing, htask, note]
    exact .inr rfl
  | ready | flushing _ | draining _ | filling _ =>
    rw [htask] at hb
    cases hb

theorem flushes_accept (hb : b.task.flushes = true) (size : ℕ) : (b.accept size).Flushes := by
  cases htask : b.task with
  | flushing pos =>
    simp only [accept, take, outgoing, htask, note]
    split
    · exact .inr rfl
    · exact .inl rfl
  | draining pos =>
    simp only [accept, take, outgoing, htask]
    exact .inl hb
  | ready | sendingFirst _ | sendingAgain | filling _ =>
    rw [htask] at hb
    cases hb

/-- The loop of `flush` over a message that does not end it. -/
theorem flushes_drainTurn (hb : b.task.flushes = true) (pos : ℕ) {message : ChannelMessage}
    (hmessage : message.ends = false) : (b.drainTurn pos message).Flushes := by
  cases message with
  | close | eof => cases hmessage
  | stdout _ | stderr _ | exit _ | flowControl _ => exact .inl hb
  | windowChange _ => exact .inl rfl

/-- The loop of `fill_exact` over a message that does not end it. -/
theorem reads_fillTurn {len : ℕ} (hb : b.task = .filling (.fillExact len))
    {message : ChannelMessage} (hmessage : message.ends = false) :
    (b.fillTurn (.fillExact len) message).Reads len := by
  cases message with
  | close | eof => cases hmessage
  | stderr _ | exit _ | flowControl _ | windowChange _ => exact .inl hb
  | stdout data =>
    simp only [fillTurn, filled, ReadCall.resume, ReadCall.answer]
    by_cases hlen : (b.readBuf ++ data).length < len
    · simp only [if_pos hlen]
      exact .inl rfl
    · simp only [if_neg hlen]
      exact .inr ⟨Nat.le_of_not_lt hlen, rfl⟩

/-! ## Steps -/

/-- An open channel has a next message whenever `Channel::receive` returns. -/
theorem Open.queue_ne_nil (hb : b.Open) (hi : b.possible .receive = true) :
    ∃ message rest, b.queue = message :: rest ∧ message.ends = false := by
  obtain ⟨-, hi⟩ := Bool.and_eq_true_iff.mp hi
  rw [hb.closed, Bool.or_false] at hi
  cases hqueue : b.queue with
  | nil =>
    rw [hqueue] at hi
    cases hi
  | cons message rest =>
    exact ⟨message, rest, rfl, hb.queue message (by rw [hqueue]; exact List.mem_cons_self)⟩

theorem sends_next (hb : b.task.sends = true) {i : BufferInput} (hevent : i.isEvent = true)
    (hhealthy : i.isHealthy = true) (hi : b.possible i = true) : (b.next i).Sends := by
  cases i with
  | send _ | flush | read _ | consume _ | dropped => cases hevent
  | refused _ _ | senderDropped => cases hhealthy
  | accepted size => exact sends_accept hb size
  | arrives message => exact .inl hb
  | receive =>
    -- a `send` awaits `Channel::send`
    obtain ⟨hreceives, -⟩ := Bool.and_eq_true_iff.mp hi
    cases htask : b.task with
    | sendingFirst _ | sendingAgain =>
      rw [htask] at hreceives
      cases hreceives
    | ready | flushing _ | draining _ | filling _ =>
      rw [htask] at hb
      cases hb

theorem flushes_next (hopen : b.Open) (hb : b.task.flushes = true) {i : BufferInput}
    (hevent : i.isEvent = true) (hhealthy : i.isHealthy = true) (hi : b.possible i = true) :
    (b.next i).Flushes := by
  cases i with
  | send _ | flush | read _ | consume _ | dropped => cases hevent
  | refused _ _ | senderDropped => cases hhealthy
  | accepted size => exact flushes_accept hb size
  | arrives message => exact .inl hb
  | receive =>
    obtain ⟨message, rest, hqueue, hmessage⟩ := hopen.queue_ne_nil hi
    change b.receive.Flushes
    cases htask : b.task with
    | draining pos =>
      simp only [receive, hqueue, onMessage, htask]
      exact flushes_drainTurn rfl pos hmessage
    | flushing pos =>
      simp only [receive, hqueue, onMessage, htask]
      exact .inl rfl
    | ready | sendingFirst _ | sendingAgain | filling _ =>
      rw [htask] at hb
      cases hb

theorem reads_next (hopen : b.Open) {len : ℕ} (hb : b.task = .filling (.fillExact len))
    {i : BufferInput} (hevent : i.isEvent = true) (hhealthy : i.isHealthy = true)
    (hi : b.possible i = true) : (b.next i).Reads len := by
  cases i with
  | send _ | flush | read _ | consume _ | dropped => cases hevent
  | refused _ _ | senderDropped => cases hhealthy
  | arrives message => exact .inl hb
  | accepted size =>
    -- a read awaits `Channel::receive`
    change (b.outgoing.any fun data => decide (size ≤ data.length)) = true at hi
    rw [outgoing, hb] at hi
    cases hi
  | receive =>
    obtain ⟨message, rest, hqueue, hmessage⟩ := hopen.queue_ne_nil hi
    change b.receive.Reads len
    rw [receive_cons hb hqueue]
    refine reads_fillTurn ?_ hmessage
    exact hb

/-- Between two calls nothing but the queue can change. -/
theorem ready_next (hb : b.task = .ready) {i : BufferInput} (hevent : i.isEvent = true)
    (hhealthy : i.isHealthy = true) (hi : b.possible i = true) : (b.next i).task = .ready := by
  cases i with
  | send _ | flush | read _ | consume _ | dropped => cases hevent
  | refused _ _ | senderDropped => cases hhealthy
  | arrives message => exact hb
  | accepted size =>
    change (b.outgoing.any fun data => decide (size ≤ data.length)) = true at hi
    rw [outgoing, hb] at hi
    cases hi
  | receive =>
    change (b.task.receives && _) = true at hi
    rw [hb] at hi
    cases hi

/-! ## What a step leaves alone -/

/-- From `b` to `b'`, nothing has reached the queue or left the read buffer. -/
structure Carries (b b' : BufferChannel) : Prop where
  opened : b.Open → b'.Open
  arrived : b'.arrived = b.arrived
  consumed : b'.consumed = b.consumed

/-- The queue, and what of the log tells of stdout. -/
def readSide (b : BufferChannel) : List ChannelMessage × Bool × Bytes × Bytes :=
  (b.queue, b.closed, b.stdout, b.consumed)

theorem carries_of_readSide {b b' : BufferChannel} (h : b'.readSide = b.readSide) :
    b.Carries b' := by
  simp only [readSide, Prod.mk.injEq] at h
  obtain ⟨hqueue, hclosed, hstdout, hconsumed⟩ := h
  refine ⟨fun hb => ⟨hclosed.trans hb.closed, ?_⟩, ?_, hconsumed⟩
  · rw [hqueue]
    exact hb.queue
  · unfold BufferChannel.arrived
    rw [hqueue, hstdout]

theorem readSide_take (size : ℕ) : (b.take size).readSide = b.readSide := by
  unfold take
  split <;> rfl

theorem readSide_accept (size : ℕ) : (b.accept size).readSide = b.readSide := by
  have htake := readSide_take (b := b) size
  unfold accept
  simp only
  cases (b.take size).task with
  | sendingFirst data =>
    simp only
    split <;> exact htake
  | flushing pos =>
    simp only
    split <;> exact htake
  | ready | sendingAgain | draining _ | filling _ => exact htake

theorem readSide_fillTurn (call : ReadCall) (message : ChannelMessage) :
    (b.fillTurn call message).readSide = b.readSide := by
  cases message with
  | stdout data =>
    simp only [fillTurn, filled]
    split <;> rfl
  | close | eof | stderr _ | exit _ | flowControl _ | windowChange _ => rfl

theorem readSide_drainTurn (pos : ℕ) (message : ChannelMessage) :
    (b.drainTurn pos message).readSide = b.readSide := by
  cases message <;> rfl

theorem readSide_onMessage (message : ChannelMessage) :
    (b.onMessage message).readSide = (b.note (.took message)).readSide := by
  unfold onMessage
  split
  · exact readSide_drainTurn _ message
  · exact readSide_fillTurn _ message
  · rfl

/-- Stdout that is taken from the queue has reached it. -/
theorem arrived_note_took (message : ChannelMessage) (rest : List ChannelMessage) :
    ({ b with queue := rest }.note (.took message)).arrived =
      { b with queue := message :: rest }.arrived := by
  cases message <;>
    simp [BufferChannel.arrived, stdout, note, BufferEffect.stdoutOf, ChannelMessage.stdoutOf]

theorem carries_receive (hopen : b.Open) (hi : b.possible .receive = true) :
    b.Carries b.receive := by
  obtain ⟨message, rest, hqueue, -⟩ := hopen.queue_ne_nil hi
  have hside := readSide_onMessage (b := { b with queue := rest }) message
  have hreceive : b.receive = { b with queue := rest }.onMessage message := by
    unfold receive
    rw [hqueue]
  rw [← hreceive] at hside
  have htook := carries_of_readSide hside
  refine ⟨fun hb => htook.opened ⟨hb.closed, ?_⟩, ?_, htook.consumed⟩
  · intro other hother
    exact hb.queue other (by rw [hqueue]; exact List.mem_cons_of_mem _ hother)
  · rw [htook.arrived, arrived_note_took, ← hqueue]

theorem carries_startSend (b : BufferChannel) (data : Bytes) : b.Carries (b.startSend data) := by
  apply carries_of_readSide
  unfold startSend
  split
  · split <;> rfl
  · rfl

theorem carries_startFlush (b : BufferChannel) : b.Carries b.startFlush := by
  apply carries_of_readSide
  unfold startFlush
  split <;> rfl

theorem carries_startRead (b : BufferChannel) (call : ReadCall) : b.Carries (b.startRead call) := by
  apply carries_of_readSide
  unfold startRead
  split <;> rfl

/-- Only the backend fills the queue, and only `consumer_read_buffer` drops octets. -/
theorem carries_next (hopen : b.Open) {i : BufferInput} (hevent : i.isEvent = true)
    (hhealthy : i.isHealthy = true) (harrives : ∀ message, i ≠ .arrives message)
    (hi : b.possible i = true) : b.Carries (b.next i) := by
  cases i with
  | send _ | flush | read _ | consume _ | dropped => cases hevent
  | refused _ _ | senderDropped => cases hhealthy
  | arrives message => exact absurd rfl (harrives message)
  | accepted size => exact carries_of_readSide (readSide_accept size)
  | receive => exact carries_receive hopen hi

theorem arrived_arrives (b : BufferChannel) (message : ChannelMessage) :
    (b.next (.arrives message)).arrived = b.arrived ++ message.stdoutOf := by
  change b.stdout ++ (b.queue ++ [message]).flatMap ChannelMessage.stdoutOf = _
  rw [List.flatMap_append, List.flatMap_singleton, ← List.append_assoc]
  rfl

theorem Open.arrives (hb : b.Open) {message : ChannelMessage} (hmessage : message.ends = false) :
    (b.next (.arrives message)).Open := by
  refine ⟨hb.closed, fun other hother => ?_⟩
  obtain hother | hother := List.mem_append.mp hother
  · exact hb.queue other hother
  · rw [List.mem_singleton.mp hother]
    exact hmessage

/-- `consumer_read_buffer` of octets that are there. -/
theorem consumed_consumerReadBuffer (len : ℕ) :
    (b.consumerReadBuffer len).consumed = b.consumed ++ b.readBuf.take len := by
  unfold consumerReadBuffer
  split
  · next h =>
      have : b.readBuf.take len = [] := by
        obtain rfl | h := h
        · rfl
        · rw [h, List.take_nil]
      rw [this, List.append_nil]
  · rfl

theorem arrived_consumerReadBuffer (len : ℕ) :
    (b.consumerReadBuffer len).arrived = b.arrived := by
  unfold consumerReadBuffer
  split <;> rfl

theorem task_consumerReadBuffer (len : ℕ) : (b.consumerReadBuffer len).task = b.task := by
  unfold consumerReadBuffer
  split <;> rfl

theorem Open.consumerReadBuffer (hb : b.Open) (len : ℕ) : (b.consumerReadBuffer len).Open := by
  unfold BufferChannel.consumerReadBuffer
  split
  · exact hb
  · exact ⟨hb.closed, hb.queue⟩

/-! ## Reads of a whole buffer and of a line -/

/-- How a read goes on when the channel has gone on to `b'`. -/
inductive ReadTurn (b : BufferChannel) (call : ReadCall) (b' : BufferChannel) : Prop
  | same (htask : b'.task = .filling call) (hbuf : b'.readBuf = b.readBuf)
  | more (htask : b'.task = .filling (call.advance b'.readBuf))
      (hbuf : b.readBuf <+: b'.readBuf) (hnone : call.resume b'.readBuf = none)
  | done {answer : Bytes} (hbuf : b.readBuf <+: b'.readBuf)
      (hanswer : call.resume b'.readBuf = some answer)
      (hreturned : b'.returned? = some (.ok answer))

theorem readTurn_fillTurn {call : ReadCall} (hb : b.task = .filling call)
    {message : ChannelMessage} (hmessage : message.ends = false) :
    b.ReadTurn call (b.fillTurn call message) := by
  cases message with
  | close | eof => cases hmessage
  | stderr _ | exit _ | flowControl _ | windowChange _ => exact .same hb rfl
  | stdout data =>
    simp only [fillTurn, filled]
    cases hresume : call.resume (b.readBuf ++ data) with
    | none => exact .more rfl (List.prefix_append _ _) hresume
    | some answer => exact .done (List.prefix_append _ _) hresume rfl

/-- A read in progress on an open channel goes on, or returns what it was called for. -/
theorem readTurn_next (hopen : b.Open) {call : ReadCall} (hb : b.task = .filling call)
    {i : BufferInput} (hevent : i.isEvent = true) (hhealthy : i.isHealthy = true)
    (hi : b.possible i = true) : b.ReadTurn call (b.next i) := by
  cases i with
  | send _ | flush | read _ | consume _ | dropped => cases hevent
  | refused _ _ | senderDropped => cases hhealthy
  | arrives message => exact .same hb rfl
  | accepted size =>
    change (b.outgoing.any fun data => decide (size ≤ data.length)) = true at hi
    rw [outgoing, hb] at hi
    cases hi
  | receive =>
    obtain ⟨message, rest, hqueue, hmessage⟩ := hopen.queue_ne_nil hi
    change b.ReadTurn call b.receive
    rw [receive_cons hb hqueue]
    have hturn := readTurn_fillTurn
      (b := ({ b with queue := rest } : BufferChannel).note (.took message)) hb hmessage
    cases hturn with
    | same htask hbuf => exact .same htask hbuf
    | more htask hbuf hnone => exact .more htask hbuf hnone
    | done hbuf hanswer hreturned => exact .done hbuf hanswer hreturned

/-- A `read_line_lf` that is in progress or has returned the first line of the read buffer. -/
def ReadsLine (b : BufferChannel) : Prop :=
  (∃ searched, lineFeed ∉ searched ∧ searched <+: b.readBuf ∧
      b.task = .filling (.readLineLf searched.length)) ∨
    ∃ text rest, lineFeed ∉ text ∧ b.readBuf = text ++ lineFeed :: rest ∧
      b.returned? = some (.ok (text ++ [lineFeed]))

/-- The search for the end of a line, behind octets that have none. -/
theorem answer_readLineLf (readBuf : Bytes) {searched : Bytes} (hsearched : lineFeed ∉ searched)
    (hbegins : searched <+: readBuf) :
    (lineFeed ∉ readBuf ∧ (ReadCall.readLineLf searched.length).answer readBuf = none) ∨
      ∃ text rest, lineFeed ∉ text ∧ readBuf = text ++ lineFeed :: rest ∧
        (ReadCall.readLineLf searched.length).answer readBuf = some (text ++ [lineFeed]) := by
  have hpos : lineFeed ∉ readBuf.take searched.length := by
    rw [← List.prefix_iff_eq_take.mp hbegins]
    exact hsearched
  generalize searched.length = pos at hpos ⊢
  unfold ReadCall.answer
  dsimp only
  cases hfind : (readBuf.drop pos).findIdx? fun b => decide (b = lineFeed) with
  | none =>
    refine .inl ⟨fun hmem => ?_, rfl⟩
    rw [← List.take_append_drop pos readBuf] at hmem
    rcases List.mem_append.mp hmem with hmem | hmem
    · exact hpos hmem
    · have hnone := List.findIdx?_eq_none_iff.mp hfind lineFeed hmem
      simp at hnone
  | some i =>
    obtain ⟨hlt, hat, hbefore⟩ := List.findIdx?_eq_some_iff_getElem.mp hfind
    rw [List.length_drop] at hlt
    have hindex : pos + i < readBuf.length := by omega
    have hlf : readBuf[pos + i] = lineFeed := by
      rw [List.getElem_drop] at hat
      exact of_decide_eq_true hat
    refine .inr ⟨readBuf.take (pos + i), readBuf.drop (pos + i + 1), ?_, ?_, ?_⟩
    · intro hmem
      rw [List.take_add] at hmem
      rcases List.mem_append.mp hmem with hmem | hmem
      · exact hpos hmem
      · obtain ⟨j, hj, hval⟩ := List.getElem_of_mem hmem
        rw [List.length_take] at hj
        rw [List.getElem_take] at hval
        have hno := hbefore j (by omega)
        rw [hval] at hno
        simp at hno
    · rw [← hlf, ← List.drop_eq_getElem_cons hindex, List.take_append_drop]
    · rw [Option.map_some, ← hlf, List.take_append_getElem hindex]

theorem readsLine_startRead (b : BufferChannel) : (b.startRead (.readLineLf 0)).ReadsLine := by
  unfold startRead
  rcases answer_readLineLf b.readBuf List.not_mem_nil List.nil_prefix with
    ⟨hno, hanswer⟩ | ⟨text, rest, hno, hbuf, hanswer⟩
  · rw [List.length_nil] at hanswer
    rw [hanswer]
    exact .inl ⟨b.readBuf, hno, List.prefix_rfl, rfl⟩
  · rw [List.length_nil] at hanswer
    rw [hanswer]
    exact .inr ⟨text, rest, hno, hbuf, rfl⟩

/-- The search for the end of a line goes on behind what it has been through. -/
theorem readsLine_next (hopen : b.Open) {searched : Bytes} (hsearched : lineFeed ∉ searched)
    (hbegins : searched <+: b.readBuf) (hb : b.task = .filling (.readLineLf searched.length))
    {i : BufferInput} (hevent : i.isEvent = true) (hhealthy : i.isHealthy = true)
    (hi : b.possible i = true) : (b.next i).ReadsLine := by
  cases readTurn_next hopen hb hevent hhealthy hi with
  | same htask hbuf => exact .inl ⟨searched, hsearched, hbuf ▸ hbegins, htask⟩
  | more htask hbuf hnone =>
    rcases answer_readLineLf _ hsearched (hbegins.trans hbuf) with ⟨hno, -⟩ | ⟨_, _, _, _, hanswer⟩
    · exact .inl ⟨_, hno, List.prefix_rfl, htask⟩
    · exact absurd (hnone.symm.trans hanswer) (by simp)
  | done hbuf hanswer hreturned =>
    rcases answer_readLineLf _ hsearched (hbegins.trans hbuf) with ⟨-, hnone⟩ |
      ⟨text, rest, hno, hline, htext⟩
    · exact absurd (hanswer.symm.trans hnone) (by simp)
    · obtain rfl := Option.some.inj (hanswer.symm.trans htext)
      exact .inr ⟨text, rest, hno, hline, hreturned⟩

/-- A `fill` that is in progress or has returned what is in the read buffer. -/
def Fills (b : BufferChannel) : Prop :=
  b.task = .filling .fill ∨ b.readBuf ≠ [] ∧ b.returned? = some (.ok b.readBuf)

theorem answer_fill {readBuf answer : Bytes} (h : ReadCall.fill.answer readBuf = some answer) :
    readBuf ≠ [] ∧ answer = readBuf := by
  change (if readBuf = [] then none else some readBuf) = some answer at h
  split at h
  · cases h
  · next hne => exact ⟨hne, (Option.some.inj h).symm⟩

theorem fills_startRead (b : BufferChannel) : (b.startRead .fill).Fills := by
  unfold startRead
  cases hanswer : ReadCall.fill.answer b.readBuf with
  | none => exact .inl rfl
  | some answer =>
    obtain ⟨hne, rfl⟩ := answer_fill hanswer
    exact .inr ⟨hne, rfl⟩

/-! ## Reads wait only for what is not there -/

/-- A read waits only while the read buffer does not have enough for it. -/
def Starves (b : BufferChannel) : Prop :=
  ∀ call, b.task = .filling call → call.answer b.readBuf = none

theorem starves_of_task (h : ∀ call, b.task ≠ .filling call) : b.Starves :=
  fun call htask => absurd htask (h call)

/-- What has been searched does not end a line. -/
theorem answer_advance {call : ReadCall} {readBuf : Bytes} (h : call.answer readBuf = none) :
    (call.advance readBuf).answer readBuf = none := by
  cases call with
  | fillOnce | fill | fillExact _ => exact h
  | readLineLf pos =>
    simp only [ReadCall.advance, ReadCall.answer, List.drop_length]
    rfl

theorem starves_filled (b : BufferChannel) (call : ReadCall) : (b.filled call).Starves := by
  unfold filled
  cases hresume : call.resume b.readBuf with
  | some answer => exact starves_of_task nofun
  | none =>
    rintro call' htask
    obtain rfl := BufferTask.filling.inj htask
    cases call with
    | fillOnce => cases hresume
    | fill | fillExact _ | readLineLf _ => exact answer_advance hresume

theorem starves_onMessage (hb : b.Starves) (message : ChannelMessage) :
    (b.onMessage message).Starves := by
  unfold onMessage
  cases htask : b.task with
  | ready | sendingFirst _ | sendingAgain | flushing _ =>
    exact starves_of_task (by simp [note, htask])
  | draining pos =>
    cases message with
    | close | eof | windowChange _ =>
      exact starves_of_task (by simp [drainTurn, returns, note, htask])
    | stdout _ | stderr _ | exit _ | flowControl _ =>
      exact starves_of_task (by simp [drainTurn, note, htask])
  | filling call =>
    cases message with
    | close | eof => exact starves_of_task fun _ htask => BufferTask.noConfusion htask
    | stderr _ | exit _ | flowControl _ | windowChange _ => exact hb
    | stdout data => exact starves_filled _ call

theorem starves_accept (hb : b.Starves) (size : ℕ) : (b.accept size).Starves := by
  have htake : (b.take size).Starves := by
    unfold take
    split <;> exact hb
  unfold accept
  dsimp only
  split
  · split <;> exact starves_of_task nofun
  · exact starves_of_task nofun
  · split <;> exact starves_of_task nofun
  · exact htake

theorem starves_next (hb : b.Starves) {i : BufferInput} (hi : b.possible i = true) :
    (b.next i).Starves := by
  cases i with
  | send data =>
    change (b.startSend data).Starves
    unfold startSend
    split
    · split <;> exact starves_of_task nofun
    · exact starves_of_task nofun
  | flush =>
    change b.startFlush.Starves
    unfold startFlush
    split <;> exact starves_of_task nofun
  | read call =>
    change (b.startRead call).Starves
    unfold startRead
    cases hanswer : call.answer b.readBuf with
    | some answer => exact starves_of_task nofun
    | none =>
      rintro call' htask
      obtain rfl := BufferTask.filling.inj htask
      exact answer_advance hanswer
  | consume len =>
    obtain ⟨hready, -⟩ := of_decide_eq_true hi
    refine starves_of_task fun call htask => ?_
    have hsame : (b.next (.consume len)).task = b.task := task_consumerReadBuffer len
    rw [hsame, hready] at htask
    cases htask
  | accepted size => exact starves_accept hb size
  | refused size error => exact starves_of_task nofun
  | receive =>
    change b.receive.Starves
    unfold receive
    split
    · next message rest _ => exact starves_onMessage (b := { b with queue := rest }) hb message
    · exact starves_of_task nofun
  | dropped => exact starves_of_task nofun
  | arrives message => exact hb
  | senderDropped => exact hb

end BufferChannel

end Flatline
