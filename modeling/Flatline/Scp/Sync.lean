import Flatline.Scp.Session

/-!
# SCP sessions in step with their server

A server answers each operation that waits with one response: a zero, or a one or a two and a line
of text. `wait_for_response` consumes the code, then decodes the text, and consumes the line only
when the text is UTF-8: a text that is not stays in the read buffer, and the next operation takes
its first octet for the code of its own response.

Source: `src/session/scp.rs` (`wait_for_response`), `src/session/channel.rs` (`fill_exact`,
`read_line_lf`).
-/

namespace Flatline.Scp

/-! ## Responses -/

/-- A response of the remote `scp`. -/
inductive Response where
  | done
  | failed (critical : Bool) (text : Bytes) (hline : lineFeed ∉ text)

namespace Response

/-- The code of a response that reports a failure. -/
def failureCode (critical : Bool) : UInt8 :=
  if critical then 2 else 1

/-- A response, as it comes through the channel. -/
def frame : Response → Bytes
  | .done => [0]
  | .failed critical text _ => failureCode critical :: (text ++ [lineFeed])

/-- The text of a response, if it has one, is UTF-8. -/
def decodes : Response → Bool
  | .done => true
  | .failed _ text _ => utf8Valid text

/-- What an operation makes of a response. -/
def outcome : Response → Except Error Unit
  | .done => .ok ()
  | .failed critical text _ =>
    .error (if utf8Valid text then Handle.reported critical text
      else Handle.unexpectedErrorMessage)

/-- What is consumed of a response. -/
def consumed : Response → Bytes
  | .done => [0]
  | .failed critical text _ =>
    failureCode critical :: if utf8Valid text then text ++ [lineFeed] else []

theorem frame_length_pos (response : Response) : 0 < response.frame.length := by
  cases response <;> exact Nat.succ_pos _

theorem consumed_eq_frame_iff (response : Response) :
    response.consumed = response.frame ↔ response.decodes = true := by
  cases response with
  | done => exact iff_of_true rfl rfl
  | failed critical text hline =>
    simp only [consumed, frame, decodes]
    cases hvalid : utf8Valid text with
    | true => exact iff_of_true rfl rfl
    | false => exact iff_of_false (by simp) Bool.false_ne_true

/-- Zero is returned as `Ok`, and one and two as an error. -/
theorem outcome_isOk_iff (response : Response) :
    response.outcome.isOk = true ↔ response.frame = [0] := by
  cases response with
  | done => exact iff_of_true rfl rfl
  | failed critical text hline => exact iff_of_false Bool.false_ne_true (by simp [frame])

end Response

/-- The responses of a server, one for each operation that waits. -/
abbrev Server := ℕ → Response

section Server

variable (quote : Text → Option Text) (server : Server)

/-- The first `n` responses, as they come through the channel. -/
def Server.frames : (n : ℕ) → Bytes
  | 0 => []
  | n + 1 => Server.frames n ++ (server n).frame

/-- The operation is answered: it waits, and its name can be quoted. -/
def Operation.asks (operation : Operation) : Bool :=
  operation.waits && (operation.opening quote).isOk

/-- How many of the operations are answered. -/
def asked (operations : List Operation) : ℕ :=
  operations.countP (Operation.asks quote)

/-- The results of operations, newest first, each from its own response. -/
def resultsOf : List Operation → List (Operation × Except Error Unit)
  | [] => []
  | operation :: earlier =>
    (operation, match operation.opening quote with
      | .error e => .error e
      | .ok _ => if operation.waits then (server (asked quote earlier)).outcome else .ok ()) ::
        resultsOf earlier

/-- The channel works, and brings responses of the server, no more than the first `limit`. -/
def Server.Serves (limit : ℕ) (h : Handle) : HandleInput → Prop
  | .operate _ => True
  | .executed result => result = .ok ()
  | .channel (.arrives message) => message.ends = false ∧
    h.channel.arrived ++ message.stdoutOf <+: server.frames limit
  | .channel input => input.isHealthy = true

/-- An operation that is answered is called only when the texts of all earlier responses are
UTF-8. -/
def TextsDecode (h : Handle) : HandleInput → Prop
  | .operate operation => operation.asks quote = true →
    ∀ k < asked quote h.operations, (server k).decodes = true
  | _ => True

end Server

/-! ## The stream of responses -/

section Stream

variable {quote : Text → Option Text} {server : Server} {limit n : ℕ} {b : BufferChannel}

/-- Two lines that begin the same octets are the same line. -/
theorem line_unique {xs ys r t : Bytes} (hxs : lineFeed ∉ xs) (hys : lineFeed ∉ ys)
    (h : xs ++ lineFeed :: r = ys ++ lineFeed :: t) : xs = ys := by
  induction xs generalizing ys with
  | nil =>
    cases ys with
    | nil => rfl
    | cons y ys =>
      obtain rfl := (List.cons.inj h).1
      exact absurd List.mem_cons_self hys
  | cons x xs ih =>
    cases ys with
    | nil =>
      obtain rfl := (List.cons.inj h).1
      exact absurd List.mem_cons_self hxs
    | cons y ys =>
      obtain ⟨rfl, htail⟩ := List.cons.inj h
      rw [ih (fun hmem => hxs (List.mem_cons_of_mem _ hmem))
        (fun hmem => hys (List.mem_cons_of_mem _ hmem)) htail]

/-- What has been consumed once the first `n` responses have been read. -/
def Server.settled (server : Server) : (n : ℕ) → Bytes
  | 0 => []
  | n + 1 => server.frames n ++ (server n).consumed

theorem Server.settled_eq_frames (h : ∀ k < n, (server k).decodes = true) :
    server.settled n = server.frames n := by
  cases n with
  | zero => rfl
  | succ n =>
    have hlast := (server n).consumed_eq_frame_iff.mpr (h n (Nat.lt_succ_self n))
    rw [Server.settled, Server.frames, hlast]

theorem Server.frames_begin (server : Server) {m : ℕ} (h : n ≤ m) :
    server.frames n <+: server.frames m := by
  obtain ⟨d, rfl⟩ := Nat.exists_eq_add_of_le h
  induction d with
  | zero => exact List.prefix_rfl
  | succ d ih => exact (ih (Nat.le_add_right n d)).trans (List.prefix_append _ _)

/-- The channel is open, and shows what the server has sent. -/
structure Served (server : Server) (limit : ℕ) (b : BufferChannel) : Prop where
  isOpen : b.Open
  shows : b.ShowsStdout
  starves : b.Starves
  arrived : b.arrived <+: server.frames limit

/-- The channel goes on. -/
theorem Served.next (hs : Served server limit b) {i : BufferInput} (hi : b.possible i = true)
    (hcarries : b.Carries (b.next i)) : Served server limit (b.next i) where
  isOpen := hcarries.opened hs.isOpen
  shows := BufferChannel.showsStdout_next hs.shows hi
  starves := BufferChannel.starves_next hs.starves hi
  arrived := by
    rw [hcarries.arrived]
    exact hs.arrived

theorem Served.consume (hs : Served server limit b) (hready : b.task = .ready) {len : ℕ}
    (hlen : len ≤ b.readBuf.length) : Served server limit (b.consumerReadBuffer len) := by
  have hi : b.possible (.consume len) = true := decide_eq_true ⟨hready, .inl hlen⟩
  refine ⟨hs.isOpen.consumerReadBuffer len, BufferChannel.showsStdout_next hs.shows hi,
    BufferChannel.starves_next hs.starves hi, ?_⟩
  rw [BufferChannel.arrived_consumerReadBuffer]
  exact hs.arrived

/-- What has been read so far is a beginning of the responses. -/
theorem Served.exposed (hs : Served server limit b) :
    b.consumed ++ b.readBuf <+: server.frames limit := by
  have hshows : b.consumed ++ b.readBuf = b.stdout := hs.shows
  have harrived := hs.arrived
  rw [BufferChannel.arrived, ← hshows] at harrived
  exact (List.prefix_append _ _).trans harrived

/-- Behind the first `n` responses comes the next one. -/
theorem Served.next_response (hs : Served server limit b) (rest : Bytes) (hne : rest ≠ [])
    (hexposed : b.consumed ++ b.readBuf = server.frames n ++ rest) :
    ∃ more, rest <+: (server n).frame ++ more := by
  have hbegins := hs.exposed
  rw [hexposed] at hbegins
  rcases Nat.lt_or_ge n limit with hlt | hge
  · obtain ⟨more, hmore⟩ := server.frames_begin (Nat.succ_le_of_lt hlt)
    rw [← hmore, Server.frames, List.append_assoc] at hbegins
    exact ⟨more, (List.prefix_append_right_inj _).mp hbegins⟩
  · have hlength := (hbegins.trans (server.frames_begin hge)).length_le
    rw [List.length_append] at hlength
    have hpos := List.length_pos_iff.mpr hne
    omega

end Stream

/-! ## Sessions in step -/

namespace Handle

/-- A new session on an open channel that is quiet. -/
structure IsInitial (h : Handle) : Prop where
  channel : h.channel.IsInitial
  isOpen : h.channel.Open
  quiet : h.channel.arrived = []
  task : h.task = .idle
  operations : h.operations = []
  results : h.results = []

/-- One step of a session. -/
abbrev Step (quote : Text → Option Text) : Handle → HandleInput → Handle → Prop :=
  Machine.Step possible (next quote)

/-- The states of the runs that meet `guard` at every step. -/
abbrev ReachableVia (quote : Text → Option Text) (guard : Handle → HandleInput → Prop) :
    Handle → Prop :=
  Machine.ReachVia IsInitial (Step quote) guard

section Invariant

variable (quote : Text → Option Text) (server : Server) (limit : ℕ)

/-- All responses that were read have been consumed, but the last one perhaps only as far as it
decodes. -/
structure Settled (b : BufferChannel) (n : ℕ) : Prop where
  earlier : ∀ k, k + 1 < n → (server k).decodes = true
  consumed : b.consumed = server.settled n

/-- No operation is in progress: each has the result of its own response. -/
structure Rests (h : Handle) : Prop where
  channel : Served server limit h.channel
  task : h.task = .idle
  ready : h.channel.task = .ready
  results : h.results = resultsOf quote server h.operations
  settled : Settled server h.channel (asked quote h.operations)

/-- An operation is in progress. -/
structure Works (h : Handle) (operation : Operation) (earlier : List Operation) : Prop where
  channel : Served server limit h.channel
  operations : h.operations = operation :: earlier
  results : h.results = resultsOf quote server earlier

/-- An operation that is answered is in progress, and the texts of the earlier responses are
UTF-8. -/
structure Waits (h : Handle) (operation : Operation) (earlier : List Operation) : Prop extends
    Works quote server limit h operation earlier where
  asks : operation.asks quote = true
  decode : ∀ k < asked quote earlier, (server k).decodes = true

/-- Where the channel is while an operation waits, by what the operation awaits. -/
def Awaits (b : BufferChannel) (operation : Operation) (n : ℕ) : HandleTask → Prop
  | .idle => False
  | .executing operation' => operation' = operation ∧ b.task = .ready ∧
    b.consumed = server.frames n
  | .sending operation' => operation' = operation ∧ b.task.sends = true ∧
    b.consumed = server.frames n
  | .flushing operation' => operation' = operation ∧ b.task.flushes = true ∧
    b.consumed = server.frames n
  | .code operation' => operation' = operation ∧ b.task = .filling (.fillExact 1) ∧
    b.consumed = server.frames n
  | .line operation' critical => operation' = operation ∧
    (∃ searched, lineFeed ∉ searched ∧ searched <+: b.readBuf ∧
      b.task = .filling (.readLineLf searched.length)) ∧
    (∃ text hline, server n = .failed critical text hline) ∧
    b.consumed = server.frames n ++ [Response.failureCode critical]

/-- The session and its server are in step. -/
inductive InStep (h : Handle) : Prop
  | rests (hr : Rests quote server limit h)
  | waits {operation : Operation} {earlier : List Operation}
    (hw : Waits quote server limit h operation earlier)
    (hawaits : Awaits server h.channel operation (asked quote earlier) h.task)
  /-- `FileSender::send` is in progress. -/
  | sends {operation : Operation} {earlier : List Operation}
    (hw : Works quote server limit h operation earlier) (hopening : (operation.opening quote).isOk)
    (hwaits : operation.waits = false) (htask : h.task = .sending operation)
    (hsends : h.channel.task.sends = true)
    (hsettled : Settled server h.channel (asked quote earlier))

end Invariant

variable {quote : Text → Option Text} {server : Server} {limit : ℕ} {h : Handle}
  {operation : Operation} {earlier : List Operation}

/-! ### Results -/

theorem asked_cons (operation : Operation) (earlier : List Operation) :
    asked quote (operation :: earlier) =
      asked quote earlier + if operation.asks quote = true then 1 else 0 := by
  rw [asked, List.countP_cons]
  rfl

theorem resultsOf_asks (hasks : operation.asks quote = true) :
    resultsOf quote server (operation :: earlier) =
      (operation, (server (asked quote earlier)).outcome) :: resultsOf quote server earlier := by
  obtain ⟨hwaits, hopening⟩ := Bool.and_eq_true_iff.mp hasks
  rw [resultsOf]
  cases hopen : operation.opening quote with
  | error e =>
    rw [hopen] at hopening
    cases hopening
  | ok opening => simp only [hwaits, if_true]

/-- The operation returns what its response says. -/
theorem inStep_returns (hw : Waits quote server limit h operation earlier)
    (hready : h.channel.task = .ready)
    (hconsumed : h.channel.consumed =
      server.frames (asked quote earlier) ++ (server (asked quote earlier)).consumed) :
    InStep quote server limit
      (h.returns operation (server (asked quote earlier)).outcome) := by
  have hasked : asked quote h.operations = asked quote earlier + 1 := by
    rw [hw.operations, asked_cons, if_pos hw.asks]
  refine .rests ⟨hw.channel, rfl, hready, ?_, ?_⟩
  · change _ :: h.results = resultsOf quote server h.operations
    rw [hw.operations, hw.results, resultsOf_asks hw.asks]
  · change Settled server h.channel (asked quote h.operations)
    rw [hasked]
    exact ⟨fun k hk => hw.decode k (Nat.lt_of_succ_lt_succ hk), hconsumed⟩

/-- The channel goes on. -/
theorem Waits.with_channel (hw : Waits quote server limit h operation earlier) {b : BufferChannel}
    (hs : Served server limit b) :
    Waits quote server limit { h with channel := b } operation earlier :=
  ⟨⟨hs, hw.operations, hw.results⟩, hw.asks, hw.decode⟩

/-- The operation awaits something else. -/
theorem Waits.await (hw : Waits quote server limit h operation earlier) (task : HandleTask)
    (hawaits : Awaits server h.channel operation (asked quote earlier) task) :
    InStep quote server limit { h with task } :=
  .waits (h := { h with task }) ⟨⟨hw.channel, hw.operations, hw.results⟩, hw.asks, hw.decode⟩
    hawaits

/-! ### Awaits -/

/-- The line that is read behind a code is the text of the response. -/
theorem inStep_afterLine (hw : Waits quote server limit h operation earlier) {critical : Bool}
    {text : Bytes} {hline : lineFeed ∉ text}
    (hresponse : server (asked quote earlier) = .failed critical text hline)
    (hconsumed : h.channel.consumed =
      server.frames (asked quote earlier) ++ [Response.failureCode critical])
    (hreads : h.channel.ReadsLine) : InStep quote server limit (h.afterLine operation critical) := by
  unfold afterLine
  rcases hreads with ⟨searched, hsearched, hbegins, htask⟩ | ⟨text', rest, hline', hbuf, hreturned⟩
  · rw [BufferChannel.returned?_eq_none (by rw [htask]; nofun)]
    exact hw.await _
      ⟨rfl, ⟨searched, hsearched, hbegins, htask⟩, ⟨text, hline, hresponse⟩, hconsumed⟩
  · obtain ⟨more, hmore⟩ := hw.channel.next_response (n := asked quote earlier)
      (Response.failureCode critical :: (text' ++ lineFeed :: rest)) (by simp)
      (by rw [hconsumed, hbuf, List.append_assoc]; rfl)
    rw [hresponse] at hmore
    obtain ⟨tail, htail⟩ := hmore
    simp only [Response.frame, List.cons_append, List.append_assoc, List.nil_append,
      List.cons.injEq, true_and] at htail
    -- the line that has been read and the text of the response both end at the first line feed
    obtain rfl := line_unique hline' hline htail
    have hready := BufferChannel.task_of_returned? hreturned
    have hmsg : (text' ++ [lineFeed]).take ((text' ++ [lineFeed]).length - 1) = text' := by
      simp
    have hreturns := inStep_returns (h := { h with
        channel := h.channel.consumerReadBuffer (text' ++ [lineFeed]).length })
      (hw.with_channel (hw.channel.consume hready (by rw [hbuf]; simp)))
      ((BufferChannel.task_consumerReadBuffer _).trans hready)
    have hkeeps := inStep_returns hw hready
    rw [hresponse] at hreturns hkeeps
    rw [hreturned]
    dsimp only
    rw [hmsg]
    simp only [Response.outcome, Response.consumed] at hreturns hkeeps
    -- a text that is not UTF-8 stays in the read buffer
    cases hvalid : utf8Valid text' with
    | true =>
      rw [hvalid] at hreturns
      apply hreturns
      have hfirst : h.channel.readBuf = (text' ++ [lineFeed]) ++ rest := by
        rw [hbuf, List.append_assoc]
        rfl
      rw [BufferChannel.consumed_consumerReadBuffer, hconsumed, hfirst, List.take_left' rfl,
        List.append_assoc]
      rfl
    | false =>
      rw [hvalid] at hkeeps
      exact hkeeps hconsumed

/-- The octet that is read is the code of the response. -/
theorem inStep_afterCode (hw : Waits quote server limit h operation earlier)
    (hconsumed : h.channel.consumed = server.frames (asked quote earlier))
    (hreads : h.channel.Reads 1) : InStep quote server limit (h.afterCode operation) := by
  unfold afterCode
  rcases hreads with htask | ⟨hlen, hreturned⟩
  · rw [BufferChannel.returned?_eq_none (by rw [htask]; nofun)]
    exact hw.await _ ⟨rfl, htask, hconsumed⟩
  · obtain ⟨code, rest, hbuf⟩ : ∃ code rest, h.channel.readBuf = code :: rest :=
      List.exists_cons_of_length_pos hlen
    obtain ⟨more, hmore⟩ := hw.channel.next_response (n := asked quote earlier)
      (code :: rest) (by simp) (by rw [hconsumed, hbuf])
    have hready := BufferChannel.task_of_returned? hreturned
    have hserved := hw.channel.consume hready hlen
    have hready' : (h.channel.consumerReadBuffer 1).task = .ready :=
      (BufferChannel.task_consumerReadBuffer _).trans hready
    have hconsumed' : (h.channel.consumerReadBuffer 1).consumed =
        server.frames (asked quote earlier) ++ [code] := by
      rw [BufferChannel.consumed_consumerReadBuffer, hconsumed, hbuf]
      rfl
    rw [hreturned, hbuf]
    simp only [List.take_succ_cons, List.take_zero]
    cases hresponse : server (asked quote earlier) with
    | done =>
      rw [hresponse] at hmore
      obtain ⟨rfl, -⟩ := List.cons_prefix_cons.mp hmore
      rw [if_pos rfl]
      have hreturns := inStep_returns (hw.with_channel hserved) hready'
      rw [hresponse] at hreturns
      exact hreturns hconsumed'
    | failed critical text hline =>
      rw [hresponse] at hmore
      obtain ⟨rfl, -⟩ := List.cons_prefix_cons.mp hmore
      have hread : Served server limit
          ((h.channel.consumerReadBuffer 1).startRead (.readLineLf 0)) :=
        hserved.next (i := .read (.readLineLf 0)) (decide_eq_true ⟨hready', rfl⟩)
          (BufferChannel.carries_startRead _ _)
      have hline' := inStep_afterLine (hw.with_channel hread) hresponse
        ((BufferChannel.carries_startRead _ _).consumed.trans hconsumed')
        (BufferChannel.readsLine_startRead _)
      cases critical with
      | false => exact hline'
      | true => exact hline'

theorem inStep_waitForResponse (hw : Waits quote server limit h operation earlier)
    (hready : h.channel.task = .ready)
    (hconsumed : h.channel.consumed = server.frames (asked quote earlier)) :
    InStep quote server limit (h.waitForResponse operation) := by
  have hread : Served server limit (h.channel.startRead (.fillExact 1)) :=
    hw.channel.next (i := .read (.fillExact 1)) (decide_eq_true ⟨hready, rfl⟩)
      (BufferChannel.carries_startRead _ _)
  exact inStep_afterCode (hw.with_channel hread)
    ((BufferChannel.carries_startRead _ _).consumed.trans hconsumed)
    (BufferChannel.reads_startRead _ _)

theorem inStep_afterFlush (hw : Waits quote server limit h operation earlier)
    (hconsumed : h.channel.consumed = server.frames (asked quote earlier))
    (hflushes : h.channel.Flushes) : InStep quote server limit (h.afterFlush operation) := by
  unfold afterFlush
  rcases hflushes with htask | hreturned
  · rw [BufferChannel.returned?_eq_none (by intro hready; rw [hready] at htask; cases htask)]
    exact hw.await _ ⟨rfl, htask, hconsumed⟩
  · rw [hreturned]
    exact inStep_waitForResponse hw (BufferChannel.task_of_returned? hreturned) hconsumed

theorem inStep_afterSend (hw : Waits quote server limit h operation earlier)
    (hconsumed : h.channel.consumed = server.frames (asked quote earlier))
    (hsends : h.channel.Sends) : InStep quote server limit (h.afterSend operation) := by
  unfold afterSend
  rcases hsends with htask | hreturned
  · rw [BufferChannel.returned?_eq_none (by intro hready; rw [hready] at htask; cases htask)]
    exact hw.await _ ⟨rfl, htask, hconsumed⟩
  · have hready := BufferChannel.task_of_returned? hreturned
    have hwaits := (Bool.and_eq_true_iff.mp hw.asks).1
    have hflush : Served server limit h.channel.startFlush :=
      hw.channel.next (i := .flush) (decide_eq_true hready) (BufferChannel.carries_startFlush _)
    rw [hreturned]
    simp only [hwaits, if_true]
    exact inStep_afterFlush (hw.with_channel hflush)
      ((BufferChannel.carries_startFlush _).consumed.trans hconsumed)
      (BufferChannel.flushes_startFlush _)

/-- `FileSender::send` has no response. -/
theorem inStep_afterSend_of_not_waits (hw : Works quote server limit h operation earlier)
    (hopening : (operation.opening quote).isOk) (hwaits : operation.waits = false)
    (hsettled : Settled server h.channel (asked quote earlier)) (hsends : h.channel.Sends) :
    InStep quote server limit (h.afterSend operation) := by
  unfold afterSend
  rcases hsends with htask | hreturned
  · rw [BufferChannel.returned?_eq_none (by intro hready; rw [hready] at htask; cases htask)]
    exact .sends (h := { h with task := .sending operation })
      ⟨hw.channel, hw.operations, hw.results⟩ hopening hwaits rfl htask hsettled
  · have hasks : ¬ operation.asks quote = true := by simp [Operation.asks, hwaits]
    rw [hreturned]
    simp only [hwaits]
    refine .rests ⟨hw.channel, rfl, BufferChannel.task_of_returned? hreturned, ?_, ?_⟩
    · change _ :: h.results = resultsOf quote server h.operations
      rw [hw.operations, hw.results, resultsOf]
      cases hopen : operation.opening quote with
      | error e =>
        rw [hopen] at hopening
        cases hopening
      | ok opening => simp only [hwaits]; rfl
    · change Settled server h.channel (asked quote h.operations)
      rw [hw.operations, asked_cons, if_neg hasks]
      exact hsettled

/-! ### Steps -/

theorem waits_of_exec {command : Text} (h : operation.opening quote = .ok (.exec command)) :
    operation.waits = true := by
  cases operation with
  | send data => cases h
  | _ => rfl

theorem Settled.frames {b : BufferChannel} {n : ℕ} (hs : Settled server b n)
    (hdecode : ∀ k < n, (server k).decodes = true) : b.consumed = server.frames n := by
  rw [hs.consumed, Server.settled_eq_frames hdecode]

/-- An operation begins. -/
theorem inStep_start (hr : Rests quote server limit h)
    (hdecode : operation.asks quote = true →
      ∀ k < asked quote h.operations, (server k).decodes = true) :
    InStep quote server limit (h.start quote operation) := by
  unfold start
  dsimp only
  cases hopen : operation.opening quote with
  | error e =>
    have hasks : ¬ operation.asks quote = true := by
      simp [Operation.asks, hopen, Except.isOk, Except.toBool]
    refine .rests ⟨hr.channel, rfl, hr.ready, ?_, ?_⟩
    -- a refused argument is the result, and nothing is sent
    · change _ :: h.results = resultsOf quote server (operation :: h.operations)
      rw [resultsOf, hopen, hr.results]
    · change Settled server h.channel (asked quote (operation :: h.operations))
      rw [asked_cons, if_neg hasks]
      exact hr.settled
  | ok opening =>
    -- only operations that wait for a response need the earlier ones to have been consumed
    cases hwaits : operation.waits with
    | true =>
      have hasks : operation.asks quote = true := by
        rw [Operation.asks, hwaits, hopen]
        rfl
      have hframes := hr.settled.frames (hdecode hasks)
      cases opening with
      | exec command =>
        exact .waits (h := { h with task := _, operations := operation :: h.operations })
          ⟨⟨hr.channel, rfl, hr.results⟩, hasks, hdecode hasks⟩ ⟨rfl, hr.ready, hframes⟩
      | record data =>
        have hsend : Served server limit (h.channel.startSend data) :=
          hr.channel.next (i := .send data) (decide_eq_true hr.ready)
            (BufferChannel.carries_startSend _ _)
        exact inStep_afterSend
          (h := { h with
            channel := h.channel.startSend data
            operations := operation :: h.operations })
          ⟨⟨hsend, rfl, hr.results⟩, hasks, hdecode hasks⟩
          ((BufferChannel.carries_startSend _ _).consumed.trans hframes)
          (BufferChannel.sends_startSend _ _)
    | false =>
      cases opening with
      | exec command =>
        rw [waits_of_exec hopen] at hwaits
        cases hwaits
      | record data =>
        have hsend : Served server limit (h.channel.startSend data) :=
          hr.channel.next (i := .send data) (decide_eq_true hr.ready)
            (BufferChannel.carries_startSend _ _)
        refine inStep_afterSend_of_not_waits
          (h := { h with
            channel := h.channel.startSend data
            operations := operation :: h.operations })
          ⟨hsend, rfl, hr.results⟩ (by rw [hopen]; rfl) hwaits ?_
          (BufferChannel.sends_startSend _ _)
        exact ⟨hr.settled.earlier,
          (BufferChannel.carries_startSend _ _).consumed.trans hr.settled.consumed⟩

/-- The channel goes on, or brings more of what the server sends. -/
theorem served_next (hs : Served server limit h.channel) {i : BufferInput}
    (hevent : i.isEvent = true) (hserves : server.Serves limit h (.channel i))
    (hi : h.channel.possible i = true) :
    Served server limit (h.channel.next i) ∧
      (h.channel.next i).consumed = h.channel.consumed ∧ i.isHealthy = true := by
  by_cases harrives : ∃ message, i = .arrives message
  · obtain ⟨message, rfl⟩ := harrives
    obtain ⟨hmessage, hbegins⟩ := hserves
    refine ⟨⟨hs.isOpen.arrives hmessage, BufferChannel.showsStdout_next hs.shows hi,
      BufferChannel.starves_next hs.starves hi, ?_⟩, rfl, ?_⟩
    · rw [BufferChannel.arrived_arrives]
      exact hbegins
    · change (!message.ends) = true
      rw [hmessage]
      rfl
  · have hhealthy : i.isHealthy = true := by
      cases i with
      | arrives message => exact absurd ⟨message, rfl⟩ harrives
      | _ => exact hserves
    have hcarries := BufferChannel.carries_next hs.isOpen hevent hhealthy
      (fun message hmessage => harrives ⟨message, hmessage⟩) hi
    exact ⟨hs.next hi hcarries, hcarries.consumed, hhealthy⟩

/-- The channel goes on under an operation, and the operation with it. -/
theorem inStep_channel (hstep : InStep quote server limit h) {i : BufferInput}
    (hevent : i.isEvent = true) (hserves : server.Serves limit h (.channel i))
    (hi : h.channel.possible i = true) :
    InStep quote server limit ({ h with channel := h.channel.next i }.resume) := by
  cases hstep with
  | rests hr =>
    obtain ⟨hserved, hconsumed, hhealthy⟩ := served_next hr.channel hevent hserves hi
    have hidle : { h with channel := h.channel.next i }.resume =
        { h with channel := h.channel.next i } := by
      unfold resume
      simp only [hr.task]
    rw [hidle]
    exact .rests ⟨hserved, hr.task, BufferChannel.ready_next hr.ready hevent hhealthy hi,
      hr.results, hr.settled.earlier, hconsumed.trans hr.settled.consumed⟩
  | sends hw hopening hwaits htask hsends hsettled =>
    obtain ⟨hserved, hconsumed, hhealthy⟩ := served_next hw.channel hevent hserves hi
    unfold resume
    simp only [htask]
    exact inStep_afterSend_of_not_waits (h := { h with channel := h.channel.next i, task := _ })
      ⟨hserved, hw.operations, hw.results⟩ hopening hwaits
      ⟨hsettled.earlier, hconsumed.trans hsettled.consumed⟩
      (BufferChannel.sends_next hsends hevent hhealthy hi)
  | @waits operation earlier hw hawaits =>
    obtain ⟨hserved, hconsumed, hhealthy⟩ := served_next hw.channel hevent hserves hi
    have hopen := hw.channel.isOpen
    have hw' : ∀ task, Waits quote server limit { h with channel := h.channel.next i, task := task }
        operation earlier := fun task =>
      ⟨⟨hserved, hw.operations, hw.results⟩, hw.asks, hw.decode⟩
    unfold resume
    dsimp only
    cases htask : h.task with
    | idle =>
      rw [htask] at hawaits
      cases hawaits
    | executing operation' =>
      rw [htask] at hawaits
      obtain ⟨rfl, hready, hframes⟩ := hawaits
      exact .waits (hw' (.executing operation'))
        ⟨rfl, BufferChannel.ready_next hready hevent hhealthy hi, hconsumed.trans hframes⟩
    | sending operation' =>
      rw [htask] at hawaits
      obtain ⟨rfl, hsends, hframes⟩ := hawaits
      exact inStep_afterSend (hw' _) (hconsumed.trans hframes)
        (BufferChannel.sends_next hsends hevent hhealthy hi)
    | flushing operation' =>
      rw [htask] at hawaits
      obtain ⟨rfl, hflushes, hframes⟩ := hawaits
      exact inStep_afterFlush (hw' _) (hconsumed.trans hframes)
        (BufferChannel.flushes_next hopen hflushes hevent hhealthy hi)
    | code operation' =>
      rw [htask] at hawaits
      obtain ⟨rfl, hreads, hframes⟩ := hawaits
      exact inStep_afterCode (hw' _) (hconsumed.trans hframes)
        (BufferChannel.reads_next hopen hreads hevent hhealthy hi)
    | line operation' critical =>
      rw [htask] at hawaits
      obtain ⟨rfl, ⟨searched, hsearched, hbegins, hreads⟩, ⟨text, hline, hresponse⟩, hframes⟩ :=
        hawaits
      exact inStep_afterLine (hw' _) hresponse (hconsumed.trans hframes)
        (BufferChannel.readsLine_next hopen hsearched hbegins hreads hevent hhealthy hi)

theorem inStep_next (hstep : InStep quote server limit h) {i : HandleInput}
    (hserves : server.Serves limit h i) (hdecode : TextsDecode quote server h i)
    (hi : h.possible i = true) : InStep quote server limit (h.next quote i) := by
  cases i with
  | operate operation =>
    have hidle : h.task = .idle := of_decide_eq_true hi
    cases hstep with
    | rests hr => exact inStep_start hr hdecode
    | waits hw hawaits =>
      rw [hidle] at hawaits
      cases hawaits
    | sends _ _ _ htask =>
      rw [hidle] at htask
      cases htask
  | executed result =>
    obtain rfl : result = .ok () := hserves
    unfold next
    cases htask : h.task with
    | executing operation =>
      dsimp only
      cases hstep with
      | rests hr =>
        rw [hr.task] at htask
        cases htask
      | waits hw hawaits =>
        rw [htask] at hawaits
        obtain ⟨rfl, hready, hframes⟩ := hawaits
        exact inStep_waitForResponse hw hready hframes
      | sends _ _ _ htask' =>
        rw [htask'] at htask
        cases htask
    | idle | sending _ | flushing _ | code _ | line _ _ =>
      simp only [possible, htask, Bool.false_eq_true] at hi
  | channel i =>
    obtain ⟨hevent, hi⟩ := Bool.and_eq_true_iff.mp hi
    exact inStep_channel hstep hevent hserves hi

theorem IsInitial.inStep (hh : h.IsInitial) : InStep quote server limit h := by
  refine .rests ⟨⟨hh.isOpen, ?_, ?_, ?_⟩, hh.task, hh.channel.task, ?_, ?_⟩
  · unfold BufferChannel.ShowsStdout BufferChannel.exposed BufferChannel.stdout
    rw [hh.channel.log, hh.channel.readBuf]
    rfl
  · exact BufferChannel.starves_of_task (by rw [hh.channel.task]; nofun)
  · rw [hh.quiet]
    exact List.nil_prefix
  · rw [hh.results, hh.operations]
    rfl
  · rw [hh.operations]
    refine ⟨fun k hk => absurd hk (Nat.not_lt_zero _), ?_⟩
    unfold BufferChannel.consumed
    rw [hh.channel.log]
    rfl

theorem Settled.consumed_iff {b : BufferChannel} {n : ℕ} (hs : Settled server b n) :
    b.consumed = server.frames n ↔ ∀ k < n, (server k).decodes = true := by
  constructor
  · intro hframes k hk
    obtain ⟨n, rfl⟩ : ∃ m, n = m + 1 := ⟨n - 1, by omega⟩
    rcases Nat.lt_or_eq_of_le (Nat.le_of_lt_succ hk) with hlt | rfl
    · exact hs.earlier k (Nat.succ_lt_succ hlt)
    · rw [hs.consumed, Server.settled, Server.frames] at hframes
      exact (server k).consumed_eq_frame_iff.mp (List.append_cancel_left hframes)
  · exact hs.frames

/-- The operation in progress awaits its response. -/
def HandleTask.reads : HandleTask → Bool
  | .code _ | .line _ _ => true
  | _ => false

theorem consumed_of_awaits {b : BufferChannel} {n : ℕ} {task : HandleTask}
    (hawaits : Awaits server b operation n task) (hreads : HandleTask.reads task = true) :
    b.consumed <+: server.frames (n + 1) := by
  cases task with
  | idle | executing _ | sending _ | flushing _ => cases hreads
  | code _ =>
    obtain ⟨-, -, hframes⟩ := hawaits
    rw [hframes]
    exact server.frames_begin (Nat.le_succ n)
  | line _ critical =>
    obtain ⟨-, -, ⟨text, hline, hresponse⟩, hframes⟩ := hawaits
    rw [hframes, Server.frames, List.prefix_append_right_inj, hresponse]
    exact List.prefix_append [_] (text ++ [lineFeed])

/-- An operation waits for its response only while it has not been taken from the queue. -/
theorem not_taken_of_awaits {task : HandleTask}
    (hw : Waits quote server limit h operation earlier)
    (hawaits : Awaits server h.channel operation (asked quote earlier) task)
    (hreads : HandleTask.reads task = true) :
    ¬ server.frames (asked quote earlier + 1) <+: h.channel.stdout := by
  have hshows : h.channel.consumed ++ h.channel.readBuf = h.channel.stdout := hw.channel.shows
  have hstarves := hw.channel.starves
  rw [← hshows, Server.frames]
  cases task with
  | idle | executing _ | sending _ | flushing _ => cases hreads
  | code _ =>
    obtain ⟨-, hfilling, hframes⟩ := hawaits
    have hanswer : (if h.channel.readBuf.length < 1 then none
        else some (h.channel.readBuf.take 1)) = none := hstarves _ hfilling
    rw [hframes, List.prefix_append_right_inj]
    intro hbegins
    have hlength := Nat.lt_of_lt_of_le
      (server (asked quote earlier)).frame_length_pos hbegins.length_le
    rw [if_neg (Nat.not_lt.mpr hlength)] at hanswer
    cases hanswer
  | line _ critical =>
    obtain ⟨-, ⟨searched, hsearched, hbegins, hfilling⟩, ⟨text, hline, hresponse⟩, hframes⟩ :=
      hawaits
    rcases BufferChannel.answer_readLineLf _ hsearched hbegins with ⟨hno, -⟩ | ⟨_, _, _, _, hanswer⟩
    · rw [hframes, hresponse, List.append_assoc, List.prefix_append_right_inj]
      rintro ⟨more, hmore⟩
      apply hno
      have htail : (text ++ [lineFeed]) ++ more = h.channel.readBuf := (List.cons.inj hmore).2
      rw [← htail]
      simp
    · exact absurd ((hstarves _ hfilling).symm.trans hanswer) (by simp)

/-- A session with a server that answers each operation, in any chunks, where an operation is called
only when the texts of all earlier responses are UTF-8: a zero is `Ok`, a one or a two an error, and
each operation has the result of its own response. The responses have been consumed, and nothing
else, exactly if the text of the last one is UTF-8, too; an operation waits for its response only
until that has been taken from the queue. -/
theorem responses_in_step (quote : Text → Option Text) (server : Server) (limit : ℕ) (h : Handle)
    (hreach : ReachableVia quote
      (fun h i => server.Serves limit h i ∧ TextsDecode quote server h i) h) :
    (∀ k, (server k).outcome.isOk = true ↔ (server k).frame = [0]) ∧
    (h.task = .idle → h.results = resultsOf quote server h.operations ∧
      (h.channel.consumed = server.frames (asked quote h.operations) ↔
        ∀ k < asked quote h.operations, (server k).decodes = true)) ∧
    (h.task ≠ .idle → ∃ operation earlier, h.operations = operation :: earlier ∧
      h.results = resultsOf quote server earlier ∧
      (HandleTask.reads h.task = true →
        h.channel.consumed <+: server.frames (asked quote earlier + 1) ∧
        ¬ server.frames (asked quote earlier + 1) <+: h.channel.stdout)) := by
  have hstep : InStep quote server limit h := by
    refine Machine.ReachVia.invariant hreach (fun _ hh => hh.inStep) ?_
    rintro h i _ hstep ⟨hserves, hdecode⟩ ⟨hi, rfl⟩
    exact inStep_next hstep hserves hdecode hi
  refine ⟨fun k => (server k).outcome_isOk_iff, ?_⟩
  cases hstep with
  | rests hr =>
    exact ⟨fun _ => ⟨hr.results, hr.settled.consumed_iff⟩, fun hbusy => absurd hr.task hbusy⟩
  | waits hw hawaits =>
    refine ⟨fun hidle => ?_, fun _ => ⟨_, _, hw.operations, hw.results, fun hreads =>
      ⟨consumed_of_awaits hawaits hreads, not_taken_of_awaits hw hawaits hreads⟩⟩⟩
    rw [hidle] at hawaits
    cases hawaits
  | sends hw _ _ htask =>
    refine ⟨fun hidle => ?_, fun _ => ⟨_, _, hw.operations, hw.results, fun hreads => ?_⟩⟩
    · rw [hidle] at htask
      cases htask
    · rw [htask] at hreads
      cases hreads

/-! ## Runs -/

/-- A new session on a new channel. -/
def fresh : Handle where
  channel := .fresh
  task := .idle
  operations := []
  results := []

theorem isInitial_fresh : fresh.IsInitial :=
  ⟨⟨rfl, rfl, rfl, rfl⟩, ⟨rfl, nofun⟩, rfl, rfl, rfl, rfl⟩

instance (server : Server) (limit : ℕ) (h : Handle) (i : HandleInput) :
    Decidable (server.Serves limit h i) := by
  unfold Server.Serves
  split <;> infer_instance

instance (quote : Text → Option Text) (server : Server) (h : Handle) (i : HandleInput) :
    Decidable (TextsDecode quote server h i) := by
  unfold TextsDecode
  split <;> infer_instance

/-- A server that refuses the first operation and accepts the others. -/
def refusingServer (text : Bytes) (hline : lineFeed ∉ text) : Server := fun k =>
  if k = 0 then .failed false text hline else .done

/-- The directory is refused, in two chunks of which the second one has the next response, too. -/
theorem responses_in_step_two :
    ∃ h : Handle, h.results.map (fun result => result.2.isOk) = [true, false] ∧
      h.results = resultsOf some (refusingServer (ascii "no") (by decide)) h.operations := by
  obtain ⟨h, hrun, hidle, hresults⟩ : ∃ h, Machine.runVia possible (next some)
      (fun h i => (refusingServer (ascii "no") (by decide)).Serves 2 h i ∧
        TextsDecode some (refusingServer (ascii "no") (by decide)) h i) fresh
      [.operate (.enter 493 (ascii "a")), .channel (.accepted 10),
        .channel (.arrives (.stdout (1 :: ascii "n"))), .channel .receive,
        .channel (.arrives (.stdout (ascii "o" ++ [lineFeed, 0]))), .channel .receive,
        .operate .exit, .channel (.accepted 2)] = some h ∧
        h.task = .idle ∧ h.results.map (fun result => result.2.isOk) = [true, false] :=
    ⟨_, rfl, rfl, rfl⟩
  have hreach := Machine.reachVia_runVia (.start isInitial_fresh) hrun
  exact ⟨h, hresults, ((responses_in_step some _ 2 h hreach).2.1 hidle).1⟩

/-- After a text that is not UTF-8, its first octet is taken for the code of the next response. -/
theorem text_taken_for_code :
    ¬ ∀ (quote : Text → Option Text) (server : Server) (limit : ℕ) (h : Handle),
      ReachableVia quote (fun h i => server.Serves limit h i) h → h.task = .idle →
        h.results = resultsOf quote server h.operations := by
  intro hclaim
  have hline : lineFeed ∉ ([0xFF] : Bytes) := by decide
  obtain ⟨h, hrun, hidle, hresults, hexpected⟩ : ∃ h, Machine.runVia possible (next some)
      (fun h i => (refusingServer [0xFF] hline).Serves 2 h i) fresh
      [.operate (.enter 493 (ascii "a")), .channel (.accepted 10),
        .channel (.arrives (.stdout [1, 0xFF, lineFeed])), .channel .receive,
        .operate .exit, .channel (.accepted 2)] = some h ∧ h.task = .idle ∧
        h.results.map (fun result => result.2.isOk) = [false, false] ∧
        (resultsOf some (refusingServer [0xFF] hline) h.operations).map
          (fun result => result.2.isOk) = [true, false] :=
    ⟨_, rfl, rfl, rfl, rfl⟩
  have hreach := Machine.reachVia_runVia (.start isInitial_fresh) hrun
  rw [hclaim some _ 2 h hreach hidle, hexpected] at hresults
  cases hresults

end Handle

end Flatline.Scp
