import Flatline.Session.BufferChannel

/-!
# What a buffered channel reads

The read buffer shows the stdout of the channel, whichever loop has taken it from the queue. The end
of the stream is different: `fill_once` reports the `Eof` it takes, but neither it nor `flush`, which
passes over one, remembers it. A read that comes later waits for whatever follows in the queue.

Source: `src/session/channel.rs` (`BufferChannel::flush`, `BufferChannel::fill_once`).
-/

namespace Flatline

namespace BufferEffect

/-- The octets the user has dropped from the read buffer, in order. -/
def consumedOf : List BufferEffect → Bytes
  | [] => []
  | .consumed data :: earlier => consumedOf earlier ++ data
  | _ :: earlier => consumedOf earlier

/-- The stdout of the messages taken from the queue, in order. -/
def stdoutOf : List BufferEffect → Bytes
  | [] => []
  | .took (.stdout data) :: earlier => stdoutOf earlier ++ data
  | _ :: earlier => stdoutOf earlier

/-- An `Eof` has been taken from the queue. -/
def tookEof : BufferEffect → Bool
  | .took .eof => true
  | _ => false

end BufferEffect

/-- A read that takes these messages, and then the end of the queue if its sender is gone, ends with
an error: a `Close`, an `Eof` or that end comes before the stdout it needs. -/
def endsRead (closed : Bool) : ReadCall → (readBuf : Bytes) → List ChannelMessage → Bool
  | _, _, [] => closed
  | _, _, .close :: _ | _, _, .eof :: _ => true
  | call, readBuf, .stdout data :: rest =>
    (call.resume (readBuf ++ data)).isNone &&
      endsRead closed (call.advance (readBuf ++ data)) (readBuf ++ data) rest
  | call, readBuf, .stderr _ :: rest | call, readBuf, .exit _ :: rest
  | call, readBuf, .flowControl _ :: rest | call, readBuf, .windowChange _ :: rest =>
    endsRead closed call readBuf rest

namespace BufferChannel

/-- All octets the read buffer has ever held. -/
def exposed (b : BufferChannel) : Bytes :=
  BufferEffect.consumedOf b.log ++ b.readBuf

/-- All stdout taken from the queue. -/
def stdout (b : BufferChannel) : Bytes :=
  BufferEffect.stdoutOf b.log

/-- An `Eof` has been taken from the queue. -/
def eofTaken (b : BufferChannel) : Bool :=
  b.log.any BufferEffect.tookEof

/-- The read in progress returns an error without waiting: each `receive` up to then finds a message
or the end of the queue. -/
inductive Fails : BufferChannel → Prop
  | now {b : BufferChannel} {error : Error} (hpossible : b.possible .receive = true)
      (hlog : b.receive.log.head? = some (.returned (.error error))) : Fails b
  | later {b : BufferChannel} {call : ReadCall} (hpossible : b.possible .receive = true)
      (htask : b.receive.task = .filling call) (h : Fails b.receive) : Fails b

/-- Once an `Eof` has been taken, a read that needs more than is buffered is called only when the
messages that are queued already end it. -/
def EndIsQueued (b : BufferChannel) : BufferInput → Prop
  | .read call => b.eofTaken = true → call.answer b.readBuf = none →
    endsRead b.closed (call.advance b.readBuf) b.readBuf b.queue = true
  | _ => True

instance (b : BufferChannel) (i : BufferInput) : Decidable (b.EndIsQueued i) := by
  cases i <;> unfold EndIsQueued <;> infer_instance

/-! ## Stdout -/

variable {b : BufferChannel}

@[simp] theorem exposed_returns (b : BufferChannel) (result : Except Error Bytes) :
    (b.returns result).exposed = b.exposed := rfl

@[simp] theorem stdout_returns (b : BufferChannel) (result : Except Error Bytes) :
    (b.returns result).stdout = b.stdout := rfl

@[simp] theorem eofTaken_returns (b : BufferChannel) (result : Except Error Bytes) :
    (b.returns result).eofTaken = b.eofTaken := rfl

/-- Every octet of stdout goes through the read buffer, in order. -/
def ShowsStdout (b : BufferChannel) : Prop :=
  b.exposed = b.stdout

theorem showsStdout_filled (hb : b.ShowsStdout) (call : ReadCall) : (b.filled call).ShowsStdout := by
  unfold filled
  split <;> exact hb

/-- A turn of either loop keeps the stdout of its message. -/
theorem showsStdout_onMessage (hb : b.ShowsStdout) (htask : b.task.receives = true)
    (message : ChannelMessage) : (b.onMessage message).ShowsStdout := by
  have happend : ∀ data : Bytes, BufferEffect.consumedOf b.log ++ (b.readBuf ++ data) =
      BufferEffect.stdoutOf b.log ++ data := fun data => by
    rw [← List.append_assoc]
    exact congrArg (· ++ data) hb
  unfold onMessage
  cases h : b.task with
  | ready | sendingFirst data | sendingAgain | flushing pos =>
    rw [h] at htask
    cases htask
  | draining pos =>
    cases message with
    | stdout data => exact happend data
    | close | eof | stderr data | exit status | flowControl on | windowChange count => exact hb
  | filling call =>
    cases message with
    | stdout data =>
      exact showsStdout_filled (b := { b.note (.took (.stdout data)) with
        readBuf := b.readBuf ++ data }) (happend data) call
    | close | eof | stderr data | exit status | flowControl on | windowChange count => exact hb

theorem showsStdout_take (hb : b.ShowsStdout) (size : ℕ) : (b.take size).ShowsStdout := by
  unfold take
  cases b.outgoing <;> exact hb

theorem showsStdout_accept (hb : b.ShowsStdout) (size : ℕ) : (b.accept size).ShowsStdout := by
  have htake := showsStdout_take hb size
  unfold accept
  simp only
  cases (b.take size).task with
  | sendingFirst data =>
    simp only
    by_cases hsize : size < data.length
    · rw [if_pos hsize]
      exact htake
    · rw [if_neg hsize]
      exact htake
  | flushing pos =>
    simp only
    by_cases hall : pos + size = (b.take size).writeBuf.length
    · rw [if_pos hall]
      exact htake
    · rw [if_neg hall]
      exact htake
  | ready | sendingAgain | draining pos | filling call => exact htake

theorem showsStdout_next (hb : b.ShowsStdout) {i : BufferInput} (hi : b.possible i = true) :
    (b.next i).ShowsStdout := by
  cases i with
  | send data =>
    change (b.startSend data).ShowsStdout
    unfold startSend
    split
    · split <;> exact hb
    · exact hb
  | flush =>
    change b.startFlush.ShowsStdout
    unfold startFlush
    split <;> exact hb
  | read call =>
    change (b.startRead call).ShowsStdout
    unfold startRead
    split <;> exact hb
  | consume len =>
    change (b.consumerReadBuffer len).ShowsStdout
    unfold consumerReadBuffer
    split
    · exact hb
    · change (BufferEffect.consumedOf b.log ++ b.readBuf.take len) ++ b.readBuf.drop len = b.stdout
      rw [List.append_assoc, List.take_append_drop]
      exact hb
  | accepted size => exact showsStdout_accept hb size
  | refused size error => exact showsStdout_take hb size
  | receive =>
    change b.receive.ShowsStdout
    unfold receive
    split
    · next message rest hqueue =>
        exact showsStdout_onMessage (b := { b with queue := rest }) hb
          (Bool.and_eq_true_iff.mp hi).1 message
    · exact hb
  | dropped | arrives message | senderDropped => exact hb

/-! ## The end of the stream -/

/-- What arrives later does not change how a read ends. -/
theorem endsRead_append {call : ReadCall} {readBuf : Bytes} {queue : List ChannelMessage}
    (h : endsRead false call readBuf queue = true) (message : ChannelMessage) :
    endsRead false call readBuf (queue ++ [message]) = true := by
  induction queue generalizing call readBuf with
  | nil => cases h
  | cons first rest ih =>
    cases first with
    | close | eof => rfl
    | stdout data =>
      obtain ⟨hmore, h⟩ := Bool.and_eq_true_iff.mp h
      exact Bool.and_eq_true_iff.mpr ⟨hmore, ih h⟩
    | stderr data | exit status | flowControl on | windowChange count => exact ih h

/-- Nor does the loss of the sender. -/
theorem endsRead_closed {closed : Bool} {call : ReadCall} {readBuf : Bytes}
    {queue : List ChannelMessage} (h : endsRead closed call readBuf queue = true) :
    endsRead true call readBuf queue = true := by
  induction queue generalizing call readBuf with
  | nil => rfl
  | cons first rest ih =>
    cases first with
    | close | eof => rfl
    | stdout data =>
      obtain ⟨hmore, h⟩ := Bool.and_eq_true_iff.mp h
      exact Bool.and_eq_true_iff.mpr ⟨hmore, ih h⟩
    | stderr data | exit status | flowControl on | windowChange count => exact ih h

/-- A read takes the next message of the queue. -/
theorem receive_cons {call : ReadCall} {message : ChannelMessage} {rest : List ChannelMessage}
    (htask : b.task = .filling call) (hqueue : b.queue = message :: rest) :
    b.receive = ({ b with queue := rest }.note (.took message)).fillTurn call message := by
  unfold receive onMessage
  simp only [hqueue, htask]

theorem possible_receive_cons {call : ReadCall} {message : ChannelMessage}
    {rest : List ChannelMessage} (htask : b.task = .filling call)
    (hqueue : b.queue = message :: rest) : b.possible .receive = true := by
  simp [possible, htask, hqueue, BufferTask.receives]

/-- A queue that ends the read makes it fail. -/
theorem fails_of_endsRead {call : ReadCall} (htask : b.task = .filling call)
    (h : endsRead b.closed call b.readBuf b.queue = true) : b.Fails := by
  induction hqueue : b.queue generalizing b call with
  | nil =>
    rw [hqueue] at h
    change b.closed = true at h
    have hlog : b.receive.log.head? = some (.returned (.error receiveFailed)) := by
      unfold receive
      rw [hqueue]
      rfl
    exact .now (by simp [possible, htask, hqueue, h, BufferTask.receives]) hlog
  | cons message rest ih =>
    rw [hqueue] at h
    have hpossible := possible_receive_cons htask hqueue
    have hreceive := receive_cons htask hqueue
    cases message with
    | close | eof => exact .now hpossible (by rw [hreceive]; rfl)
    | stdout data =>
      obtain ⟨hmore, h⟩ := Bool.and_eq_true_iff.mp h
      rw [Option.isNone_iff_eq_none] at hmore
      have hfilled : b.receive =
          { b with
            queue := rest
            readBuf := b.readBuf ++ data
            task := .filling (call.advance (b.readBuf ++ data))
            log := .took (.stdout data) :: b.log } := by
        rw [hreceive]
        simp only [fillTurn, filled, note, hmore]
      have htask' : b.receive.task = .filling (call.advance (b.readBuf ++ data)) := by
        rw [hfilled]
      refine .later hpossible htask' (ih htask' ?_ ?_) <;> rw [hfilled]
      exact h
    | stderr data | exit status | flowControl on | windowChange count =>
      have htask' : b.receive.task = .filling call := by
        rw [hreceive]
        exact htask
      refine .later hpossible htask' (ih htask' ?_ ?_) <;> rw [hreceive]
      · exact h
      · rfl

/-- Only such a queue does. -/
theorem endsRead_of_fails {call : ReadCall} (htask : b.task = .filling call) (h : b.Fails) :
    endsRead b.closed call b.readBuf b.queue = true := by
  induction h generalizing call with
  | @now b error hpossible hlog =>
    cases hqueue : b.queue with
    | nil =>
      simp [possible, htask, hqueue, BufferTask.receives] at hpossible
      exact hpossible
    | cons message rest =>
      rw [receive_cons htask hqueue] at hlog
      cases message with
      | close | eof => rfl
      | stdout data =>
        cases hresume : call.resume (b.readBuf ++ data) <;>
          simp only [fillTurn, filled, note, hresume] at hlog <;> cases hlog
      | stderr data | exit status | flowControl on | windowChange count => cases hlog
  -- the read has taken one message and waits on
  | @later b call' hpossible htask' h ih =>
    have hrest := ih htask'
    cases hqueue : b.queue with
    | nil =>
      unfold receive at htask'
      rw [hqueue] at htask'
      cases htask'
    | cons message rest =>
      rw [receive_cons htask hqueue] at hrest htask'
      cases message with
      | close | eof => rfl
      | stdout data =>
        cases hresume : call.resume (b.readBuf ++ data) with
        | some answer =>
          simp only [fillTurn, filled, note, hresume] at htask'
          cases htask'
        | none =>
          simp only [fillTurn, filled, note, hresume] at hrest htask'
          injection htask' with hcall
          refine Bool.and_eq_true_iff.mpr ⟨by rw [hresume]; rfl, ?_⟩
          rw [hcall]
          exact hrest
      | stderr data | exit status | flowControl on | windowChange count =>
        have hcall : call = call' := by
          change b.task = _ at htask'
          rw [htask] at htask'
          injection htask'
        subst hcall
        exact hrest

/-- All stdout has gone through the read buffer, and once an `Eof` has been taken, a read in progress
has a queue that ends it. -/
structure Remembers (b : BufferChannel) : Prop where
  shows : b.ShowsStdout
  ends : ∀ call, b.eofTaken = true → b.task = .filling call →
    endsRead b.closed call b.readBuf b.queue = true

/-- A read that goes on waiting has not taken the `Eof` itself. -/
theorem ends_receive (hb : b.Remembers) (htask : b.task.receives = true) (call : ReadCall)
    (heof : b.receive.eofTaken = true) (hfilling : b.receive.task = .filling call) :
    endsRead b.receive.closed call b.receive.readBuf b.receive.queue = true := by
  cases hqueue : b.queue with
  | nil =>
    unfold receive at hfilling
    rw [hqueue] at hfilling
    cases hfilling
  | cons message rest =>
    cases h : b.task with
    | ready | sendingFirst data | sendingAgain | flushing pos =>
      rw [h] at htask
      cases htask
    | draining pos =>
      -- `flush` never hands its place to a read
      simp only [receive, hqueue, onMessage, h] at hfilling
      cases message <;> cases hfilling
    | filling call₀ =>
      rw [receive_cons h hqueue] at heof hfilling ⊢
      have hends := hb.ends call₀
      rw [hqueue] at hends
      cases message with
      | close | eof => cases hfilling
      | stdout data =>
        cases hresume : call₀.resume (b.readBuf ++ data) with
        | some answer =>
          simp only [fillTurn, filled, note, hresume] at hfilling
          cases hfilling
        | none =>
          simp only [fillTurn, filled, note, hresume] at heof hfilling ⊢
          injection hfilling with hcall
          rw [← hcall]
          exact (Bool.and_eq_true_iff.mp (hends heof h)).2
      | stderr data | exit status | flowControl on | windowChange count =>
        have hcall : call₀ = call := by
          change b.task = _ at hfilling
          rw [h] at hfilling
          injection hfilling
        rw [← hcall]
        exact hends heof h

/-- The task after `Channel::send` has returned is not a read. -/
theorem task_accept_ne (hout : b.outgoing.isSome = true) (size : ℕ) (call : ReadCall) :
    (b.accept size).task ≠ .filling call := by
  intro h
  unfold outgoing at hout
  cases htask : b.task with
  | ready | draining pos | filling call =>
    rw [htask] at hout
    cases hout
  | sendingFirst data =>
    simp only [accept, take, outgoing, htask, note] at h
    by_cases hsize : size < data.length
    · rw [if_pos hsize] at h
      cases h
    · rw [if_neg hsize] at h
      cases h
  | sendingAgain =>
    simp only [accept, take, outgoing, htask, note] at h
    cases h
  | flushing pos =>
    simp only [accept, take, outgoing, htask, note] at h
    by_cases hall : pos + size = b.writeBuf.length
    · rw [if_pos hall] at h
      cases h
    · rw [if_neg hall] at h
      cases h

theorem remembers_next (hb : b.Remembers) {i : BufferInput} (hguard : b.EndIsQueued i)
    (hi : b.possible i = true) : (b.next i).Remembers := by
  refine ⟨showsStdout_next hb.shows hi, fun call heof hfilling => ?_⟩
  cases i with
  | send data =>
    change (b.startSend data).task = _ at hfilling
    unfold startSend at hfilling
    split at hfilling
    · split at hfilling <;> cases hfilling
    · cases hfilling
  | flush =>
    change b.startFlush.task = _ at hfilling
    unfold startFlush at hfilling
    split at hfilling <;> cases hfilling
  | read call₀ =>
    change (b.startRead call₀).eofTaken = true at heof
    change (b.startRead call₀).task = _ at hfilling
    change endsRead (b.startRead call₀).closed call (b.startRead call₀).readBuf
      (b.startRead call₀).queue = true
    unfold startRead at heof hfilling ⊢
    cases hanswer : call₀.answer b.readBuf with
    | some answer =>
      rw [hanswer] at hfilling
      cases hfilling
    | none =>
      simp only [hanswer] at heof hfilling ⊢
      injection hfilling with hcall
      rw [← hcall]
      exact hguard heof hanswer
  | consume len =>
    have htask : b.task = .ready := (of_decide_eq_true hi).1
    change (b.consumerReadBuffer len).task = _ at hfilling
    unfold consumerReadBuffer at hfilling
    split at hfilling <;> rw [htask] at hfilling <;> cases hfilling
  | accepted size =>
    obtain ⟨data, hout, -⟩ := (Option.any_eq_true _ _).mp hi
    exact absurd hfilling (task_accept_ne (by rw [hout]; rfl) size call)
  | refused size error => cases hfilling
  | receive => exact ends_receive hb (Bool.and_eq_true_iff.mp hi).1 call heof hfilling
  | dropped => cases hfilling
  | arrives message =>
    have hopen : b.closed = false := by
      change (!b.closed) = true at hi
      exact (Bool.not_eq_true' _).mp hi
    have hends := hb.ends call heof hfilling
    change endsRead b.closed call b.readBuf (b.queue ++ [message]) = true
    rw [hopen] at hends ⊢
    exact endsRead_append hends message
  | senderDropped => exact endsRead_closed (hb.ends call heof hfilling)

theorem IsInitial.remembers (h : b.IsInitial) : b.Remembers := by
  refine ⟨?_, fun call heof _ => ?_⟩
  · unfold ShowsStdout exposed stdout
    rw [h.log, h.readBuf]
    rfl
  · unfold eofTaken at heof
    rw [h.log] at heof
    cases heof

/-- What the reads show: all stdout in the order of its arrival; and once an `Eof` has been taken
from the queue, a read that needs more than is buffered returns an error instead of waiting. A read
that is called when the queue does not end it waits, or returns stdout from after the `Eof`. -/
theorem reads_to_the_end (h : ReachableVia EndIsQueued b) :
    b.exposed = b.stdout ∧
      (∀ call, b.eofTaken = true → b.task = .filling call → b.Fails) ∧
      ∀ call, b.possible (.read call) = true → ¬b.EndIsQueued (.read call) →
        (b.next (.read call)).eofTaken = true ∧
          (∃ call', (b.next (.read call)).task = .filling call') ∧ ¬(b.next (.read call)).Fails := by
  have hb : b.Remembers := by
    refine Machine.ReachVia.invariant h (fun _ => IsInitial.remembers) ?_
    rintro b i _ hb hguard ⟨hi, rfl⟩
    exact remembers_next hb hguard hi
  refine ⟨hb.shows, fun call heof htask => fails_of_endsRead htask (hb.ends call heof htask), ?_⟩
  intro call _ hguard
  change ¬(b.eofTaken = true → call.answer b.readBuf = none →
    endsRead b.closed (call.advance b.readBuf) b.readBuf b.queue = true) at hguard
  rw [Classical.not_imp, Classical.not_imp] at hguard
  obtain ⟨heof, hanswer, hends⟩ := hguard
  have hnext : b.next (.read call) = { b with task := .filling (call.advance b.readBuf) } := by
    change b.startRead call = _
    unfold startRead
    rw [hanswer]
  rw [hnext]
  refine ⟨heof, ⟨_, rfl⟩, fun hfails => hends ?_⟩
  exact endsRead_of_fails (b := { b with task := .filling (call.advance b.readBuf) }) rfl hfails

/-- A `flush` takes the `Eof`, and the `Close` behind it makes the next read fail. -/
theorem reads_to_the_end_before_close :
    ∃ b, ReachableVia EndIsQueued b ∧ b.eofTaken = true ∧ b.task = .filling .fill ∧ b.Fails := by
  obtain ⟨b, hrun, heof, htask⟩ : ∃ b, Machine.runVia possible next EndIsQueued fresh
      [.send [1, 2], .accepted 1, .flush, .accepted 0, .arrives .eof,
        .arrives (.windowChange 9), .arrives .close, .receive, .receive, .accepted 1,
        .read .fill] = some b ∧ b.eofTaken = true ∧ b.task = .filling .fill := ⟨_, rfl, rfl, rfl⟩
  have hb : ReachableVia EndIsQueued b := Machine.reachVia_runVia reachable_fresh hrun
  exact ⟨b, hb, heof, htask, (reads_to_the_end hb).2.1 .fill heof htask⟩

/-- A `flush` takes the `Eof`, and the next read waits for a further message. -/
theorem swallowed_eof_waits :
    ∃ b, Reachable b ∧ b.eofTaken = true ∧ b.task = .filling .fill ∧ b.possible .receive = false := by
  obtain ⟨b, hrun, hb⟩ : ∃ b, Machine.runVia possible next (fun _ _ => True) fresh
      [.send [1, 2], .accepted 1, .flush, .accepted 0, .arrives .eof,
        .arrives (.windowChange 9), .receive, .receive, .accepted 1, .read .fill] = some b ∧
        b.eofTaken = true ∧ b.task = .filling .fill ∧ b.possible .receive = false :=
    ⟨_, rfl, rfl, rfl, rfl⟩
  exact ⟨b, Machine.reachVia_runVia reachable_fresh hrun, hb⟩

end BufferChannel

end Flatline
