import Flatline.Session.BufferCalls
import Flatline.Session.BufferWrites

/-!
# Calls of a buffered channel that may fail

What a call comes to on any channel, whether it works or not: it goes on, returns what it was called
for, or returns an error of the channel. The octets that are written and the octets that are read do
not depend on each other.

Source: `src/session/channel.rs`.
-/

namespace Flatline

/-- The stdout that an input brings into the queue. -/
def BufferInput.arrival : BufferInput → Bytes
  | .arrives message => message.stdoutOf
  | _ => []

namespace BufferChannel

variable {b : BufferChannel} {i : BufferInput}

/-- The call in progress has returned an error. -/
def Errs (b : BufferChannel) : Prop :=
  ∃ e, b.returned? = some (.error e)

theorem errs_returns (b : BufferChannel) (e : Error) : (b.returns (.error e)).Errs :=
  ⟨e, rfl⟩

/-! ## Histories -/

theorem log_take (b : BufferChannel) (size : ℕ) : b.log <:+ (b.take size).log := by
  unfold take
  split
  · exact List.suffix_cons _ _
  · exact List.suffix_rfl

theorem log_returns (b : BufferChannel) (result : Except Error Bytes) :
    b.log <:+ (b.returns result).log :=
  List.suffix_cons _ _

theorem log_accept (b : BufferChannel) (size : ℕ) : b.log <:+ (b.accept size).log := by
  refine (b.log_take size).trans ?_
  unfold accept
  dsimp only
  split
  · split <;> exact List.suffix_cons _ _
  · exact List.suffix_cons _ _
  · split
    · exact List.suffix_cons _ _
    · exact List.suffix_rfl
  · exact List.suffix_rfl

theorem log_onMessage (b : BufferChannel) (message : ChannelMessage) :
    b.log <:+ (b.onMessage message).log := by
  refine (List.suffix_cons (.took message) b.log).trans ?_
  unfold onMessage
  split
  · cases message with
    | close => exact List.suffix_cons _ _
    | _ => exact List.suffix_rfl
  · cases message with
    | close | eof => exact List.suffix_cons _ _
    | stdout data =>
      simp only [fillTurn, filled]
      split
      · exact List.suffix_cons _ _
      · exact List.suffix_rfl
    | _ => exact List.suffix_rfl
  · exact List.suffix_rfl

theorem log_startFlush (b : BufferChannel) : b.log <:+ b.startFlush.log := by
  unfold startFlush
  split
  · exact List.suffix_cons _ _
  · exact List.suffix_rfl

theorem log_startRead (b : BufferChannel) (call : ReadCall) : b.log <:+ (b.startRead call).log := by
  unfold startRead
  split
  · exact List.suffix_cons _ _
  · exact List.suffix_rfl

theorem log_startSend (b : BufferChannel) (data : Bytes) : b.log <:+ (b.startSend data).log := by
  have hoffered : b.log <:+ (b.note (.offered data)).log := List.suffix_cons _ _
  unfold startSend
  split
  · split
    · exact hoffered.trans (List.suffix_cons _ _)
    · exact hoffered
  · exact hoffered

theorem log_consumerReadBuffer (b : BufferChannel) (len : ℕ) :
    b.log <:+ (b.consumerReadBuffer len).log := by
  unfold consumerReadBuffer
  split
  · exact List.suffix_rfl
  · exact List.suffix_cons _ _

theorem log_receive (b : BufferChannel) : b.log <:+ b.receive.log := by
  unfold receive
  split
  · next message rest _ => exact log_onMessage { b with queue := rest } message
  · exact log_returns _ _

/-- What an event does to the history: it only grows. -/
theorem log_event (hevent : i.isEvent = true) : b.log <:+ (b.next i).log := by
  cases i with
  | send _ | flush | read _ | consume _ | dropped => cases hevent
  | accepted size => exact b.log_accept size
  | refused size error => exact (b.log_take size).trans (List.suffix_cons _ _)
  | receive => exact b.log_receive
  | arrives message | senderDropped => exact List.suffix_rfl

/-! ## What is read -/

theorem consumed_receive (b : BufferChannel) :
    b.receive.consumed = b.consumed ∧ b.receive.arrived = b.arrived := by
  unfold receive
  split
  · next message rest hqueue =>
    have hside := readSide_onMessage (b := { b with queue := rest }) message
    have hcarries := carries_of_readSide hside
    refine ⟨hcarries.consumed, ?_⟩
    rw [hcarries.arrived, arrived_note_took, ← hqueue]
  · exact ⟨rfl, rfl⟩

/-- Events consume nothing, and only new messages bring stdout. -/
theorem consumed_event (hevent : i.isEvent = true) :
    (b.next i).consumed = b.consumed ∧ (b.next i).arrived = b.arrived ++ i.arrival := by
  have hsame : ∀ {c : BufferChannel}, c.readSide = b.readSide →
      c.consumed = b.consumed ∧ c.arrived = b.arrived ++ [] := fun h =>
    ⟨(carries_of_readSide h).consumed, by rw [(carries_of_readSide h).arrived, List.append_nil]⟩
  cases i with
  | send _ | flush | read _ | consume _ | dropped => cases hevent
  | accepted size => exact hsame (readSide_accept size)
  | refused size error => exact hsame (readSide_take size)
  | receive =>
    refine ⟨b.consumed_receive.1, ?_⟩
    change b.receive.arrived = b.arrived ++ []
    rw [b.consumed_receive.2, List.append_nil]
  | arrives message => exact ⟨rfl, arrived_arrives b message⟩
  | senderDropped => exact ⟨rfl, (List.append_nil _).symm⟩

/-! ## What is written -/

/-- What the history and the write buffer tell of the octets that are written. -/
def writeSide (b : BufferChannel) : Bytes × Bytes × Bytes :=
  (b.offered, b.accepted, b.writeBuf)

theorem writeSide_onMessage (b : BufferChannel) (message : ChannelMessage) :
    (b.onMessage message).writeSide = b.writeSide := by
  unfold onMessage
  split
  · cases message <;> rfl
  · cases message with
    | stdout data =>
      simp only [fillTurn, filled]
      split <;> rfl
    | _ => rfl
  · rfl

theorem writeSide_receive (b : BufferChannel) : b.receive.writeSide = b.writeSide := by
  unfold receive
  split
  · next message rest _ => exact writeSide_onMessage { b with queue := rest } message
  · rfl

theorem writeSide_startRead (b : BufferChannel) (call : ReadCall) :
    (b.startRead call).writeSide = b.writeSide := by
  unfold startRead
  split <;> rfl

theorem writeSide_consumerReadBuffer (b : BufferChannel) (len : ℕ) :
    (b.consumerReadBuffer len).writeSide = b.writeSide := by
  unfold consumerReadBuffer
  split <;> rfl

/-- Without a `Channel::send` in progress an event writes nothing. -/
theorem writeSide_event (hevent : i.isEvent = true) (hout : b.outgoing = none)
    (hi : b.possible i = true) : (b.next i).writeSide = b.writeSide := by
  cases i with
  | send _ | flush | read _ | consume _ | dropped => cases hevent
  | accepted size =>
    change (b.outgoing.any fun data => decide (size ≤ data.length)) = true at hi
    rw [hout] at hi
    cases hi
  | refused size error =>
    change (b.outgoing.any fun data => decide (size < data.length)) = true at hi
    rw [hout] at hi
    cases hi
  | receive => exact b.writeSide_receive
  | arrives message | senderDropped => rfl

theorem offered_startFlush (b : BufferChannel) : b.startFlush.offered = b.offered := by
  unfold startFlush
  split <;> rfl

theorem offered_startSend (b : BufferChannel) (data : Bytes) :
    (b.startSend data).offered = b.offered ++ data := by
  unfold startSend
  split
  · split <;> rfl
  · rfl

theorem offered_accept (b : BufferChannel) (size : ℕ) : (b.accept size).offered = b.offered := by
  have htake : (b.take size).offered = b.offered := by
    unfold take
    split <;> rfl
  rw [← htake]
  unfold accept
  dsimp only
  split
  · split <;> rfl
  · rfl
  · split <;> rfl
  · rfl

theorem offered_event (hevent : i.isEvent = true) : (b.next i).offered = b.offered := by
  cases i with
  | send _ | flush | read _ | consume _ | dropped => cases hevent
  | accepted size => exact b.offered_accept size
  | refused size error =>
    change ((b.take size).returns _).offered = _
    unfold take
    split <;> rfl
  | receive => exact congrArg Prod.fst b.writeSide_receive
  | arrives message | senderDropped => rfl

/-! ## Calls -/

/-- Between two calls an event starts nothing. -/
theorem ready_event (hb : b.task = .ready) (hevent : i.isEvent = true)
    (hi : b.possible i = true) : (b.next i).task = .ready := by
  cases i with
  | refused size error =>
    change (b.outgoing.any fun data => decide (size < data.length)) = true at hi
    rw [outgoing, hb] at hi
    cases hi
  | senderDropped | arrives message => exact hb
  | _ => exact ready_next hb hevent rfl hi

theorem sends_event (hb : b.task.sends = true) (hevent : i.isEvent = true)
    (hi : b.possible i = true) : (b.next i).Sends ∨ (b.next i).Errs := by
  cases i with
  | refused size error => exact .inr (errs_returns _ error)
  | senderDropped => exact .inl (.inl hb)
  | arrives message => exact .inl (.inl hb)
  | send _ | flush | read _ | consume _ | dropped => cases hevent
  | accepted size => exact .inl (sends_next hb rfl rfl hi)
  | receive => exact .inl (sends_next hb rfl rfl hi)

/-- A `flush` that is in progress, or has returned with nothing left to send. -/
def FlushesAll (b : BufferChannel) : Prop :=
  b.task.flushes = true ∨ b.returned? = some (.ok []) ∧ b.writeBuf = []

theorem flushesAll_startFlush (b : BufferChannel) : b.startFlush.FlushesAll := by
  unfold startFlush
  split
  · next hempty => exact .inr ⟨rfl, hempty⟩
  · exact .inl rfl

theorem flushesAll_event (hb : b.task.flushes = true) (hevent : i.isEvent = true)
    (hi : b.possible i = true) : (b.next i).FlushesAll ∨ (b.next i).Errs := by
  cases i with
  | send _ | flush | read _ | consume _ | dropped => cases hevent
  | refused size error => exact .inr (errs_returns _ error)
  | senderDropped | arrives message => exact .inl (.inl hb)
  | accepted size =>
    change (b.accept size).FlushesAll ∨ _
    cases htask : b.task with
    | flushing pos =>
      simp only [accept, take, outgoing, htask, note]
      split
      · exact .inl (.inr ⟨rfl, rfl⟩)
      · exact .inl (.inl rfl)
    | draining pos =>
      change (b.outgoing.any fun data => decide (size ≤ data.length)) = true at hi
      rw [outgoing, htask] at hi
      cases hi
    | ready | sendingFirst _ | sendingAgain | filling _ =>
      rw [htask] at hb
      cases hb
  | receive =>
    change b.receive.FlushesAll ∨ b.receive.Errs
    cases htask : b.task with
    | draining pos =>
      unfold receive
      cases b.queue with
      | nil => exact .inr (errs_returns _ _)
      | cons message rest =>
        simp only [onMessage, htask]
        cases message with
        | close => exact .inr (errs_returns _ _)
        | stdout _ | eof | stderr _ | exit _ | flowControl _ | windowChange _ =>
          exact .inl (.inl rfl)
    | flushing pos =>
      obtain ⟨hreceives, -⟩ := Bool.and_eq_true_iff.mp hi
      rw [htask] at hreceives
      cases hreceives
    | ready | sendingFirst _ | sendingAgain | filling _ =>
      rw [htask] at hb
      cases hb

theorem fills_filled (b : BufferChannel) : (b.filled .fill).Fills := by
  unfold filled
  cases hresume : ReadCall.fill.resume b.readBuf with
  | none => exact .inl rfl
  | some answer =>
    obtain ⟨hne, rfl⟩ := answer_fill hresume
    exact .inr ⟨hne, rfl⟩

theorem fills_event (hb : b.task = .filling .fill) (hevent : i.isEvent = true)
    (hi : b.possible i = true) : (b.next i).Fills ∨ (b.next i).Errs := by
  cases i with
  | send _ | flush | read _ | consume _ | dropped => cases hevent
  | refused size error => exact .inr (errs_returns _ error)
  | senderDropped | arrives message => exact .inl (.inl hb)
  | accepted size =>
    change (b.outgoing.any fun data => decide (size ≤ data.length)) = true at hi
    rw [outgoing, hb] at hi
    cases hi
  | receive =>
    change b.receive.Fills ∨ b.receive.Errs
    cases hqueue : b.queue with
    | nil =>
      unfold receive
      rw [hqueue]
      exact .inr (errs_returns _ _)
    | cons message rest =>
      rw [receive_cons hb hqueue]
      cases message with
      | close | eof => exact .inr (errs_returns _ _)
      | stderr _ | exit _ | flowControl _ | windowChange _ => exact .inl (.inl hb)
      | stdout data => exact .inl (fills_filled _)

/-- An event that does not end the call with an error loses no octet that is written. -/
theorem conserves_event (hb : b.Conserves) (hevent : i.isEvent = true)
    (hi : b.possible i = true) : (b.next i).Conserves ∨ (b.next i).Errs := by
  obtain ⟨hwithin, hiff⟩ := conserved_next_iff hb hi
  by_cases hkeeps : b.KeepsProgress i
  · exact .inl ⟨hwithin, hiff.mpr hkeeps⟩
  · refine .inr ?_
    cases i with
    | send _ | flush | read _ | consume _ | dropped => cases hevent
    | accepted _ | arrives _ | senderDropped => exact absurd trivial hkeeps
    | refused size error => exact errs_returns _ error
    | receive =>
      -- the progress of a `flush` is lost when the queue has nothing but its end
      obtain ⟨hprogress, hends⟩ := Classical.not_imp.mp hkeeps
      rw [Bool.not_eq_false] at hends
      change b.receive.Errs
      unfold endsDraining at hends
      unfold receive
      cases hqueue : b.queue with
      | nil => exact errs_returns _ _
      | cons message rest =>
        rw [hqueue] at hends
        cases message with
        | close =>
          cases htask : b.task with
          | draining pos =>
            simp only [onMessage]
            exact errs_returns _ _
          | flushing pos =>
            obtain ⟨hreceives, -⟩ := Bool.and_eq_true_iff.mp hi
            rw [htask] at hreceives
            cases hreceives
          | ready | sendingFirst _ | sendingAgain | filling _ =>
            rw [hasProgress, htask] at hprogress
            cases hprogress
        | stdout _ | eof | stderr _ | exit _ | flowControl _ | windowChange _ => cases hends

end BufferChannel

end Flatline
