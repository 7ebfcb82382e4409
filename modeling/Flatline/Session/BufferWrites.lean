import Flatline.Session.BufferChannel

/-!
# What a buffered channel writes

Every octet given to `send` is, in order, either taken by the channel or still to be sent. `flush`
counts what the channel has taken in a local variable and leaves it in the write buffer until all of
it has gone, so a `flush` that ends early forgets the count: the next call sends those octets again.

Source: `src/session/channel.rs` (`BufferChannel::send`, `BufferChannel::flush`).
-/

namespace Flatline

namespace BufferEffect

/-- The data given to `send` so far, in order. -/
def offeredOf : List BufferEffect → Bytes
  | [] => []
  | .offered data :: earlier => offeredOf earlier ++ data
  | _ :: earlier => offeredOf earlier

/-- The octets the channel has taken so far, in order. -/
def acceptedOf : List BufferEffect → Bytes
  | [] => []
  | .accepted data :: earlier => acceptedOf earlier ++ data
  | _ :: earlier => acceptedOf earlier

end BufferEffect

namespace BufferChannel

/-- All data passed to `send`. -/
def offered (b : BufferChannel) : Bytes :=
  BufferEffect.offeredOf b.log

/-- All octets the channel has taken. -/
def accepted (b : BufferChannel) : Bytes :=
  BufferEffect.acceptedOf b.log

/-- What the call in progress, if there is one, has yet to hand to the channel. -/
def unsent (b : BufferChannel) : Bytes :=
  match b.task with
  | .sendingFirst data => b.writeBuf ++ data
  | .flushing pos | .draining pos => b.writeBuf.drop pos
  | .ready | .sendingAgain | .filling _ => b.writeBuf

/-- What `flush` has handed to the channel is part of the write buffer. -/
def Within (b : BufferChannel) : Prop :=
  match b.task with
  | .sendingFirst _ => b.writeBuf = []
  | .flushing pos | .draining pos => pos < b.writeBuf.length
  | .ready | .sendingAgain | .filling _ => True

/-- No octet is lost and none is doubled. -/
structure Conserves (b : BufferChannel) : Prop where
  within : b.Within
  conserved : b.accepted ++ b.unsent = b.offered

/-- The call in progress has handed part of the write buffer to the channel. -/
def hasProgress (b : BufferChannel) : Bool :=
  match b.task with
  | .flushing pos | .draining pos => pos ≠ 0
  | _ => false

/-- The call in progress has data that is not in the write buffer. -/
def holdsData (b : BufferChannel) : Bool :=
  match b.task with
  | .sendingFirst _ => true
  | _ => false

/-- `Channel::receive` is about to return what a `flush` ends with. -/
def endsDraining (b : BufferChannel) : Bool :=
  match b.queue with
  | [] | .close :: _ => true
  | _ => false

/-- No call ends early at a point where its progress, or its data, is in local variables only: a
`flush` fails or is dropped only before the channel has taken anything, and a `Channel::send` that
fails has taken nothing and has all of its data in the write buffer. -/
def KeepsProgress (b : BufferChannel) : BufferInput → Prop
  | .dropped => b.hasProgress = false
  | .receive => b.hasProgress = true → b.endsDraining = false
  | .refused size _ =>
    size = 0 ∧ b.hasProgress = false ∧ b.holdsData = false
  | _ => True

instance (b : BufferChannel) : (i : BufferInput) → Decidable (b.KeepsProgress i)
  | .dropped => inferInstanceAs (Decidable (b.hasProgress = false))
  | .receive => inferInstanceAs (Decidable (b.hasProgress = true → b.endsDraining = false))
  | .refused size _ =>
    inferInstanceAs (Decidable (size = 0 ∧ b.hasProgress = false ∧ b.holdsData = false))
  | .send _ | .flush | .read _ | .consume _ | .accepted _ | .arrives _ | .senderDropped =>
    instDecidableTrue

/-! ## Calls -/

variable {b : BufferChannel}

@[simp] theorem accepted_returns (b : BufferChannel) (result : Except Error Bytes) :
    (b.returns result).accepted = b.accepted := rfl

@[simp] theorem offered_returns (b : BufferChannel) (result : Except Error Bytes) :
    (b.returns result).offered = b.offered := rfl

@[simp] theorem unsent_returns (b : BufferChannel) (result : Except Error Bytes) :
    (b.returns result).unsent = b.writeBuf := rfl

/-- A call that returns with everything unsent in the write buffer loses nothing. -/
theorem conserves_returns (result : Except Error Bytes)
    (h : b.accepted ++ b.writeBuf = b.offered) : (b.returns result).Conserves :=
  ⟨trivial, h⟩

/-- Between two calls, the unsent octets are those of the write buffer. -/
theorem Conserves.of_ready (hb : b.Conserves) (htask : b.task = .ready) :
    b.accepted ++ b.writeBuf = b.offered := by
  have h := hb.conserved
  rw [unsent, htask] at h
  exact h

theorem conserves_startSend (hb : b.Conserves) (htask : b.task = .ready) (data : Bytes) :
    (b.startSend data).Conserves := by
  have h := hb.of_ready htask
  unfold startSend
  by_cases hempty : b.writeBuf = []
  · rw [if_pos hempty]
    rw [hempty, List.append_nil] at h
    by_cases hdata : data = []
    · rw [if_pos hdata]
      apply conserves_returns
      change b.accepted ++ b.writeBuf = b.offered ++ data
      rw [hempty, hdata, h]
    · rw [if_neg hdata]
      refine ⟨hempty, ?_⟩
      change b.accepted ++ (b.writeBuf ++ data) = b.offered ++ data
      rw [hempty, h, List.nil_append]
  · rw [if_neg hempty]
    refine ⟨trivial, ?_⟩
    change b.accepted ++ (b.writeBuf ++ data) = b.offered ++ data
    rw [← List.append_assoc, h]

theorem conserves_startFlush (hb : b.Conserves) (htask : b.task = .ready) :
    b.startFlush.Conserves := by
  have h := hb.of_ready htask
  unfold startFlush
  split
  · exact conserves_returns _ h
  · next hne => exact ⟨List.length_pos_iff.mpr hne, h⟩

theorem conserves_startRead (hb : b.Conserves) (htask : b.task = .ready) (call : ReadCall) :
    (b.startRead call).Conserves := by
  have h := hb.of_ready htask
  unfold startRead
  split
  · exact conserves_returns _ h
  · exact ⟨trivial, h⟩

theorem conserves_consumerReadBuffer (hb : b.Conserves) (htask : b.task = .ready) (len : ℕ) :
    (b.consumerReadBuffer len).Conserves := by
  have h := hb.of_ready htask
  unfold consumerReadBuffer
  split
  · exact hb
  · refine ⟨?_, ?_⟩
    · rw [Within, htask]
      trivial
    · rw [unsent, htask]
      exact h

/-! ## Awaits of `Channel::send` -/

/-- What the channel takes is the beginning of what is unsent. -/
theorem conserves_accept (hb : b.Conserves) {size : ℕ}
    (hsize : ∃ data, b.outgoing = some data ∧ size ≤ data.length) : (b.accept size).Conserves := by
  obtain ⟨data, houtgoing, hsize⟩ := hsize
  obtain ⟨hwithin, h⟩ := hb
  unfold Within at hwithin
  unfold unsent at h
  unfold outgoing at houtgoing
  cases htask : b.task with
  | ready | draining pos | filling call =>
    rw [htask] at houtgoing
    cases houtgoing
  | sendingFirst first =>
    simp only [htask] at houtgoing hwithin h
    injection houtgoing with houtgoing
    subst houtgoing
    simp only [accept, take, outgoing, htask, note]
    rw [hwithin, List.nil_append] at h
    split
    · apply conserves_returns
      change (b.accepted ++ first.take size) ++ (b.writeBuf ++ first.drop size) = b.offered
      rw [hwithin, List.nil_append, List.append_assoc, List.take_append_drop, h]
    · apply conserves_returns
      change (b.accepted ++ first.take size) ++ b.writeBuf = b.offered
      rw [hwithin, List.append_nil, List.take_of_length_le (by omega), h]
  | sendingAgain =>
    simp only [htask] at houtgoing hwithin h
    simp only [accept, take, outgoing, htask, note]
    apply conserves_returns
    change (b.accepted ++ b.writeBuf.take size) ++ b.writeBuf.drop size = b.offered
    rw [List.append_assoc, List.take_append_drop, h]
  | flushing pos =>
    simp only [htask] at houtgoing hwithin h
    injection houtgoing with houtgoing
    subst houtgoing
    rw [List.length_drop] at hsize
    simp only [accept, take, outgoing, htask, note]
    split
    · next hall =>
        apply conserves_returns
        change (b.accepted ++ (b.writeBuf.drop pos).take size) ++ [] = b.offered
        rw [List.append_nil, List.take_of_length_le (by rw [List.length_drop]; omega), h]
    · next hpart =>
        refine ⟨by change pos + size < b.writeBuf.length; omega, ?_⟩
        change (b.accepted ++ (b.writeBuf.drop pos).take size) ++ b.writeBuf.drop (pos + size) =
          b.offered
        rw [← List.drop_drop, List.append_assoc, List.take_append_drop, h]

/-! ## Calls that end early -/

/-- A call that ends after the channel has taken `taken` keeps all octets when these and the write
buffer are what was unsent. -/
theorem append_writeBuf_eq_iff (hb : b.Conserves) (taken : Bytes) :
    (b.accepted ++ taken) ++ b.writeBuf = b.offered ↔ taken ++ b.writeBuf = b.unsent := by
  rw [← hb.conserved, List.append_assoc, List.append_right_inj]

/-- The write buffer is what is unsent when the call in progress has handed nothing over. -/
theorem writeBuf_eq_unsent_iff (hb : b.Conserves) (htask : b.holdsData = false) :
    b.writeBuf = b.unsent ↔ b.hasProgress = false := by
  have hwithin := hb.within
  unfold unsent hasProgress
  unfold Within at hwithin
  unfold holdsData at htask
  cases h : b.task with
  | sendingFirst data =>
    rw [h] at htask
    cases htask
  | ready | sendingAgain | filling call => exact ⟨fun _ => rfl, fun _ => rfl⟩
  | flushing pos | draining pos =>
    simp only [h] at hwithin ⊢
    constructor
    · intro hdrop
      have hlen := congrArg List.length hdrop
      rw [List.length_drop] at hlen
      simp only [ne_eq, decide_not, Bool.not_eq_false', decide_eq_true_eq]
      omega
    · intro hpos
      simp only [ne_eq, decide_not, Bool.not_eq_false', decide_eq_true_eq] at hpos
      rw [hpos, List.drop_zero]

/-- A call that ends without another octet taken conserves exactly when it has handed nothing
over. -/
theorem conserved_of_ready_iff (hb : b.Conserves) (htask : b.holdsData = false) :
    b.accepted ++ b.writeBuf = b.offered ↔ b.hasProgress = false := by
  have h := append_writeBuf_eq_iff hb []
  rw [List.append_nil, List.nil_append] at h
  exact h.trans (writeBuf_eq_unsent_iff hb htask)

theorem accepted_refuse (size : ℕ) (error : Error) {data : Bytes} (h : b.outgoing = some data) :
    (b.refuse size error).accepted = b.accepted ++ data.take size := by
  unfold refuse take
  rw [h]
  rfl

theorem unsent_refuse (size : ℕ) (error : Error) :
    (b.refuse size error).unsent = b.writeBuf := by
  unfold refuse take
  cases b.outgoing <;> rfl

theorem offered_refuse (size : ℕ) (error : Error) :
    (b.refuse size error).offered = b.offered := by
  unfold refuse take
  cases b.outgoing <;> rfl

/-- A `Channel::send` that fails loses or doubles octets, unless it has taken nothing and its data
is the whole write buffer. -/
theorem conserved_refuse_iff (hb : b.Conserves) {size : ℕ} (error : Error) {data : Bytes}
    (houtgoing : b.outgoing = some data) (hsize : size < data.length) :
    (b.refuse size error).accepted ++ (b.refuse size error).unsent =
        (b.refuse size error).offered ↔
      size = 0 ∧ b.hasProgress = false ∧ b.holdsData = false := by
  rw [accepted_refuse size error houtgoing, unsent_refuse, offered_refuse,
    append_writeBuf_eq_iff hb _]
  have hwithin := hb.within
  unfold unsent hasProgress holdsData
  unfold Within at hwithin
  unfold outgoing at houtgoing
  cases htask : b.task with
  | ready | draining pos | filling call =>
    rw [htask] at houtgoing
    cases houtgoing
  | sendingFirst first =>
    simp only [htask] at houtgoing hwithin ⊢
    injection houtgoing with houtgoing
    subst houtgoing
    constructor
    · intro h
      have hlen := congrArg List.length h
      simp only [hwithin, List.append_nil, List.nil_append, List.length_take] at hlen
      omega
    · rintro ⟨-, -, hfirst⟩
      cases hfirst
  | sendingAgain =>
    simp only [htask] at houtgoing ⊢
    injection houtgoing with houtgoing
    subst houtgoing
    constructor
    · intro h
      have hlen := congrArg List.length h
      rw [List.length_append, List.length_take] at hlen
      exact ⟨by omega, trivial, trivial⟩
    · rintro ⟨rfl, -, -⟩
      rfl
  | flushing pos =>
    simp only [htask] at houtgoing hwithin ⊢
    injection houtgoing with houtgoing
    subst houtgoing
    rw [List.length_drop] at hsize
    constructor
    · intro h
      have hlen := congrArg List.length h
      rw [List.length_append, List.length_take, List.length_drop] at hlen
      have hzero : size = 0 ∧ pos = 0 := by omega
      exact ⟨hzero.1, by simp [hzero.2], trivial⟩
    · rintro ⟨rfl, hpos, -⟩
      simp only [ne_eq, decide_not, Bool.not_eq_false', decide_eq_true_eq] at hpos
      rw [hpos]
      rfl

/-! ## Awaits of `Channel::receive` -/

/-- A message for `flush` changes nothing that counts, unless it ends the call. -/
theorem conserves_drainTurn (hb : b.Conserves) {pos : ℕ} (htask : b.task = .draining pos)
    {message : ChannelMessage} (hmessage : message ≠ .close) :
    (b.drainTurn pos message).Conserves := by
  obtain ⟨hwithin, h⟩ := hb
  unfold Within at hwithin
  unfold unsent at h
  rw [htask] at hwithin h
  cases message with
  | close => exact absurd rfl hmessage
  | windowChange count => exact ⟨hwithin, h⟩
  | stdout data =>
    refine ⟨?_, ?_⟩
    · unfold Within drainTurn
      rw [htask]
      exact hwithin
    · unfold unsent drainTurn
      rw [htask]
      exact h
  | eof | stderr data | exit status | flowControl on =>
    refine ⟨?_, ?_⟩
    · unfold Within drainTurn
      rw [htask]
      exact hwithin
    · unfold unsent drainTurn
      rw [htask]
      exact h

theorem conserves_filled (h : b.accepted ++ b.writeBuf = b.offered)
    (call : ReadCall) : (b.filled call).Conserves := by
  unfold filled
  split
  · exact conserves_returns _ h
  · exact ⟨trivial, h⟩

/-- No message for a read touches what is written. -/
theorem conserves_fillTurn (h : b.accepted ++ b.writeBuf = b.offered) {call : ReadCall}
    (htask : b.task = .filling call) (message : ChannelMessage) :
    (b.fillTurn call message).Conserves := by
  have hsame : b.Conserves := by
    refine ⟨?_, ?_⟩
    · unfold Within
      rw [htask]
      trivial
    · unfold unsent
      rw [htask]
      exact h
  cases message with
  | close | eof => exact conserves_returns _ h
  | stdout data => exact conserves_filled (b := { b with readBuf := b.readBuf ++ data }) h call
  | stderr data | exit status | flowControl on | windowChange count => exact hsame

/-! ## Steps -/

/-- The message that ends a `flush`, or the end of the queue. -/
theorem receive_of_endsDraining {pos : ℕ} (htask : b.task = .draining pos)
    (hends : b.endsDraining = true) :
    b.receive.accepted = b.accepted ∧ b.receive.offered = b.offered ∧
      b.receive.unsent = b.writeBuf ∧ b.receive.Within := by
  unfold endsDraining at hends
  unfold receive
  split
  · next message rest hqueue =>
      rw [hqueue] at hends
      cases message with
      | close =>
        simp only [onMessage, note, htask]
        exact ⟨rfl, rfl, rfl, trivial⟩
      | eof | stdout | stderr | exit | flowControl | windowChange => cases hends
  · exact ⟨rfl, rfl, rfl, trivial⟩

/-- A `Channel::receive` conserves the octets exactly when it does not end a `flush` that has handed
something over. -/
theorem conserved_receive_iff (hb : b.Conserves) (htask : b.task.receives = true) :
    b.receive.Within ∧ (b.receive.accepted ++ b.receive.unsent = b.receive.offered ↔
      (b.hasProgress = true → b.endsDraining = false)) := by
  cases h : b.task with
  | ready | sendingFirst data | sendingAgain | flushing pos =>
    rw [h] at htask
    cases htask
  | filling call =>
    have hsame : b.accepted ++ b.writeBuf = b.offered := by
      have hconserved := hb.conserved
      rw [unsent, h] at hconserved
      exact hconserved
    have hprogress : b.hasProgress = false := by
      unfold hasProgress
      rw [h]
    have hreceive : b.receive.Conserves := by
      unfold receive
      split
      · next message rest hqueue =>
          simp only [onMessage, note, h]
          apply conserves_fillTurn _ rfl
          exact hsame
      · exact conserves_returns _ hsame
    refine ⟨hreceive.within, ⟨fun _ hp => ?_, fun _ => hreceive.conserved⟩⟩
    rw [hprogress] at hp
    cases hp
  | draining pos =>
    by_cases hends : b.endsDraining = true
    · obtain ⟨haccepted, hoffered, hunsent, hwithin⟩ := receive_of_endsDraining h hends
      refine ⟨hwithin, ?_⟩
      rw [haccepted, hoffered, hunsent, conserved_of_ready_iff hb (by rw [holdsData, h]), hends]
      simp
    · have hgo : b.receive.Conserves := by
        unfold endsDraining at hends
        unfold receive
        split
        · next message rest hqueue =>
            rw [hqueue] at hends
            simp only [onMessage, note, h]
            refine conserves_drainTurn ⟨?_, ?_⟩ rfl ?_
            · have hwithin := hb.within
              unfold Within at hwithin ⊢
              rw [h] at hwithin
              exact hwithin
            · have hconserved := hb.conserved
              unfold unsent at hconserved ⊢
              rw [h] at hconserved
              exact hconserved
            · rintro rfl
              exact hends rfl
        · next hqueue => exact absurd (by rw [hqueue]) hends
      refine ⟨hgo.within, ⟨fun _ _ => (Bool.not_eq_true _).mp hends, fun _ => hgo.conserved⟩⟩

/-- What one step does with the octets: it loses and doubles none exactly when it meets the
condition. -/
theorem conserved_next_iff (hb : b.Conserves) {i : BufferInput} (hi : b.possible i = true) :
    (b.next i).Within ∧
      ((b.next i).accepted ++ (b.next i).unsent = (b.next i).offered ↔ b.KeepsProgress i) := by
  have hkept : ∀ {c : BufferChannel}, c.Conserves →
      c.Within ∧ (c.accepted ++ c.unsent = c.offered ↔ True) := fun hc =>
    ⟨hc.within, iff_true_intro hc.conserved⟩
  cases i with
  | send data => exact hkept (conserves_startSend hb (of_decide_eq_true hi) data)
  | flush => exact hkept (conserves_startFlush hb (of_decide_eq_true hi))
  | read call => exact hkept (conserves_startRead hb (of_decide_eq_true hi).1 call)
  | consume len => exact hkept (conserves_consumerReadBuffer hb (of_decide_eq_true hi).1 len)
  | accepted size =>
    refine hkept (conserves_accept hb ?_)
    obtain ⟨data, houtgoing, hsize⟩ := (Option.any_eq_true _ _).mp hi
    exact ⟨data, houtgoing, of_decide_eq_true hsize⟩
  | refused size error =>
    obtain ⟨data, houtgoing, hsize⟩ := (Option.any_eq_true _ _).mp hi
    refine ⟨?_, conserved_refuse_iff hb error houtgoing (of_decide_eq_true hsize)⟩
    change (b.take size).returns (.error error) |>.Within
    trivial
  | receive => exact conserved_receive_iff hb (Bool.and_eq_true_iff.mp hi).1
  | dropped =>
    refine ⟨trivial, conserved_of_ready_iff hb ?_⟩
    change b.task.receives = true at hi
    unfold holdsData
    cases htask : b.task with
    | sendingFirst data =>
      rw [htask] at hi
      cases hi
    | ready | sendingAgain | flushing pos | draining pos | filling call => rfl
  | arrives message => exact hkept ⟨hb.within, hb.conserved⟩
  | senderDropped => exact hkept ⟨hb.within, hb.conserved⟩

theorem IsInitial.conserves (h : b.IsInitial) : b.Conserves := by
  refine ⟨?_, ?_⟩
  · rw [Within, h.task]
    trivial
  · rw [unsent, h.task]
    change b.accepted ++ b.writeBuf = b.offered
    rw [accepted, offered, h.log, h.writeBuf]
    rfl

/-- Every run whose steps meet the condition conserves the octets. -/
theorem conserves_of_reachable (h : ReachableVia KeepsProgress b) : b.Conserves := by
  refine Machine.ReachVia.invariant h (fun _ => IsInitial.conserves) ?_
  rintro b i _ hb hguard ⟨hi, rfl⟩
  obtain ⟨hwithin, hiff⟩ := conserved_next_iff hb hi
  exact ⟨hwithin, hiff.mpr hguard⟩

theorem writeBuf_filled (b : BufferChannel) (call : ReadCall) :
    (b.filled call).writeBuf = b.writeBuf := by
  unfold filled
  split <;> rfl

/-- Receiving leaves the write buffer alone. -/
theorem writeBuf_receive (b : BufferChannel) : b.receive.writeBuf = b.writeBuf := by
  unfold receive
  split
  · next message rest hqueue =>
      unfold onMessage
      split
      · next pos htask => cases message <;> rfl
      · next call htask =>
          cases message with
          | stdout data => exact writeBuf_filled _ _
          | _ => rfl
      · rfl
  · rfl

/-- A step that does not meet the condition ends the call. -/
theorem unsent_of_not_keepsProgress {i : BufferInput} (hi : b.possible i = true)
    (hguard : ¬b.KeepsProgress i) : (b.next i).unsent = (b.next i).writeBuf := by
  cases i with
  | refused size error =>
    rw [next, unsent_refuse]
    unfold refuse take
    cases b.outgoing <;> rfl
  | dropped => rfl
  | receive =>
    change ¬(b.hasProgress = true → b.endsDraining = false) at hguard
    rw [Classical.not_imp, Bool.not_eq_false] at hguard
    obtain ⟨hprogress, hends⟩ := hguard
    have hreceives : b.task.receives = true := (Bool.and_eq_true_iff.mp hi).1
    change b.receive.unsent = b.receive.writeBuf
    rw [writeBuf_receive]
    cases htask : b.task with
    | draining pos => exact (receive_of_endsDraining htask hends).2.2.1
    | filling call =>
      rw [hasProgress, htask] at hprogress
      cases hprogress
    | ready | sendingFirst data | sendingAgain | flushing pos =>
      rw [htask] at hreceives
      cases hreceives
  | send | flush | read | consume | accepted | arrives | senderDropped =>
    exact absurd trivial hguard

/-- Exactly-once writing: whenever no `send` and no `flush` is in progress, the octets the channel
has taken, followed by the write buffer, are all data passed to `send`, in order. The first step
that does not meet the condition makes this false. -/
theorem writes_once (h : ReachableVia KeepsProgress b) :
    (b.task.writes = false → b.accepted ++ b.writeBuf = b.offered) ∧
      ∀ i, b.possible i = true → ¬b.KeepsProgress i →
        (b.next i).accepted ++ (b.next i).writeBuf ≠ (b.next i).offered := by
  have hb := conserves_of_reachable h
  refine ⟨fun htask => ?_, fun i hi hguard heq => ?_⟩
  · have hconserved := hb.conserved
    unfold unsent at hconserved
    cases hcase : b.task with
    | ready | filling call =>
      rw [hcase] at hconserved
      exact hconserved
    | sendingFirst data | sendingAgain | flushing pos | draining pos =>
      rw [hcase] at htask
      cases htask
  · rw [← unsent_of_not_keepsProgress hi hguard] at heq
    exact hguard ((conserved_next_iff hb hi).2.mp heq)

/-- The inputs of a run that sends two octets of three, one of them in a `flush` that waits for the
window to open. -/
def shortOfWindow : List BufferInput :=
  [.send [1, 2, 3], .accepted 1, .flush, .accepted 1]

/-- A run that meets the condition: the window opens and the `flush` goes on. -/
theorem writes_once_after_window_change :
    ∃ b, ReachableVia KeepsProgress b ∧ b.task = .ready ∧ b.accepted ++ b.writeBuf = b.offered ∧
      b.offered = [1, 2, 3] := by
  obtain ⟨b, hrun, htask, hoffered⟩ : ∃ b, Machine.runVia possible next KeepsProgress fresh
      (shortOfWindow ++ [.arrives (.windowChange 9), .receive, .accepted 1]) = some b ∧
        b.task = .ready ∧ b.offered = [1, 2, 3] := ⟨_, rfl, rfl, rfl⟩
  have hb : ReachableVia KeepsProgress b := Machine.reachVia_runVia reachable_fresh hrun
  exact ⟨b, hb, htask, (writes_once hb).1 (by rw [htask]; rfl), hoffered⟩

/-- A `flush` that is dropped while it waits for the window to open sends an octet again. -/
theorem dropped_flush_doubles :
    ∃ b, Reachable b ∧ b.task = .ready ∧ b.offered = [1, 2, 3] ∧
      b.accepted ++ b.writeBuf = [1, 2, 2, 3] := by
  obtain ⟨b, hrun, hb⟩ : ∃ b, Machine.runVia possible next (fun _ _ => True) fresh
      (shortOfWindow ++ [.dropped, .flush, .accepted 2]) = some b ∧ b.task = .ready ∧
        b.offered = [1, 2, 3] ∧ b.accepted ++ b.writeBuf = [1, 2, 2, 3] :=
    ⟨_, rfl, rfl, rfl, rfl⟩
  exact ⟨b, Machine.reachVia_runVia reachable_fresh hrun, hb⟩

end BufferChannel

end Flatline
