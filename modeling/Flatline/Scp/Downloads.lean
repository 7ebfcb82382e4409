import Flatline.Scp.Receiver
import Flatline.Session.BufferEvents

/-!
# What a download delivers

`Books` relates the counter of a download to what has been taken from the channel, and `Phase` says
for each await what has become of it: up to the announced size all of it has been returned, the NUL
behind it is acknowledged once, and anything else ends in an error. Both hold in every run in which
one more than the announced size is a `u64` and `is_finished` is not called too late.

Source: `src/session/scp.rs` (`FileReceiver`).
-/

namespace Flatline

namespace Scp

/-- No file of this size, with its NUL, begins with these octets. -/
def Misfit (size : ℕ) (octets : Bytes) : Prop :=
  ∀ content : Bytes, content.length = size → ¬octets <+: content ++ [0]

theorem Misfit.mono {size : ℕ} {octets more : Bytes} (h : Misfit size octets)
    (hbegins : octets <+: more) : Misfit size more :=
  fun content hsize hmore => h content hsize (hbegins.trans hmore)

theorem misfit_of_length {size : ℕ} {octets : Bytes} (h : size + 1 < octets.length) :
    Misfit size octets := by
  intro content hsize hbegins
  have hlen := hbegins.length_le
  rw [List.length_append, List.length_singleton, hsize] at hlen
  omega

/-- The octet behind the content is not the NUL. -/
theorem misfit_of_ending {size : ℕ} {octets : Bytes} {ending : UInt8}
    (hlength : octets.length = size + 1) (hlast : octets.getLast? = some ending)
    (hending : ending ≠ 0) : Misfit size octets := by
  intro content hsize hbegins
  have hsame : octets = content ++ [0] := by
    apply hbegins.eq_of_length
    rw [hlength, List.length_append, List.length_singleton, hsize]
  rw [hsame, List.getLast?_concat] at hlast
  exact hending (Option.some.inj hlast).symm

namespace FileReceiver

variable {r : FileReceiver} {i : ReceiverInput}

/-! ## The books -/

/-- What holds between two steps, whatever the call in progress is. -/
structure Books (r : FileReceiver) : Prop where
  shows : r.channel.ShowsStdout
  starves : r.channel.Starves
  short : r.channel.arrived.length < 2 ^ 64
  counted : r.received = r.channel.consumed.length
  /-- An error is one of the channel, or what has been taken is no such file. -/
  excused : ∀ e, .error e ∈ r.results →
    .returned (.error e) ∈ r.channel.log ∨ Misfit r.size.toNat r.channel.consumed
  /-- Only the NUL is acknowledged. -/
  acknowledged : r.channel.offered = [] ∨
    r.channel.offered = [0] ∧ r.channel.consumed[r.size.toNat]? = some 0

/-- What has been taken, and what has become of it, while nothing is being sent. -/
inductive Standing (r : FileReceiver) : Prop
  | before (hreceived : r.received ≤ r.size.toNat) (hwritten : r.channel.writeSide = ([], [], []))
      (hdelivered : r.delivered = r.channel.consumed)
  | finished (hreceived : r.received = r.size.toNat + 1)
      (hwritten : r.channel.writeSide = ([0], [0], []))
      (hdelivered : r.channel.consumed = r.delivered ++ [0])
  | failed (hreceived : r.size.toNat < r.received) (hfailed : r.HasFailed)

/-- The acknowledgement is being sent, and `data` is returned after it. -/
structure Acknowledging (r : FileReceiver) (data : Bytes) : Prop where
  received : r.received = r.size.toNat + 1
  offered : r.channel.offered = [0]
  taken : r.channel.consumed = r.delivered ++ (data ++ [0])
  conserves : r.channel.Conserves

/-- What holds at each await. -/
def Phase (r : FileReceiver) : Prop :=
  match r.task with
  | .idle => r.channel.task = .ready ∧ r.Standing
  | .filling => r.channel.task = .filling .fill ∧ r.Standing
  | .sending data => r.channel.task.sends = true ∧ r.Acknowledging data
  | .flushing data => r.channel.task.flushes = true ∧ r.Acknowledging data
  | .panicked => False

/-- The invariant of a download. -/
structure Accounts (r : FileReceiver) : Prop where
  books : r.Books
  phase : r.Phase

/-! ## Results -/

theorem delivered_ok (r : FileReceiver) (data : Bytes) :
    (r.returns (.ok data)).delivered = r.delivered ++ data := by
  unfold delivered returns
  simp [Except.toOption]

theorem delivered_error (r : FileReceiver) (e : Error) :
    (r.returns (.error e)).delivered = r.delivered := by
  unfold delivered returns
  simp [Except.toOption]

/-- An error that is accounted for. -/
theorem Books.error (hr : r.Books) {e : Error} (he : .returned (.error e) ∈ r.channel.log ∨
    Misfit r.size.toNat r.channel.consumed) : (r.returns (.error e)).Books := by
  refine ⟨hr.shows, hr.starves, hr.short, hr.counted, fun e' he' => ?_, hr.acknowledged⟩
  rcases List.mem_cons.mp he' with heq | hold
  · obtain rfl := Except.error.inj heq
    exact he
  · exact hr.excused e' hold

theorem Books.ok (hr : r.Books) (data : Bytes) : (r.returns (.ok data)).Books := by
  refine ⟨hr.shows, hr.starves, hr.short, hr.counted, fun e he => ?_, hr.acknowledged⟩
  rcases List.mem_cons.mp he with heq | hold
  · cases heq
  · exact hr.excused e hold

/-- The error that a call of the channel has returned is in its history. -/
theorem mem_log_of_returned {b : BufferChannel} {result : Except Error Bytes}
    (h : b.returned? = some result) : .returned result ∈ b.log := by
  unfold BufferChannel.returned? at h
  split at h
  · next result' earlier _ hlog =>
    rw [hlog, ← Option.some.inj h]
    exact List.mem_cons_self
  · cases h

/-- A call returns the error of the channel. -/
theorem Standing.error (h : r.Standing) (e : Error) : (r.returns (.error e)).Standing := by
  rcases h with ⟨hreceived, hwritten, hdelivered⟩ | ⟨hreceived, _, _⟩ | ⟨hreceived, e', he'⟩
  · exact .before hreceived hwritten ((delivered_error r e).trans hdelivered)
  · exact .failed (hreceived ▸ Nat.lt_succ_self _) ⟨e, List.mem_cons_self⟩
  · exact .failed hreceived ⟨e', List.mem_cons_of_mem _ he'⟩

theorem accounts_error (hr : r.Books) {e : Error}
    (hreturned : r.channel.returned? = some (.error e))
    (hstanding : (r.returns (.error e)).Standing) : (r.returns (.error e)).Accounts :=
  ⟨hr.error (.inl (mem_log_of_returned hreturned)),
    BufferChannel.task_of_returned? hreturned, hstanding⟩

/-- The channel fails while the acknowledgement is being sent. -/
theorem accounts_errs (hr : r.Books) (hreceived : r.size.toNat < r.received)
    (herrs : r.channel.Errs) (data : Bytes) :
    (r.afterSend data).Accounts ∧ (r.afterFlush data).Accounts := by
  obtain ⟨e, hreturned⟩ := herrs
  unfold afterSend afterFlush
  rw [hreturned]
  have herror := accounts_error hr hreturned (.failed hreceived ⟨e, List.mem_cons_self⟩)
  exact ⟨herror, herror⟩

/-! ## The acknowledgement -/

theorem accounts_afterFlush {data : Bytes} (hr : r.Books) (h : r.Acknowledging data)
    (hflush : r.channel.FlushesAll) : (r.afterFlush data).Accounts := by
  unfold afterFlush
  rcases hflush with hflushing | ⟨hreturned, hempty⟩
  · have hready : r.channel.task ≠ .ready := by
      intro htask
      rw [htask] at hflushing
      cases hflushing
    rw [BufferChannel.returned?_eq_none hready]
    exact ⟨⟨hr.shows, hr.starves, hr.short, hr.counted, hr.excused, hr.acknowledged⟩, hflushing,
      ⟨h.received, h.offered, h.taken, h.conserves⟩⟩
  · rw [hreturned]
    have htask := BufferChannel.task_of_returned? hreturned
    -- what has been flushed is all that was written
    have haccepted := h.conserves.of_ready htask
    rw [hempty, List.append_nil] at haccepted
    refine ⟨hr.ok data, htask, .finished h.received ?_ ?_⟩
    · change (r.channel.offered, r.channel.accepted, r.channel.writeBuf) = _
      rw [hempty, haccepted, h.offered]
    · rw [delivered_ok, List.append_assoc]
      exact h.taken

/-- A step of the channel that consumes nothing and is offered nothing. -/
theorem Books.move (hr : r.Books) {input : BufferInput} (hi : r.channel.possible input = true)
    (hshort : (r.channel.next input).arrived.length < 2 ^ 64)
    (hconsumed : (r.channel.next input).consumed = r.channel.consumed)
    (hlog : r.channel.log <:+ (r.channel.next input).log)
    (hoffered : (r.channel.next input).offered = r.channel.offered) :
    ({ r with channel := r.channel.next input } : FileReceiver).Books where
  shows := BufferChannel.showsStdout_next hr.shows hi
  starves := BufferChannel.starves_next hr.starves hi
  short := hshort
  counted := by
    rw [hconsumed]
    exact hr.counted
  excused := by
    intro e he
    rw [hconsumed]
    exact (hr.excused e he).imp_left (hlog.mem ·)
  acknowledged := by
    rw [hconsumed, hoffered]
    exact hr.acknowledged

theorem accounts_afterSend {data : Bytes} (hr : r.Books) (h : r.Acknowledging data)
    (hsend : r.channel.Sends) : (r.afterSend data).Accounts := by
  unfold afterSend
  rcases hsend with hsending | hreturned
  · have hready : r.channel.task ≠ .ready := by
      intro htask
      rw [htask] at hsending
      cases hsending
    rw [BufferChannel.returned?_eq_none hready]
    exact ⟨⟨hr.shows, hr.starves, hr.short, hr.counted, hr.excused, hr.acknowledged⟩, hsending,
      ⟨h.received, h.offered, h.taken, h.conserves⟩⟩
  · rw [hreturned]
    have htask := BufferChannel.task_of_returned? hreturned
    have hcarries := r.channel.carries_startFlush
    have hi : r.channel.possible .flush = true := decide_eq_true htask
    have hbooks := hr.move hi (hcarries.arrived ▸ hr.short) hcarries.consumed
      r.channel.log_startFlush r.channel.offered_startFlush
    have hconserves := BufferChannel.conserves_startFlush h.conserves htask
    refine accounts_afterFlush hbooks ⟨h.received, ?_, ?_, hconserves⟩
      r.channel.flushesAll_startFlush
    · exact r.channel.offered_startFlush.trans h.offered
    · exact hcarries.consumed.trans h.taken

/-! ## Accounting for what has been read -/

/-- What has been consumed has arrived. -/
theorem Books.consumed_le (hr : r.Books) : r.channel.consumed.length < 2 ^ 64 := by
  refine Nat.lt_of_le_of_lt ?_ hr.short
  have hshows : r.channel.consumed ++ r.channel.readBuf = r.channel.stdout := hr.shows
  unfold BufferChannel.arrived
  rw [← hshows, List.length_append, List.length_append]
  omega

/-- The octets that `Handle::receive` returns are taken from the read buffer: the books, once they
are counted. -/
theorem Books.take (hr : r.Books) (hready : r.channel.task = .ready) :
    ({ r with
        channel := r.channel.consumerReadBuffer r.channel.readBuf.length
        received := r.received + r.channel.readBuf.length } : FileReceiver).Books := by
  have hi : r.channel.possible (.consume r.channel.readBuf.length) = true :=
    decide_eq_true ⟨hready, .inl (Nat.le_refl _)⟩
  have hconsumed : (r.channel.consumerReadBuffer r.channel.readBuf.length).consumed =
      r.channel.consumed ++ r.channel.readBuf := by
    rw [BufferChannel.consumed_consumerReadBuffer, List.take_length]
  have hbegins : r.channel.consumed <+:
      (r.channel.consumerReadBuffer r.channel.readBuf.length).consumed := by
    rw [hconsumed]
    exact List.prefix_append _ _
  have hoffered := congrArg Prod.fst
    (r.channel.writeSide_consumerReadBuffer r.channel.readBuf.length)
  refine ⟨BufferChannel.showsStdout_next hr.shows hi, BufferChannel.starves_next hr.starves hi,
    ?_, ?_, fun e he => ?_, ?_⟩
  · exact (BufferChannel.arrived_consumerReadBuffer _).symm ▸ hr.short
  · rw [hconsumed, List.length_append, hr.counted]
  · exact (hr.excused e he).imp
      ((r.channel.log_consumerReadBuffer r.channel.readBuf.length).mem ·) (·.mono hbegins)
  · rcases hr.acknowledged with hnone | ⟨hone, hnul⟩
    · exact .inl (hoffered.trans hnone)
    · refine .inr ⟨hoffered.trans hone, ?_⟩
      obtain ⟨hlt, -⟩ := List.getElem?_eq_some_iff.mp hnul
      change (r.channel.consumerReadBuffer r.channel.readBuf.length).consumed[r.size.toNat]? = _
      rw [hconsumed, List.getElem?_append_left hlt]
      exact hnul

/-- Up to the announced size everything that was taken has been returned. -/
theorem Standing.of_le (h : r.Standing) (hreceived : r.received ≤ r.size.toNat) :
    r.channel.writeSide = ([], [], []) ∧ r.delivered = r.channel.consumed := by
  rcases h with ⟨_, hnone, hdelivered⟩ | ⟨hlast, _, _⟩ | ⟨hmore, _⟩
  · exact ⟨hnone, hdelivered⟩
  · omega
  · omega

/-- The NUL is acknowledged. -/
theorem accounts_acknowledge {data : Bytes} (hr : r.Books) (hready : r.channel.task = .ready)
    (hwritten : r.channel.writeSide = ([], [], [])) (hreceived : r.received = r.size.toNat + 1)
    (htaken : r.channel.consumed = r.delivered ++ (data ++ [0])) :
    ({ r with channel := r.channel.startSend [0] }.afterSend data).Accounts := by
  simp only [BufferChannel.writeSide, Prod.mk.injEq] at hwritten
  obtain ⟨hoffered, haccepted, hempty⟩ := hwritten
  have hi : r.channel.possible (.send [0]) = true := decide_eq_true hready
  have hcarries := r.channel.carries_startSend [0]
  have hone : (r.channel.startSend [0]).offered = [0] := by
    rw [BufferChannel.offered_startSend, hoffered]
    rfl
  have hconserves : r.channel.Conserves := by
    refine ⟨?_, ?_⟩
    · unfold BufferChannel.Within
      rw [hready]
      trivial
    · unfold BufferChannel.unsent
      rw [hready, haccepted, hoffered]
      exact hempty
  have hnul : (r.channel.startSend [0]).consumed[r.size.toNat]? = some 0 := by
    have hlength : (r.delivered ++ data).length = r.size.toNat := by
      have hcount := hr.counted
      rw [hreceived, htaken, ← List.append_assoc, List.length_append] at hcount
      exact (Nat.succ.inj hcount).symm
    rw [hcarries.consumed, htaken, ← List.append_assoc, ← hlength, List.getElem?_concat_length]
  refine accounts_afterSend (r := { r with channel := r.channel.startSend [0] })
    ⟨BufferChannel.showsStdout_next hr.shows hi, BufferChannel.starves_next hr.starves hi, ?_, ?_,
      fun e he => ?_, .inr ⟨hone, hnul⟩⟩
    ⟨hreceived, hone, hcarries.consumed.trans htaken,
      BufferChannel.conserves_startSend hconserves hready [0]⟩
    (r.channel.sends_startSend [0])
  · exact hcarries.arrived ▸ hr.short
  · exact hcarries.consumed ▸ hr.counted
  · exact hcarries.consumed ▸ (hr.excused e he).imp_left ((r.channel.log_startSend [0]).mem ·)

/-- `receive` on the octets of a read buffer that is not empty. -/
theorem accounts_account (hr : r.Books) (hstanding : r.Standing) (hsize : r.size.toNat + 1 < 2 ^ 64)
    (hready : r.channel.task = .ready) (hne : r.channel.readBuf ≠ []) :
    ({ r with channel := r.channel.consumerReadBuffer r.channel.readBuf.length }.account
      r.channel.readBuf).Accounts := by
  have htake := hr.take hready
  have hconsumed : (r.channel.consumerReadBuffer r.channel.readBuf.length).consumed =
      r.channel.consumed ++ r.channel.readBuf := by
    rw [BufferChannel.consumed_consumerReadBuffer, List.take_length]
  have htask : (r.channel.consumerReadBuffer r.channel.readBuf.length).task = .ready :=
    (BufferChannel.task_consumerReadBuffer _).trans hready
  have hwritten := r.channel.writeSide_consumerReadBuffer r.channel.readBuf.length
  have hpos : 0 < r.channel.readBuf.length := List.length_pos_of_ne_nil hne
  have hcount : r.received + r.channel.readBuf.length < 2 ^ 64 := by
    have hle := htake.consumed_le
    rw [hconsumed, List.length_append, ← hr.counted] at hle
    exact hle
  unfold account
  rw [checkedAdd_of_lt hcount]
  dsimp only
  rw [checkedAdd_of_lt hsize]
  dsimp only
  by_cases hlast : r.received + r.channel.readBuf.length = r.size.toNat + 1
  · rw [if_pos hlast]
    -- nothing has been acknowledged so far, and all that was taken has been returned
    obtain ⟨hnone, hdelivered⟩ := hstanding.of_le (by omega)
    obtain ⟨ending, hending⟩ : ∃ ending, r.channel.readBuf.getLast? = some ending :=
      ⟨_, List.getLast?_eq_some_getLast hne⟩
    rw [hending]
    dsimp only
    by_cases hnul : ending = 0
    · rw [if_neg (not_not.mpr hnul)]
      subst hnul
      refine accounts_acknowledge htake htask (hwritten.trans hnone) hlast ?_
      change (r.channel.consumerReadBuffer r.channel.readBuf.length).consumed = r.delivered ++ _
      rw [hconsumed, hdelivered]
      congr 1
      exact (List.dropLast_append_getLast? 0 hending).symm
    · rw [if_pos hnul]
      refine ⟨htake.error (.inr (misfit_of_ending ?_ ?_ hnul)), htask,
        .failed (hlast ▸ Nat.lt_succ_self _) ⟨_, List.mem_cons_self⟩⟩
      · rw [← htake.counted]
        exact hlast
      · change (r.channel.consumerReadBuffer r.channel.readBuf.length).consumed.getLast? = _
        rw [hconsumed, List.getLast?_append_of_ne_nil _ hne, hending]
  · rw [if_neg hlast]
    by_cases hmore : r.received + r.channel.readBuf.length > r.size.toNat + 1
    · rw [if_pos hmore]
      refine ⟨htake.error (.inr (misfit_of_length ?_)), htask,
        .failed (Nat.lt_of_succ_lt hmore) ⟨_, List.mem_cons_self⟩⟩
      rw [← htake.counted]
      exact hmore
    · rw [if_neg hmore]
      obtain ⟨hnone, hdelivered⟩ := hstanding.of_le (by omega)
      refine ⟨htake.ok _, htask, .before ?_ (hwritten.trans hnone) ?_⟩
      · change r.received + r.channel.readBuf.length ≤ r.size.toNat
        omega
      · rw [delivered_ok]
        exact (congrArg (· ++ r.channel.readBuf) hdelivered).trans hconsumed.symm

theorem accounts_afterFill (hr : r.Books) (hstanding : r.Standing)
    (hsize : r.size.toNat + 1 < 2 ^ 64) (hfill : r.channel.Fills ∨ r.channel.Errs) :
    r.afterFill.Accounts := by
  unfold afterFill
  rcases hfill with (hfilling | ⟨hne, hreturned⟩) | ⟨e, hreturned⟩
  · have hready : r.channel.task ≠ .ready := by
      rw [hfilling]
      exact nofun
    rw [BufferChannel.returned?_eq_none hready]
    refine ⟨⟨hr.shows, hr.starves, hr.short, hr.counted, hr.excused, hr.acknowledged⟩,
      hfilling, ?_⟩
    rcases hstanding with ⟨h₁, h₂, h₃⟩ | ⟨h₁, h₂, h₃⟩ | ⟨h₁, h₂⟩
    · exact .before h₁ h₂ h₃
    · exact .finished h₁ h₂ h₃
    · exact .failed h₁ h₂
  · rw [hreturned]
    exact accounts_account hr hstanding hsize (BufferChannel.task_of_returned? hreturned) hne
  · rw [hreturned]
    exact accounts_error hr hreturned (hstanding.error e)

/-! ## Steps -/

/-- The condition on a step: one more than the announced size is a `u64`; `is_finished` is not
called when more than the file and its NUL has been received; and the server sends fewer than
`2 ^ 64` octets. -/
def Fits (r : FileReceiver) (i : ReceiverInput) : Prop :=
  r.size.toNat + 1 < 2 ^ 64 ∧
    match i with
    | .receive => True
    | .isFinished => r.received ≤ r.size.toNat + 1
    | .channel input => r.channel.arrived.length + input.arrival.length < 2 ^ 64

instance (r : FileReceiver) (i : ReceiverInput) : Decidable (r.Fits i) := by
  cases i <;> unfold Fits <;> infer_instance

/-- An event of the channel leaves the books as they are. -/
theorem Books.event (hr : r.Books) {input : BufferInput} (hguard : r.Fits (.channel input))
    (hevent : input.isEvent = true) (hi : r.channel.possible input = true) :
    ({ r with channel := r.channel.next input } : FileReceiver).Books := by
  obtain ⟨hconsumed, harrived⟩ := BufferChannel.consumed_event (b := r.channel) hevent
  refine hr.move hi ?_ hconsumed (BufferChannel.log_event hevent)
    (BufferChannel.offered_event hevent)
  rw [harrived, List.length_append]
  exact hguard.2

/-- An event of the channel while nothing is being sent. -/
theorem Standing.event (h : r.Standing) {input : BufferInput} (hout : r.channel.outgoing = none)
    (hevent : input.isEvent = true) (hi : r.channel.possible input = true) :
    ({ r with channel := r.channel.next input } : FileReceiver).Standing := by
  have hwritten := BufferChannel.writeSide_event hevent hout hi
  have hconsumed := (BufferChannel.consumed_event (b := r.channel) hevent).1
  rcases h with ⟨hreceived, hnone, hdelivered⟩ | ⟨hreceived, hone, hdelivered⟩ |
    ⟨hreceived, hfailed⟩
  · exact .before hreceived (hwritten.trans hnone) (hdelivered.trans hconsumed.symm)
  · exact .finished hreceived (hwritten.trans hone) (hconsumed.trans hdelivered)
  · exact .failed hreceived hfailed

/-- An event of the channel while the acknowledgement is being sent. -/
theorem Acknowledging.event {data : Bytes} (h : r.Acknowledging data) {input : BufferInput}
    (hevent : input.isEvent = true) (hconserves : (r.channel.next input).Conserves) :
    ({ r with channel := r.channel.next input } : FileReceiver).Acknowledging data where
  received := h.received
  offered := (BufferChannel.offered_event hevent).trans h.offered
  taken := (BufferChannel.consumed_event (b := r.channel) hevent).1.trans h.taken
  conserves := hconserves

theorem accounts_receive (hr : r.Accounts) (htask : r.task = .idle)
    (hsize : r.size.toNat + 1 < 2 ^ 64) : r.receive.Accounts := by
  have hphase := hr.phase
  unfold Phase at hphase
  rw [htask] at hphase
  obtain ⟨hready, hstanding⟩ := hphase
  have hi : r.channel.possible (.read .fill) = true := decide_eq_true ⟨hready, rfl⟩
  have hcarries := r.channel.carries_startRead .fill
  have hwritten := r.channel.writeSide_startRead .fill
  have hbooks := hr.books.move hi (hcarries.arrived ▸ hr.books.short) hcarries.consumed
    (r.channel.log_startRead .fill) (congrArg Prod.fst hwritten)
  refine accounts_afterFill hbooks ?_ hsize (.inl r.channel.fills_startRead)
  rcases hstanding with ⟨hreceived, hnone, hdelivered⟩ | ⟨hreceived, hone, hdelivered⟩ |
    ⟨hreceived, hfailed⟩
  · exact .before hreceived (hwritten.trans hnone) (hdelivered.trans hcarries.consumed.symm)
  · exact .finished hreceived (hwritten.trans hone) (hcarries.consumed.trans hdelivered)
  · exact .failed hreceived hfailed

theorem accounts_isFinished (hr : r.Accounts) (htask : r.task = .idle)
    (hguard : r.Fits .isFinished) : r.isFinished.Accounts := by
  obtain ⟨hbooks, hphase⟩ := hr
  unfold Phase at hphase
  rw [htask] at hphase
  obtain ⟨hready, hstanding⟩ := hphase
  unfold isFinished
  rw [checkedAdd_of_lt hguard.1]
  dsimp only
  rw [if_pos hguard.2]
  refine ⟨⟨hbooks.shows, hbooks.starves, hbooks.short, hbooks.counted, hbooks.excused,
    hbooks.acknowledged⟩, ?_⟩
  unfold Phase
  simp only [htask]
  refine ⟨hready, ?_⟩
  rcases hstanding with ⟨h₁, h₂, h₃⟩ | ⟨h₁, h₂, h₃⟩ | ⟨h₁, h₂⟩
  · exact .before h₁ h₂ h₃
  · exact .finished h₁ h₂ h₃
  · exact .failed h₁ h₂

/-- The channel goes on. -/
theorem accounts_channel (hr : r.Accounts) {input : BufferInput}
    (hguard : r.Fits (.channel input)) (hevent : input.isEvent = true)
    (hi : r.channel.possible input = true) :
    ({ r with channel := r.channel.next input } : FileReceiver).resume.Accounts := by
  have hbooks := hr.books.event hguard hevent hi
  have hphase := hr.phase
  obtain ⟨channel, size, received, task, results, answers⟩ := r
  cases task with
  | idle =>
    obtain ⟨hready, hstanding⟩ := hphase
    refine ⟨hbooks, BufferChannel.ready_event hready hevent hi, hstanding.event ?_ hevent hi⟩
    rw [BufferChannel.outgoing, hready]
  | filling =>
    obtain ⟨hfilling, hstanding⟩ := hphase
    refine accounts_afterFill hbooks (hstanding.event ?_ hevent hi) hguard.1
      (BufferChannel.fills_event hfilling hevent hi)
    rw [BufferChannel.outgoing, hfilling]
  | sending data =>
    obtain ⟨hsending, hack⟩ := hphase
    have herror := accounts_errs hbooks (hack.received ▸ Nat.lt_succ_self _)
    rcases BufferChannel.conserves_event hack.conserves hevent hi with hconserves | herrs
    · rcases BufferChannel.sends_event hsending hevent hi with hsends | herrs
      · exact accounts_afterSend hbooks (hack.event hevent hconserves) hsends
      · exact (herror herrs data).1
    · exact (herror herrs data).1
  | flushing data =>
    obtain ⟨hflushing, hack⟩ := hphase
    have herror := accounts_errs hbooks (hack.received ▸ Nat.lt_succ_self _)
    rcases BufferChannel.conserves_event hack.conserves hevent hi with hconserves | herrs
    · rcases BufferChannel.flushesAll_event hflushing hevent hi with hflushes | herrs
      · exact accounts_afterFlush hbooks (hack.event hevent hconserves) hflushes
      · exact (herror herrs data).2
    · exact (herror herrs data).2
  | panicked => exact hphase.elim

theorem accounts_next (hr : r.Accounts) (hguard : r.Fits i) (hi : r.possible i = true) :
    (r.next i).Accounts := by
  cases i with
  | receive => exact accounts_receive hr (of_decide_eq_true hi) hguard.1
  | isFinished => exact accounts_isFinished hr (of_decide_eq_true hi) hguard
  | channel input =>
    obtain ⟨hevent, hpossible⟩ := Bool.and_eq_true_iff.mp hi
    exact accounts_channel hr hguard hevent hpossible

theorem IsInitial.accounts (h : r.IsInitial) : r.Accounts := by
  have hlog := h.log
  have hconsumed : r.channel.consumed = [] := by
    rw [BufferChannel.consumed, hlog]
    rfl
  have hwritten : r.channel.writeSide = ([], [], []) := by
    rw [BufferChannel.writeSide, BufferChannel.offered, BufferChannel.accepted, hlog, h.writeBuf]
    rfl
  refine ⟨⟨?_, ?_, h.short, ?_, ?_, .inl ?_⟩, ?_⟩
  · rw [BufferChannel.ShowsStdout, BufferChannel.exposed, BufferChannel.stdout, hlog]
    rfl
  · exact BufferChannel.starves_of_task (by simp [h.ready])
  · rw [h.received, hconsumed]
    rfl
  · rw [h.results]
    rintro _ ⟨⟩
  · exact congrArg Prod.fst hwritten
  · unfold Phase
    rw [h.task]
    refine ⟨h.ready, .before (h.received ▸ Nat.zero_le _) hwritten ?_⟩
    rw [hconsumed, delivered, h.results]
    rfl

/-- The invariant of every run that meets the condition. -/
theorem accounts_of_reachable (h : ReachableVia Fits r) : r.Accounts := by
  refine Machine.ReachVia.invariant h (fun _ => IsInitial.accounts) ?_
  rintro r i _ hr hguard ⟨hi, rfl⟩
  exact accounts_next hr hguard hi

/-! ## Downloads -/

/-- What a download has done with the octets of the server. -/
structure IsExact (r : FileReceiver) : Prop where
  /-- No arithmetic has overflowed, and no assertion has failed. -/
  safe : r.task ≠ .panicked
  /-- Up to the announced size all that has been received is returned. -/
  begun : r.received ≤ r.size.toNat → r.delivered = r.stream.take r.received
  /-- There is at most one acknowledgement, and it comes after the NUL behind the content. -/
  acknowledged : r.channel.offered = [] ∨ r.channel.offered = [0] ∧
    r.size.toNat < r.received ∧ r.stream[r.size.toNat]? = some 0
  /-- A download that goes beyond the announced size without an error has returned the content, and
  has acknowledged it. -/
  finished : r.task = .idle → ¬r.HasFailed → r.size.toNat < r.received →
    r.received = r.size.toNat + 1 ∧ r.stream.take r.received = r.delivered ++ [0] ∧
      r.channel.accepted = [0]
  /-- An error is one of the channel, or what has been received is not the content and the NUL. -/
  failed : ∀ e, .error e ∈ r.results → .returned (.error e) ∈ r.channel.log ∨
    Misfit r.size.toNat (r.stream.take r.received)
  /-- A call waits only for what has not arrived. -/
  waits : r.task = .filling → r.received = r.stream.length

theorem Accounts.isExact (h : r.Accounts) : r.IsExact := by
  obtain ⟨hbooks, hphase⟩ := h
  have hshows : r.channel.consumed ++ r.channel.readBuf = r.stream := hbooks.shows
  have hconsumed : r.stream.take r.received = r.channel.consumed := by
    rw [← hshows, hbooks.counted, List.take_left]
  obtain ⟨channel, size, received, task, results, answers⟩ := r
  refine ⟨?_, fun hreceived => ?_, hbooks.acknowledged.imp_right ?_, ?_, fun e he => ?_, ?_⟩
  · rintro rfl
    exact hphase
  · rw [hconsumed]
    cases task with
    | idle | filling => exact (hphase.2.of_le hreceived).2
    | sending data | flushing data =>
      have hmore := hphase.2.received
      dsimp only at hreceived hmore
      omega
    | panicked => exact hphase.elim
  · rintro ⟨hone, hnul⟩
    obtain ⟨hlt, -⟩ := List.getElem?_eq_some_iff.mp hnul
    refine ⟨hone, hbooks.counted ▸ hlt, ?_⟩
    rw [← hshows, List.getElem?_append_left hlt]
    exact hnul
  · rintro rfl hok hreceived
    rcases hphase.2 with ⟨hle, _, _⟩ | ⟨hlast, hone, hdelivered⟩ | ⟨_, hfailed⟩
    · exact absurd hreceived (Nat.not_lt.mpr hle)
    · exact ⟨hlast, hconsumed.trans hdelivered, congrArg (fun side => side.2.1) hone⟩
    · exact absurd hfailed hok
  · rw [hconsumed]
    exact hbooks.excused e he
  · rintro rfl
    -- a `fill` waits with an empty read buffer
    have hempty : channel.readBuf = [] := by
      have hnone := hbooks.starves .fill hphase.1
      by_contra hne
      change (if channel.readBuf = [] then none else some channel.readBuf) = none at hnone
      rw [if_neg hne] at hnone
      cases hnone
    rw [← hshows, hempty, List.append_nil]
    exact hbooks.counted

/-- Downloads deliver the announced file: in every run that meets the condition `receive` returns
the content, acknowledges the NUL behind it once, and otherwise fails. An `is_finished` panics
exactly when it does not meet the condition. -/
theorem receive_exact (h : ReachableVia Fits r) :
    r.IsExact ∧ (r.possible .isFinished = true →
      ((r.next .isFinished).task = .panicked ↔ ¬r.Fits .isFinished)) := by
  refine ⟨(accounts_of_reachable h).isExact, fun hidle => ?_⟩
  have htask : r.task ≠ .panicked := by
    rw [of_decide_eq_true (p := r.task = .idle) hidle]
    exact nofun
  change r.isFinished.task = .panicked ↔ _
  unfold isFinished Fits checkedAdd
  by_cases hsize : r.size.toNat + 1 < 2 ^ 64
  · rw [if_pos hsize]
    dsimp only
    split
    · next hle => exact iff_of_false htask (not_not.mpr ⟨hsize, hle⟩)
    · next hle => exact iff_of_true rfl fun hfits => hle hfits.2
  · rw [if_neg hsize]
    exact iff_of_true rfl fun hfits => hsize hfits.1

/-- A download of which the read buffer of the channel has some octets already. -/
def begin (size : UInt64) (readBuf : Bytes) : FileReceiver where
  channel := { BufferChannel.fresh with readBuf, log := [.took (.stdout readBuf)] }
  size
  received := 0
  task := .idle
  results := []
  answers := []

theorem reachable_begin {guard : FileReceiver → ReceiverInput → Prop} (size : UInt64)
    (readBuf : Bytes) (h : readBuf.length < 2 ^ 64) : ReachableVia guard (begin size readBuf) := by
  refine .start ⟨rfl, rfl, rfl, ?_, rfl, rfl, rfl⟩
  change ([] ++ readBuf ++ []).length < 2 ^ 64
  rw [List.nil_append, List.append_nil]
  exact h

/-- Two octets, the second of them with the NUL in a chunk of its own; the acknowledgement waits for
the window to open. -/
theorem receive_exact_in_chunks :
    ∃ r : FileReceiver, r.IsExact ∧ r.size = 2 ∧ r.task = .idle ∧ r.delivered = [0x61, 0x62] ∧
      r.channel.accepted = [0] ∧ r.answers = [true, false, false] := by
  obtain ⟨r, hrun, hr⟩ : ∃ r, Machine.runVia possible next Fits (begin 2 [0x61])
      [.isFinished, .receive, .isFinished, .receive, .channel (.arrives (.stdout [0x62, 0])),
        .channel .receive, .channel (.accepted 0), .channel (.accepted 1), .isFinished] = some r ∧
      r.size = 2 ∧ r.task = .idle ∧ r.delivered = [0x61, 0x62] ∧ r.channel.accepted = [0] ∧
        r.answers = [true, false, false] := ⟨_, rfl, by decide +kernel⟩
  have hreachable : ReachableVia Fits r :=
    Machine.reachVia_runVia (reachable_begin 2 [0x61] (by decide)) hrun
  exact ⟨r, (receive_exact hreachable).1, hr⟩

/-- An assertion fails when `is_finished` is called after the error for an octet behind the NUL, and
the sum overflows for the largest size. -/
theorem is_finished_panics :
    (∃ r : FileReceiver, Machine.Reachable IsInitial Step r ∧ r.size = 0 ∧ r.stream = [0, 0x45] ∧
      r.task = .panicked) ∧
      ∃ r : FileReceiver, Machine.Reachable IsInitial Step r ∧ r.size.toNat = 2 ^ 64 - 1 ∧
        r.stream = [0x61] ∧ r.task = .panicked := by
  have hrun : ∀ {r t : FileReceiver} (inputs : List ReceiverInput),
      Machine.Reachable IsInitial Step r →
      Machine.runVia possible next (fun _ _ => True) r inputs = some t →
      Machine.Reachable IsInitial Step t := fun _ => Machine.reachVia_runVia
  refine ⟨⟨_, hrun [.receive, .isFinished] (reachable_begin 0 [0, 0x45] (by decide)) rfl, rfl, rfl,
    rfl⟩, _, hrun [.receive] (reachable_begin (0 - 1) [0x61] (by decide)) rfl, ?_⟩
  decide +kernel

end FileReceiver

end Scp

end Flatline
