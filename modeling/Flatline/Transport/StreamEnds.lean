import Flatline.Common.StreamEnd
import Flatline.Transport.Compression

/-!
# A decoder and the end of its stream

The loop of `ZDecoder::update` goes on after every status but an error as long as octets are left.
Each turn with `Status::Ok` takes or writes something, and what a finite input expands to is finite;
`Status::BufError` comes without input only. After `Status::StreamEnd` nothing more is ever taken,
so octets after the end of the stream keep the loop turning for ever.

Source: `src/cipher/compress.rs`.
-/

namespace Flatline

open StreamCoder StreamCoder.Coder

variable {δ : Type} [Coder δ UInt8 UInt8]

namespace ZDecoder

/-- The loop of `update` ends, with `Ok` or with an error. -/
def Returns (data : Bytes) (z : ZDecoder δ) : Prop :=
  ∃ fuel, (z.update fuel data).1 = .ok () ∨ ∃ e, (z.update fuel data).1 = .error (.failed e)

/-- The decoders that earlier updates lead to: those were given the octets `given`, and `failed`
tells whether one of them failed. -/
inductive After : Bytes → Bool → ZDecoder δ → Prop
  | new (name : Text) (compressInAuth : Bool) : After [] false (ZDecoder.new name compressInAuth)
  | update {given : Bytes} {failed : Bool} {z z' : ZDecoder δ} (hz : After given failed z)
      {data : Bytes} {fuel : ℕ} {result : Except Halt Unit}
      (hupdate : z.update fuel data = (result, z')) (hreturns : result ≠ .error .unfinished) :
      After (given ++ data) (failed || !result.isOk) z'
  | finalize {given : Bytes} {failed : Bool} {z : ZDecoder δ} (hz : After given failed z) :
      After given failed z.finalize.2

/-- A decoder's stream has taken all of `given` and not failed, or it has failed. -/
def Standing (given : Bytes) (failed : Bool) (k : δ) : Prop :=
  if failed then ∃ taken written, Driven taken written none k
  else ∃ written last, Driven given written last k ∧ last ≠ none

/-- What is known in front of a turn: `pos` octets of `data` have been taken, and no call has
failed. -/
structure Turning (given data : Bytes) (before pos : ℕ) (written : Bytes) (k : δ) : Prop where
  driven : ∃ last, Driven (given ++ data.take pos) written last k ∧ last ≠ none
  pos_le : pos ≤ data.length
  totalIn_eq : totalIn k = before + pos

variable {endOf : Bytes → Option ℕ} {ratio : ℕ}

/-- One turn fails for good, or it takes some octets and goes on unless all are taken and the status
is not `Ok`. -/
theorem Turning.turn (hdec : Unpacks δ endOf ratio) {given data written : Bytes} {before pos : ℕ}
    {z : ZDecoder δ} (h : Turning given data before pos written z.decoder) :
    (∃ k taken written', Driven taken written' none k ∧
      (call (data.drop pos) (1024 * 4) z.decoder).status = none ∧
      ∀ fuel, z.updateLoop data before (fuel + 1) pos =
        (.error .compress, { z with decoder := k })) ∨
    ∃ m status output k, Turning given data before (pos + m) (written ++ output) k ∧
      Driven (given ++ data.take (pos + m)) (written ++ output) (some status) k ∧
      (status = .ok → 0 < m + output.length) ∧ (status = .bufError → data.length = pos) ∧
      (∀ n, endOf (given ++ data) = some n → given.length + (pos + m) ≤ n) ∧
      ∀ fuel, z.updateLoop data before (fuel + 1) pos =
        if status = .ok ∨ pos + m < data.length then
          ({ z with decoder := k, buf := z.buf ++ output } : ZDecoder δ).updateLoop data before
            fuel (pos + m)
        else (.ok (), { z with decoder := k, buf := z.buf ++ output }) := by
  obtain ⟨⟨last, hdriven, hlast⟩, hpos, htotal⟩ := h
  have hroom : 0 < 1024 * 4 := by omega
  have hbounded := hdec.bounded hdriven (data.drop pos) hroom
  have hstep := hdriven.step (data.drop pos) hroom
  have hworks := hdec.works hdriven (data.drop pos) hroom
  have hidles := hdec.idles hdriven (data.drop pos) hroom
  -- a call takes nothing behind the end of the stream
  have hwithin : ∀ n, endOf (given ++ data) = some n →
      given.length + pos + took (data.drop pos) (1024 * 4) z.decoder ≤ n := by
    intro n hn
    rw [← List.take_append_drop pos data, ← List.append_assoc] at hn
    have := (hdec.within hdriven hlast hn hroom).2
    rwa [List.length_append, List.length_take, Nat.min_eq_left hpos] at this
  obtain ⟨m, hm⟩ : ∃ m, took (data.drop pos) (1024 * 4) z.decoder = m := ⟨_, rfl⟩
  have htook := hbounded.took_le
  have hnext := hbounded.totalIn_next
  rw [hm, List.append_assoc, ← List.take_add] at hstep
  rw [hm, htotal] at hnext
  rw [hm, List.length_drop] at htook
  rw [hm] at hworks hwithin
  -- the loop computes its position from the total, which counts the earlier updates
  have hpos' : totalIn (call (data.drop pos) (1024 * 4) z.decoder).next - before = pos + m := by
    omega
  cases hstatus : (call (data.drop pos) (1024 * 4) z.decoder).status with
  | none =>
    rw [hstatus] at hstep
    refine .inl ⟨_, _, _, hstep, rfl, fun fuel => ?_⟩
    rw [updateLoop, if_neg (by omega)]
    simp only [hstatus]
  | some status =>
    rw [hstatus] at hstep
    refine .inr ⟨m, status, _, _, ⟨⟨_, hstep, by simp⟩, by omega, by omega⟩, hstep, ?_, ?_, ?_,
      fun fuel => ?_⟩
    · rintro rfl
      exact hworks hstatus
    · rintro rfl
      have := hidles hstatus
      rw [List.drop_eq_nil_iff] at this
      omega
    · intro n hn
      have := hwithin n hn
      omega
    · rw [updateLoop, if_neg (by omega)]
      simp only [hstatus, hpos']
      cases status <;> simp

/-- What a loop leaves behind that has returned. -/
theorem Turning.standing (hdec : Unpacks δ endOf ratio) {given data written : Bytes}
    {before pos fuel : ℕ} {z z' : ZDecoder δ} (h : Turning given data before pos written z.decoder)
    {result : Except Halt Unit} (hloop : z.updateLoop data before fuel pos = (result, z'))
    (hreturns : result ≠ .error .unfinished) :
    Standing (given ++ data) (!result.isOk) z'.decoder := by
  induction fuel generalizing pos written z with
  | zero =>
    cases hloop
    exact absurd rfl hreturns
  | succ fuel ih =>
    obtain ⟨k, taken, written', hfailed, -, hturn⟩ |
      ⟨m, status, output, k, hnext, hdriven, -, -, -, hturn⟩ := h.turn hdec
    · rw [hturn] at hloop
      cases hloop
      exact ⟨taken, written', hfailed⟩
    · rw [hturn] at hloop
      split at hloop
      · exact ih hnext hloop
      · rename_i hall
        cases hloop
        have hpos : data.length ≤ pos + m := by
          by_contra hless
          exact hall (.inr (by omega))
        rw [List.take_of_length_le hpos] at hdriven
        exact ⟨_, _, hdriven, by simp⟩

/-- Without octets after the end of the stream the loop returns. -/
theorem Turning.returns (hdec : Unpacks δ endOf ratio) {given data written : Bytes}
    {before pos : ℕ} {z : ZDecoder δ} (h : Turning given data before pos written z.decoder)
    (hend : ∀ n, endOf (given ++ data) = some n → given.length + data.length ≤ n) :
    ∃ fuel, (z.updateLoop data before fuel pos).1 = .ok () ∨
      ∃ e, (z.updateLoop data before fuel pos).1 = .error (.failed e) := by
  -- a turn that goes on takes some of the data or writes some of the finite rest of the output
  induction hn : (data.length - pos) + (ratio * (given.length + data.length) - written.length)
    using Nat.strong_induction_on generalizing pos written z with
  | _ n ih =>
    subst hn
    obtain ⟨k, taken, written', -, -, hturn⟩ |
      ⟨m, status, output, k, hnext, hdriven, hworks, hidles, -, hturn⟩ := h.turn hdec
    · exact ⟨1, .inr ⟨_, by rw [hturn]; rfl⟩⟩
    · by_cases hgo : status = .ok ∨ pos + m < data.length
      · have hok : status = .ok := by
          cases status with
          | ok => rfl
          | bufError =>
            have := hidles rfl
            rcases hgo with hgo | hgo
            · exact hgo
            · omega
          | streamEnd =>
            have hreached := hdec.endOf_append (hdec.endOf_given hdriven) (data.drop (pos + m))
            rw [List.append_assoc, List.take_append_drop, List.length_append,
              List.length_take] at hreached
            have := hend _ hreached
            have := hnext.pos_le
            rcases hgo with hgo | hgo
            · exact hgo
            · omega
        have hprogress := hworks hok
        have hexpands := hdec.expands hdriven
        have hpos := hnext.pos_le
        have hlength : (given ++ data.take (pos + m)).length ≤ given.length + data.length := by
          rw [List.length_append, List.length_take]
          omega
        have hlimit := Nat.mul_le_mul_left ratio hlength
        have hless : data.length - (pos + m) +
            (ratio * (given.length + data.length) - (written ++ output).length) <
            data.length - pos + (ratio * (given.length + data.length) - written.length) := by
          rw [List.length_append] at hexpands ⊢
          omega
        have hrest : Turning given data before (pos + m) (written ++ output)
            ({ z with decoder := k, buf := z.buf ++ output } : ZDecoder δ).decoder := hnext
        obtain ⟨fuel, hfuel⟩ := ih _ hless hrest rfl
        refine ⟨fuel + 1, ?_⟩
        rw [hturn, if_pos hgo]
        exact hfuel
      · exact ⟨1, .inl (by rw [hturn, if_neg hgo])⟩

/-- With octets after the end of the stream the loop never ends. -/
theorem Turning.unfinished (hdec : Unpacks δ endOf ratio) {given data written : Bytes}
    {before pos n : ℕ} {z : ZDecoder δ} (h : Turning given data before pos written z.decoder)
    (hend : endOf (given ++ data) = some n) (hsurplus : n < given.length + data.length)
    (fuel : ℕ) : (z.updateLoop data before fuel pos).1 = .error .unfinished := by
  induction fuel generalizing pos written z with
  | zero => rfl
  | succ fuel ih =>
    obtain ⟨-, -, -, -, hfailed, -⟩ | ⟨m, status, output, k, hnext, -, -, -, hwithin, hturn⟩ :=
      h.turn hdec
    · obtain ⟨⟨last, hdriven, hlast⟩, -, -⟩ := h
      rw [← List.take_append_drop pos data, ← List.append_assoc] at hend
      exact absurd hfailed (hdec.within hdriven hlast hend (by omega)).1
    · have := hwithin n hend
      rw [hturn, if_pos (.inr (by omega))]
      exact ih hnext

/-- A stream that has not failed is in front of the first turn of an update. -/
theorem Standing.turning {given : Bytes} {k : δ} (h : Standing given false k) (data : Bytes) :
    ∃ written, Turning given data (totalIn k) 0 written k := by
  obtain ⟨written, last, hdriven, hlast⟩ := h
  exact ⟨written, ⟨last, by rwa [List.take_zero, List.append_nil], hlast⟩, Nat.zero_le _, rfl⟩

/-- A stream that has failed fails again. -/
theorem Standing.update_failed (hdec : Unpacks δ endOf ratio) {given : Bytes} {z : ZDecoder δ}
    (h : Standing given true z.decoder) (fuel : ℕ) (data : Bytes) :
    ∃ k, z.update (fuel + 1) data = (.error .compress, { z with decoder := k }) ∧
      Standing given true k := by
  obtain ⟨taken, written, hdriven⟩ := h
  have hroom : 0 < 1024 * 4 := by omega
  have hfailed := hdec.failed hdriven data hroom
  have hstep := hdriven.step data hroom
  rw [hfailed] at hstep
  refine ⟨_, ?_, _, _, hstep⟩
  rw [update, updateLoop, if_neg (by omega), List.drop_zero]
  simp only [hfailed]

theorem After.standing (hdec : Unpacks δ endOf ratio) {given : Bytes} {failed : Bool}
    {z : ZDecoder δ} (hz : After given failed z) : Standing given failed z.decoder := by
  induction hz with
  | new name compressInAuth => exact ⟨[], _, .fresh, by simp⟩
  | @update given failed z z' hz data fuel result hupdate hreturns ih =>
    cases failed with
    | false =>
      obtain ⟨written, hturning⟩ := ih.turning data
      exact hturning.standing hdec hupdate hreturns
    | true =>
      cases fuel with
      | zero =>
        cases hupdate
        exact absurd rfl hreturns
      | succ fuel =>
        obtain ⟨k, hfails, hstanding⟩ := ih.update_failed hdec fuel data
        rw [hfails] at hupdate
        cases hupdate
        exact hstanding
  | finalize hz ih => exact ih

/-- An update of any decoder that earlier updates lead to returns exactly when one of those has
failed, or no octet given to the decoder stands after the end of its stream. -/
theorem returns_iff (hdec : Unpacks δ endOf ratio) {given : Bytes} {failed : Bool}
    {z : ZDecoder δ} (hz : After given failed z) (data : Bytes) :
    z.Returns data ↔
      failed = true ∨ ∀ n, endOf (given ++ data) = some n → given.length + data.length ≤ n := by
  have hstanding := hz.standing hdec
  cases failed with
  | true =>
    obtain ⟨k, hfails, -⟩ := hstanding.update_failed hdec 0 data
    exact iff_of_true ⟨1, .inr ⟨_, by rw [hfails]; rfl⟩⟩ (.inl rfl)
  | false =>
    obtain ⟨written, hturning⟩ := hstanding.turning data
    refine ⟨fun hreturns => .inr ?_, ?_⟩
    · intro n hn
      by_contra hsurplus
      obtain ⟨fuel, hfuel⟩ := hreturns
      have hloop := hturning.unfinished hdec hn (by omega) fuel
      rw [update, hloop] at hfuel
      simp at hfuel
    · rintro (hfailed | hend)
      · cases hfailed
      · exact hturning.returns hdec hend

/-- The `zlib` stream of the single octet `0x61`, stored. -/
def storedStream : Bytes :=
  [0x78, 0x9c, 0x01, 0x01, 0x00, 0xfe, 0xff, 0x61, 0x00, 0x62, 0x00, 0x62]

/-- A stream that ends with the data is decoded. -/
theorem returns_storedStream :
    (ZDecoder.new (ascii "zlib") true : ZDecoder StoredBlocks.Unpacker).Returns storedStream :=
  (returns_iff StoredBlocks.unpacks (.new _ _) _).mpr (.inr (by decide))

/-- One octet after the end of the stream, and `update` never returns. -/
theorem never_returns_after_end :
    ¬ (ZDecoder.new (ascii "zlib") true : ZDecoder StoredBlocks.Unpacker).Returns
      (storedStream ++ [0x00]) := by
  intro hreturns
  obtain hfailed | hend := (returns_iff StoredBlocks.unpacks (.new _ _) _).mp hreturns
  · cases hfailed
  · exact absurd (hend 12 (by decide)) (by decide)

end ZDecoder

end Flatline
