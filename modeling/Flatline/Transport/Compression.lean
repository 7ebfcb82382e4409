import Flatline.Common.StoredBlocks
import Flatline.Error
import Mathlib

/-!
# Packet compression

The encoder and the decoder of `zlib`, each one `flate2` stream that lives as long as the keys do.
A packet goes through `update`, a loop of calls on that stream, and `finalize`, which hands over
what has been buffered. The `flate2` streams are parameters, with what their manual promises
(`StreamCoder.Flushes` for a compressor that flushes partially on every call, and
`StreamCoder.Inflates`) as the only assumption.

Neither loop bounds its number of turns, so both take a number of turns to give up after, and the
results are about every number large enough.

Source: `src/cipher/compress.rs`.
-/

namespace Flatline

open StreamCoder StreamCoder.Coder Filter

/-- Why a call of `update` does not return `Ok`. -/
inductive Halt where
  | failed (error : Error)
  /-- A slice out of range. -/
  | panicked
  /-- The loop has not ended yet. -/
  | unfinished
deriving DecidableEq, Repr

/-- `CompressSnafu.fail()`. -/
def Halt.compress : Halt :=
  .failed (.cipher .compressError)

/-- `compress::ZEncoder`. -/
structure ZEncoder (κ : Type) where
  name : Text
  compressInAuthentication : Bool
  encoder : κ
  buf : Bytes

/-- `compress::ZDecoder`. -/
structure ZDecoder (κ : Type) where
  name : Text
  compressInAuth : Bool
  decoder : κ
  buf : Bytes

variable {κ δ : Type} [Coder κ UInt8 UInt8] [Coder δ UInt8 UInt8]

namespace ZEncoder

/-- `ZEncoder::new`. -/
def new (name : Text) (compressInAuthentication : Bool) : ZEncoder κ where
  name
  compressInAuthentication
  encoder := fresh
  buf := []

/-- The loop of `update`, with `pos` octets of `data` taken already. -/
def updateLoop (data : Bytes) (before : ℕ) :
    ℕ → ℕ → ZEncoder κ → Except Halt Unit × ZEncoder κ
  | 0, _, z => (.error .unfinished, z)
  | fuel + 1, pos, z =>
    if data.length < pos then (.error .panicked, z) else
    let cap := ((data.length - pos) / 1024 + 1) * 1024
    let tmp := call (data.drop pos) cap z.encoder
    match tmp.status with
    | some .ok =>
      let z := { z with encoder := tmp.next, buf := z.buf ++ tmp.output }
      let pos := totalIn z.encoder - before
      if pos < data.length ∨ tmp.output.length = cap then
        updateLoop data before fuel pos z
      else (.ok (), z)
    | _ => (.error .compress, { z with encoder := tmp.next })

/-- `ZEncoder::update`. -/
def update (fuel : ℕ) (data : Bytes) (z : ZEncoder κ) : Except Halt Unit × ZEncoder κ :=
  z.updateLoop data (totalIn z.encoder) fuel 0

/-- `ZEncoder::finalize`. -/
def finalize (z : ZEncoder κ) : Bytes × ZEncoder κ :=
  (z.buf, { z with buf := [] })

/-- `update` and `finalize` on one payload. -/
def packet (fuel : ℕ) (payload : Bytes) (z : ZEncoder κ) : Except Halt (Bytes × ZEncoder κ) :=
  match z.update fuel payload with
  | (.ok (), z) => .ok z.finalize
  | (.error e, _) => .error e

end ZEncoder

namespace ZDecoder

/-- `ZDecoder::new`. -/
def new (name : Text) (compressInAuth : Bool) : ZDecoder δ where
  name
  compressInAuth
  decoder := fresh
  buf := []

/-- The loop of `update`, with `pos` octets of `data` taken already. -/
def updateLoop (data : Bytes) (before : ℕ) :
    ℕ → ℕ → ZDecoder δ → Except Halt Unit × ZDecoder δ
  | 0, _, z => (.error .unfinished, z)
  | fuel + 1, pos, z =>
    if data.length < pos then (.error .panicked, z) else
    let cap := 1024 * 4
    let tmp := call (data.drop pos) cap z.decoder
    let pos := totalIn tmp.next - before
    match tmp.status with
    | some .ok =>
      updateLoop data before fuel pos
        { z with decoder := tmp.next, buf := z.buf ++ tmp.output }
    | some _ =>
      let z := { z with decoder := tmp.next, buf := z.buf ++ tmp.output }
      if pos < data.length then updateLoop data before fuel pos z else (.ok (), z)
    | none => (.error .compress, { z with decoder := tmp.next })

/-- `ZDecoder::update`. -/
def update (fuel : ℕ) (data : Bytes) (z : ZDecoder δ) : Except Halt Unit × ZDecoder δ :=
  z.updateLoop data (totalIn z.decoder) fuel 0

/-- `ZDecoder::finalize`. -/
def finalize (z : ZDecoder δ) : Bytes × ZDecoder δ :=
  (z.buf, { z with buf := [] })

/-- `update` and `finalize` on the compressed form of one payload. -/
def packet (fuel : ℕ) (wire : Bytes) (z : ZDecoder δ) : Except Halt (Bytes × ZDecoder δ) :=
  match z.update fuel wire with
  | (.ok (), z) => .ok z.finalize
  | (.error e, _) => .error e

end ZDecoder

/-- Pass payloads through an encoder and then a decoder, one packet after the other. -/
def throughCoders (fuel : ℕ) :
    List Bytes → ZEncoder κ → ZDecoder δ → Except Halt (List Bytes)
  | [], _, _ => .ok []
  | payload :: payloads, z, d => do
    let (wire, z) ← z.packet fuel payload
    let (received, d) ← d.packet fuel wire
    return received :: (← throughCoders fuel payloads z d)

/-! ## The two loops -/

theorem eventually_of_succ {p : ℕ → Prop} (h : ∀ᶠ fuel in atTop, p (fuel + 1)) :
    ∀ᶠ fuel in atTop, p fuel := by
  rw [← map_add_atTop_eq_nat 1]
  exact h

section Coding

variable {meaning : Bytes → Bytes} {IsStart : Bytes → Prop} {backlog : Bytes → κ → ℕ}

/-- With enough turns the encoder's loop ends with room left over, so that all of the rest of the
data has been flushed. -/
theorem ZEncoder.updateLoop_eventually (henc : Flushes κ meaning IsStart backlog)
    (data : Bytes) (before pos : ℕ) (z : ZEncoder κ) {given taken : Bytes} {settled : Bool}
    (hfed : Fed given taken settled z.encoder) (hpos : pos ≤ data.length)
    (htotal : totalIn z.encoder = before + pos) (hwork : data.drop pos ≠ [] ∨ settled = false) :
    ∃ output k, Fed (given ++ data.drop pos) (taken ++ output) true k ∧
      meaning (taken ++ output) = given ++ data.drop pos ∧
      ∀ᶠ fuel in atTop, z.updateLoop data before fuel pos =
        (.ok (), { z with encoder := k, buf := z.buf ++ output }) := by
  -- the loop goes on only when a call fills its output, which works off some of the backlog
  induction hn : backlog (data.drop pos) z.encoder using Nat.strong_induction_on
    generalizing pos z given taken settled with
  | _ n ih =>
    subst hn
    have hroom : 0 < ((data.length - pos) / 1024 + 1) * 1024 := by omega
    obtain ⟨tmp, htmp⟩ : ∃ tmp, call (data.drop pos) (((data.length - pos) / 1024 + 1) * 1024)
      z.encoder = tmp := ⟨_, rfl⟩
    obtain ⟨hok, ⟨hfull, m, hm, hnext, hfed', hless⟩ | ⟨hspare, hnext, hfed', hmeaning⟩⟩ :=
      henc.call_cases hfed hroom hwork htmp
    · rw [List.length_drop] at hm
      rw [List.drop_drop] at hless
      have hpos' : totalIn tmp.next - before = pos + m := by omega
      obtain ⟨output, k, hfed'', hmeaning, hloop⟩ := ih _ hless (pos + m)
        { z with encoder := tmp.next, buf := z.buf ++ tmp.output } hfed' (by omega)
        (by rw [hnext, htotal]; omega) (.inr rfl) rfl
      rw [List.append_assoc, List.append_assoc, ← List.drop_drop, List.take_append_drop]
        at hfed'' hmeaning
      refine ⟨tmp.output ++ output, k, hfed'', hmeaning, eventually_of_succ ?_⟩
      filter_upwards [hloop] with fuel hfuel
      rw [ZEncoder.updateLoop, if_neg (by omega)]
      simp only [htmp, hok, hfull, or_true, if_true]
      rw [hpos', hfuel, List.append_assoc]
    · rw [List.length_drop] at hnext
      refine ⟨tmp.output, tmp.next, hfed', hmeaning, eventually_of_succ (.of_forall fun fuel => ?_)⟩
      rw [ZEncoder.updateLoop, if_neg (by omega)]
      simp only [htmp, hok]
      exact if_neg (by omega)

/-- With enough turns the decoder's loop ends when nothing is left to do: all of the rest of the
data has been decoded. -/
theorem ZDecoder.updateLoop_eventually (hdec : Inflates δ meaning IsStart)
    (data : Bytes) (before pos : ℕ) (z : ZDecoder δ) {given taken : Bytes} {settled : Bool}
    (hfed : Fed given taken settled z.decoder) (hpos : pos ≤ data.length)
    (htotal : totalIn z.decoder = before + pos) (hstart : IsStart (given ++ data.drop pos)) :
    ∃ output k, Fed (given ++ data.drop pos) (taken ++ output) true k ∧
      taken ++ output = meaning (given ++ data.drop pos) ∧
      ∀ᶠ fuel in atTop, z.updateLoop data before fuel pos =
        (.ok (), { z with decoder := k, buf := z.buf ++ output }) := by
  -- every turn but the last one takes some input or writes some of the finite meaning
  induction hn : (data.length - pos) + ((meaning (given ++ data.drop pos)).length - taken.length)
    using Nat.strong_induction_on generalizing pos z given taken settled with
  | _ n ih =>
    subst hn
    obtain ⟨tmp, htmp⟩ : ∃ tmp, call (data.drop pos) (1024 * 4) z.decoder = tmp := ⟨_, rfl⟩
    obtain ⟨hok, m, hm, hnext, hprogress, hprefix, hfed'⟩ | ⟨hidle, hnil, hnext, hmeaning, hfed'⟩ :=
      hdec.call_cases hfed hstart (by omega) htmp
    · rw [List.length_drop] at hm
      have hpos' : totalIn tmp.next - before = pos + m := by omega
      have hlength := hprefix.length_le
      rw [List.length_append] at hlength
      have hrest : (given ++ (data.drop pos).take m) ++ data.drop (pos + m) =
          given ++ data.drop pos := by
        rw [List.append_assoc, ← List.drop_drop, List.take_append_drop]
      have hless : data.length - (pos + m) + ((meaning ((given ++ (data.drop pos).take m) ++
          data.drop (pos + m))).length - (taken ++ tmp.output).length) <
          data.length - pos + ((meaning (given ++ data.drop pos)).length - taken.length) := by
        rw [hrest, List.length_append]
        omega
      obtain ⟨output, k, hfed'', hmeaning, hloop⟩ := ih _ hless (pos + m)
        { z with decoder := tmp.next, buf := z.buf ++ tmp.output } hfed' (by omega)
        (by rw [hnext, htotal]; omega) (by rwa [hrest]) rfl
      rw [hrest, List.append_assoc] at hfed'' hmeaning
      refine ⟨tmp.output ++ output, k, hfed'', hmeaning, eventually_of_succ ?_⟩
      filter_upwards [hloop] with fuel hfuel
      rw [ZDecoder.updateLoop, if_neg (by omega)]
      simp only [htmp, hok]
      rw [hpos', hfuel, List.append_assoc]
    · rw [List.length_drop] at hnext
      refine ⟨[], tmp.next, by rwa [List.append_nil], by rwa [List.append_nil],
        eventually_of_succ (.of_forall fun fuel => ?_)⟩
      rw [ZDecoder.updateLoop, if_neg (by omega)]
      simp only [htmp, hidle, hnil]
      exact if_neg (by omega)

/-! ## Packets -/

/-- An encoder and a decoder between two packets: both buffers are empty, the decoder has been fed
with all that the encoder has written, and has written all that the encoder was given. -/
structure InStep (settled : Bool) (z : ZEncoder κ) (d : ZDecoder δ) : Prop where
  encoder_buf : z.buf = []
  decoder_buf : d.buf = []
  fed : ∃ given wire settled', Fed given wire settled z.encoder ∧ Fed wire given settled' d.decoder

theorem inStep_new (name name' : Text)
    (early early' : Bool) :
    InStep false (ZEncoder.new name early : ZEncoder κ) (ZDecoder.new name' early' : ZDecoder δ) where
  encoder_buf := rfl
  decoder_buf := rfl
  fed := ⟨[], [], false, .fresh, .fresh⟩

/-- A packet goes through both coders and leaves them in step, unless it is an empty one after
another packet. -/
theorem InStep.packet (henc : Flushes κ meaning IsStart backlog) (hdec : Inflates δ meaning IsStart)
    {settled : Bool} {z : ZEncoder κ} {d : ZDecoder δ} (hstep : InStep settled z d)
    {payload : Bytes} (hwork : payload ≠ [] ∨ settled = false) :
    ∃ wire z' d', InStep true z' d' ∧ (∀ᶠ fuel in atTop, z.packet fuel payload = .ok (wire, z')) ∧
      ∀ᶠ fuel in atTop, d.packet fuel wire = .ok (payload, d') := by
  obtain ⟨hzbuf, hdbuf, given, sent, settled', hz, hd⟩ := hstep
  obtain ⟨wire, k, hz', hmeaning, hencode⟩ := ZEncoder.updateLoop_eventually henc payload
    (totalIn z.encoder) 0 z hz (Nat.zero_le _) rfl hwork
  rw [List.drop_zero] at hz' hmeaning
  obtain ⟨received, k', hd', hreceived, hdecode⟩ := ZDecoder.updateLoop_eventually hdec wire
    (totalIn d.decoder) 0 d hd (Nat.zero_le _) rfl (henc.isStart hz')
  rw [List.drop_zero] at hd' hreceived
  rw [hmeaning, List.append_cancel_left_eq] at hreceived
  subst hreceived
  refine ⟨wire, { z with encoder := k, buf := [] }, { d with decoder := k', buf := [] },
    ⟨rfl, rfl, _, _, _, hz', hd'⟩, ?_, ?_⟩
  · filter_upwards [hencode] with fuel hfuel
    rw [hzbuf, List.nil_append] at hfuel
    rw [ZEncoder.packet, ZEncoder.update, hfuel]
    rfl
  · filter_upwards [hdecode] with fuel hfuel
    rw [hdbuf, List.nil_append] at hfuel
    rw [ZDecoder.packet, ZDecoder.update, hfuel]
    rfl

/-- The encoder fails on an empty packet after another one: its stream has nothing to do. -/
theorem InStep.packet_nil (henc : Flushes κ meaning IsStart backlog) {z : ZEncoder κ}
    {d : ZDecoder δ} (hstep : InStep true z d) (fuel : ℕ) :
    z.packet (fuel + 1) [] = .error .compress := by
  obtain ⟨-, -, given, sent, settled', hz, -⟩ := hstep
  have hidles := henc.idles hz (show 0 < ((0 - 0) / 1024 + 1) * 1024 by omega)
  simp [ZEncoder.packet, ZEncoder.update, ZEncoder.updateLoop, hidles]

/-- Coders in step return a sequence of payloads packet by packet exactly when none is empty, the
first one of a fresh pair excepted. -/
theorem InStep.throughCoders_iff (henc : Flushes κ meaning IsStart backlog)
    (hdec : Inflates δ meaning IsStart) {settled : Bool} {z : ZEncoder κ} {d : ZDecoder δ}
    (hstep : InStep settled z d) (payloads : List Bytes) :
    (∀ᶠ fuel in atTop, throughCoders fuel payloads z d = .ok payloads) ↔
      ∀ payload ∈ (if settled then payloads else payloads.tail), payload ≠ [] := by
  induction payloads generalizing settled z d with
  | nil =>
    simp [throughCoders]
  | cons payload payloads ih =>
    by_cases hwork : payload ≠ [] ∨ settled = false
    · obtain ⟨wire, z', d', hstep', hencode, hdecode⟩ := hstep.packet henc hdec hwork
      have hturn : ∀ᶠ fuel in atTop, (throughCoders fuel (payload :: payloads) z d =
          .ok (payload :: payloads) ↔ throughCoders fuel payloads z' d' = .ok payloads) := by
        filter_upwards [hencode, hdecode] with fuel hz hd
        simp only [throughCoders, hz, hd, Bind.bind, Except.bind]
        cases throughCoders fuel payloads z' d' <;> simp [Pure.pure, Except.pure]
      rw [eventually_congr hturn, ih hstep']
      rcases hwork with hpayload | rfl
      · cases settled <;> simp [hpayload]
      · simp
    · obtain ⟨rfl, rfl⟩ : payload = [] ∧ settled = true := by simpa using hwork
      have hfails : ∀ fuel, throughCoders (fuel + 1) ([] :: payloads) z d = .error .compress := by
        intro fuel
        rw [throughCoders, hstep.packet_nil henc]
        rfl
      refine iff_of_false (fun hok => ?_) (by simp)
      obtain ⟨fuel, hfuel, hpos⟩ := (hok.and (eventually_ge_atTop 1)).exists
      obtain ⟨fuel, rfl⟩ := Nat.exists_eq_add_of_le' hpos
      rw [hfails] at hfuel
      cases hfuel

/-- What one encoder and one decoder make of a sequence of payloads is that sequence, packet by
packet and without an error on either side, exactly when no payload after the first one is
empty. -/
theorem throughCoders_new_iff (henc : Flushes κ meaning IsStart backlog)
    (hdec : Inflates δ meaning IsStart) (name name' : Text) (early early' : Bool)
    (payloads : List Bytes) :
    (∀ᶠ fuel in atTop, throughCoders fuel payloads (ZEncoder.new name early : ZEncoder κ)
        (ZDecoder.new name' early' : ZDecoder δ) = .ok payloads) ↔
      ∀ payload ∈ payloads.tail, payload ≠ [] :=
  (inStep_new name name' early early').throughCoders_iff henc hdec payloads

end Coding

/-- Two packets of octets that do not repeat, which `zlib` stores as they are. -/
theorem throughCoders_stored :
    ∀ᶠ fuel in atTop,
      throughCoders fuel [(List.range 32).map fun i => UInt8.ofNat (0x90 + i),
          (List.range 32).map fun i => UInt8.ofNat (0xb0 + i)]
        (ZEncoder.new (ascii "zlib") true : ZEncoder StoredBlocks.Compress)
        (ZDecoder.new (ascii "zlib") true : ZDecoder StoredBlocks.Decompress) =
      .ok [(List.range 32).map fun i => UInt8.ofNat (0x90 + i),
        (List.range 32).map fun i => UInt8.ofNat (0xb0 + i)] :=
  (throughCoders_new_iff StoredBlocks.flushes StoredBlocks.inflates _ _ _ _ _).mpr (by decide)

/-- The second of two empty payloads leaves the compressor nothing to do, which it reports as
`BufError`, and the encoder fails. -/
theorem empty_packet_fails :
    ∀ᶠ fuel in atTop,
      throughCoders fuel [[], []]
        (ZEncoder.new (ascii "zlib") true : ZEncoder StoredBlocks.Compress)
        (ZDecoder.new (ascii "zlib") true : ZDecoder StoredBlocks.Decompress) =
      .error .compress :=
  eventually_of_succ (eventually_of_succ (.of_forall fun _ => rfl))

end Flatline
