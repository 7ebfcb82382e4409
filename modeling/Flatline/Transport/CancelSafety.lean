import Flatline.Transport.StreamSafety
import Flatline.Transport.Waiting

/-!
# Receiving is cancel safe

What the stream stores when a call waits is enough for a new call to come to the same `fill`. So
neither the way the octets arrive nor the moments at which a future is dropped change what is
received.
-/

namespace Flatline

namespace CipherStream

variable {δ μ ζ : Type} [PacketDecrypt δ] [PacketMac μ] [PacketDecode ζ]

/-! ## Futures -/

/-- What the laws of a reader ask of a future. -/
structure Resumes (f : ReadEnv → CipherStream δ μ ζ → Polled δ μ ζ) : Prop where
  ok {env : ReadEnv} {s s' : CipherStream δ μ ζ} {packet : Packet} : (f env s).1 = .ok packet s' →
    ∀ fails more, (f { env with readFails := fails } (s.receive more)).1 =
      .ok packet (s'.receive more)
  failed {strict : Bool} {s s' : CipherStream δ μ ζ} {e : Stop} :
    (f ⟨false, strict⟩ s).1 = .error e s' → e ≠ .pending →
      ∀ fails more, (f ⟨fails, strict⟩ (s.receive more)).1 = .error e (s'.receive more)
  pending {env : ReadEnv} {s s' : CipherStream δ μ ζ} {await : Await} :
    f env s = (.error .pending s', await) → ∀ fails more,
      await.resume { env with readFails := fails } (s'.receive more) =
        f { env with readFails := fails } (s.receive more)
  shortens {env : ReadEnv} {s s' : CipherStream δ μ ζ} {packet : Packet} :
    (f env s).1 = .ok packet s' → s'.buffer.length < s.buffer.length

theorem resumeBody_resumes (mode : Mode) (length : UInt32) :
    Resumes fun env => resumeBody (δ := δ) (μ := μ) (ζ := ζ) env mode length := by
  have hwaits : Waits 4 fun env => (mode.readRest env length >>= finish env : Read δ μ ζ Packet) :=
    (mode.readRest_waits length).bind_takes finish_takes fun _ _ _ => rfl
  refine ⟨hwaits.ok, hwaits.failed, ?_, fun h => ?_⟩
  · intro env s s' await h fails more
    injection h with hanswer hawait
    rw [hwaits.pending hanswer, ← hawait]
    rfl
  · have := hwaits.shortens h
    omega

/-- The length is found again, and then the future goes on as before. -/
theorem resumeHeader_of_ok {env : ReadEnv} {mode : Mode} {s s₁ : CipherStream δ μ ζ}
    {length : UInt32} (h : mode.readLength env s = .ok length s₁) (fails : Bool) (more : Bytes) :
    resumeHeader { env with readFails := fails } mode (s.receive more) =
      resumeBody { env with readFails := fails } mode length (s₁.receive more) := by
  unfold resumeHeader
  rw [mode.readLength_waits.ok h fails more]

theorem resumeHeader_resumes (mode : Mode) :
    Resumes fun env => resumeHeader (δ := δ) (μ := μ) (ζ := ζ) env mode := by
  have hlength := mode.readLength_waits (δ := δ) (μ := μ) (ζ := ζ)
  -- with the length read, the future is one for the body; without it, it fails where it is
  have hopen : ∀ {env : ReadEnv} {s s₁ : CipherStream δ μ ζ} {length : UInt32},
      mode.readLength env s = .ok length s₁ → resumeHeader env mode s =
        resumeBody env mode length s₁ := by
    intro env s s₁ length h
    unfold resumeHeader
    rw [h]
  have hshut : ∀ {env : ReadEnv} {s s₁ : CipherStream δ μ ζ} {e : Stop},
      mode.readLength env s = .error e s₁ → resumeHeader env mode s =
        (.error e s₁, .header mode) := by
    intro env s s₁ e h
    unfold resumeHeader
    rw [h]
  refine ⟨?_, ?_, ?_, ?_⟩
  · intro env s s' packet h fails more
    cases hfirst : mode.readLength env s with
    | ok length s₁ =>
      rw [resumeHeader_of_ok hfirst]
      rw [hopen hfirst] at h
      exact (resumeBody_resumes mode length).ok h fails more
    | error e s₁ =>
      rw [hshut hfirst] at h
      cases h
  · intro strict s s' e h he fails more
    cases hfirst : mode.readLength ⟨false, strict⟩ s with
    | ok length s₁ =>
      have hagain := resumeHeader_of_ok hfirst fails more
      dsimp only at hagain ⊢
      rw [hagain]
      rw [hopen hfirst] at h
      exact (resumeBody_resumes mode length).failed h he fails more
    | error e₁ s₁ =>
      rw [hshut hfirst] at h
      injection h with h₁ h₂
      subst h₁ h₂
      rw [hshut (hlength.failed hfirst he fails more)]
  · intro env s s' await h fails more
    cases hfirst : mode.readLength env s with
    | ok length s₁ =>
      rw [hopen hfirst] at h
      rw [resumeHeader_of_ok hfirst]
      exact (resumeBody_resumes mode length).pending h fails more
    | error e s₁ =>
      rw [hshut hfirst] at h
      injection h with hanswer hawait
      injection hanswer with he hs
      subst he hs
      rw [hlength.pending hfirst, ← hawait]
      rfl
  · intro env s s' packet h
    cases hfirst : mode.readLength env s with
    | ok length s₁ =>
      rw [hopen hfirst] at h
      have hshort := (resumeBody_resumes mode length).shortens h
      have := hlength.shortens hfirst
      omega
    | error e s₁ =>
      rw [hshut hfirst] at h
      cases h

/-- What `resumeCall` does after a successful start. -/
theorem resumeCall_of_start {env : ReadEnv} {s s₁ : CipherStream δ μ ζ}
    (h : start s = .ok () s₁) :
    resumeCall env s = match s₁.ready.length with
      | some length => resumeBody env s₁.mode length s₁
      | none => resumeHeader env s₁.mode s₁ := by
  unfold resumeCall
  cases hlength : s₁.ready.length <;> simp only [h, hlength]

theorem resumeCall_resumes : Resumes (resumeCall (δ := δ) (μ := μ) (ζ := ζ)) := by
  -- what happens after the start is the business of one of the other two
  have hrest : ∀ s₁ : CipherStream δ μ ζ, ∃ f, Resumes f ∧ ∀ env s, start s = .ok () s₁ →
      resumeCall env s = f env s₁ ∧
        ∀ more, resumeCall env (s.receive more) = f env (s₁.receive more) := by
    intro s₁
    cases hlength : s₁.ready.length with
    | some length =>
      refine ⟨_, resumeBody_resumes s₁.mode length, fun env s h => ⟨?_, fun more => ?_⟩⟩
      · rw [resumeCall_of_start h, hlength]
      · rw [resumeCall_of_start (start_receive h more).1]
        have hsame : (s₁.receive more).ready.length = some length := hlength
        rw [hsame]
        rfl
    | none =>
      refine ⟨_, resumeHeader_resumes s₁.mode, fun env s h => ⟨?_, fun more => ?_⟩⟩
      · rw [resumeCall_of_start h, hlength]
      · rw [resumeCall_of_start (start_receive h more).1]
        have hsame : (s₁.receive more).ready.length = none := hlength
        rw [hsame]
        rfl
  have hstop : ∀ {s s₁ : CipherStream δ μ ζ} {e : Stop},
      start s = .error e s₁ → e ≠ .pending ∧ ∀ env more,
        resumeCall env (s.receive more) = (.error e (s₁.receive more), .call) := by
    intro s s₁ e h
    have htakes := fun more => start_takes s more (Nat.zero_le _)
    simp only [h] at htakes
    refine ⟨(htakes []).2, fun env more => ?_⟩
    unfold resumeCall
    rw [(htakes more).1]
  have hstop' : ∀ {env : ReadEnv} {s s₁ : CipherStream δ μ ζ} {e : Stop},
      start s = .error e s₁ → resumeCall env s = (.error e s₁, .call) := by
    intro env s s₁ e h
    unfold resumeCall
    rw [h]
  refine ⟨?_, ?_, ?_, ?_⟩
  · intro env s s' packet h fails more
    cases hfirst : start s with
    | ok _ s₁ =>
      obtain ⟨f, hf, hrun⟩ := hrest s₁
      rw [(hrun env s hfirst).1] at h
      rw [(hrun _ s hfirst).2]
      exact hf.ok h fails more
    | error e s₁ =>
      rw [hstop' hfirst] at h
      cases h
  · intro strict s s' e h he fails more
    cases hfirst : start s with
    | ok _ s₁ =>
      obtain ⟨f, hf, hrun⟩ := hrest s₁
      rw [(hrun _ s hfirst).1] at h
      rw [(hrun _ s hfirst).2]
      exact hf.failed h he fails more
    | error e₁ s₁ =>
      rw [hstop' hfirst] at h
      injection h with h₁ h₂
      subst h₁ h₂
      rw [(hstop hfirst).2]
  · intro env s s' await h fails more
    cases hfirst : start s with
    | ok _ s₁ =>
      obtain ⟨f, hf, hrun⟩ := hrest s₁
      rw [(hrun _ s hfirst).1] at h
      rw [(hrun _ s hfirst).2]
      exact hf.pending h fails more
    | error e₁ s₁ =>
      rw [hstop' hfirst] at h
      injection h with h _
      injection h with h _
      exact absurd h (hstop hfirst).1
  · intro env s s' packet h
    cases hfirst : start s with
    | ok _ s₁ =>
      obtain ⟨f, hf, hrun⟩ := hrest s₁
      rw [(hrun _ s hfirst).1] at h
      have := hf.shortens h
      rwa [(start_receive hfirst []).2] at this
    | error e₁ s₁ =>
      rw [hstop' hfirst] at h
      cases h

theorem Await.resumes (await : Await) :
    Resumes fun env => await.resume (δ := δ) (μ := μ) (ζ := ζ) env := by
  cases await with
  | call => exact resumeCall_resumes
  | header mode => exact resumeHeader_resumes mode
  | body mode length => exact resumeBody_resumes mode length

/-! ## Dropping a future -/

omit [PacketDecode ζ] in
/-- The branch depends on the constants only. -/
theorem mode_eq_of_flags {s t : CipherStream δ μ ζ} (h : s.flags = t.flags) : s.mode = t.mode := by
  have hgalois : PacketDecrypt.isGaloisCounterMode s.decrypt =
      PacketDecrypt.isGaloisCounterMode t.decrypt := congrArg (·.decrypt.1) h
  have hetm : PacketMac.encryptThenMac s.verify = PacketMac.encryptThenMac t.verify :=
    congrArg (·.verify.1) h
  unfold mode
  rw [hgalois, hetm]

/-- What a stream that a future waits for must hold for a new call to come to the same place. -/
def Await.Agrees (s : CipherStream δ μ ζ) : Await → Prop
  | .call => True
  | .header mode => s.state.isSome ∧ s.mode = mode ∧ s.ready.length = none
  | .body mode length => s.state.isSome ∧ s.mode = mode ∧
      (s.ready.length = some length ∨
        s.ready.length = none ∧ ∀ env, mode.readLength env s = .ok length s)

/-- A new call comes to where the future waits. -/
theorem Await.Agrees.resumeCall {s : CipherStream δ μ ζ} {await : Await} (h : await.Agrees s)
    (env : ReadEnv) : CipherStream.resumeCall env s = await.resume env s := by
  have hstart : s.state.isSome → start s = .ok () s := by
    intro hstate
    obtain ⟨r, hr⟩ := Option.isSome_iff_exists.mp hstate
    unfold start
    rw [hr]
  cases await with
  | call => rfl
  | header mode =>
    obtain ⟨hstate, rfl, hlength⟩ := h
    rw [resumeCall_of_start (hstart hstate), hlength]
    rfl
  | body mode length =>
    obtain ⟨hstate, rfl, hlength⟩ := h
    rw [resumeCall_of_start (hstart hstate)]
    rcases hlength with hlength | ⟨hnone, hlength⟩
    · rw [hlength]
      rfl
    · rw [hnone]
      dsimp only
      unfold resumeHeader
      rw [hlength env]
      rfl

omit [PacketDecode ζ] in
theorem Await.Agrees.receive {s : CipherStream δ μ ζ} {await : Await} (h : await.Agrees s)
    (more : Bytes) : await.Agrees (s.receive more) := by
  cases await with
  | call => trivial
  | header mode => exact h
  | body mode length =>
    obtain ⟨hstate, hmode, hlength⟩ := h
    refine ⟨hstate, hmode, hlength.imp (fun h => h) fun ⟨hnone, hlength⟩ => ⟨hnone, fun env => ?_⟩⟩
    exact mode.readLength_waits.ok (hlength env) env.readFails more

omit [PacketDecrypt δ] [PacketDecode ζ] in
/-- Encrypt-then-MAC mode does not store the length, but it also changes nothing to find it. -/
theorem readEtmLength_unchanged {env : ReadEnv} {s s' : CipherStream δ μ ζ} {length : UInt32}
    (h : readEtmLength env s = .ok length s') : s' = s := by
  have hspec : Triple.Holds (· = s) (readEtmLength env) (fun _ t => t = s) fun _ _ => True := by
    unfold readEtmLength
    refine ((fill_spec fun t ht => by rw [ht]).error fun _ _ _ => trivial).bind fun octets =>
      Triple.Holds.of_and fun hoctets => ?_
    refine (toHeader_spec (by rw [hoctets.1, List.length_take]; omega)).bind fun header =>
      Triple.Holds.of_and fun _ => ?_
    refine Triple.Holds.get.bind fun stream => Triple.Holds.of_and fun _ => ?_
    refine (ensure_spec.error fun _ _ _ => trivial).bind fun _ => Triple.Holds.of_and fun _ => ?_
    exact Triple.Holds.pure fun t ht => ht
  exact hspec.of_ok rfl h

omit [PacketDecode ζ] in
/-- Once a mode knows the length, a new call knows it too. -/
theorem agrees_of_readLength [LawfulDecrypt δ] {env : ReadEnv} {s s' : CipherStream δ μ ζ}
    {mode : Mode} {length : UInt32} (hs : (Await.header mode).Agrees s)
    (h : mode.readLength env s = .ok length s') : (Await.body mode length).Agrees s' := by
  obtain ⟨hstate, hmode, hnone⟩ := hs
  obtain ⟨r, hr⟩ := Option.isSome_iff_exists.mp hstate
  have hat : At s.flags s.buffer (some r) s := ⟨rfl, rfl, hr⟩
  have hstored : (∃ r', r'.length = some length ∧ At s.flags s.buffer (some r') s') →
      (Await.body mode length).Agrees s' := by
    rintro ⟨r', hlength, hat'⟩
    refine ⟨by rw [hat'.state]; rfl, by rw [mode_eq_of_flags hat'.flags, hmode], .inl ?_⟩
    rw [hat'.ready, hlength]
  cases mode with
  | galoisCounter => exact hstored (readGcmLength_spec.of_ok hat h)
  | encryptThenMac =>
    have hsame := readEtmLength_unchanged h
    subst hsame
    refine ⟨hstate, hmode, .inr ⟨hnone, fun env' => ?_⟩⟩
    have hagain := Mode.encryptThenMac.readLength_waits.ok h env'.readFails []
    rw [receive_nil] at hagain
    exact hagain
  | macThenEncrypt =>
    by_cases hdecrypted : r.decrypted = []
    · rw [hat.ready] at hnone
      obtain ⟨-, r', ⟨hlength, -⟩, hat'⟩ :=
        (readFirstBlock_spec hnone hdecrypted hat).of_ok rfl h
      exact hstored ⟨r', hlength, hat'⟩
    · exact ((readFirstBlock_fails hdecrypted).of_ok hat h).elim

omit [PacketMac μ] [PacketDecode ζ] in
/-- After the start there is a stored state. -/
theorem start_stores :
    Triple.Holds (fun _ => True) (start : Read δ μ ζ Unit) (fun _ s => s.state.isSome)
      fun _ _ => True := by
  intro s _
  unfold start
  cases hstate : s.state with
  | some r => simp [hstate]
  | none =>
    simp only [bind, EStateM.bind, decrypting]
    rcases PacketDecrypt.updateSequenceNumber s.server.sequenceNumber s.decrypt with ⟨result, d⟩
    cases result with
    | ok _ => rfl
    | error e => trivial

/-- A future that waits waits where a new call comes to. -/
theorem agrees_of_pending [LawfulDecrypt δ] {env : ReadEnv} {s s' : CipherStream δ μ ζ}
    {await await' : Await} (hs : await.Agrees s)
    (h : await.resume env s = (.error .pending s', await')) : await'.Agrees s' := by
  -- in front of the rest of a packet
  have hbody : ∀ {mode length} {s : CipherStream δ μ ζ}, (Await.body mode length).Agrees s →
      resumeBody env mode length s = (.error .pending s', await') → await'.Agrees s' := by
    intro mode length s hs h
    have hsame := (resumeBody_resumes mode length).pending h
    injection h with hanswer hawait
    have hwaits : Waits 4 fun env =>
        (mode.readRest env length >>= finish env : Read δ μ ζ Packet) :=
      (mode.readRest_waits length).bind_takes finish_takes fun _ _ _ => rfl
    rw [hwaits.pending hanswer, ← hawait]
    exact hs
  -- in front of the length field
  have hheader : ∀ {mode} {s : CipherStream δ μ ζ}, (Await.header mode).Agrees s →
      resumeHeader env mode s = (.error .pending s', await') → await'.Agrees s' := by
    intro mode s hs h
    unfold resumeHeader at h
    cases hfirst : mode.readLength env s with
    | ok length s₁ =>
      rw [hfirst] at h
      exact hbody (agrees_of_readLength hs hfirst) h
    | error e s₁ =>
      rw [hfirst] at h
      injection h with hanswer hawait
      injection hanswer with he hs'
      subst he hs'
      rw [mode.readLength_waits.pending hfirst, ← hawait]
      exact hs
  cases await with
  | header mode => exact hheader hs h
  | body mode length => exact hbody hs h
  | call =>
    cases hfirst : start s with
    | ok _ s₁ =>
      have hstate : s₁.state.isSome := by
        have hspec := start_stores (μ := μ) (ζ := ζ) (δ := δ)
        exact hspec.of_ok trivial hfirst
      rw [Await.resume, resumeCall_of_start hfirst] at h
      cases hlength : s₁.ready.length with
      | some length =>
        rw [hlength] at h
        exact hbody ⟨hstate, rfl, .inl hlength⟩ h
      | none =>
        rw [hlength] at h
        exact hheader ⟨hstate, rfl, hlength⟩ h
    | error e s₁ =>
      have htakes := start_takes s [] (Nat.zero_le _)
      rw [hfirst] at htakes
      have hcall : CipherStream.resumeCall env s = (.error e s₁, .call) := by
        unfold CipherStream.resumeCall
        rw [hfirst]
      rw [Await.resume, hcall] at h
      injection h with h _
      injection h with h _
      exact absurd h htakes.2

/-! ## The receiver as a reader -/

namespace Receiver

variable {strictFeature : Bool} {reaction : Reaction δ μ ζ} {receiver : Receiver δ μ ζ}

/-- What a poll makes of the answer of the future. -/
theorem poll_eq (strictFeature : Bool) (reaction : Reaction δ μ ζ) (receiver : Receiver δ μ ζ) :
    receiver.poll strictFeature reaction =
      match receiver.await.resume ⟨receiver.closed, strictFeature⟩ receiver.stream with
      | (.ok packet stream, _) =>
        (.item packet, ⟨reaction.react packet stream, .call, receiver.closed⟩)
      | (.error .pending stream, await) => (.pending, ⟨stream, await, receiver.closed⟩)
      | (.error e stream, _) => (.failed e, ⟨stream, .call, receiver.closed⟩) :=
  rfl

theorem poll_eq_pending {receiver' : Receiver δ μ ζ}
    (h : receiver.poll strictFeature reaction = (.pending, receiver')) :
    ∃ stream await, receiver' = ⟨stream, await, receiver.closed⟩ ∧
      receiver.await.resume ⟨receiver.closed, strictFeature⟩ receiver.stream =
        (.error .pending stream, await) := by
  rw [poll_eq] at h
  split at h
  · cases h
  · next stream await hres =>
      injection h with _ h
      exact ⟨stream, await, h.symm, hres⟩
  · cases h

theorem poll_eq_item {receiver' : Receiver δ μ ζ} {packet : Packet}
    (h : receiver.poll strictFeature reaction = (.item packet, receiver')) :
    ∃ stream, receiver' = ⟨reaction.react packet stream, .call, receiver.closed⟩ ∧
      (receiver.await.resume ⟨receiver.closed, strictFeature⟩ receiver.stream).1 =
        .ok packet stream := by
  rw [poll_eq] at h
  split at h
  · next packet' stream await hres =>
      injection h with hpacket h
      injection hpacket with hpacket
      subst hpacket
      exact ⟨stream, h.symm, by rw [hres]⟩
  · cases h
  · cases h

theorem poll_eq_failed {receiver' : Receiver δ μ ζ} {e : Stop}
    (h : receiver.poll strictFeature reaction = (.failed e, receiver')) :
    ∃ stream, receiver' = ⟨stream, .call, receiver.closed⟩ ∧ e ≠ .pending ∧
      (receiver.await.resume ⟨receiver.closed, strictFeature⟩ receiver.stream).1 =
        .error e stream := by
  rw [poll_eq] at h
  split at h
  · cases h
  · cases h
  · next e' stream await hne hres =>
      injection h with he h
      injection he with he
      subst he
      exact ⟨stream, h.symm, hne, by rw [hres]⟩

theorem poll_of_ok {packet : Packet} {stream : CipherStream δ μ ζ}
    (h : (receiver.await.resume ⟨receiver.closed, strictFeature⟩ receiver.stream).1 =
      .ok packet stream) :
    receiver.poll strictFeature reaction =
      (.item packet, ⟨reaction.react packet stream, .call, receiver.closed⟩) := by
  rw [poll_eq]
  rcases hres : receiver.await.resume ⟨receiver.closed, strictFeature⟩ receiver.stream with
    ⟨answer, await⟩
  rw [hres] at h
  dsimp only at h
  rw [h]

theorem poll_of_failed {e : Stop} {stream : CipherStream δ μ ζ}
    (h : (receiver.await.resume ⟨receiver.closed, strictFeature⟩ receiver.stream).1 =
      .error e stream) (he : e ≠ .pending) :
    receiver.poll strictFeature reaction = (.failed e, ⟨stream, .call, receiver.closed⟩) := by
  rw [poll_eq]
  rcases hres : receiver.await.resume ⟨receiver.closed, strictFeature⟩ receiver.stream with
    ⟨answer, await⟩
  rw [hres] at h
  dsimp only at h
  rw [h]
  cases e with
  | pending => exact absurd rfl he
  | failed e => rfl
  | panicked => rfl
  | stuck => rfl

end Receiver

variable (strictFeature : Bool) (reaction : Reaction δ μ ζ)

/-- Nothing arrives at a closed socket. -/
theorem feeds_of_closed (is : List Delivery) {receiver : Receiver δ μ ζ}
    (h : receiver.closed = true) : (reader strictFeature reaction).feeds is receiver = receiver := by
  induction is with
  | nil => rfl
  | cons i is ih =>
    have hdeliver : receiver.deliver i = receiver := by
      cases i with
      | octets more => exact if_pos h
      | closed =>
        unfold Receiver.deliver
        rw [← h]
    change (reader strictFeature reaction).feeds is (receiver.deliver i) = receiver
    rw [hdeliver, ih]

/-- What arrives is appended to the buffer, until the socket is closed. -/
theorem feeds_of_open (is : List Delivery) (stream : CipherStream δ μ ζ) (await : Await) :
    (reader strictFeature reaction).feeds is ⟨stream, await, false⟩ =
      ⟨stream.receive (arrived is), await, closes is⟩ := by
  induction is generalizing stream with
  | nil => rw [arrived, receive_nil]; rfl
  | cons i is ih =>
    cases i with
    | octets more =>
      rw [arrived, closes, ← receive_receive, ← ih]
      rfl
    | closed =>
      rw [arrived, closes, receive_nil]
      exact feeds_of_closed strictFeature reaction is rfl

/-- The receiver is resumable: polls may come at any time, and may be abandoned. -/
theorem reader_resumable [LawfulDecrypt δ] :
    (reader strictFeature reaction).Resumable
      (fun receiver : Receiver δ μ ζ => receiver.await.Agrees receiver.stream) Receiver.size where
  feed_inv {receiver} i h := by
    cases i with
    | octets more =>
      have hdeliver : receiver.deliver (.octets more) =
          if receiver.closed then receiver
          else { receiver with stream := receiver.stream.receive more } := rfl
      change (receiver.deliver (.octets more)).await.Agrees
        (receiver.deliver (.octets more)).stream
      rw [hdeliver]
      by_cases hclosed : receiver.closed = true
      · rw [if_pos hclosed]
        exact h
      · rw [if_neg hclosed]
        exact h.receive more
    | closed => exact h
  poll_inv {receiver} h := by
    change (receiver.poll strictFeature reaction).2.await.Agrees
      (receiver.poll strictFeature reaction).2.stream
    rcases hpoll : receiver.poll strictFeature reaction with ⟨answer, receiver'⟩
    cases answer with
    | pending =>
      obtain ⟨stream, await, rfl, hres⟩ := Receiver.poll_eq_pending hpoll
      exact agrees_of_pending h hres
    | item packet =>
      obtain ⟨stream, rfl, -⟩ := Receiver.poll_eq_item hpoll
      trivial
    | failed e =>
      obtain ⟨stream, rfl, -⟩ := Receiver.poll_eq_failed hpoll
      trivial
  abandon_inv _ := trivial
  poll_pending {receiver receiver'} is h hpoll := by
    obtain ⟨stream, await, rfl, hres⟩ := Receiver.poll_eq_pending hpoll
    -- a future that waits does the same when octets have arrived behind those it has seen
    have hresume := receiver.await.resumes.pending hres
    obtain ⟨stream₀, await₀, closed⟩ := receiver
    dsimp only at hresume
    change Receiver.poll strictFeature reaction _ = Receiver.poll strictFeature reaction _
    cases closed with
    | true =>
      rw [feeds_of_closed _ _ _ rfl, feeds_of_closed _ _ _ rfl, Receiver.poll_eq,
        Receiver.poll_eq]
      have hsame := hresume true []
      rw [receive_nil, receive_nil] at hsame
      rw [hsame]
    | false =>
      rw [feeds_of_open, feeds_of_open, Receiver.poll_eq, Receiver.poll_eq]
      dsimp only
      rw [hresume]
  poll_item {receiver receiver' packet} is h hpoll := by
    obtain ⟨stream, rfl, hres⟩ := Receiver.poll_eq_item hpoll
    obtain ⟨stream₀, await₀, closed⟩ := receiver
    cases closed with
    | true =>
      rw [feeds_of_closed _ _ _ rfl, feeds_of_closed _ _ _ rfl]
      exact hpoll
    | false =>
      rw [feeds_of_open, feeds_of_open]
      -- the reaction does not look at the buffer
      have hreact : reaction.react packet (stream.receive (arrived is)) =
          (reaction.react packet stream).receive (arrived is) := by
        have hbuffer := congrArg (·.buffer) (reaction.buffer_free packet stream stream.buffer)
        have hsame : (reaction.react packet stream).buffer = stream.buffer := hbuffer
        unfold receive
        rw [reaction.buffer_free, hsame]
      rw [← hreact]
      exact Receiver.poll_of_ok (await₀.resumes.ok hres (closes is) (arrived is))
  poll_failed {receiver receiver' e} is h hpoll := by
    obtain ⟨stream, rfl, hne, hres⟩ := Receiver.poll_eq_failed hpoll
    obtain ⟨stream₀, await₀, closed⟩ := receiver
    cases closed with
    | true =>
      rw [feeds_of_closed _ _ _ rfl, feeds_of_closed _ _ _ rfl]
      exact hpoll
    | false =>
      rw [feeds_of_open, feeds_of_open]
      exact Receiver.poll_of_failed (await₀.resumes.failed hres hne (closes is) (arrived is)) hne
  poll_abandon {receiver} is h := by
    obtain ⟨stream, await, closed⟩ := receiver
    change Receiver.poll strictFeature reaction
        ((reader strictFeature reaction).feeds is ⟨stream, .call, closed⟩) =
      Receiver.poll strictFeature reaction
        ((reader strictFeature reaction).feeds is ⟨stream, await, closed⟩)
    cases closed with
    | true =>
      rw [feeds_of_closed _ _ _ rfl, feeds_of_closed _ _ _ rfl, Receiver.poll_eq,
        Receiver.poll_eq]
      dsimp only
      -- a new call goes on in front of the octets that the abandoned one has left
      rw [← h.resumeCall]
      rfl
    | false =>
      rw [feeds_of_open, feeds_of_open, Receiver.poll_eq, Receiver.poll_eq]
      dsimp only
      rw [← (h.receive (arrived is)).resumeCall]
      rfl
  size_lt {receiver receiver' packet} h hpoll := by
    obtain ⟨stream, rfl, hres⟩ := Receiver.poll_eq_item hpoll
    have hshort := receiver.await.resumes.shortens hres
    have hbuffer := congrArg (·.buffer) (reaction.buffer_free packet stream stream.buffer)
    have hsame : (reaction.react packet stream).buffer = stream.buffer := hbuffer
    change (reaction.react packet stream).buffer.length < receiver.stream.buffer.length
    rwa [hsame]

/-! ## Uninterrupted reading -/

/-- The packets, and the error or the stream that is left. -/
def Receiver.outcome (p : Polling.Reading (Receiver δ μ ζ) Packet Stop) :
    List Packet × (Stop ⊕ CipherStream δ μ ζ) :=
  (p.outcome.1, p.outcome.2.map id Receiver.stream)

/-- Where no future is dropped and nothing more arrives, polling is calling `read_packet`. -/
theorem outcome_iterate [LawfulDecrypt δ] (n : ℕ) (closed : Bool) (stream : CipherStream δ μ ζ)
    (packets : List Packet) :
    Receiver.outcome ((reader strictFeature reaction).pollOnce^[n]
        ⟨⟨stream, .call, closed⟩, packets, none⟩) =
      (packets ++ (readAll ⟨closed, strictFeature⟩ reaction n stream).1,
        (readAll ⟨closed, strictFeature⟩ reaction n stream).2) := by
  induction n generalizing stream packets with
  | zero => simp [Receiver.outcome, Polling.Reading.outcome, readAll]
  | succ n ih =>
    let receiver : Receiver δ μ ζ := ⟨stream, .call, closed⟩
    rw [Function.iterate_succ_apply, readAll]
    have hcall := resumeCall_eq ⟨closed, strictFeature⟩ stream
    cases hread : readPacket ⟨closed, strictFeature⟩ stream with
    | ok packet stream' =>
      have hpoll : receiver.poll strictFeature reaction =
          (.item packet, ⟨reaction.react packet stream', .call, closed⟩) :=
        Receiver.poll_of_ok (hcall.trans hread)
      have hnext : (reader strictFeature reaction).pollOnce ⟨receiver, packets, none⟩ =
          ⟨⟨reaction.react packet stream', .call, closed⟩, packets ++ [packet], none⟩ := by
        change Polling.Reading.record _ (receiver.poll strictFeature reaction) = _
        rw [hpoll]
        rfl
      rw [hnext, ih]
      simp
    | error e stream' =>
      rw [hread] at hcall
      by_cases he : e = .pending
      · subst he
        have hres : resumeCall ⟨closed, strictFeature⟩ stream =
            (.error .pending stream', (resumeCall ⟨closed, strictFeature⟩ stream).2) :=
          Prod.ext hcall rfl
        have hpoll : receiver.poll strictFeature reaction =
            (.pending, ⟨stream', (resumeCall ⟨closed, strictFeature⟩ stream).2, closed⟩) := by
          rw [Receiver.poll_eq]
          change (match resumeCall ⟨closed, strictFeature⟩ stream with
            | (.ok packet stream, _) => _
            | (.error .pending stream, await) => _
            | (.error e stream, _) => _) = _
          rw [hres]
        -- once the last call has to wait, nothing more is read
        have hsettled := Polling.Reader.Resumable.settled_of_pending
          (reader_resumable strictFeature reaction)
          (p := ⟨receiver, packets, none⟩) trivial rfl hpoll
        have hnext : (reader strictFeature reaction).pollOnce ⟨receiver, packets, none⟩ =
            ⟨⟨stream', (resumeCall ⟨closed, strictFeature⟩ stream).2, closed⟩, packets, none⟩ := by
          change Polling.Reading.record _ (receiver.poll strictFeature reaction) = _
          rw [hpoll]
          rfl
        rw [hnext]
        unfold Receiver.outcome
        rw [hsettled.outcome n]
        simp [Polling.Reading.outcome]
      · have hpoll : receiver.poll strictFeature reaction =
            (.failed e, ⟨stream', .call, closed⟩) := Receiver.poll_of_failed hcall he
        have hnext : (reader strictFeature reaction).pollOnce ⟨receiver, packets, none⟩ =
            ⟨⟨stream', .call, closed⟩, packets, some e⟩ := by
          change Polling.Reading.record _ (receiver.poll strictFeature reaction) = _
          rw [hpoll]
          rfl
        have hsettled := Polling.Reader.Resumable.settled_of_failure
          (r := reader strictFeature reaction)
          (p := ⟨⟨stream', .call, closed⟩, packets, some e⟩) rfl
        rw [hnext]
        unfold Receiver.outcome
        rw [hsettled.outcome n]
        cases e with
        | pending => exact absurd rfl he
        | failed e => simp [Polling.Reading.outcome]
        | panicked => simp [Polling.Reading.outcome]
        | stuck => simp [Polling.Reading.outcome]

/-- Every packet takes octets from the buffer, so as many calls as there are octets read them all. -/
theorem readAll_of_length_lt [LawfulDecrypt δ] (env : ReadEnv) {stream : CipherStream δ μ ζ} {n : ℕ}
    (hn : stream.buffer.length < n) :
    readAll env reaction n stream = readAll env reaction (stream.buffer.length + 1) stream := by
  have henough := (reader_resumable env.strictFeature reaction).drain_outcome
    (p := .start ⟨stream, .call, env.readFails⟩) trivial hn
  have hlong := outcome_iterate env.strictFeature reaction n env.readFails stream []
  have hshort := outcome_iterate env.strictFeature reaction (stream.buffer.length + 1)
    env.readFails stream []
  unfold Receiver.outcome at hlong hshort
  rw [← Polling.Reading.start, ← henough] at hlong
  simp only [List.nil_append] at hlong hshort
  exact hlong.symm.trans hshort

/-- However the octets of a stream arrive, whenever `read_packet` is polled, and whenever its future
is dropped and it is called again: once everything that arrived is read, the packets, the first
error and the stream that is left are those of calling `read_packet` on the whole stream, without an
interruption. -/
theorem cancelSafe [LawfulDecrypt δ] (stream : CipherStream δ μ ζ)
    (actions : List (Polling.Action Delivery)) :
    Receiver.outcome ((reader strictFeature reaction).drain Receiver.size
        ((reader strictFeature reaction).run actions (.start (.ofStream stream)))) =
      let deliveries := Polling.Action.inputs actions
      let whole := stream.receive (arrived deliveries)
      readAll ⟨closes deliveries, strictFeature⟩ reaction (whole.buffer.length + 1) whole := by
  have hinit : (Receiver.ofStream stream).await.Agrees (Receiver.ofStream stream).stream := trivial
  unfold Receiver.outcome
  rw [(reader_resumable strictFeature reaction).drain_run hinit actions, Receiver.ofStream,
    feeds_of_open]
  exact outcome_iterate strictFeature reaction _ _ _ []

/-- A packet that arrives in three pieces, with a future dropped after the second. -/
theorem cancelSafe_in_pieces :
    (Receiver.outcome ((reader true .keep).drain Receiver.size ((reader true .keep).run
        [.feed (.octets [0, 0, 0, 6, 4]), .poll, .feed (.octets [94, 0]), .poll, .abandon, .poll,
          .feed (.octets [0, 0, 0])]
        (.start (.ofStream (transparent true true [])))))).1 =
      [{ payload := [94], padding := [0, 0, 0, 0] }] := by
  rw [cancelSafe]
  rfl

end CipherStream

end Flatline
