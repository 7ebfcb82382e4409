import Flatline.Transport.StreamSpecs
import Flatline.Transport.Suspension

/-!
# Where a poll waits

Each of the three modes waits in two places, in front of the length field and in front of the rest
of a packet. What it does after a `fill` looks only at the octets that `fill` has returned, so it
stays the same when more of them have arrived.
-/

namespace Flatline

namespace CipherStream

variable {δ μ ζ : Type} {α β : Type}

/-! ## Programs that do not wait -/

@[simp] theorem receive_nil (stream : CipherStream δ μ ζ) : stream.receive [] = stream := by
  simp [receive]

theorem receive_receive (stream : CipherStream δ μ ζ) (a b : Bytes) :
    (stream.receive a).receive b = stream.receive (a ++ b) := by
  simp [receive]

/-- `m` takes `k` octets from the front of the buffer, does not wait, and does the same when more
octets have arrived. -/
def Takes (k : ℕ) (m : Read δ μ ζ α) : Prop :=
  ∀ s more, k ≤ s.buffer.length → match m s with
    | .ok a s' => m (s.receive more) = .ok a (s'.receive more) ∧ s'.buffer = s.buffer.drop k
    | .error e s' => m (s.receive more) = .error e (s'.receive more) ∧ e ≠ .pending

variable {m : Read δ μ ζ α} {f : α → Read δ μ ζ β} {k : ℕ}

theorem Takes.bind (hm : Takes 0 m) (hf : ∀ a, Takes k (f a)) : Takes k (m >>= f) := by
  intro s more hk
  have h := hm s more (Nat.zero_le _)
  simp only [Bind.bind, EStateM.bind]
  cases hrun : m s with
  | error e s' =>
    rw [hrun] at h
    dsimp only at h ⊢
    rw [h.1]
    exact ⟨rfl, h.2⟩
  | ok a s' =>
    rw [hrun] at h
    dsimp only at h ⊢
    rw [h.1]
    dsimp only
    rw [List.drop_zero] at h
    rw [← h.2] at hk ⊢
    exact hf a s' more hk

theorem Takes.bind_last (hm : Takes k m) (hf : ∀ a, Takes 0 (f a)) : Takes k (m >>= f) := by
  intro s more hk
  have h := hm s more hk
  simp only [Bind.bind, EStateM.bind]
  cases hrun : m s with
  | error e s' =>
    rw [hrun] at h
    dsimp only at h ⊢
    rw [h.1]
    exact ⟨rfl, h.2⟩
  | ok a s' =>
    rw [hrun] at h
    dsimp only at h ⊢
    rw [h.1]
    dsimp only
    have hrest := hf a s' more (Nat.zero_le _)
    rw [List.drop_zero] at hrest
    rw [← h.2]
    exact hrest

theorem Takes.pure (a : α) : Takes 0 (Pure.pure a : Read δ μ ζ α) :=
  fun _ _ _ => ⟨rfl, rfl⟩

theorem Takes.throw {e : Stop} (he : e ≠ .pending) :
    Takes 0 (MonadExcept.throw e : Read δ μ ζ α) :=
  fun _ _ _ => ⟨rfl, he⟩

/-- What reads the stream without its buffer may go on with it. -/
theorem Takes.get_bind {g : CipherStream δ μ ζ → Read δ μ ζ β}
    (hbuffer : ∀ s more, g (receive more s) = g s) (hg : ∀ s, Takes k (g s)) :
    Takes k (get >>= g) := by
  intro s more hk
  change match g s s with
    | .ok a s' => g (s.receive more) (s.receive more) = .ok a (s'.receive more) ∧
        s'.buffer = s.buffer.drop k
    | .error e s' => g (s.receive more) (s.receive more) = .error e (s'.receive more) ∧ e ≠ .pending
  rw [hbuffer]
  exact hg s s more hk

theorem Takes.forM {γ : Type} {g : γ → Read δ μ ζ PUnit} (hg : ∀ c, Takes 0 (g c)) (l : List γ) :
    Takes 0 (l.forM g) := by
  induction l with
  | nil => exact .pure _
  | cons c l ih => exact (hg c).bind fun _ => ih

/-! ### The operations of the stream -/

theorem assert_takes (p : Prop) [Decidable p] : Takes 0 (assert p : Read δ μ ζ Unit) := by
  unfold assert
  split
  · exact .pure _
  · exact .throw (by simp)

theorem slice_takes (data : Bytes) (start stop : ℕ) :
    Takes 0 (slice data start stop : Read δ μ ζ Bytes) := by
  unfold slice
  split
  · exact .pure _
  · exact .throw (by simp)

theorem sub_takes (a b : ℕ) : Takes 0 (sub a b : Read δ μ ζ ℕ) := by
  unfold sub
  split
  · exact .pure _
  · exact .throw (by simp)

theorem toHeader_takes (data : Bytes) : Takes 0 (toHeader data : Read δ μ ζ Header) := by
  unfold toHeader
  split
  · exact .pure _
  · exact .throw (by simp)

theorem ensure_takes (p : Prop) [Decidable p] (e : Error) :
    Takes 0 (ensure p e : Read δ μ ζ Unit) := by
  unfold ensure
  split
  · exact .pure _
  · exact .throw (by simp)

theorem consuming_takes (m : Consumer α) (data : Bytes) :
    Takes 0 (consuming m data : Read δ μ ζ (α × Bytes)) := by
  unfold consuming
  split
  · exact .pure _
  · exact .throw (by simp)

theorem decrypting_takes (f : δ → Except Error α × δ) :
    Takes 0 (decrypting f : Read δ μ ζ α) := by
  intro s more _
  have hsame : (s.receive more).decrypt = s.decrypt := rfl
  unfold decrypting
  rw [hsame]
  rcases f s.decrypt with ⟨result, d⟩
  cases result with
  | ok a => exact ⟨rfl, rfl⟩
  | error e => exact ⟨rfl, by simp⟩

theorem decryptingStored_takes (f : δ → (Except Error Unit × Bytes) × δ) :
    Takes 0 (decryptingStored f : Read δ μ ζ Unit) := by
  intro s more _
  have hsame : (s.receive more).decrypt = s.decrypt := rfl
  unfold decryptingStored
  rw [hsame]
  rcases f s.decrypt with ⟨⟨result, output⟩, d⟩
  cases result with
  | ok a => exact ⟨rfl, rfl⟩
  | error e => exact ⟨rfl, by simp⟩

theorem verifying_takes (f : μ → Except Error α × μ) :
    Takes 0 (verifying f : Read δ μ ζ α) := by
  intro s more _
  have hsame : (s.receive more).verify = s.verify := rfl
  unfold verifying
  rw [hsame]
  rcases f s.verify with ⟨result, v⟩
  cases result with
  | ok a => exact ⟨rfl, rfl⟩
  | error e => exact ⟨rfl, by simp⟩

theorem decoding_takes (f : ζ → Except Error α × ζ) :
    Takes 0 (decoding f : Read δ μ ζ α) := by
  intro s more _
  have hsame : (s.receive more).decode = s.decode := rfl
  unfold decoding
  rw [hsame]
  rcases f s.decode with ⟨result, z⟩
  cases result with
  | ok a => exact ⟨rfl, rfl⟩
  | error e => exact ⟨rfl, by simp⟩

theorem feeding_takes (f : ζ → Option (Except Error Unit × ζ)) :
    Takes 0 (feeding f : Read δ μ ζ Unit) := by
  intro s more h
  have hsame : (s.receive more).decode = s.decode := rfl
  unfold feeding
  rw [hsame]
  cases f s.decode with
  | some result => exact decoding_takes (fun _ => result) s more h
  | none => exact ⟨rfl, by simp⟩

/-- A change of the stream that neither reads nor changes the buffer. -/
theorem modify_takes {g : CipherStream δ μ ζ → CipherStream δ μ ζ}
    (hreceive : ∀ s more, g (receive more s) = (g s).receive more)
    (hbuffer : ∀ s, (g s).buffer = s.buffer) :
    Takes 0 (modify g : Read δ μ ζ PUnit) := by
  intro s more _
  change (EStateM.Result.ok PUnit.unit (g (s.receive more)) : EStateM.Result Stop _ PUnit) =
    .ok PUnit.unit ((g s).receive more) ∧ (g s).buffer = s.buffer.drop 0
  rw [hreceive]
  exact ⟨rfl, hbuffer s⟩

theorem modifyReady_takes (f : Ready → Ready) : Takes 0 (modifyReady f : Read δ μ ζ Unit) :=
  modify_takes (fun _ _ => rfl) fun _ => rfl

theorem consumeReadBuffer_takes (k : ℕ) : Takes k (consumeReadBuffer k : Read δ μ ζ Unit) := by
  intro s more hk
  have hmore : k ≤ (s.receive more).buffer.length := by
    simp only [receive, List.length_append]
    omega
  unfold consumeReadBuffer
  rw [if_pos hk, if_pos hmore]
  refine ⟨?_, rfl⟩
  simp only [receive]
  rw [List.drop_append_of_le_length hk]

theorem start_takes [PacketDecrypt δ] : Takes 0 (start : Read δ μ ζ Unit) := by
  intro s more hk
  have hstate : (s.receive more).state = s.state := rfl
  unfold start
  rw [hstate]
  cases s.state with
  | some r => exact ⟨rfl, rfl⟩
  | none =>
    exact ((decrypting_takes _).bind fun _ => modifyReady_takes _) s more hk

theorem start_receive [PacketDecrypt δ] {s s₁ : CipherStream δ μ ζ} (h : start s = .ok () s₁) (more : Bytes) :
    start (s.receive more) = .ok () (s₁.receive more) ∧ s₁.buffer = s.buffer := by
  have htakes := start_takes s more (Nat.zero_le _)
  rw [h] at htakes
  exact htakes

theorem finish_takes (env : ReadEnv) (packet : Packet) :
    Takes 0 (finish env packet : Read δ μ ζ Packet) := by
  unfold finish
  refine Takes.bind (modify_takes (by exact fun _ _ => rfl) (by exact fun _ => rfl)) fun _ => ?_
  split
  · exact .throw (by simp)
  · next code _ _ =>
      refine (ensure_takes _ _).bind fun _ => (modify_takes ?_ ?_).bind fun _ => .pure _
      · intro s more
        unfold resetSequenceNumber
        by_cases hreset : code = sshMsgNewkeys ∧ s.client.kexStrict ∧ s.server.kexStrict
        · rw [if_pos hreset, if_pos (by exact hreset)]
          rfl
        · rw [if_neg hreset, if_neg (by exact hreset)]
      · intro s
        unfold resetSequenceNumber
        split <;> rfl

theorem decryptAll_takes [PacketDecrypt δ] (data : Bytes) :
    Takes 0 (decryptAll data : Read δ μ ζ Unit) :=
  (decryptingStored_takes _).bind fun _ => decryptingStored_takes _

theorem verifyTag_takes [PacketMac μ] (parts : List Bytes) (tag : Bytes) :
    Takes 0 (verifyTag parts tag : Read δ μ ζ Unit) := by
  unfold verifyTag
  refine Takes.get_bind (fun _ _ => rfl) fun s => (verifying_takes _).bind fun _ => ?_
  refine (Takes.forM (fun _ => verifying_takes _) parts).bind fun _ => ?_
  exact (verifying_takes _).bind fun _ => ensure_takes _ _

theorem openPacket_takes [PacketDecode ζ] (length : UInt32) (data : Bytes) :
    Takes 0 (openPacket length data : Read δ μ ζ Packet) := by
  have hdecompress : ∀ content, Takes 0 (decompress content : Read δ μ ζ Bytes) := by
    intro content
    unfold decompress
    refine Takes.get_bind (fun _ _ => rfl) fun s => ?_
    split
    · exact (feeding_takes _).bind fun _ => decoding_takes _
    · exact .pure _
  unfold openPacket
  refine (consuming_takes _ _).bind fun _ => (ensure_takes _ _).bind fun _ => ?_
  refine (sub_takes _ _).bind fun _ => (sub_takes _ _).bind fun _ => ?_
  exact (consuming_takes _ _).bind fun _ => (hdecompress _).bind fun _ => .pure _

/-- The end of all three modes. -/
theorem openAndConsume_takes [PacketDecode ζ] (length : UInt32) (data : Bytes) (k : ℕ) :
    Takes k (do
      let packet ← openPacket length data
      consumeReadBuffer k
      return packet : Read δ μ ζ Packet) :=
  (openPacket_takes _ _).bind fun _ => (consumeReadBuffer_takes k).bind_last fun _ => .pure _

/-! ## Programs that wait once -/

/-- `m` waits before it has changed anything, and its answer stays the same when more octets arrive
or the socket is closed; each success shortens the buffer by `n` octets at least. -/
structure Waits (n : ℕ) (m : ReadEnv → Read δ μ ζ α) : Prop where
  ok {env : ReadEnv} {s s' : CipherStream δ μ ζ} {a : α} : m env s = .ok a s' →
    ∀ fails more, m { env with readFails := fails } (s.receive more) = .ok a (s'.receive more)
  failed {strict : Bool} {s s' : CipherStream δ μ ζ} {e : Stop} : m ⟨false, strict⟩ s = .error e s' →
    e ≠ .pending → ∀ fails more, m ⟨fails, strict⟩ (s.receive more) = .error e (s'.receive more)
  pending {env : ReadEnv} {s s' : CipherStream δ μ ζ} : m env s = .error .pending s' → s' = s
  shortens {env : ReadEnv} {s s' : CipherStream δ μ ζ} {a : α} : m env s = .ok a s' →
    s'.buffer.length + n ≤ s.buffer.length

/-- The `fill` and what is done with its octets. -/
theorem fill_waits {len k : ℕ} (hk : k ≤ len) {f : ReadEnv → Bytes → Read δ μ ζ α}
    (hf : ∀ env b, Takes k (f env b))
    (henv : ∀ env fails b, f { env with readFails := fails } b = f env b) :
    Waits k fun env => fill env len >>= f env := by
  have hrun : ∀ (env : ReadEnv) (s : CipherStream δ μ ζ), (fill env len >>= f env) s =
      if len ≤ s.buffer.length then f env (s.buffer.take len) s
      else .error (if env.readFails then .failed .io else .pending) s := by
    intro env s
    simp only [Bind.bind, EStateM.bind, fill]
    by_cases hlen : len ≤ s.buffer.length
    · rw [if_pos hlen, if_pos hlen]
    · rw [if_neg hlen, if_neg hlen]
      cases env.readFails <;> rfl
  -- with the octets there, more of them change nothing
  have hmore : ∀ (env : ReadEnv) (s : CipherStream δ μ ζ) fails more, len ≤ s.buffer.length →
      (fill { env with readFails := fails } len >>= f { env with readFails := fails })
        (s.receive more) = f env (s.buffer.take len) (s.receive more) := by
    intro env s fails more hlen
    have hlen' : len ≤ (s.receive more).buffer.length := by
      simp only [receive, List.length_append]
      omega
    rw [hrun, if_pos hlen', henv]
    simp only [receive]
    rw [List.take_append_of_le_length hlen]
  refine ⟨?_, ?_, ?_, ?_⟩
  · intro env s s' a h fails more
    rw [hrun] at h
    split at h
    · next hlen =>
        have htakes := hf env (s.buffer.take len) s more (by omega)
        rw [h] at htakes
        rw [hmore env s fails more hlen]
        exact htakes.1
    · cases h
  · intro strict s s' e h he fails more
    rw [hrun] at h
    split at h
    · next hlen =>
        have htakes := hf ⟨false, strict⟩ (s.buffer.take len) s more (by omega)
        rw [h] at htakes
        exact (hmore ⟨false, strict⟩ s fails more hlen).trans htakes.1
    · injection h with h
      exact absurd h.symm he
  · intro env s s' h
    rw [hrun] at h
    split at h
    · next hlen =>
        have htakes := hf env (s.buffer.take len) s [] (by omega)
        rw [h] at htakes
        exact absurd rfl htakes.2
    · injection h with _ h
      exact h.symm
  · intro env s s' a h
    rw [hrun] at h
    split at h
    · next hlen =>
        have htakes := hf env (s.buffer.take len) s [] (by omega)
        rw [h] at htakes
        rw [htakes.2, List.length_drop]
        omega
    · cases h

theorem Waits.get_bind {n : ℕ} {g : CipherStream δ μ ζ → ReadEnv → Read δ μ ζ α}
    (hbuffer : ∀ s more, g (receive more s) = g s) (hg : ∀ s, Waits n (g s)) :
    Waits n fun env => get >>= fun s => g s env := by
  have hrun : ∀ env (s : CipherStream δ μ ζ),
      (get >>= fun s => g s env : Read δ μ ζ α) s = g s env s := fun _ _ => rfl
  refine ⟨fun h fails more => ?_, fun h he fails more => ?_, fun h => ?_, fun h => ?_⟩
  · rw [hrun, hbuffer]
    exact (hg _).ok h fails more
  · rw [hrun, hbuffer]
    exact (hg _).failed h he fails more
  · exact (hg _).pending h
  · exact (hg _).shortens h

theorem Waits.assert_bind {n : ℕ} {p : Prop} [Decidable p] {m : ReadEnv → Read δ μ ζ α}
    (hm : Waits n m) : Waits n fun env => assert p >>= fun _ => m env := by
  by_cases hp : p
  · have hrun : (fun env => assert p >>= fun _ => m env) = m := by
      funext env
      unfold assert
      rw [if_pos hp]
      rfl
    rw [hrun]
    exact hm
  · have hrun : ∀ env (s : CipherStream δ μ ζ),
        (assert p >>= fun _ => m env) s = .error .panicked s := by
      intro env s
      unfold assert
      rw [if_neg hp]
      rfl
    refine ⟨fun h => ?_, fun h he fails more => ?_, fun h => ?_, fun h => ?_⟩
    · rw [hrun] at h
      cases h
    · rw [hrun] at h ⊢
      injection h with h₁ h₂
      rw [h₁, h₂]
    · rw [hrun] at h
      injection h with h
      cases h
    · rw [hrun] at h
      cases h

/-- What follows a program that waits must not wait again. -/
theorem Waits.bind_takes {n : ℕ} {m : ReadEnv → Read δ μ ζ α} {f : ReadEnv → α → Read δ μ ζ β}
    (hm : Waits n m) (hf : ∀ env a, Takes 0 (f env a))
    (henv : ∀ env fails a, f { env with readFails := fails } a = f env a) :
    Waits n fun env => m env >>= f env := by
  -- a failure of the first part is one of the whole, and only the first part waits
  have hrun : ∀ env (s : CipherStream δ μ ζ), (m env >>= f env) s =
      match m env s with
      | .ok a s' => f env a s'
      | .error e s' => .error e s' := by
    intro env s
    simp only [Bind.bind, EStateM.bind]
    cases m env s <;> rfl
  refine ⟨?_, ?_, ?_, ?_⟩
  · intro env s s' b h fails more
    rw [hrun] at h ⊢
    cases hfirst : m env s with
    | error e s₁ =>
      rw [hfirst] at h
      cases h
    | ok a s₁ =>
      rw [hfirst] at h
      dsimp only at h
      rw [hm.ok hfirst fails more]
      have htakes := hf env a s₁ more (Nat.zero_le _)
      rw [h] at htakes
      dsimp only
      rw [henv]
      exact htakes.1
  · intro strict s s' e h he fails more
    rw [hrun] at h ⊢
    cases hfirst : m ⟨false, strict⟩ s with
    | error e₁ s₁ =>
      rw [hfirst] at h
      injection h with h₁ h₂
      subst h₁ h₂
      rw [hm.failed hfirst he fails more]
    | ok a s₁ =>
      rw [hfirst] at h
      dsimp only at h
      have hagain := hm.ok hfirst fails more
      dsimp only at hagain
      rw [hagain]
      have htakes := hf ⟨false, strict⟩ a s₁ more (Nat.zero_le _)
      rw [h] at htakes
      dsimp only
      have hsame := henv ⟨false, strict⟩ fails a
      dsimp only at hsame
      rw [hsame]
      exact htakes.1
  · intro env s s' h
    rw [hrun] at h
    cases hfirst : m env s with
    | error e s₁ =>
      rw [hfirst] at h
      injection h with h₁ h₂
      subst h₁ h₂
      exact hm.pending hfirst
    | ok a s₁ =>
      rw [hfirst] at h
      dsimp only at h
      have htakes := hf env a s₁ [] (Nat.zero_le _)
      rw [h] at htakes
      exact absurd rfl htakes.2
  · intro env s s' b h
    rw [hrun] at h
    cases hfirst : m env s with
    | error e s₁ =>
      rw [hfirst] at h
      cases h
    | ok a s₁ =>
      rw [hfirst] at h
      dsimp only at h
      have htakes := hf env a s₁ [] (Nat.zero_le _)
      rw [h, List.drop_zero] at htakes
      rw [htakes.2]
      exact hm.shortens hfirst

theorem Waits.mono {n n' : ℕ} {m : ReadEnv → Read δ μ ζ α} (hm : Waits n m) (hn : n' ≤ n) :
    Waits n' m where
  ok := hm.ok
  failed := hm.failed
  pending := hm.pending
  shortens h := by
    have := hm.shortens h
    omega

/-! ## The three modes -/

section Modes

variable [PacketDecrypt δ] [PacketMac μ]

theorem Mode.readLength_waits (mode : Mode) :
    Waits 0 fun env => (mode.readLength env : Read δ μ ζ UInt32) := by
  cases mode with
  | galoisCounter =>
    refine fill_waits (f := fun _ b => _) (Nat.zero_le 4) (fun env b => ?_) fun _ _ _ => rfl
    refine (toHeader_takes _).bind fun _ => (decrypting_takes _).bind fun _ => ?_
    refine Takes.get_bind (fun _ _ => rfl) fun s => (ensure_takes _ _).bind fun _ => ?_
    exact (modifyReady_takes _).bind fun _ => .pure _
  | encryptThenMac =>
    refine fill_waits (f := fun _ b => _) (Nat.zero_le 4) (fun env b => ?_) fun _ _ _ => rfl
    refine (toHeader_takes _).bind fun _ => ?_
    exact Takes.get_bind (fun _ _ => rfl) fun s => (ensure_takes _ _).bind fun _ => .pure _
  | macThenEncrypt =>
    refine Waits.get_bind (g := fun s env => _) (fun _ _ => rfl) fun s => ?_
    refine Waits.assert_bind (m := fun env => _) ?_
    refine Waits.get_bind (g := fun s env => _) (fun _ _ => rfl) fun s => ?_
    refine fill_waits (f := fun _ b => _) (Nat.zero_le _) (fun env b => ?_) fun _ _ _ => rfl
    refine (decryptingStored_takes _).bind fun _ => ?_
    refine Takes.get_bind (fun _ _ => rfl) fun s => (assert_takes _).bind fun _ => ?_
    refine Takes.get_bind (fun _ _ => rfl) fun s => (slice_takes _ _ _).bind fun _ => ?_
    refine (toHeader_takes _).bind fun _ => ?_
    refine Takes.get_bind (fun _ _ => rfl) fun s => (ensure_takes _ _).bind fun _ => ?_
    exact (modifyReady_takes _).bind fun _ => .pure _

variable [PacketDecode ζ]

theorem Mode.readRest_waits (mode : Mode) (length : UInt32) :
    Waits 4 fun env => (mode.readRest env length : Read δ μ ζ Packet) := by
  cases mode with
  | galoisCounter =>
    refine Waits.get_bind (g := fun s env => _) (fun _ _ => rfl) fun s => ?_
    refine Waits.mono (fill_waits (f := fun _ b => _) (Nat.le_refl _) (fun env b => ?_)
      fun _ _ _ => rfl) (by omega)
    refine (slice_takes _ _ _).bind fun _ => (slice_takes _ _ _).bind fun _ => ?_
    refine (decrypting_takes _).bind fun _ => (slice_takes _ _ _).bind fun _ => ?_
    refine (decrypting_takes _).bind fun _ => (decrypting_takes _).bind fun _ => ?_
    exact openAndConsume_takes _ _ _
  | encryptThenMac =>
    refine Waits.get_bind (g := fun s env => _) (fun _ _ => rfl) fun s => ?_
    refine Waits.assert_bind (m := fun env => _) ?_
    refine Waits.get_bind (g := fun s env => _) (fun _ _ => rfl) fun s => ?_
    refine Waits.mono (fill_waits (f := fun _ b => _) (Nat.le_refl _) (fun env b => ?_)
      fun _ _ _ => rfl) (by omega)
    refine (slice_takes _ _ _).bind fun _ => (slice_takes _ _ _).bind fun _ => ?_
    refine (verifyTag_takes _ _).bind fun _ => (decryptAll_takes _).bind fun _ => ?_
    exact Takes.get_bind (fun _ _ => rfl) fun s => openAndConsume_takes _ _ _
  | macThenEncrypt =>
    refine Waits.get_bind (g := fun s env => _) (fun _ _ => rfl) fun s => ?_
    refine Waits.mono (fill_waits (f := fun _ b => _) (Nat.le_refl _) (fun env b => ?_)
      fun _ _ _ => rfl) (by omega)
    refine Takes.get_bind (fun _ _ => rfl) fun s => (slice_takes _ _ _).bind fun _ => ?_
    refine (decryptAll_takes _).bind fun _ => ?_
    refine Takes.get_bind (fun _ _ => rfl) fun s => (slice_takes _ _ _).bind fun _ => ?_
    refine (verifyTag_takes _ _).bind fun _ => (slice_takes _ _ _).bind fun _ => ?_
    exact openAndConsume_takes _ _ _

end Modes

end CipherStream

end Flatline
