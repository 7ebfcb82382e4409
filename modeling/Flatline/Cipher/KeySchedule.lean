import Flatline.Cipher.Signatures
import Flatline.Common.Expansion
import Mathlib

/-!
# Exchange hash and key derivation

Every key-exchange method hashes what the two sides have told each other, and stretches the shared
secret with that hash into the keys of both directions. The hashed text determines everything in it,
and the keys are the beginnings of the streams of RFC 4253, section 7.2.

Source: `src/cipher/kex.rs` (`compute_keys`, `compute_hash`).
-/

namespace Flatline

open BigEndian

/-! ## Digests -/

/-- `MdCtx::size`. -/
def Digest.size : Digest → ℕ
  | .sha1 => 20
  | .sha256 => 32
  | .sha384 => 48
  | .sha512 => 64

/-- `MdCtx` from `digest_init` to `digest_final`. -/
structure MdCalls where
  digest : Digest → Bytes → Except Error Bytes
  length_digest {md : Digest} {data out : Bytes} (h : digest md data = .ok out) :
    out.length = md.size

theorem Digest.size_pos (md : Digest) : 0 < md.size := by
  cases md <;> decide

/-! ## `compute_keys` -/

/-- The turns of the loop of `compute_keys`. -/
def MdCalls.expander (o : MdCalls) (md : Digest) (secretKey hash : Bytes) :
    Expander Error UInt8 where
  size := md.size
  block output := o.digest md (secretKey ++ hash ++ output)
  size_pos := md.size_pos
  length_block h := o.length_digest h

/-- `compute_keys`. -/
def computeKeys (o : MdCalls) (md : Digest) (secretKey sessionId hash : Bytes) (version : UInt8)
    (len : ℕ) : Except Error Bytes := do
  let output ← o.digest md (secretKey ++ hash ++ [version] ++ sessionId)
  let output ← (o.expander md secretKey hash).fill len output
  return output.take len

/-- `K1 || K2 || ... || Kn` of RFC 4253, section 7.2. -/
def keyStream (o : MdCalls) (md : Digest) (secretKey sessionId hash : Bytes) (version : UInt8) :
    ℕ → Except Error Bytes
  | 0 => .ok []
  | 1 => o.digest md (secretKey ++ hash ++ [version] ++ sessionId)
  | n + 2 => do
    let before ← keyStream o md secretKey sessionId hash version (n + 1)
    let next ← o.digest md (secretKey ++ hash ++ before)
    return before ++ next

/-- A key of `len` octets is the beginning of its stream. -/
structure IsDerived (o : MdCalls) (md : Digest) (secretKey sessionId hash : Bytes)
    (version : UInt8) (len : ℕ) (key : Bytes) : Prop where
  length_eq : key.length = len
  prefix_stream : ∃ n stream, keyStream o md secretKey sessionId hash version n = .ok stream ∧
    key <+: stream

variable {o : MdCalls} {md : Digest} {secretKey sessionId hash : Bytes} {version : UInt8} {len : ℕ}

theorem keyStream_succ (n : ℕ) :
    keyStream o md secretKey sessionId hash version (n + 1) =
      o.digest md (secretKey ++ hash ++ [version] ++ sessionId) >>= fun first =>
        (o.expander md secretKey hash).stream first n := by
  induction n with
  | zero => cases h : o.digest md (secretKey ++ hash ++ [version] ++ sessionId) <;> exact h
  | succ n ih =>
    change (keyStream o md secretKey sessionId hash version (n + 1) >>= _) = _
    rw [ih]
    cases o.digest md (secretKey ++ hash ++ [version] ++ sessionId) <;> rfl

/-- `compute_keys` computes the beginning of the stream, with no block more than it takes. -/
theorem computeKeys_eq {n : ℕ} (henough : len ≤ (n + 1) * md.size)
    (hleast : n * md.size < len ∨ n = 0) :
    computeKeys o md secretKey sessionId hash version len =
      (keyStream o md secretKey sessionId hash version (n + 1)).map (List.take len) := by
  rw [keyStream_succ]
  unfold computeKeys
  cases hfirst : o.digest md (secretKey ++ hash ++ [version] ++ sessionId) with
  | error error => rfl
  | ok first =>
    have htakes : (o.expander md secretKey hash).Takes len first.length n := by
      have hsize : (o.expander md secretKey hash).size = md.size := rfl
      have hlength := o.length_digest hfirst
      rw [Nat.succ_mul] at henough
      refine ⟨by rw [hsize]; omega, fun k hk => ?_⟩
      rw [hsize]
      rcases hleast with hleast | rfl
      · have hmul : (k + 1) * md.size ≤ n * md.size := Nat.mul_le_mul_right _ hk
        rw [Nat.succ_mul] at hmul
        omega
      · omega
    simp only [bind, Except.bind, (o.expander md secretKey hash).fill_eq htakes]
    cases (o.expander md secretKey hash).stream first n <;> rfl

/-- Some number of blocks is enough, and the one before is not. -/
theorem exists_blocks (md : Digest) (len : ℕ) :
    ∃ n, len ≤ (n + 1) * md.size ∧ (n * md.size < len ∨ n = 0) := by
  have hpos := md.size_pos
  cases len with
  | zero => exact ⟨0, Nat.zero_le _, .inr rfl⟩
  | succ len =>
    refine ⟨len / md.size, ?_, .inl ?_⟩
    · have hlt := Nat.lt_div_mul_add (a := len) hpos
      rw [Nat.succ_mul]
      exact hlt
    · have hle := Nat.div_mul_le_self len md.size
      omega

/-- What `compute_keys` returns is derived as it should be. -/
theorem isDerived_of_computeKeys {key : Bytes}
    (h : computeKeys o md secretKey sessionId hash version len = .ok key) :
    IsDerived o md secretKey sessionId hash version len key := by
  obtain ⟨n, henough, hleast⟩ := exists_blocks md len
  rw [computeKeys_eq henough hleast] at h
  cases hstream : keyStream o md secretKey sessionId hash version (n + 1) with
  | error error =>
    rw [hstream] at h
    cases h
  | ok stream =>
    rw [hstream] at h
    injection h with h
    have hlength : stream.length = (n + 1) * md.size := by
      rw [keyStream_succ] at hstream
      obtain ⟨first, hfirst, hstream⟩ := Except.bind_eq_ok_iff.mp hstream
      rw [(o.expander md secretKey hash).length_stream hstream, o.length_digest hfirst,
        Nat.succ_mul, Nat.add_comm]
      rfl
    refine ⟨?_, n + 1, stream, hstream, ?_⟩
    · rw [← h, List.length_take, hlength]
      exact Nat.min_eq_left henough
    · rw [← h]
      exact List.take_prefix _ _

/-- Longer streams begin with shorter ones. -/
theorem keyStream_isPrefix {m n : ℕ} {short long : Bytes} (hle : m ≤ n)
    (hshort : keyStream o md secretKey sessionId hash version m = .ok short)
    (hlong : keyStream o md secretKey sessionId hash version n = .ok long) : short <+: long := by
  cases m with
  | zero =>
    injection hshort with hshort
    rw [← hshort]
    exact List.nil_prefix
  | succ m =>
    obtain ⟨n, rfl⟩ : ∃ k, n = m + k + 1 := ⟨n - (m + 1), by omega⟩
    rw [keyStream_succ] at hshort hlong
    obtain ⟨first, hfirst, hshort⟩ := Except.bind_eq_ok_iff.mp hshort
    obtain ⟨first', hfirst', hlong⟩ := Except.bind_eq_ok_iff.mp hlong
    rw [hfirst] at hfirst'
    injection hfirst' with hfirst'
    subst hfirst'
    obtain ⟨before, hbefore, hprefix⟩ := (o.expander md secretKey hash).stream_add hlong
    rw [hshort] at hbefore
    injection hbefore with hbefore
    rw [hbefore]
    exact hprefix

/-- A stream has one beginning of each length: keys derived for the same purpose agree, however
many blocks were computed for them. -/
theorem IsDerived.isPrefix {len len' : ℕ} {key key' : Bytes} (hle : len ≤ len')
    (h : IsDerived o md secretKey sessionId hash version len key)
    (h' : IsDerived o md secretKey sessionId hash version len' key') : key <+: key' := by
  obtain ⟨m, short, hshort, hkey⟩ := h.prefix_stream
  obtain ⟨n, long, hlong, hkey'⟩ := h'.prefix_stream
  have hlength : key.length ≤ key'.length := by rw [h.length_eq, h'.length_eq]; exact hle
  rcases Nat.le_total m n with hmn | hnm
  · exact List.prefix_of_prefix_length_le (hkey.trans (keyStream_isPrefix hmn hshort hlong)) hkey'
      hlength
  · exact List.prefix_of_prefix_length_le hkey (hkey'.trans (keyStream_isPrefix hnm hlong hshort))
      hlength

/-- `compute_keys` succeeds or fails with the digests of the blocks that it takes, and no others; what
it returns has the length asked for, and a longer key for the same purpose goes on where a shorter
one ends. -/
theorem computeKeys_exact (o : MdCalls) (md : Digest) (secretKey sessionId hash : Bytes)
    (version : UInt8) (len : ℕ) :
    (∃ n, len ≤ (n + 1) * md.size ∧ (n * md.size < len ∨ n = 0) ∧
      computeKeys o md secretKey sessionId hash version len =
        (keyStream o md secretKey sessionId hash version (n + 1)).map (List.take len)) ∧
    ∀ key, computeKeys o md secretKey sessionId hash version len = .ok key →
      key.length = len ∧ ∀ len' key', len ≤ len' →
        computeKeys o md secretKey sessionId hash version len' = .ok key' → key <+: key' := by
  constructor
  · obtain ⟨n, henough, hleast⟩ := exists_blocks md len
    exact ⟨n, henough, hleast, computeKeys_eq henough hleast⟩
  · intro key hkey
    have hderived := isDerived_of_computeKeys hkey
    exact ⟨hderived.length_eq, fun len' key' hle hkey' =>
      hderived.isPrefix hle (isDerived_of_computeKeys hkey')⟩

/-! ## Exchange hash -/

/-- What `diffie-hellman-group-exchange-*` hashes besides: the sizes of its request and the group of
the server. -/
structure GroupFields where
  min : UInt32
  numberOfBits : UInt32
  max : UInt32
  primeP : Bytes
  generator : Bytes
deriving DecidableEq, Repr

def GroupFields.fields (group : GroupFields) : List Field :=
  [.u32 group.min, .u32 group.numberOfBits, .u32 group.max, .one group.primeP,
    .one group.generator]

/-- The fields that the implementations of `compute_hash` put into their producer. -/
def Information.fields (info : Information) (group : Option GroupFields) : List Field :=
  [.one info.clientVersion, .one info.serverVersion, .one info.clientKexInit,
    .one info.serverKexInit, .one info.serverHostKey] ++ (group.elim [] GroupFields.fields) ++
  [.one info.clientPublicKey, .one info.serverPublicKey, .one info.secretKey]

/-- The text under the exchange hash. -/
def Information.transcript (info : Information) (group : Option GroupFields) : Bytes :=
  makeBufferWithoutHeader (info.fields group)

/-- Every string is short enough for its length field. -/
structure Information.Fits (info : Information) : Prop where
  clientVersion : info.clientVersion.length < UInt32.size
  serverVersion : info.serverVersion.length < UInt32.size
  clientKexInit : info.clientKexInit.length < UInt32.size
  serverKexInit : info.serverKexInit.length < UInt32.size
  serverHostKey : info.serverHostKey.length < UInt32.size
  clientPublicKey : info.clientPublicKey.length < UInt32.size
  serverPublicKey : info.serverPublicKey.length < UInt32.size
  secretKey : info.secretKey.length < UInt32.size

structure GroupFields.Fits (group : GroupFields) : Prop where
  primeP : group.primeP.length < UInt32.size
  generator : group.generator.length < UInt32.size

/-- Fields of one kind, short enough. -/
inductive Field.Like : Field → Field → Prop
  | one {a b : Bytes} (ha : a.length < UInt32.size) (hb : b.length < UInt32.size) :
    Like (.one a) (.one b)
  | u32 (m n : UInt32) : Like (.u32 m) (.u32 n)

/-- What is written for fields of the same kinds tells them apart, and what comes behind them. -/
theorem fields_append_inj {fields fields' : List Field} {xs ys : Bytes}
    (h : List.Forall₂ Field.Like fields fields')
    (heq : makeBufferWithoutHeader fields ++ xs = makeBufferWithoutHeader fields' ++ ys) :
    fields = fields' ∧ xs = ys := by
  induction h with
  | nil => exact ⟨rfl, heq⟩
  | @cons field field' rest rest' hlike _ ih =>
    change (field.put ++ makeBufferWithoutHeader rest) ++ xs =
      (field'.put ++ makeBufferWithoutHeader rest') ++ ys at heq
    rw [List.append_assoc, List.append_assoc] at heq
    cases hlike with
    | one ha hb =>
      have hread := Consumer.consumeOne_append (makeBufferWithoutHeader rest ++ xs) ha
      rw [heq, Consumer.consumeOne_append _ hb] at hread
      injection hread with hcontent hrest
      obtain ⟨hfields, hbehind⟩ := ih hrest.symm
      exact ⟨by rw [hcontent, hfields], hbehind⟩
    | u32 m n =>
      have hread := Consumer.consumeU32_append m (makeBufferWithoutHeader rest ++ xs)
      change toBeBytes m ++ _ = toBeBytes n ++ _ at heq
      rw [heq, Consumer.consumeU32_append] at hread
      injection hread with hcontent hrest
      obtain ⟨hfields, hbehind⟩ := ih hrest.symm
      exact ⟨by rw [hcontent, hfields], hbehind⟩

/-- Two groups that fit, or none. -/
inductive GroupsFit : Option GroupFields → Option GroupFields → Prop
  | none : GroupsFit none none
  | some {group group' : GroupFields} (h : group.Fits) (h' : group'.Fits) :
    GroupsFit (some group) (some group')

theorem GroupsFit.like {group group' : Option GroupFields} (h : GroupsFit group group') :
    List.Forall₂ Field.Like (group.elim [] GroupFields.fields)
      (group'.elim [] GroupFields.fields) := by
  cases h with
  | none => exact .nil
  | some h h' =>
    exact .cons (.u32 _ _) (.cons (.u32 _ _) (.cons (.u32 _ _)
      (.cons (.one h.primeP h'.primeP) (.cons (.one h.generator h'.generator) .nil))))

/-- The texts that two sides hash have the first five strings in common, whatever methods they
use. -/
theorem transcript_versions_inj {info info' : Information} {group group' : Option GroupFields}
    (hinfo : info.Fits) (hinfo' : info'.Fits)
    (h : info.transcript group = info'.transcript group') :
    info.clientVersion = info'.clientVersion ∧ info.serverVersion = info'.serverVersion ∧
      info.clientKexInit = info'.clientKexInit ∧ info.serverKexInit = info'.serverKexInit ∧
      info.serverHostKey = info'.serverHostKey := by
  simp only [Information.transcript, Information.fields, makeBufferWithoutHeader,
    List.flatMap_append, List.append_assoc] at h
  have hlike : List.Forall₂ Field.Like
      [.one info.clientVersion, .one info.serverVersion, .one info.clientKexInit,
        .one info.serverKexInit, .one info.serverHostKey]
      [.one info'.clientVersion, .one info'.serverVersion, .one info'.clientKexInit,
        .one info'.serverKexInit, .one info'.serverHostKey] :=
    .cons (.one hinfo.1 hinfo'.1) (.cons (.one hinfo.2 hinfo'.2) (.cons (.one hinfo.3 hinfo'.3)
      (.cons (.one hinfo.4 hinfo'.4) (.cons (.one hinfo.5 hinfo'.5) .nil))))
  have hfields := (fields_append_inj hlike h).1
  simpa using hfields

/-- The hashed text determines everything that has been hashed. -/
theorem transcript_inj {info info' : Information} {group group' : Option GroupFields}
    (hinfo : info.Fits) (hinfo' : info'.Fits) (hgroups : GroupsFit group group')
    (h : info.transcript group = info'.transcript group') : info = info' ∧ group = group' := by
  obtain ⟨hclient, hserver, hclientInit, hserverInit, hhostKey⟩ :=
    transcript_versions_inj hinfo hinfo' h
  have hlike : List.Forall₂ Field.Like (info.fields group) (info'.fields group') := by
    refine List.rel_append (List.rel_append ?_ hgroups.like) ?_
    · exact .cons (.one hinfo.1 hinfo'.1) (.cons (.one hinfo.2 hinfo'.2)
        (.cons (.one hinfo.3 hinfo'.3) (.cons (.one hinfo.4 hinfo'.4)
        (.cons (.one hinfo.5 hinfo'.5) .nil))))
    · exact .cons (.one hinfo.6 hinfo'.6) (.cons (.one hinfo.7 hinfo'.7)
        (.cons (.one hinfo.8 hinfo'.8) .nil))
  have hfields := (fields_append_inj hlike (congrArg (· ++ ([] : Bytes)) h)).1
  unfold Information.fields at hfields
  cases hgroups with
  | none =>
    simp only [Option.elim_none, List.append_nil, List.cons_append, List.nil_append,
      List.cons.injEq, Field.one.injEq, and_true] at hfields
    obtain ⟨-, -, -, -, -, hpublic, hserverPublic, hsecret⟩ := hfields
    refine ⟨?_, rfl⟩
    cases info
    cases info'
    simp only [Information.mk.injEq]
    exact ⟨hclient, hserver, hclientInit, hserverInit, hhostKey, hpublic, hserverPublic, hsecret⟩
  | @some group group' _ _ =>
    simp only [Option.elim_some, GroupFields.fields, List.cons_append, List.nil_append,
      List.cons.injEq, Field.one.injEq, Field.u32.injEq, and_true] at hfields
    obtain ⟨-, -, -, -, -, hmin, hbits, hmax, hprime, hgenerator, hpublic, hserverPublic, hsecret⟩ :=
      hfields
    constructor
    · cases info
      cases info'
      simp only [Information.mk.injEq]
      exact ⟨hclient, hserver, hclientInit, hserverInit, hhostKey, hpublic, hserverPublic, hsecret⟩
    · cases group
      cases group'
      simp only [Option.some.injEq, GroupFields.mk.injEq]
      exact ⟨hmin, hbits, hmax, hprime, hgenerator⟩

end Flatline
