import Flatline.Session.Confirmation
import Flatline.Transport.Coders
import Flatline.Transport.PlainRoundTrip

/-!
# Compression and authentication

The task and its stream run together: a turn of the task reads a packet and sends what it has to
say, and the flag that the task sets is the one the stream asks before it uses its coders. `Link` is
this machine; keys, and with them the coders, may be replaced at any time. As long as nothing
disturbs a request for authentication and no write fails, the server's `SSH_MSG_USERAUTH_SUCCESS` is where
`zlib@openssh.com` begins, in either direction (`Link.compresses_from_success`).

Source: `src/session/backend.rs`, `src/ssh/stream.rs`, `src/cipher/compress.rs`.
-/

namespace Flatline

open Triple

/-! ## The machine -/

/-- The stream of a session: its coders come from the registries. -/
abbrev SessionStream (ε δ μ κ : Type) :=
  DuplexStream ε (PayloadCoder κ) δ μ (PayloadCoder κ)

/-- A packet that has crossed the stream: the history before it, the packet, and the stream before
and after. -/
structure Crossing (ε δ μ κ : Type) where
  older : List Effect
  effect : Effect
  before : SessionStream ε δ μ κ
  after : SessionStream ε δ μ κ

/-- The task, its stream, and the packets that have crossed it, newest first. -/
structure Link (ε δ μ κ : Type) where
  backend : Backend
  stream : SessionStream ε δ μ κ
  crossings : List (Crossing ε δ μ κ)

variable {ε δ μ κ : Type} [PacketEncrypt ε] [PacketDecrypt δ] [PacketMac μ] [ZlibCoder κ]

/-- The effect is a packet. -/
def Effect.isPacket : Effect → Bool
  | .received _ | .sent _ => true
  | _ => false

/-- What the stream comes to while the task adds to a history. A payload may be refused, but no write
fails; a key exchange replaces keys, with coders of the registries. -/
inductive Makes (older : List Effect) (stream : SessionStream ε δ μ κ)
    (crossings : List (Crossing ε δ μ κ)) :
    List Effect → SessionStream ε δ μ κ → List (Crossing ε δ μ κ) → Prop
  | start : Makes older stream crossings older stream crossings
  | sends {log : List Effect} {now later : SessionStream ε δ μ κ}
      {crossed : List (Crossing ε δ μ κ)} {env : SendEnv} {message : ClientMessage}
      (hmakes : Makes older stream crossings log now crossed)
      (hsend : DuplexStream.sendPayload env message.encode now = .ok () later) :
    Makes older stream crossings (.sent message :: log) later
      (⟨log, .sent message, now, later⟩ :: crossed)
  | notes {log : List Effect} {now : SessionStream ε δ μ κ} {crossed : List (Crossing ε δ μ κ)}
      {effect : Effect} (hmakes : Makes older stream crossings log now crossed)
      (heffect : effect.isPacket = false) :
    Makes older stream crossings (effect :: log) now crossed
  | fails {log : List Effect} {now later : SessionStream ε δ μ κ}
      {crossed : List (Crossing ε δ μ κ)} {env : SendEnv} {payload : Bytes} {e : Stop}
      (hmakes : Makes older stream crossings log now crossed)
      (hwrites : env.flushError = none)
      (hsend : DuplexStream.sendPayload env payload now = .error e later) :
    Makes older stream crossings log later crossed
  | upgradesClient {log : List Effect} {now : SessionStream ε δ μ κ}
      {crossed : List (Crossing ε δ μ κ)} {keys : SendingKeys ε (PayloadCoder κ) μ} {name : Text}
      (hmakes : Makes older stream crossings log now crossed)
      (hcoder : PayloadCoder.newByName name = some keys.encode) :
    Makes older stream crossings log (now.upgradeClient keys) crossed
  | upgradesServer {log : List Effect} {now : SessionStream ε δ μ κ}
      {crossed : List (Crossing ε δ μ κ)} {keys : ReceivingKeys δ μ (PayloadCoder κ)} {name : Text}
      (hmakes : Makes older stream crossings log now crossed)
      (hcoder : PayloadCoder.newByName name = some keys.decode) :
    Makes older stream crossings log (now.upgradeServer keys) crossed

/-- The task sets the flag if it is told of success. -/
def DuplexStream.confirm {η ζ : Type} (stream : DuplexStream ε η δ μ ζ) (confirmed : Bool) :
    DuplexStream ε η δ μ ζ :=
  if confirmed then { stream with authenticated := true } else stream

/-- The inputs that bring no packet and no failure of the stream. -/
def Input.isInternal : Input → Bool
  | .packet .. | .receiveFailed .. => false
  | _ => true

namespace Link

/-- One step: of the stream alone, or a turn of the task, which reads first if a packet begins it and
then sends. -/
inductive Step (link : Link ε δ μ κ) : Option Input → Link ε δ μ κ → Prop
  | arrives (octets : Bytes) :
    Step link none { link with stream.buffer := link.stream.buffer ++ octets }
  | waits {env : ReadEnv} {stream : SessionStream ε δ μ κ}
      (hread : DuplexStream.reading (CipherStream.readPacket env) link.stream =
        .error .pending stream) :
    Step link none { link with stream }
  | packet {env : Env} {readEnv : ReadEnv} {packet : Packet} {stream stream' : SessionStream ε δ μ κ}
      {crossings : List (Crossing ε δ μ κ)}
      (hpossible : Input.possible link.backend (.packet packet.payload env) = true)
      (hread : DuplexStream.reading (CipherStream.readPacket readEnv) link.stream =
        .ok packet stream)
      (hmakes : Makes (link.backend.afterRecv packet.payload).log
        (stream.confirm (link.backend.isConfirmed packet.payload))
        (⟨link.backend.log, .received packet.payload, link.stream, stream⟩ :: link.crossings)
        (link.backend.next (.packet packet.payload env)).log stream' crossings) :
    Step link (some (.packet packet.payload env))
      ⟨link.backend.next (.packet packet.payload env), stream', crossings⟩
  | fails {env : Env} {readEnv : ReadEnv} {error : Error} {stream stream' : SessionStream ε δ μ κ}
      {crossings : List (Crossing ε δ μ κ)}
      (hpossible : Input.possible link.backend (.receiveFailed error env) = true)
      (hread : DuplexStream.reading (CipherStream.readPacket readEnv) link.stream =
        .error (.failed error) stream)
      (hmakes : Makes link.backend.log stream link.crossings
        (link.backend.next (.receiveFailed error env)).log stream' crossings) :
    Step link (some (.receiveFailed error env))
      ⟨link.backend.next (.receiveFailed error env), stream', crossings⟩
  | turn {i : Input} {stream' : SessionStream ε δ μ κ} {crossings : List (Crossing ε δ μ κ)}
      (hinternal : i.isInternal = true) (hpossible : i.possible link.backend = true)
      (hmakes : Makes link.backend.log link.stream link.crossings (link.backend.next i).log stream'
        crossings) :
    Step link (some i) ⟨link.backend.next i, stream', crossings⟩

/-- A session that has just been set up. -/
structure IsInitial (link : Link ε δ μ κ) : Prop where
  backend : link.backend.IsInitial
  flag : link.backend.socket.authenticated = false
  switch : link.stream.authenticated = false
  encode : ∃ name, PayloadCoder.newByName name = some link.stream.encode
  decode : ∃ name, PayloadCoder.newByName name = some link.stream.decode
  crossings : link.crossings = []

/-- The runs that nothing disturbs while an authentication waits for its verdict, and in which no
write fails. -/
abbrev UndisturbedRun : Link ε δ μ κ → Prop :=
  Machine.ReachVia IsInitial Step fun link label =>
    ∀ i, label = some i → Undisturbed link.backend i ∧ i.Writes

end Link

/-! ## What holds in every run -/

/-- The packets of a history, each with the history before it. -/
def crossed : List Effect → List (List Effect × Effect)
  | [] => []
  | effect :: log => if effect.isPacket then (log, effect) :: crossed log else crossed log

/-- The packet has passed through the coder of its direction as its history wants it: once the client
is authenticated, or from the start, or never. -/
def Crossing.IsRight (c : Crossing ε δ μ κ) : Prop :=
  match c.effect with
  | .sent message => ∃ env content octets,
      DuplexStream.Sent env message.encode content octets c.before c.after ∧
      c.before.encode.Passes (confirmed c.older) message.encode content c.after.encode
  | .received payload => ∃ env padding content,
      CipherStream.Received env { payload, padding } content c.before.toCipherStream
        c.after.toCipherStream ∧
      c.before.decode.Passes (confirmed c.older) content payload c.after.decode
  | _ => False

/-- A stream that has carried a history. -/
structure HasCarried (log : List Effect) (stream : SessionStream ε δ μ κ)
    (crossings : List (Crossing ε δ μ κ)) : Prop where
  rests : stream.IsAtRest (confirmed log)
  crossed : crossings.map (fun c => (c.older, c.effect)) = crossed log
  right : ∀ c ∈ crossings, c.IsRight

variable {older log : List Effect} {stream stream' : SessionStream ε δ μ κ}
  {crossings crossings' : List (Crossing ε δ μ κ)}

theorem Makes.carries (h : Makes older stream crossings log stream' crossings')
    (hcarries : HasCarried older stream crossings) : HasCarried log stream' crossings' := by
  induction h with
  | start => exact hcarries
  | @sends log now later crossed env message hmakes hsend ih =>
    obtain ⟨content, octets, hsent, hpasses⟩ := DuplexStream.sendPayload_passes ih.rests.encode hsend
    rw [ih.rests.switch] at hpasses
    refine ⟨(DuplexStream.sendPayload_rests _ env _).of_ok ih.rests hsend, ?_, ?_⟩
    · exact congrArg _ ih.crossed
    · exact List.forall_mem_cons.mpr ⟨⟨env, content, octets, hsent, hpasses⟩, ih.right⟩
  | @notes log now crossed effect hmakes heffect ih =>
    have hconfirmed : confirmed (effect :: log) = confirmed log := by
      cases effect with
      | received => cases heffect
      | _ => rfl
    refine ⟨hconfirmed.symm ▸ ih.rests, ?_, ih.right⟩
    rw [ih.crossed, Flatline.crossed, heffect]
    rfl
  | @fails log now later crossed env payload e hmakes hwrites hsend ih =>
    exact ⟨(DuplexStream.sendPayload_rests _ env _).of_error ih.rests hsend, ih.crossed, ih.right⟩
  | upgradesClient hmakes hcoder ih =>
    have hrest := PayloadCoder.isAtRest_of_newByName hcoder
    exact ⟨⟨ih.rests.switch, hrest, ih.rests.decode⟩, ih.crossed, ih.right⟩
  | upgradesServer hmakes hcoder ih =>
    have hrest := PayloadCoder.isAtRest_of_newByName hcoder
    exact ⟨⟨ih.rests.switch, ih.rests.encode, hrest⟩, ih.crossed, ih.right⟩

/-! ## Reading -/

omit [PacketEncrypt ε] [PacketDecrypt δ] [PacketMac μ] in
theorem DuplexStream.reading_eq_ok {η ζ α : Type} {m : Read δ μ ζ α} {a : α}
    {s s' : DuplexStream ε η δ μ ζ} (h : DuplexStream.reading m s = .ok a s') :
    m s.toCipherStream = .ok a s'.toCipherStream ∧
      s' = { s with toCipherStream := s'.toCipherStream } := by
  unfold DuplexStream.reading at h
  split at h
  · next a' receiving hrun =>
    injection h with ha hs
    subst ha hs
    exact ⟨hrun, rfl⟩
  · cases h

omit [PacketEncrypt ε] [PacketDecrypt δ] [PacketMac μ] in
theorem DuplexStream.reading_eq_error {η ζ α : Type} {m : Read δ μ ζ α} {e : Stop}
    {s s' : DuplexStream ε η δ μ ζ} (h : DuplexStream.reading m s = .error e s') :
    m s.toCipherStream = .error e s'.toCipherStream ∧
      s' = { s with toCipherStream := s'.toCipherStream } := by
  unfold DuplexStream.reading at h
  split at h
  · cases h
  · next e' receiving hrun =>
    injection h with he hs
    subst he hs
    exact ⟨hrun, rfl⟩

/-- A read that returns no packet. -/
theorem HasCarried.read_error {env : ReadEnv} {e : Stop} (h : HasCarried log stream crossings)
    (hread : DuplexStream.reading (CipherStream.readPacket env) stream = .error e stream') :
    HasCarried log stream' crossings := by
  obtain ⟨hread, hsame⟩ := DuplexStream.reading_eq_error hread
  obtain ⟨hswitch, hdecode⟩ := (CipherStream.readPacket_rests (confirmed log) env).of_error
    ⟨h.rests.switch, h.rests.decode⟩ hread
  refine ⟨⟨hswitch, ?_, hdecode⟩, h.crossed, h.right⟩
  rw [hsame]
  exact h.rests.encode

/-- A read that returns a packet, after which the task sets the flag or does not. -/
theorem HasCarried.read {env : ReadEnv} {packet : Packet} {success : Bool}
    (h : HasCarried log stream crossings)
    (hread : DuplexStream.reading (CipherStream.readPacket env) stream = .ok packet stream')
    (hsuccess : confirmed (.received packet.payload :: log) = (confirmed log || success)) :
    HasCarried (.received packet.payload :: log) (stream'.confirm success)
      (⟨log, .received packet.payload, stream, stream'⟩ :: crossings) := by
  obtain ⟨hread, hsame⟩ := DuplexStream.reading_eq_ok hread
  obtain ⟨hswitch, hdecode⟩ := (CipherStream.readPacket_rests (confirmed log) env).of_ok
    ⟨h.rests.switch, h.rests.decode⟩ hread
  obtain ⟨content, hreceived⟩ := CipherStream.readPacket_received h.rests.decode hread
  have hpasses := hreceived.passed
  rw [h.rests.switch] at hpasses
  have hencode : stream'.encode.IsAtRest := by
    rw [hsame]
    exact h.rests.encode
  refine ⟨?_, congrArg _ h.crossed, List.forall_mem_cons.mpr ⟨?_, h.right⟩⟩
  · rw [hsuccess]
    cases success with
    | false => exact ⟨hswitch.trans (Bool.or_false _).symm, hencode, hdecode⟩
    | true => exact ⟨(Bool.or_true _).symm, hencode, hdecode⟩
  · exact ⟨env, packet.padding, content, hreceived, hpasses⟩

namespace Link

/-- What holds of the task and its stream. -/
structure Sound (link : Link ε δ μ κ) : Prop where
  tracks : TracksLogin link.backend
  carries : HasCarried link.backend.log link.stream link.crossings

variable {link link' : Link ε δ μ κ} {label : Option Input}

theorem sound_step (h : link.Sound) (hstep : Step link label link')
    (hguard : ∀ i, label = some i → Undisturbed link.backend i ∧ i.Writes) : link'.Sound := by
  cases hstep with
  | arrives octets => exact ⟨h.tracks, ⟨h.carries.rests.switch, h.carries.rests.encode,
      h.carries.rests.decode⟩, h.carries.crossed, h.carries.right⟩
  | waits hread => exact ⟨h.tracks, h.carries.read_error hread⟩
  | @packet env readEnv packet stream stream' crossings hpossible hread hmakes =>
    refine ⟨tracksLogin_step h.tracks (hguard _ rfl).1 ⟨hpossible, rfl⟩, hmakes.carries ?_⟩
    refine h.carries.read hread ?_
    rw [isConfirmed_eq h.tracks hpossible]
    rfl
  | fails hpossible hread hmakes =>
    exact ⟨tracksLogin_step h.tracks (hguard _ rfl).1 ⟨hpossible, rfl⟩,
      hmakes.carries (h.carries.read_error hread)⟩
  | turn hinternal hpossible hmakes =>
    exact ⟨tracksLogin_step h.tracks (hguard _ rfl).1 ⟨hpossible, rfl⟩,
      hmakes.carries h.carries⟩

theorem sound (h : link.UndisturbedRun) : link.Sound := by
  induction h with
  | @start link hinit =>
    have htracks : TracksLogin link.backend := tracksLogin (.start ⟨hinit.backend, hinit.flag⟩)
    refine ⟨htracks, ?_⟩
    obtain ⟨_, hencode⟩ := hinit.encode
    obtain ⟨_, hdecode⟩ := hinit.decode
    rw [hinit.backend.log, hinit.crossings]
    exact ⟨⟨hinit.switch, PayloadCoder.isAtRest_of_newByName hencode,
      PayloadCoder.isAtRest_of_newByName hdecode⟩, rfl, fun _ h => absurd h List.not_mem_nil⟩
  | next _ hguard hstep ih => exact sound_step ih hstep hguard

/-- No step takes the flag back. -/
theorem authenticated_step (hstep : Step link label link')
    (h : link.backend.socket.authenticated = true) :
    link'.backend.socket.authenticated = true := by
  have hpacket : ∀ payload env, link.backend.task.running = true →
      (link.backend.next (.packet payload env)).socket.authenticated = true := by
    intro payload env hrunning
    have hfixtures := congrArg Fixtures.authenticated
      (Backend.fixtures_next_packet hrunning payload env)
    refine hfixtures.trans ?_
    rw [h]
    rfl
  have hother : ∀ i, (∀ payload env, i ≠ .packet payload env) →
      (link.backend.next i).socket.authenticated = true := fun i hi =>
    (congrArg Fixtures.authenticated (Backend.fixtures_next hi)).trans h
  cases hstep with
  | arrives | waits => exact h
  | packet hpossible => exact hpacket _ _ hpossible
  | fails => exact hother _ fun _ _ heq => by cases heq
  | turn hinternal =>
    refine hother _ fun payload env heq => ?_
    subst heq
    cases hinternal

/-- The flag of the session and of its stream says that the server has answered a request with
success, no step takes it back, and every packet that was sent or received has passed through its
coder as the history before it wants. -/
structure CompressesFromSuccess (link : Link ε δ μ κ) : Prop where
  flag : link.backend.socket.authenticated = confirmed link.backend.log
  switch : link.stream.authenticated = confirmed link.backend.log
  stays {label : Option Input} {link' : Link ε δ μ κ} (hstep : Step link label link')
    (h : link.backend.socket.authenticated = true) : link'.backend.socket.authenticated = true
  crossed : link.crossings.map (fun c => (c.older, c.effect)) = crossed link.backend.log
  right {c : Crossing ε δ μ κ} (hmem : c ∈ link.crossings) : c.IsRight

/-- In every run that nothing disturbs while a request is open and in which no write fails,
compression and authentication agree. -/
theorem compresses_from_success (h : link.UndisturbedRun) : link.CompressesFromSuccess where
  flag := (sound h).tracks.flag
  switch := (sound h).carries.rests.switch
  stays := authenticated_step
  crossed := (sound h).carries.crossed
  right hmem := (sound h).carries.right _ hmem

end Link

/-! ## A concrete run -/

/-- A coder that holds back what it is given and returns it. -/
structure HeldBack where
  buf : Bytes

instance : ZlibCoder HeldBack where
  fresh := ⟨[]⟩
  returns _ _ := true
  update data coder := (.ok (), ⟨coder.buf ++ data⟩)
  finalize coder := (.ok coder.buf, ⟨[]⟩)

/-- A new session whose stream compresses what it sends once the client is authenticated, and has
received a packet with this payload. -/
def Link.delayed (payload : Bytes) : Link TransparentCipher TransparentCipher EmptyMac HeldBack where
  backend := .agreeable
  stream := {
    buffer := toBeBytes (UInt32.ofNat (payload.length + 5)) ++ 4 :: (payload ++ [0, 0, 0, 0])
    decrypt := { galois := true }
    decode := .never []
    verify := { etm := false }
    authenticated := false
    client := default
    server := default
    state := none
    encrypt := { galois := true }
    encode := .zlib (ascii "zlib@openssh.com") false ZlibCoder.fresh
    calculator := { etm := false }
    writeBuffer := []
    written := [] }
  crossings := []

theorem Link.delayed_isInitial (payload : Bytes) : (Link.delayed payload).IsInitial where
  backend := ⟨rfl, rfl, rfl, rfl, rfl, rfl, rfl, rfl⟩
  flag := rfl
  switch := rfl
  encode := ⟨ascii "zlib@openssh.com", rfl⟩
  decode := ⟨ascii "none", rfl⟩
  crossings := rfl

/-- The stream that an operation has come to. -/
def SessionStream.after {α : Type} :
    EStateM.Result Stop (SessionStream ε δ μ κ) α → SessionStream ε δ μ κ
  | .ok _ stream => stream
  | .error _ stream => stream

/-- The client asks for an authentication without a secret. -/
def Link.asked : Link TransparentCipher TransparentCipher EmptyMac HeldBack :=
  let link := Link.delayed [sshMsgUserauthSuccess]
  let message := .userauthRequest (ascii "user") (ascii "none") []
  let stream := SessionStream.after (DuplexStream.sendPayload
    { random := fun _ => 0, flushError := none } message.encode link.stream)
  { backend := link.backend.next (.event (.authenticateNone (ascii "user")) .agreeable)
    stream
    crossings := [⟨[], .sent message, link.stream, stream⟩] }

/-- The server grants it. -/
def Link.granted : Link TransparentCipher TransparentCipher EmptyMac HeldBack :=
  let link := Link.asked
  let stream := SessionStream.after
    (DuplexStream.reading (CipherStream.readPacket ⟨false, false⟩) link.stream)
  { backend := link.backend.next (.packet [sshMsgUserauthSuccess] .agreeable)
    stream := stream.confirm true
    crossings := ⟨link.backend.log, .received [sshMsgUserauthSuccess], link.stream, stream⟩ ::
      link.crossings }

theorem Link.compresses_from_success_none :
    Link.granted.CompressesFromSuccess ∧ Link.granted.backend.socket.authenticated = true := by
  have hstart : (Link.delayed [sshMsgUserauthSuccess]).UndisturbedRun := .start (delayed_isInitial _)
  have hsend : DuplexStream.sendPayload { random := fun _ => 0, flushError := none }
      (ClientMessage.userauthRequest (ascii "user") (ascii "none") []).encode
      (Link.delayed [sshMsgUserauthSuccess]).stream = .ok () Link.asked.stream := rfl
  have hasked : Step (Link.delayed [sshMsgUserauthSuccess])
      (some (.event (.authenticateNone (ascii "user")) .agreeable)) Link.asked :=
    .turn rfl rfl (.sends .start hsend)
  have hread : DuplexStream.reading (CipherStream.readPacket ⟨false, false⟩) Link.asked.stream =
      .ok ⟨[sshMsgUserauthSuccess], [0, 0, 0, 0]⟩ (SessionStream.after
        (DuplexStream.reading (CipherStream.readPacket ⟨false, false⟩) Link.asked.stream)) := rfl
  have hgranted : Step Link.asked (some (.packet [sshMsgUserauthSuccess] .agreeable))
      Link.granted := .packet rfl hread (.notes .start rfl)
  refine ⟨compresses_from_success (.next (.next hstart ?_ hasked) ?_ hgranted), rfl⟩
  · rintro _ hi
    obtain rfl := Option.some.inj hi
    refine ⟨?_, rfl⟩
    rintro loop htask
    cases htask
  · rintro _ hi
    obtain rfl := Option.some.inj hi
    refine ⟨?_, rfl⟩
    rintro loop -
    exact ⟨.authenticationSuccess, rfl, fun h => by cases loop <;> cases h⟩

/-- A banner that is no UTF-8 ends the event, and the task does not take the success that follows for
the answer to its request. -/
theorem Backend.success_after_banner :
    Backend.agreeable.IsInitial ∧ Backend.agreeable.socket.authenticated = false ∧
      ∃ s, Backend.run .agreeable [
          .event (.authenticateNone (ascii "user")) .agreeable,
          .packet (makeBufferWithoutHeader [.u8 sshMsgUserauthBanner, .one [0xff], .one []])
            .agreeable,
          .packet [sshMsgUserauthSuccess] .agreeable] = some s ∧
        confirmed s.log = true ∧ s.socket.authenticated = false := by
  refine ⟨⟨rfl, rfl, rfl, rfl, rfl, rfl, rfl, rfl⟩, rfl, ?_⟩
  have hrun : (Backend.run .agreeable [
      .event (.authenticateNone (ascii "user")) .agreeable,
      .packet (makeBufferWithoutHeader [.u8 sshMsgUserauthBanner, .one [0xff], .one []]) .agreeable,
      .packet [sshMsgUserauthSuccess] .agreeable]).any
      (fun s => confirmed s.log && !s.socket.authenticated) = true := by decide +kernel
  obtain ⟨s, hs, hflags⟩ := (Option.any_eq_true _ _).mp hrun
  obtain ⟨hconfirmed, hflag⟩ := Bool.and_eq_true_iff.mp hflags
  exact ⟨s, hs, hconfirmed, Bool.not_eq_true' _ |>.mp hflag⟩

end Flatline
