import Flatline.Session.Backend
import Flatline.Wire.DataValues

/-!
# The requests on the wire

What the user's requests mean by RFC 4252, RFC 4254, RFC 4256 and the extensions of OpenSSH, as
values of the message format, and what a peer reads that goes by the format. Two requests are not
what they mean: `pty-req` carries the terminal modes without their length, and the forwarding of a
socket path is sent under the name of the forwarding of a TCP port.

Source: `src/session/backend.rs`.
-/

namespace Flatline

/-- What sends a request: an event of the user, and the requests that follow in a receive loop. -/
inductive Operation where
  | event (asked : Event)
  /-- `channel_request_subsystem`. -/
  | subsystem (id : IdentityPair) (wantReply : Bool) (name : Text) (opened : Option ℕ)
  /-- The signed request of `authenticate_public_key`. -/
  | signature (query : PublicKeyQuery)
  /-- A turn of the loop of `forward_tcp_clean`. -/
  | cleanTcp (addr : SocketAddr) (rest : List SocketAddr) (forwardLocal : Bool)
  /-- A turn of the loop of `forward_local_clean`. -/
  | cleanLocal (path : Text) (rest : List Text)

/-- Carry the operation out up to its first receive. -/
def Operation.run (env : Env) : Operation → BackendM Progress
  | .event asked => startEvent env asked
  | .subsystem id wantReply name opened => channelRequestSubsystem env id wantReply name opened
  | .signature query => signPublicKey env query
  | .cleanTcp addr rest forwardLocal => forwardTcpCleanLoop env forwardLocal (addr :: rest)
  | .cleanLocal path rest => forwardLocalCleanLoop env (path :: rest)

/-! ## Message formats -/

/-- `SSH_MSG_CHANNEL_REQUEST`: RFC 4254, section 5.4. -/
def channelRequestValues (id : IdentityPair) (type : Text) (wantReply : Bool)
    (values : List DataValue) : List DataValue :=
  [.byte sshMsgChannelRequest, .uint32 id.server, .string type, .boolean wantReply] ++ values

/-- `SSH_MSG_CHANNEL_OPEN`: RFC 4254, section 5.1. -/
def channelOpenValues (type : Text) (client initialWindowSize maximumPacketSize : UInt32)
    (values : List DataValue) : List DataValue :=
  [.byte sshMsgChannelOpen, .string type, .uint32 client, .uint32 initialWindowSize,
    .uint32 maximumPacketSize] ++ values

/-- `SSH_MSG_GLOBAL_REQUEST`: RFC 4254, section 4. -/
def globalRequestValues (type : Text) (wantReply : Bool) (values : List DataValue) :
    List DataValue :=
  [.byte sshMsgGlobalRequest, .string type, .boolean wantReply] ++ values

/-- `SSH_MSG_USERAUTH_REQUEST`: RFC 4252, section 5. -/
def userauthRequestValues (username method : Text) (values : List DataValue) : List DataValue :=
  [.byte sshMsgUserauthRequest, .string username, .string (ascii "ssh-connection"),
    .string method] ++ values

/-- The encoded terminal modes: RFC 4254, section 8. -/
def encodedModes (modes : List (UInt8 × UInt32)) : Bytes :=
  makeBufferWithoutHeader
    ((modes.flatMap fun (opcode, value) => [Field.u8 opcode, .u32 value]) ++ [.u8 ttyOpEnd])

/-- `cancel-tcpip-forward`: RFC 4254, section 7.1. -/
def cancelTcpIpValues (wantReply : Bool) (addr : SocketAddr) : List DataValue :=
  globalRequestValues (ascii "cancel-tcpip-forward") wantReply
    [.string addr.host, .uint32 addr.port.toUInt32]

/-- `cancel-streamlocal-forward@openssh.com`. -/
def cancelStreamLocalValues (wantReply : Bool) (path : Text) : List DataValue :=
  globalRequestValues (ascii "cancel-streamlocal-forward@openssh.com") wantReply [.string path]

/-- What an event asks of the server; `none` if it sends no request. What `clean` asks for is asked
in its loops. -/
def Event.requestValues (s : Backend) : Event → Option (List DataValue)
  | .authenticateNone username => some (userauthRequestValues username (ascii "none") [])
  | .authenticatePassword username password =>
    some (userauthRequestValues username (ascii "password") [.boolean false, .string password])
  | .authenticatePublicKey username type isCertificate publicBlob _ =>
    (s.signerFor type).map fun signer =>
      userauthRequestValues username (ascii "publickey") [.boolean false,
        .string (if isCertificate then signer.name ++ certSuffix else signer.name),
        .string publicBlob]
  | .authenticateKeyboardInteractive username methods =>
    some (userauthRequestValues username (ascii "keyboard-interactive")
      [.string [], .nameList (methods.map InteractiveMethod.name)])
  | .channelRequestPty id terminal wantReply columns rows width height modes =>
    some (channelRequestValues id (ascii "pty-req") wantReply [.string terminal, .uint32 columns,
      .uint32 rows, .uint32 width, .uint32 height, .string (encodedModes modes)])
  | .channelRequestBreak id wantReply milliseconds =>
    some (channelRequestValues id (ascii "break") wantReply [.uint32 milliseconds])
  | .channelRequestShell id wantReply =>
    some (channelRequestValues id (ascii "shell") wantReply [])
  | .channelRequestExec id wantReply command =>
    some (channelRequestValues id (ascii "exec") wantReply [.string command])
  | .channelRequestAgent id wantReply =>
    some (channelRequestValues id (ascii "agent-req") wantReply [])
  | .channelRequestWindowChange id columns rows width height =>
    some (channelRequestValues id (ascii "window-change") false
      [.uint32 columns, .uint32 rows, .uint32 width, .uint32 height])
  | .channelRequestSignal id wantReply signal =>
    some (channelRequestValues id (ascii "signal") wantReply [.string signal])
  | .channelRequestEnv id wantReply name value =>
    some (channelRequestValues id (ascii "env") wantReply [.string name, .string value])
  | .channelRequestX11 id wantReply singleConnection protocol cookie screen =>
    some (channelRequestValues id (ascii "x11-req") wantReply [.boolean singleConnection,
      .string protocol, .string cookie, .uint32 screen])
  | .channelOpenSFTP window packet | .channelOpenSession window packet =>
    some (channelOpenValues (ascii "session") s.nextChannelId window packet [])
  | .channelOpenDirectTcpIp target source window packet =>
    some (channelOpenValues (ascii "direct-tcpip") s.nextChannelId window packet
      [.string target.host, .uint32 target.port.toUInt32, .string source.host,
        .uint32 source.port.toUInt32])
  | .channelOpenDirectStreamLocal window packet path =>
    some (channelOpenValues (ascii "direct-streamlocal@openssh.com") s.nextChannelId window packet
      [.string path, .string [], .uint32 0])
  | .globalRequestTcpIPForward addr _ _ =>
    some (globalRequestValues (ascii "tcpip-forward") true
      [.string addr.host, .uint32 addr.port.toUInt32])
  | .globalRequestCancelTcpIpForward wantReply addr =>
    some (cancelTcpIpValues wantReply addr)
  | .globalRequestStreamLocalForward path _ _ =>
    some (globalRequestValues (ascii "streamlocal-forward@openssh.com") true [.string path])
  | .globalRequestCancelStreamLocalForward wantReply path =>
    some (cancelStreamLocalValues wantReply path)
  | .requestAuthentication | .sendDebugMessage .. | .sendIgnoreMessage .. | .channelSendData ..
  | .channelClose .. | .channelEof .. | .clean .. | .renegotiate | .disconnect .. => none

/-- The octets that the signed request of `query` is signed over: RFC 4252, section 7. -/
def PublicKeyQuery.signedData (query : PublicKeyQuery) (sessionId : Bytes) : Bytes :=
  makeBufferWithoutHeader [.one sessionId, .u8 sshMsgUserauthRequest, .one query.username,
    .one (ascii "ssh-connection"), .one (ascii "publickey"), .u8 1, .one query.method,
    .one query.publicBlob]

/-- What an operation asks of the server; `none` if it sends no request. -/
def Operation.requestValues (s : Backend) : Operation → Option (List DataValue)
  | .event asked => asked.requestValues s
  | .subsystem id wantReply name _ =>
    some (channelRequestValues id (ascii "subsystem") wantReply [.string name])
  | .signature query =>
    let signature := do
      query.signer.initializeKey query.privateBlob
      query.signer.signature query.privateBlob (query.signedData s.sessionId)
    signature.toOption.map fun signature =>
      userauthRequestValues query.username (ascii "publickey") [.boolean true,
        .string query.method, .string query.publicBlob,
        .string (makeBufferWithoutHeader [.one query.signer.name, .one signature])]
  | .cleanTcp addr _ _ => some (cancelTcpIpValues true addr)
  | .cleanLocal path _ => some (cancelStreamLocalValues true path)

/-- The operations whose requests mean what the user asks for. -/
def Operation.IsMeant : Operation → Prop
  | .event (.channelRequestPty ..) => False
  | .event (.globalRequestStreamLocalForward ..) => False
  | .event (.authenticateKeyboardInteractive _ methods) =>
    ∀ method ∈ methods, method.name ≠ [] ∧ comma ∉ method.name
  | _ => True

/-- The operation first sends the message. -/
def Operation.Sends (operation : Operation) (s : Backend) (message : ClientMessage) : Prop :=
  ∀ env, ∃ next : Unit → BackendM Progress,
    operation.run env s = (sendPayload env message >>= next) s

/-! ## What is laid out -/

/-- A message that is laid out from the values is read back if its names can stand in a list. -/
theorem decodes_iff {v : List DataValue} {message : ClientMessage}
    (hencode : message.encode = makeBufferWithoutHeader (v.map DataValue.field))
    (hlength : message.encode.length ≤ maxPacketPayloadLength) :
    decodeTypes (v.map DataValue.type) message.encode = some v ↔ ∀ value ∈ v, value.HasNames := by
  rw [hencode]
  apply decodeTypes_fields_iff
  intro value hvalue
  have hle := size_le_fieldsSize (List.mem_map_of_mem (f := DataValue.field) hvalue)
  rw [hencode, length_makeBufferWithoutHeader] at hlength
  have hmax : maxPacketPayloadLength < UInt32.size := by decide
  exact Nat.lt_of_le_of_lt (hle.trans hlength) hmax

/-- A request that is laid out from its values is read back. -/
theorem meant_of_encode {operation : Operation} {s : Backend} {values : List DataValue}
    {message : ClientMessage} (hsends : operation.Sends s message)
    (hencode : message.encode = makeBufferWithoutHeader (values.map DataValue.field))
    (hmeant : operation.IsMeant ↔ ∀ value ∈ values, value.HasNames) :
    ∃ message, operation.Sends s message ∧
      (message.encode.length ≤ maxPacketPayloadLength →
        (decodeTypes (values.map DataValue.type) message.encode = some values ↔
          operation.IsMeant)) :=
  ⟨message, hsends, fun hlength => (decodes_iff hencode hlength).trans hmeant.symm⟩

/-- What is laid out takes four octets more if a string has its length before it. -/
theorem fieldsSize_one_ne_bytes (fields : List Field) (content : Bytes) :
    fieldsSize (fields ++ [.bytes content]) ≠ fieldsSize (fields ++ [.one content]) := by
  unfold fieldsSize
  simp only [List.map_append, List.sum_append, List.map_cons, List.map_nil, Field.size,
    List.sum_cons, List.sum_nil]
  omega

/-- Every event that asks something of the server sends what it means, but for the two. -/
theorem meant_event (event : Event) (s : Backend) (values : List DataValue)
    (hvalues : event.requestValues s = some values) :
    ∃ message, (Operation.event event).Sends s message ∧
      (message.encode.length ≤ maxPacketPayloadLength →
        (decodeTypes (values.map DataValue.type) message.encode = some values ↔
          (Operation.event event).IsMeant)) := by
  have hplain {values : List DataValue} (h : ∀ value ∈ values, value.HasNames) :
      True ↔ ∀ value ∈ values, value.HasNames := iff_of_true trivial h
  cases event with
  | authenticatePublicKey username type isCertificate publicBlob privateBlob =>
    obtain ⟨signer, hsigner, rfl⟩ := Option.map_eq_some_iff.mp hvalues
    let method := if isCertificate then signer.name ++ certSuffix else signer.name
    have hsends : (Operation.event (.authenticatePublicKey username type isCertificate publicBlob
        privateBlob)).Sends s (.userauthRequest username (ascii "publickey")
          [.u8 0, .one method, .one publicBlob]) := fun env => by
      refine ⟨fun _ => pure (.wait (.authentication
        (.publicKeyQuery { username, signer, method, publicBlob, privateBlob }))), ?_⟩
      change authenticatePublicKey env username type isCertificate publicBlob privateBlob s = _
      unfold authenticatePublicKey
      rw [Triple.get_bind, hsigner]
    refine meant_of_encode hsends rfl (hplain ?_)
    simp [userauthRequestValues, DataValue.HasNames]
  | authenticateKeyboardInteractive username methods =>
    injection hvalues with hvalues
    subst hvalues
    refine meant_of_encode (fun env => ⟨_, rfl⟩) rfl ?_
    simp [Operation.IsMeant, userauthRequestValues, DataValue.HasNames]
  | channelRequestPty id terminal wantReply columns rows width height modes =>
    injection hvalues with hvalues
    subst hvalues
    refine ⟨_, fun env => ⟨_, rfl⟩, fun hlength => iff_of_false ?_ not_false⟩
    intro hdecode
    have hlen := length_of_decodeTypes hdecode
    -- the length of the modes is missing
    refine fieldsSize_one_ne_bytes [.u8 sshMsgChannelRequest, .u32 id.server,
      .one (ascii "pty-req"), .bool wantReply, .one terminal, .u32 columns, .u32 rows, .u32 width,
      .u32 height] (encodedModes modes) ?_
    rw [← length_makeBufferWithoutHeader]
    exact hlen
  | globalRequestStreamLocalForward path window packet =>
    injection hvalues with hvalues
    subst hvalues
    refine ⟨_, fun env => ⟨_, rfl⟩, fun hlength => iff_of_false ?_ not_false⟩
    intro hdecode
    -- a peer reads the name of another request
    have hread := (decodes_iff (v := globalRequestValues (ascii "tcpip-forward") true
      [.string path]) rfl hlength).mpr (by simp [globalRequestValues, DataValue.HasNames])
    have heq := Option.some.inj (hread.symm.trans hdecode)
    injection heq with _ heq
    injection heq with heq
    injection heq with heq
    exact absurd heq (by decide)
  | requestAuthentication | sendDebugMessage | sendIgnoreMessage | channelSendData | channelClose
  | channelEof | clean | renegotiate | disconnect => cases hvalues
  | channelOpenSFTP window packet =>
    injection hvalues with hvalues
    subst hvalues
    exact meant_of_encode (fun env => ⟨_, rfl⟩) rfl
      (hplain (by simp [channelOpenValues, DataValue.HasNames]))
  | _ =>
    injection hvalues with hvalues
    subst hvalues
    refine meant_of_encode (fun env => ⟨_, rfl⟩) rfl (hplain ?_)
    simp [channelRequestValues, channelOpenValues, globalRequestValues, userauthRequestValues,
      cancelTcpIpValues, cancelStreamLocalValues, DataValue.HasNames]

/-- The signed request carries algorithm and signature in one string. -/
theorem meant_signature (query : PublicKeyQuery) (s : Backend) (values : List DataValue)
    (hvalues : (Operation.signature query).requestValues s = some values) :
    ∃ message, (Operation.signature query).Sends s message ∧
      (message.encode.length ≤ maxPacketPayloadLength →
        (decodeTypes (values.map DataValue.type) message.encode = some values ↔
          (Operation.signature query).IsMeant)) := by
  obtain ⟨signature, hsignature, rfl⟩ := Option.map_eq_some_iff.mp hvalues
  have hok {x : Except Error Bytes} (h : x.toOption = some signature) : x = .ok signature := by
    cases x with
    | error e => cases h
    | ok value => exact congrArg Except.ok (Option.some.inj h)
  obtain ⟨⟨⟩, hinitialize, hsign⟩ := Except.bind_eq_ok_iff.mp (hok hsignature)
  let len := 4 + query.signer.name.length + 4 + signature.length
  have hsends : (Operation.signature query).Sends s (.userauthRequest query.username
      (ascii "publickey") [.u8 1, .one query.method, .one query.publicBlob,
        .u32 (UInt32.ofNat len), .one query.signer.name, .one signature]) := fun env => by
    refine ⟨fun _ => pure (.wait (.authentication .publicKeySignature)), ?_⟩
    change signPublicKey env query s = _
    unfold signPublicKey
    rw [Triple.get_bind, hinitialize]
    change (liftExcept (query.signer.signature query.privateBlob
      (query.signedData s.sessionId)) >>= _) s = _
    rw [hsign]
    rfl
  refine meant_of_encode hsends ?_ (iff_of_true trivial ?_)
  · have hlen : (makeBufferWithoutHeader
        [.one query.signer.name, .one signature]).length = len := by
      rw [length_makeBufferWithoutHeader]
      simp only [fieldsSize, Field.size, List.map_cons, List.map_nil, List.sum_cons, List.sum_nil]
      omega
    have hstring : makeBufferWithoutHeader [.one (makeBufferWithoutHeader
        [.one query.signer.name, .one signature])] = makeBufferWithoutHeader
          [.u32 (UInt32.ofNat len), .one query.signer.name, .one signature] := by
      rw [← hlen]
      exact List.append_nil _
    let fields : List Field := [.u8 sshMsgUserauthRequest, .one query.username,
      .one (ascii "ssh-connection"), .one (ascii "publickey"), .u8 1, .one query.method,
      .one query.publicBlob]
    change makeBufferWithoutHeader (fields ++ _) = makeBufferWithoutHeader (fields ++ _)
    unfold makeBufferWithoutHeader at hstring ⊢
    rw [List.flatMap_append, List.flatMap_append]
    exact congrArg _ hstring.symm
  · simp [userauthRequestValues, DataValue.HasNames]

/-- For every operation that asks something of the server and all its arguments: as long as the
request fits in a packet, a peer that goes by the format of the request reads exactly what the user
asks for and nothing is left over, unless the operation is `pty-req`, the forwarding of a socket
path, or has names that cannot stand in a name-list. -/
theorem requests_meant_iff (operation : Operation) (s : Backend) (values : List DataValue)
    (hvalues : operation.requestValues s = some values) :
    ∃ message, operation.Sends s message ∧
      (message.encode.length ≤ maxPacketPayloadLength →
        (decodeTypes (values.map DataValue.type) message.encode = some values ↔
          operation.IsMeant)) := by
  cases operation with
  | event event => exact meant_event event s values hvalues
  | signature query => exact meant_signature query s values hvalues
  | subsystem id wantReply name opened =>
    injection hvalues with hvalues
    subst hvalues
    refine meant_of_encode (fun env => ⟨_, rfl⟩) rfl (iff_of_true trivial ?_)
    simp [channelRequestValues, DataValue.HasNames]
  | cleanTcp addr rest forwardLocal =>
    injection hvalues with hvalues
    subst hvalues
    refine meant_of_encode (fun env => ⟨_, rfl⟩) rfl (iff_of_true trivial ?_)
    simp [cancelTcpIpValues, globalRequestValues, DataValue.HasNames]
  | cleanLocal path rest =>
    injection hvalues with hvalues
    subst hvalues
    refine meant_of_encode (fun env => ⟨_, rfl⟩) rfl (iff_of_true trivial ?_)
    simp [cancelStreamLocalValues, globalRequestValues, DataValue.HasNames]

/-- A variable of the environment. -/
theorem requests_meant_environment : ∃ values, ∃ message : ClientMessage,
    Operation.requestValues .agreeable
      (.event (.channelRequestEnv ⟨1, 7⟩ true (ascii "LANG") (ascii "C"))) = some values ∧
    (message.encode.length ≤ maxPacketPayloadLength →
      decodeTypes (values.map DataValue.type) message.encode = some values) := by
  obtain ⟨message, -, hmeant⟩ := requests_meant_iff
    (.event (.channelRequestEnv ⟨1, 7⟩ true (ascii "LANG") (ascii "C"))) .agreeable _ rfl
  exact ⟨_, message, rfl, fun hlength => (hmeant hlength).mpr trivial⟩

/-- A terminal without modes: the one octet of the empty list of modes is no string. -/
theorem terminal_request_not_read : ∃ values message,
    Operation.requestValues .agreeable (.event
      (.channelRequestPty ⟨1, 7⟩ (ascii "xterm") true 80 24 0 0 [])) = some values ∧
    (Operation.event (.channelRequestPty ⟨1, 7⟩ (ascii "xterm") true 80 24 0 0 [])).Sends
      .agreeable message ∧
    message.encode.length ≤ maxPacketPayloadLength ∧
    decodeTypes (values.map DataValue.type) message.encode = none := by
  refine ⟨_, _, rfl, fun env => ⟨_, rfl⟩, by decide, by decide⟩

end Flatline
