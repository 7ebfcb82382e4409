import Flatline.Kex.Config

/-!
# Advertised methods

`Methods` holds the name lists of an `SSH_MSG_KEXINIT`: built from the client's configuration and
edited for server quirks on one side, parsed from the server's payload on the other.
`Config.negotiate` picks one algorithm per slot.

Source: `src/session/handshake.rs`.
-/

namespace Flatline

/-- The ten name lists of an `SSH_MSG_KEXINIT`. -/
structure NameLists where
  kex : List Text
  hostKey : List Text
  cryptClientToServer : List Text
  cryptServerToClient : List Text
  macClientToServer : List Text
  macServerToClient : List Text
  compressClientToServer : List Text
  compressServerToClient : List Text
  langClientToServer : List Text
  langServerToClient : List Text
deriving DecidableEq, Repr

/-- `handshake::Methods`: the name lists and the two pseudo-algorithm flags. -/
structure Methods extends NameLists where
  kexStrict : Bool
  ext : Bool
deriving DecidableEq, Repr

/-- The sixteen random octets of an `SSH_MSG_KEXINIT`. -/
def Cookie := { octets : Bytes // octets.length = 16 }

namespace Methods

/-- `Methods::from_config`. -/
def fromConfig (config : Config) : Methods where
  kex := config.kex.keys
  hostKey := config.hostKey.keys
  cryptClientToServer := config.cryptClientToServer.keys
  cryptServerToClient := config.cryptServerToClient.keys
  macClientToServer := config.macClientToServer.keys
  macServerToClient := config.macServerToClient.keys
  compressClientToServer := config.compressClientToServer.keys
  compressServerToClient := config.compressServerToClient.keys
  langClientToServer := []
  langServerToClient := []
  kexStrict := config.keyStrict
  ext := config.ext

/-- The method `do_compat` withdraws. -/
def compatMethod : Text := ascii "curve25519-sha256@libssh.org"

/-- `Methods::do_compat`: drop the first occurrence of `compatMethod`. -/
def doCompat (methods : Methods) (compat : Bool) : Methods :=
  if compat then { methods with kex := methods.kex.erase compatMethod } else methods

/-! ## Building -/

/-- The name lists `Methods::build` writes: the pseudo-algorithms follow the kex methods. -/
def advertised (methods : Methods) : NameLists :=
  { methods.toNameLists with
    kex := methods.kex ++ (if methods.kexStrict then [kexStrictClient] else []) ++
      (if methods.ext then [extInfoClient] else []) }

/-- The fields of an `SSH_MSG_KEXINIT` with the given name lists. -/
def kexInitFields (cookie : Cookie) (lists : NameLists) : List Field :=
  [.u8 sshMsgKexinit, .bytes cookie.val,
    .one (joinComma lists.kex), .one (joinComma lists.hostKey),
    .one (joinComma lists.cryptClientToServer), .one (joinComma lists.cryptServerToClient),
    .one (joinComma lists.macClientToServer), .one (joinComma lists.macServerToClient),
    .one (joinComma lists.compressClientToServer), .one (joinComma lists.compressServerToClient),
    .one (joinComma lists.langClientToServer), .one (joinComma lists.langServerToClient),
    .u8 0, .bytes [0, 0, 0, 0]]

/-- `Methods::build`. -/
def build (methods : Methods) (cookie : Cookie) : Bytes :=
  makeBufferWithoutHeader (kexInitFields cookie methods.advertised)

/-! ## Parsing -/

/-- One name list of a payload. -/
def consumeNames : Consumer (List Text) := do
  return splitComma (← Consumer.consumeText (.handshake .invalidString))

/-- The name lists of an `SSH_MSG_KEXINIT` payload, as the server wrote them. -/
def consumeNameLists : Consumer NameLists := do
  if (← Consumer.consumeU8) ≠ sshMsgKexinit then
    throw (.invalidOperation (ascii "expected SSH_MSG_KEXINIT"))
  let _ ← Consumer.consumeBytes 16
  let kex ← consumeNames
  let hostKey ← consumeNames
  let cryptClientToServer ← consumeNames
  let cryptServerToClient ← consumeNames
  let macClientToServer ← consumeNames
  let macServerToClient ← consumeNames
  let compressClientToServer ← consumeNames
  let compressServerToClient ← consumeNames
  let langClientToServer ← consumeNames
  let langServerToClient ← consumeNames
  let _ ← Consumer.consumeU8
  let _ ← Consumer.consumeBytes 4
  return { kex, hostKey, cryptClientToServer, cryptServerToClient, macClientToServer,
           macServerToClient, compressClientToServer, compressServerToClient,
           langClientToServer, langServerToClient }

/-- The first occurrence of each server pseudo-algorithm becomes a flag and leaves the list. -/
def stripMarkers (lists : NameLists) : Methods :=
  let afterStrict := lists.kex.erase kexStrictServer
  { lists with
    kex := afterStrict.erase extInfoServer
    kexStrict := lists.kex.contains kexStrictServer
    ext := afterStrict.contains extInfoServer }

/-- `Methods::parse`. -/
def parse (data : Bytes) : Except Error Methods :=
  (Consumer.run' consumeNameLists data).map stripMarkers

end Methods

/-! ## Negotiation -/

/-- One loop of `Config::negotiate`: the first entry whose name the server lists. -/
def IndexMap.negotiate {α : Type} (map : IndexMap α) (server : List Text) :
    Except Error (Text × α) :=
  match map.entries.find? fun entry => server.contains entry.1 with
  | some entry => .ok entry
  | none => .error (.handshake .negotiationFailed)

/-- `Config::negotiate`. -/
def Config.negotiate (config : Config) (server : Methods) : Except Error MatchedMethods := do
  let kex ← config.kex.negotiate server.kex
  let hostKey ← config.hostKey.negotiate server.hostKey
  let cryptClientToServer ← config.cryptClientToServer.negotiate server.cryptClientToServer
  let cryptServerToClient ← config.cryptServerToClient.negotiate server.cryptServerToClient
  let macClientToServer ← config.macClientToServer.negotiate server.macClientToServer
  let macServerToClient ← config.macServerToClient.negotiate server.macServerToClient
  let compressClientToServer ←
    config.compressClientToServer.negotiate server.compressClientToServer
  let compressServerToClient ←
    config.compressServerToClient.negotiate server.compressServerToClient
  return {
    kex := kex.2
    hostKey := hostKey.2
    cryptClientToServer := cryptClientToServer.2
    cryptServerToClient := cryptServerToClient.2
    macClientToServer := macClientToServer.2
    macServerToClient := macServerToClient.2
    compressClientToServer := compressClientToServer.2
    compressServerToClient := compressServerToClient.2
    names := fun
      | .kex => kex.1
      | .hostKey => hostKey.1
      | .cryptClientToServer => cryptClientToServer.1
      | .cryptServerToClient => cryptServerToClient.1
      | .macClientToServer => macClientToServer.1
      | .macServerToClient => macServerToClient.1
      | .compressClientToServer => compressClientToServer.1
      | .compressServerToClient => compressServerToClient.1 }

/-- Whether the quirk that makes the client withdraw `compatMethod` is honoured. -/
def Config.kexCompat (config : Config) (compat : CompatOptions) : Bool :=
  !config.disableCompat && compat.curve25519Pad

/-- The methods both `negotiate_methods` put into the client's `SSH_MSG_KEXINIT`. -/
def Config.clientMethods (config : Config) (compat : CompatOptions) : Methods :=
  (Methods.fromConfig config).doCompat (config.kexCompat compat)

/-- What both `negotiate_methods` do with the server's `SSH_MSG_KEXINIT` payload: parse it and
match it against the configuration. -/
def Config.matchServer (config : Config) (payload : Bytes) :
    Except Error (Methods × MatchedMethods) := do
  let serverMethod ← Methods.parse payload
  let matched ← config.negotiate serverMethod
  return (serverMethod, matched)

/-! ## An agreeable server -/

/-- The name lists of a server that supports `kex` and what `Config.accepting` has in the other
slots. -/
def NameLists.agreeable (kex : List Text) : NameLists :=
  { (Methods.fromConfig (Config.accepting (.single [] (.accepting [])) false)).toNameLists with
    kex }

/-- A cookie of zeros. -/
def Cookie.zero : Cookie :=
  ⟨List.replicate 16 0, List.length_replicate⟩

/-- The `SSH_MSG_KEXINIT` of an agreeable server. -/
def NameLists.agreeableKexInit (kex : List Text) : Bytes :=
  makeBufferWithoutHeader (Methods.kexInitFields .zero (.agreeable kex))

end Flatline
