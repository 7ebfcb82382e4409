import Flatline.Common.Trimming
import Flatline.Key.OpenSsh

/-!
# Public key files

A public key comes as one line, its type, its blob in Base64 and a comment, or as the block of
RFC 4716. `decodeBlock` is the function of that name of OpenSSL.

Source: `src/key.rs` (`parse_public_key_file`).
-/

namespace Flatline

/-! ## Text -/

/-- The characters that `char::is_whitespace` holds of, by their octets. -/
def whitespace : List Bytes :=
  [[0x09], [0x0A], [0x0B], [0x0C], [0x0D], [0x20], [0xC2, 0x85], [0xC2, 0xA0], [0xE1, 0x9A, 0x80],
    [0xE2, 0x80, 0x80], [0xE2, 0x80, 0x81], [0xE2, 0x80, 0x82], [0xE2, 0x80, 0x83],
    [0xE2, 0x80, 0x84], [0xE2, 0x80, 0x85], [0xE2, 0x80, 0x86], [0xE2, 0x80, 0x87],
    [0xE2, 0x80, 0x88], [0xE2, 0x80, 0x89], [0xE2, 0x80, 0x8A], [0xE2, 0x80, 0xA8],
    [0xE2, 0x80, 0xA9], [0xE2, 0x80, 0xAF], [0xE2, 0x81, 0x9F], [0xE3, 0x80, 0x80]]

/-- `str::trim`. -/
def trim (text : Text) : Text :=
  Trimming.trimEnd whitespace (Trimming.trimStart whitespace text)

/-- `\r`. -/
def carriageReturn : UInt8 := 0x0D

/-- `\n`. -/
def newline : UInt8 := 0x0A

/-- `replace("\r\n", "\n")`. -/
def replaceCrLf : Text → Text
  | [] => []
  | [octet] => [octet]
  | first :: second :: rest =>
    if first = carriageReturn ∧ second = newline then newline :: replaceCrLf rest
    else first :: replaceCrLf (second :: rest)

/-- `replace('\r', "\n")`. -/
def replaceCr (text : Text) : Text :=
  text.map fun octet => if octet = carriageReturn then newline else octet

/-- `strip_prefix`. -/
def stripPrefix (front text : Text) : Option Text :=
  if front <+: text then some (text.drop front.length) else none

/-- `strip_suffix`. -/
def stripSuffix (back text : Text) : Option Text :=
  if back <:+ text then some (text.take (text.length - back.length)) else none

/-! ## Keys -/

/-- `key::Public`. -/
inductive Public where
  | normal (type : Text) (content : Bytes) (comment : Option Text)
  | certificate (type : Text) (content : Bytes) (comment : Option Text) (publicBlob : Bytes)
      (principals : List Text)
deriving DecidableEq, Repr

namespace Public

def type : Public → Text
  | normal type _ _ | certificate type _ _ _ _ => type

def content : Public → Bytes
  | normal _ content _ | certificate _ content _ _ _ => content

def comment : Public → Option Text
  | normal _ _ comment | certificate _ _ comment _ _ => comment

end Public

/-- `CERT_SUFFIX`. -/
def certSuffix : Text :=
  ascii "-cert-v01@openssh.com"

namespace Parser

open Consumer

/-! ## Certificates -/

/-- The certified key, by the type of the certificate. -/
def certifiedKey (method : Text) : Consumer Bytes :=
  if method = ascii "ssh-ed25519-cert-v01@openssh.com" then do
    let publicKey ← consumeOne
    return makeBufferWithoutHeader [.one publicKey]
  else if method = ascii "ssh-rsa-cert-v01@openssh.com" then do
    let e ← consumeOne
    let n ← consumeOne
    return makeBufferWithoutHeader [.one e, .one n]
  else if method = ascii "ecdsa-sha2-nistp256-cert-v01@openssh.com" ∨
      method = ascii "ecdsa-sha2-nistp384-cert-v01@openssh.com" ∨
      method = ascii "ecdsa-sha2-nistp521-cert-v01@openssh.com" then do
    let curve ← consumeOne
    let publicKey ← consumeOne
    return makeBufferWithoutHeader [.one curve, .one publicKey]
  else if method = ascii "ssh-dss-cert-v01@openssh.com" then do
    let p ← consumeOne
    let q ← consumeOne
    let g ← consumeOne
    let y ← consumeOne
    return makeBufferWithoutHeader [.one p, .one q, .one g, .one y]
  else
    throw (.key (.unsupportedKeyType method))

/-- The loop over the principals. A name takes at least four octets. -/
def principalsLoop : (fuel : ℕ) → Consumer (List Text)
  | 0 => return []
  | fuel + 1 => do
    if (← peek) = [] then return []
    else
      let name ← consumeText keyText
      return name :: (← principalsLoop fuel)

/-- The branch of a certificate: the certified key and the principals. -/
def certificate (method : Text) (content : Bytes) : Except Error (Bytes × List Text) :=
  Consumer.run' (do
    expectOne method (formatError "Mismatch key type")
    let _nonce ← consumeOne
    let publicBlob ← certifiedKey method
    let _serial ← consumeU64
    let _type ← consumeU32
    let _keyId ← consumeOne
    let names ← consumeOne
    let principals ← ofExcept (Consumer.run' (principalsLoop names.length) names)
    let _validAfter ← consumeU64
    let _validBefore ← consumeU64
    let _criticalOptions ← consumeOne
    let _extensions ← consumeOne
    let _reserved ← consumeOne
    let _caPublic ← consumeOne
    let _caSignature ← consumeOne
    return (publicBlob, principals)) content

/-! ## The fields of one line -/

def isSpaceOrTab (octet : UInt8) : Bool :=
  octet == 0x20 || octet == 0x09

/-- The turns of a field's loop that skip a blank. `peek_u8` fails at the end. -/
def skipBlanks : Consumer Unit := fun data =>
  match data.dropWhile isSpaceOrTab with
  | [] => .error (.invalidFormat (ascii "Unexpected end of buffer while reading u8")) []
  | octet :: rest => .ok () (octet :: rest)

/-- `str::from_utf8`. -/
def fromUtf8 (octets : Bytes) : Consumer Text :=
  if utf8Valid octets then return octets else throw keyText

/-- The `for` loop: the octets up to the next blank, if there is one. -/
def untilBlank : Consumer (Option Text) := do
  let data ← peek
  match data.findIdx? isSpaceOrTab with
  | some i =>
    set (data.drop i)
    some <$> fromUtf8 (data.take i)
  | none => return none

/-- The key type, `'out: loop`. -/
def methodField : Consumer Text := do
  skipBlanks
  match ← untilBlank with
  | some method => return method
  | none => throw (formatError "Invalid public key")

/-- The blob, `'method: loop`; the loop of the comment does the same. -/
def wordField : Consumer Text := do
  skipBlanks
  match ← untilBlank with
  | some word => return word
  | none =>
    let data ← peek
    set ([] : Bytes)
    fromUtf8 data

/-- The comment, `'out: while let`: none where nothing but blanks is left. -/
def commentField : Consumer (Option Text) := do
  if (← peek).all isSpaceOrTab then
    set ([] : Bytes)
    return none
  else
    some <$> wordField

/-- The three fields. -/
def lineFields : Consumer (Text × Text × Option Text) := do
  let method ← methodField
  let content ← wordField
  let comment ← commentField
  return (method, content, comment)

/-! ## The block of RFC 4716 -/

/-- `SSH2_PUBLIC_KEY_HEADER`. -/
def ssh2PublicKeyHeader : Text :=
  ascii "---- BEGIN SSH2 PUBLIC KEY ----"

/-- `SSH2_PUBLIC_KEY_FOOTER`. -/
def ssh2PublicKeyFooter : Text :=
  ascii "---- END SSH2 PUBLIC KEY ----"

/-- `"`. -/
def quote : UInt8 := 0x22

/-- Quotes at both ends. -/
def IsQuoted (text : Text) : Prop :=
  2 ≤ text.length ∧ [quote] <+: text ∧ [quote] <:+ text

instance (text : Text) : Decidable (IsQuoted text) :=
  inferInstanceAs (Decidable (_ ∧ _ ∧ _))

/-- The value of the header `Comment`: trimmed, and without one layer of quotes. -/
def ssh2Comment (value : Text) : Text :=
  let comment := trim value
  if IsQuoted comment then (comment.drop 1).take (comment.length - 2) else comment

/-- The comment and the line of Base64, if the text is such a block. -/
def ssh2Block (text : Text) : Option (Text × Text) := do
  let body ← stripPrefix ssh2PublicKeyHeader text
  let body ← stripSuffix ssh2PublicKeyFooter body
  match (trim body).splitOn newline with
  | [first, second] =>
    let comment ← stripPrefix (ascii "Comment:") first
    return (ssh2Comment comment, second)
  | _ => none

/-! ## Files -/

/-- `decode_block(..).context(builder::OpenSSL)`. -/
def decoded (decodeBlock : Text → Option Bytes) (text : Text) : Except Error Bytes :=
  match decodeBlock text with
  | some octets => .ok octets
  | none => .error .openssl

/-- The key of a line, once its blob is decoded. -/
def lineKey (method : Text) (content : Bytes) (comment : Option Text) : Except Error Public :=
  if certSuffix <:+ method then do
    let (publicBlob, principals) ← certificate method content
    return .certificate method content comment publicBlob principals
  else
    return .normal method content comment

/-- `parse_public_key_file`. -/
def parsePublicKeyFile (decodeBlock : Text → Option Bytes) (content : Bytes) :
    Except Error Public :=
  if ¬ utf8Valid content then throw keyText
  else
    let text := trim (replaceCr (replaceCrLf content))
    match ssh2Block text with
    | some (comment, line) => do
      let content ← decoded decodeBlock line
      let type ← Consumer.run' (consumeText keyText) content
      return .normal type content (some comment)
    | none => do
      let (method, content, comment) ← Consumer.run' lineFields text
      let content ← decoded decodeBlock content
      lineKey method content comment

end Parser

end Flatline
