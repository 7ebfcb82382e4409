import Flatline.Wire.Text

/-!
# Errors

The error values of the client, one enumeration per layer as in the source. A variant whose
payload is a foreign error object (`std::io::Error`, an OpenSSL error stack, a UTF-8 decoding
error) carries no payload here.
-/

namespace Flatline

/-- `ssh::Error`: errors of the binary packet protocol. -/
inductive TransportError where
  | payloadTooLong (maximum actual : ℕ)
  | packetTooLong (maximum actual : ℕ)
  | payloadIsEmpty
  | macVerificationFailed
  | unexpectedPaddingLength
  | expectString
deriving DecidableEq, Repr

/-- `cipher::Error`. -/
inductive CipherError where
  | invalidPrime
  | compressError
  | macVerificationFailed
  | mismatchKey
  | signatureVerificationFailed
  | keyLengthMismatch
deriving DecidableEq, Repr

/-- `handshake::Error`: failures of version exchange, negotiation and key exchange. -/
inductive HandshakeError where
  | bannerTooLong
  | unsupportedVersion (version : Text)
  | invalidBanner
  | invalidString
  | negotiationFailed
  | signatureVerificationFailed
  | serverHostKeyRejectedByUser
  | unexpectedMessageInStrictMode (code : UInt8)
  | unexpectedDisconnectMessage (reason : UInt32) (description : Text)
  | unexpectedServerBanner (banner : Text)
deriving DecidableEq, Repr

/-- `sftp::Error`. The eight variants of a status carry the server's text. -/
inductive SftpError where
  | unexpectedEof (msg : Text)
  | noSuchFile (msg : Text)
  | permissionDenied (msg : Text)
  | failure (msg : Text)
  | badMessage (msg : Text)
  | noConnection (msg : Text)
  | connectionLost (msg : Text)
  | opUnsupported (msg : Text)
  | unexpectedMessage (code : UInt8)
  | unexpectedStatus (status : UInt32)
  | mismatchResponse (expected got : UInt32)
  | unexpectedResponse
deriving DecidableEq, Repr

/-- `scp::Error`. A failure and a critical error carry the server's text. -/
inductive ScpError where
  | failure (msg : Text)
  | critical (msg : Text)
  | unexpectedResponse (detail : Text)
  | unexpectedErrorMessage
  | invalidTargetName
deriving DecidableEq, Repr

/-- `session::Error`: failures of the connection layer. -/
inductive SessionError where
  | unexpectedBehaviour (detail : Text)
  | unexpectedService (expect actual : Text)
  | channelOpenFailure (reasonCode : UInt32) (description : Text)
  | channelFailure
  | channelAlreadyOpen
  | unexpectedMessage (detail : Text)
  | disconnected (reason : UInt32) (description : Text)
  | unsupportedKeyType (type : Text)
  | requestFailure
  | invalidPort
  | unexpectedChannelClosed
  | unexpectedWindowSize
  | channelWindowOverflow
  | sshFileTransferProtocolError (source : SftpError)
  | secureCopyProtocolError (source : ScpError)
deriving DecidableEq, Repr

/-- `key::Error`: failures of reading a key file. -/
inductive KeyError where
  | wrongPassphrase
  | unsupportedKeyType (type : Text)
  | decryptionError
  | formatError (detail : Text)
  | unsupportedFeature (detail : Text)
  | unsupportedAlgorithm (detail : Text)
  | textError
deriving DecidableEq, Repr

/-- `error::Error`: the error type of the crate. -/
inductive Error where
  | invalidFormat (detail : Text)
  | transport (source : TransportError)
  | io
  | openssl
  | invalidOperation (detail : Text)
  | cipher (source : CipherError)
  | handshake (source : HandshakeError)
  | session (source : SessionError)
  | key (source : KeyError)
  | invalidArgument (detail : Text)
deriving DecidableEq, Repr

/-- How a function that may panic ends early. -/
inductive Abort where
  | error (e : Error)
  | panic
deriving DecidableEq, Repr

end Flatline
