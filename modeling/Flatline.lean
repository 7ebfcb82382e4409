import Flatline.Cipher.Agreement
import Flatline.Cipher.Blobs
import Flatline.Cipher.BlockCiphers
import Flatline.Cipher.ChachaPoly
import Flatline.Cipher.DiffieHellman
import Flatline.Cipher.GaloisCounter
import Flatline.Cipher.GaloisCounterPackets
import Flatline.Cipher.Integers
import Flatline.Cipher.Signatures
import Flatline.Common.Base64
import Flatline.Common.BlockCoder
import Flatline.Common.BlockModes
import Flatline.Common.Trimming
import Flatline.Kex.ExchangeMethods
import Flatline.Kex.IdentificationForms
import Flatline.Kex.KexInitWire
import Flatline.Kex.Negotiation
import Flatline.Kex.StrictKex
import Flatline.Key.CurveIdentifiers
import Flatline.Key.OpenSsh
import Flatline.Key.OpenSshEncoding
import Flatline.Key.PublicFileForms
import Flatline.Key.PublicFileText
import Flatline.Key.PublicFiles
import Flatline.Scp.Downloads
import Flatline.Scp.Sync
import Flatline.Session.BufferReads
import Flatline.Session.BufferWrites
import Flatline.Session.Cleaning
import Flatline.Session.ClosedMarks
import Flatline.Session.Compressed
import Flatline.Session.KexInits
import Flatline.Session.Negotiations
import Flatline.Session.OpenAnswers
import Flatline.Session.OwnReplies
import Flatline.Session.PublicKey
import Flatline.Session.ReceiveWindow
import Flatline.Session.Rejections
import Flatline.Session.RekeyFailures
import Flatline.Session.RequestForms
import Flatline.Session.SendLoop
import Flatline.Session.ServerRequests
import Flatline.Session.TcpForward
import Flatline.Session.TtyModes
import Flatline.Sftp.Decoding
import Flatline.Transport.Answers
import Flatline.Transport.CancelSafety
import Flatline.Transport.Compression
import Flatline.Transport.Counters
import Flatline.Transport.Embedding
import Flatline.Transport.PlainRoundTrip
import Flatline.Transport.Suites
import Flatline.Wire.ParseMessages
import Flatline.Wire.SliceCalls
