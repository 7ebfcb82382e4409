import Flatline.Common.ReceiveLoop
import Flatline.Kex.Config

/-!
# The identification exchange

`banner_version_exchange` reads lines ended by CRLF, at most 255 octets of them, until the one that
starts with `SSH-`. A socket read adds an arbitrary chunk to the read buffer, and every search for
the end of a line starts at the front of the buffer, so only the octets matter and not how they were
cut.

Source: `src/stream.rs` (`read_line_crlf`), `src/session/handshake.rs`
(`banner_version_exchange`).
-/

namespace Flatline

open ReceiveLoop

/-! ## Lines -/

/-- `protocol::BANNER_ENDING`. -/
def bannerEnding : Bytes := [0x0D, 0x0A]

/-- The search of `read_line_crlf` through what is left of the read buffer at index `i`: nothing
found, too long, or the length of the line. -/
def scanLine (max : ℕ) : (i : ℕ) → Bytes → Option (Option ℕ)
  | _, [] => none
  | i, b :: rest =>
    if i = max - 1 then some none
    else if b = 0x0D ∧ rest.head? = some 0x0A then some (some (i + 2))
    else scanLine max (i + 1) rest

/-- The loop of `read_line_crlf`; `closed` tells what follows the reads, the end of the connection
or nothing yet. It returns the line and the rest of the read buffer. -/
def readLineLoop (max : ℕ) (closed : Bool) :
    (rBuf : Bytes) → (reads : List Bytes) → Outcome Error Bytes (Bytes × Bytes)
  | rBuf, [] =>
    match scanLine max 0 rBuf with
    | some (some len) => .finished (rBuf.take len, rBuf.drop len) []
    | some none => .failed .io
    | none => if closed then .failed .io else .waiting
  | rBuf, read :: reads =>
    match scanLine max 0 rBuf with
    | some (some len) => .finished (rBuf.take len, rBuf.drop len) (read :: reads)
    | some none => .failed .io
    | none => if read = [] then .failed .io else readLineLoop max closed (rBuf ++ read) reads

/-- `BufferStream::read_line_crlf`. -/
def readLineCrlf (max : ℕ) (closed : Bool) (rBuf : Bytes) (reads : List Bytes) :
    Outcome Error Bytes (Bytes × Bytes) :=
  if max < 2 then .failed .io else readLineLoop max closed rBuf reads

/-- `trim_end_matches(BANNER_ENDING)` on the octets in reverse. -/
def trimFront : Bytes → Bytes
  | 0x0A :: 0x0D :: rest => trimFront rest
  | line => line

/-- `trim_end_matches(BANNER_ENDING)`. -/
def trimEnding (line : Bytes) : Bytes :=
  (trimFront line.reverse).reverse

/-! ## Identification lines -/

/-- `[0-9]`. -/
def isDigit (b : UInt8) : Bool := 0x30 ≤ b && b ≤ 0x39

/-- `[!-~]`. -/
def isGraphic (b : UInt8) : Bool := 0x21 ≤ b && b ≤ 0x7E

/-- `[ -~]`. -/
def isPrintable (b : UInt8) : Bool := 0x20 ≤ b && b ≤ 0x7E

/-- The captures of the expression for identification lines. -/
structure Captures where
  version : Text
  software : Text
  comment : Option Text
deriving DecidableEq, Repr

/-- `[0-9]+(?:\.[0-9]+)*`. -/
def isVersion (version : Text) : Bool :=
  (version.splitOn 0x2E).all fun part => part ≠ [] ∧ part.all isDigit

/-- `\r?\n?$`. -/
def isLineEnd (tail : Bytes) : Bool :=
  tail = [] ∨ tail = [0x0D] ∨ tail = [0x0A] ∨ tail = [0x0D, 0x0A]

/-- The end of the expression, after the software version. -/
def captureComment (version software tail : Text) : Option Captures :=
  match tail with
  | 0x20 :: more =>
    if isLineEnd (more.dropWhile isPrintable) then
      some ⟨version, software, some (more.takeWhile isPrintable)⟩
    else none
  | tail => if isLineEnd tail then some ⟨version, software, none⟩ else none

/-- `re.captures(line)`. The classes of characters do not overlap where one repetition follows
another, so that each takes as much as it can. -/
def captures (line : Text) : Option Captures :=
  if (ascii "SSH-").isPrefixOf line then
    let rest := line.drop 4
    let version := rest.takeWhile fun b => isDigit b || b = 0x2E
    match rest.dropWhile fun b => isDigit b || b = 0x2E with
    | 0x2D :: rest =>
      let software := rest.takeWhile isGraphic
      if isVersion version ∧ software ≠ [] then
        captureComment version software (rest.dropWhile isGraphic)
      else none
    | _ => none
  else none

/-- The quirks of a server that has sent such a line. -/
def Captures.compatOptions (caps : Captures) : CompatOptions :=
  match caps.comment with
  | some comment => CompatOptions.parse (caps.software ++ 0x20 :: comment)
  | none => CompatOptions.parse caps.software

/-! ## The exchange -/

/-- What the exchange leaves in the handshaker, and in the read buffer for the packet layer. -/
structure Identified where
  serverVersion : Text
  serverBanner : List Text
  compatOptions : CompatOptions
  rBuf : Bytes
deriving DecidableEq, Repr

/-- What is sent: the client's own banner, if it has one, and its version. -/
def identificationText (banner : List Text) (clientVersion : Text) : Bytes :=
  (if banner = [] then [] else bannerEnding.intercalate banner ++ bannerEnding) ++
    clientVersion ++ bannerEnding

/-- The longest banner, the identification line included. -/
def maxBanner : ℕ := 255

/-- A line of the loop of `banner_version_exchange`: an error, the end, or another banner line. -/
def onLine (line rBuf : Bytes) (lines : List Text) : Except Error (Turn (List Text) Identified) :=
  if utf8Valid line then
    let line := trimEnding line
    if (ascii "SSH-").isPrefixOf line then
      match captures line with
      | some caps =>
        if caps.version ≠ ascii "2.0" ∧ caps.version ≠ ascii "1.99" then
          .error (.handshake (.unsupportedVersion line))
        else
          .ok (.done ⟨line, lines, caps.compatOptions, rBuf⟩)
      | none => .error (.handshake (.unexpectedServerBanner line))
    else .ok (.again (lines ++ [line]))
  else .error (.handshake .invalidBanner)

/-- The loop of `banner_version_exchange`, for so many turns; `count` octets have been read. -/
def bannerLoop (closed : Bool) : (turns count : ℕ) → (lines : List Text) → (rBuf : Bytes) →
    (reads : List Bytes) → Outcome Error Bytes Identified
  | 0, _, _, _, _ => .waiting
  | turns + 1, count, lines, rBuf, reads =>
    if count < maxBanner then
      (readLineCrlf (maxBanner - count) closed rBuf reads).andThen fun (line, rBuf) reads =>
        match onLine line rBuf lines with
        | .error e => .failed e
        | .ok (.done identified) => .finished identified reads
        | .ok (.again lines) => bannerLoop closed turns (count + line.length) lines rBuf reads
    else .failed (.handshake .bannerTooLong)

/-- `banner_version_exchange` on a new socket: `flushed` tells whether the socket takes what is
sent. Every turn but the last one reads a line, so there are fewer turns than octets. -/
def bannerVersionExchange (banner : List Text) (clientVersion : Text) (flushed : Bytes → Bool)
    (closed : Bool) (reads : List Bytes) : Outcome Error Bytes Identified :=
  if flushed (identificationText banner clientVersion) then
    bannerLoop closed (maxBanner + 1) 0 [] [] reads
  else .failed .io

end Flatline
