import Flatline.Kex.IdentificationLines
import Mathlib

/-!
# Introductions of a server

A server introduces itself with lines of text and its identification line. `Introduction` is this
form of a stream: the exchange succeeds on it, and on nothing else.

Source: `src/session/handshake.rs` (`banner_version_exchange`), `src/stream.rs`
(`read_line_crlf`).
-/

namespace Flatline

open ReceiveLoop

/-! ## The forms of the lines -/

/-- An identification line of a version that the client speaks, without the CRLF that ends it. The
expression for these lines takes one more CR or LF before that. -/
structure Identification where
  version : Text
  software : Text
  comment : Option Text
  stray : Bytes
  supported : version = ascii "2.0" ∨ version = ascii "1.99"
  software_ne : software ≠ []
  graphic : ∀ b ∈ software, isGraphic b = true
  printable : ∀ text ∈ comment, ∀ b ∈ text, isPrintable b = true
  stray_eq : stray = [] ∨ stray = [0x0D] ∨ stray = [0x0A]

/-- The comment, after its space. -/
def commentText : Option Text → Text
  | none => []
  | some comment => 0x20 :: comment

/-- `SSH-version-software comment`. -/
def Identification.text (id : Identification) : Text :=
  ascii "SSH-" ++ (id.version ++ 0x2D :: (id.software ++ (commentText id.comment ++ id.stray)))

/-- What the expression captures of the line. -/
def Identification.captured (id : Identification) : Captures :=
  ⟨id.version, id.software, id.comment⟩

/-- A line of text before the identification line. -/
structure BannerLine where
  text : Text
  isLine : IsLine text
  valid : utf8Valid (text ++ bannerEnding) = true
  other : (ascii "SSH-").isPrefixOf text = false

/-- The lines of text and the identification line that a server sends first. -/
structure Introduction where
  lines : List BannerLine
  identification : Identification

/-- The octets of an introduction. -/
def Introduction.text (intro : Introduction) : Bytes :=
  intro.lines.flatMap (fun line => line.text ++ bannerEnding) ++
    (intro.identification.text ++ bannerEnding)

/-! ## The expression -/

theorem isPrintable_lt {b : UInt8} (h : isPrintable b = true) : b < 0x80 ∧ b ≠ 0x0D ∧ b ≠ 0x0A := by
  simp only [isPrintable, Bool.and_eq_true, decide_eq_true_eq] at h
  grind

theorem isPrintable_of_isGraphic {b : UInt8} (h : isGraphic b = true) : isPrintable b = true := by
  simp only [isGraphic, isPrintable, Bool.and_eq_true, decide_eq_true_eq] at h ⊢
  grind

/-- A repetition of a class takes all octets of the class, when one that is not in it follows. -/
theorem takeWhile_dropWhile_append {p : UInt8 → Bool} {xs ys : Bytes} (hxs : ∀ b ∈ xs, p b = true)
    (hys : ∀ b ∈ ys.head?, p b = false) :
    (xs ++ ys).takeWhile p = xs ∧ (xs ++ ys).dropWhile p = ys := by
  rw [List.takeWhile_append_of_pos hxs, List.dropWhile_append_of_pos hxs]
  cases ys with
  | nil => exact ⟨List.append_nil xs, rfl⟩
  | cons b ys =>
    have hb : ¬ p b = true := by simp [hys b rfl]
    rw [List.takeWhile_cons_of_neg hb, List.dropWhile_cons_of_neg hb, List.append_nil]
    exact ⟨rfl, rfl⟩

theorem captureComment_text (version software : Text) {comment : Option Text} {stray : Bytes}
    (hprintable : ∀ text ∈ comment, ∀ b ∈ text, isPrintable b = true)
    (hstray : stray = [] ∨ stray = [0x0D] ∨ stray = [0x0A]) :
    captureComment version software (commentText comment ++ stray) =
      some ⟨version, software, comment⟩ := by
  have hend : isLineEnd stray = true := by rcases hstray with rfl | rfl | rfl <;> rfl
  cases comment with
  | none => rcases hstray with rfl | rfl | rfl <;> rfl
  | some text =>
    have hhead : ∀ b ∈ stray.head?, isPrintable b = false := by
      rcases hstray with rfl | rfl | rfl <;> simp [isPrintable]
    obtain ⟨htake, hdrop⟩ := takeWhile_dropWhile_append (hprintable text rfl) hhead
    change (if isLineEnd ((text ++ stray).dropWhile isPrintable) = true then
      some (⟨version, software, some ((text ++ stray).takeWhile isPrintable)⟩ : Captures)
      else none) = _
    rw [htake, hdrop, if_pos hend]

theorem exists_comment {version software tail : Text} {caps : Captures}
    (h : captureComment version software tail = some caps) :
    ∃ comment stray, tail = commentText comment ++ stray ∧ isLineEnd stray = true ∧
      (∀ text ∈ comment, ∀ b ∈ text, isPrintable b = true) ∧
      caps = ⟨version, software, comment⟩ := by
  unfold captureComment at h
  split at h
  · next more =>
    split at h
    · next hend =>
      cases h
      refine ⟨some (more.takeWhile isPrintable), more.dropWhile isPrintable, ?_, hend, ?_, rfl⟩
      · rw [commentText, List.cons_append, List.takeWhile_append_dropWhile]
      · rintro text ⟨⟩ b hb
        exact List.mem_takeWhile_imp hb
    · cases h
  · split at h
    · next hend =>
      cases h
      exact ⟨none, _, rfl, hend, by simp, rfl⟩
    · cases h

/-- The expression matches an identification line, with its parts as the captures. -/
theorem captures_text (id : Identification) : captures id.text = some id.captured := by
  have hversion : ∀ b ∈ id.version, (isDigit b || decide (b = 0x2E)) = true := by
    rcases id.supported with h | h <;> rw [h] <;> exact List.all_eq_true.mp (by decide)
  have hversion_is : isVersion id.version = true := by
    rcases id.supported with h | h <;> rw [h] <;> decide
  let after := id.software ++ (commentText id.comment ++ id.stray)
  have hdash : ∀ b ∈ (0x2D :: after).head?, (isDigit b || decide (b = 0x2E)) = false := by
    rintro b ⟨⟩
    rfl
  have htail : ∀ b ∈ (commentText id.comment ++ id.stray).head?, isGraphic b = false := by
    rcases id.comment with _ | comment
    · rcases id.stray_eq with h | h | h <;> rw [h] <;> simp [commentText, isGraphic]
    · simp [commentText, isGraphic]
  obtain ⟨htake, hdrop⟩ := takeWhile_dropWhile_append hversion hdash
  obtain ⟨htake', hdrop'⟩ := takeWhile_dropWhile_append id.graphic htail
  have hbegins : (ascii "SSH-").isPrefixOf id.text = true :=
    List.isPrefixOf_iff_prefix.mpr (List.prefix_append _ _)
  have hrest : id.text.drop 4 = id.version ++ 0x2D :: after := List.drop_left' rfl
  unfold captures
  rw [if_pos hbegins, hrest]
  dsimp only
  rw [htake, hdrop]
  change (if isVersion id.version = true ∧ after.takeWhile isGraphic ≠ [] then
    captureComment id.version (after.takeWhile isGraphic) (after.dropWhile isGraphic) else none) = _
  rw [htake', hdrop', if_pos ⟨hversion_is, id.software_ne⟩]
  exact captureComment_text _ _ id.printable id.stray_eq

/-- What the expression matches on a line, with a version that the client speaks, is an
identification line. -/
theorem exists_identification {line : Text} {caps : Captures} (hline : IsLine line)
    (hcaptures : captures line = some caps)
    (hversion : caps.version = ascii "2.0" ∨ caps.version = ascii "1.99") :
    ∃ id : Identification, id.text = line ∧ id.captured = caps := by
  unfold captures at hcaptures
  split at hcaptures
  · next hbegins =>
    obtain ⟨rest, rfl⟩ := List.isPrefixOf_iff_prefix.mp hbegins
    have hrest : (ascii "SSH-" ++ rest).drop 4 = rest := List.drop_left' rfl
    rw [hrest] at hcaptures
    have hsplit := List.takeWhile_append_dropWhile (p := fun b => isDigit b || b = 0x2E) (l := rest)
    dsimp only at hcaptures
    split at hcaptures
    · next after hafter =>
      rw [hafter] at hsplit
      split at hcaptures
      · next hsoftware =>
        obtain ⟨comment, stray, htail, hend, hprintable, rfl⟩ := exists_comment hcaptures
        have hgraphic : ∀ b ∈ after.takeWhile isGraphic, isGraphic b = true :=
          fun b hb => List.mem_takeWhile_imp hb
        have hafter : after = after.takeWhile isGraphic ++ (commentText comment ++ stray) := by
          rw [← htail, List.takeWhile_append_dropWhile]
        have hstray : stray = [] ∨ stray = [0x0D] ∨ stray = [0x0A] := by
          simp only [isLineEnd, decide_eq_true_eq] at hend
          rcases hend with h | h | h | rfl
          · exact .inl h
          · exact .inr (.inl h)
          · exact .inr (.inr h)
          · -- no line ends in a CRLF of its own
            exfalso
            have hsuffix : bannerEnding <:+ after := by
              rw [hafter]
              exact (List.suffix_append _ _).trans (List.suffix_append _ _)
            have hrest : after <:+ rest := by
              rw [← hsplit]
              exact (List.suffix_cons _ _).trans (List.suffix_append _ _)
            exact hline ((hsuffix.trans hrest).trans (List.suffix_append _ _)).isInfix
        refine ⟨⟨_, _, comment, stray, hversion, hsoftware.2, hgraphic, hprintable, hstray⟩, ?_, rfl⟩
        rw [Identification.text, ← hafter, hsplit]
      · cases hcaptures
    · cases hcaptures
  · cases hcaptures

/-! ## Lines as the exchange takes them -/

theorem Identification.mem_text {id : Identification} {b : UInt8} (h : b ∈ id.text) :
    isPrintable b = true ∨ b ∈ id.stray := by
  have hversion : ∀ b ∈ id.version, isPrintable b = true := by
    rcases id.supported with h | h <;> rw [h] <;> exact List.all_eq_true.mp (by decide)
  have hcomment : ∀ b ∈ commentText id.comment, isPrintable b = true := by
    intro b hb
    cases hc : id.comment with
    | none =>
      rw [hc] at hb
      cases hb
    | some comment =>
      rw [hc] at hb
      rcases List.mem_cons.mp hb with rfl | hb
      · rfl
      · exact id.printable comment hc b hb
  rw [Identification.text] at h
  simp only [List.mem_append, List.mem_cons] at h
  rcases h with h | h | rfl | h | h | h
  · have hall : (ascii "SSH-").all isPrintable = true := by decide
    exact .inl (List.all_eq_true.mp hall b h)
  · exact .inl (hversion b h)
  · exact .inl rfl
  · exact .inl (isPrintable_of_isGraphic (id.graphic b h))
  · exact .inl (hcomment b h)
  · exact .inr h

theorem Identification.isLine_text (id : Identification) : IsLine id.text := by
  intro hsub
  have hcr := Identification.mem_text (hsub.subset (by decide : (0x0D : UInt8) ∈ bannerEnding))
  have hlf := Identification.mem_text (hsub.subset (by decide : (0x0A : UInt8) ∈ bannerEnding))
  rcases id.stray_eq with h | h | h <;> rw [h] at hcr hlf <;> revert hcr hlf <;> decide

theorem Identification.utf8Valid_text (id : Identification) :
    utf8Valid (id.text ++ bannerEnding) = true := by
  apply utf8Valid_of_forall_lt
  intro b hb
  rcases List.mem_append.mp hb with hb | hb
  · rcases Identification.mem_text hb with hb | hb
    · exact (isPrintable_lt hb).1
    · rcases id.stray_eq with h | h | h <;> rw [h] at hb
      · cases hb
      · rw [List.mem_singleton.mp hb]
        decide
      · rw [List.mem_singleton.mp hb]
        decide
  · have hall : bannerEnding.all (· < 0x80) = true := by decide
    exact of_decide_eq_true (List.all_eq_true.mp hall b hb)

theorem onLine_bannerLine (line : BannerLine) (rBuf : Bytes) (lines : List Text) :
    onLine (line.text ++ bannerEnding) rBuf lines = .ok (.again (lines ++ [line.text])) := by
  have hother : ¬ (ascii "SSH-").isPrefixOf line.text = true := by simp [line.other]
  rw [onLine, if_pos line.valid, trimEnding_line line.isLine]
  exact if_neg hother

theorem onLine_identification (id : Identification) (rBuf : Bytes) (lines : List Text) :
    onLine (id.text ++ bannerEnding) rBuf lines =
      .ok (.done ⟨id.text, lines, id.captured.compatOptions, rBuf⟩) := by
  have hbegins : (ascii "SSH-").isPrefixOf id.text = true :=
    List.isPrefixOf_iff_prefix.mpr (List.prefix_append _ _)
  have hversion : ¬ (id.captured.version ≠ ascii "2.0" ∧ id.captured.version ≠ ascii "1.99") := by
    rintro ⟨htwo, hone⟩
    exact id.supported.elim htwo hone
  rw [onLine, if_pos id.utf8Valid_text, trimEnding_line id.isLine_text]
  dsimp only
  rw [if_pos hbegins, captures_text]
  exact if_neg hversion

/-- What a line comes to tells what it is. -/
theorem turn_of_onLine {content rBuf : Bytes} (hline : IsLine content) {lines : List Text}
    {turn : Turn (List Text) Identified}
    (h : onLine (content ++ bannerEnding) rBuf lines = .ok turn) :
    (∃ line : BannerLine, line.text = content ∧ turn = .again (lines ++ [line.text])) ∨
      ∃ id : Identification, id.text = content ∧ ∃ identified, turn = .done identified := by
  unfold onLine at h
  split at h
  · next hvalid =>
    rw [trimEnding_line hline] at h
    dsimp only at h
    split at h
    · split at h
      · next caps hcaptures =>
        split at h
        · cases h
        · next hversion =>
          cases h
          have hsupported : caps.version = ascii "2.0" ∨ caps.version = ascii "1.99" := by
            by_contra hnone
            exact hversion (not_or.mp hnone)
          obtain ⟨id, htext, -⟩ := exists_identification hline hcaptures hsupported
          exact .inr ⟨id, htext, _, rfl⟩
      · cases h
    · next hother =>
      cases h
      exact .inl ⟨⟨content, hline, hvalid, Bool.eq_false_iff.mpr hother⟩, rfl, rfl⟩
  · cases h

/-! ## One line on all octets at once -/

theorem readLineCrlf_line {content : Bytes} (hline : IsLine content) {max : ℕ}
    (hmax : content.length + 2 ≤ max) (closed : Bool) (rest : Bytes) :
    readLineCrlf max closed (content ++ (bannerEnding ++ rest)) [] =
      .finished (content ++ bannerEnding, rest) [] := by
  have hlen : (content ++ bannerEnding).length = 0 + content.length + 2 := by
    rw [List.length_append, Nat.zero_add]
    rfl
  rw [readLineCrlf, if_neg (by omega), readLineLoop_nil, scanLine_line hline rest (by omega),
    if_pos (by omega)]
  dsimp only
  rw [← List.append_assoc, List.take_left' hlen, List.drop_left' hlen]

theorem line_of_readLineCrlf {max : ℕ} {closed : Bool} {s line rest : Bytes} {reads : List Bytes}
    (h : readLineCrlf max closed s [] = .finished (line, rest) reads) :
    reads = [] ∧ ∃ content, IsLine content ∧ line = content ++ bannerEnding ∧ s = line ++ rest ∧
      line.length ≤ max := by
  unfold readLineCrlf at h
  split at h
  · cases h
  · rw [readLineLoop_nil] at h
    split at h
    · next len hscan =>
      cases h
      obtain ⟨content, more, rfl, hline, rfl, hle⟩ := line_of_scanLine (by omega) hscan
      have hlen : (content ++ bannerEnding).length = 0 + content.length + 2 := by
        rw [List.length_append, Nat.zero_add]
        rfl
      rw [← List.append_assoc, List.take_left' hlen, List.drop_left' hlen]
      exact ⟨rfl, content, hline, rfl, rfl, by omega⟩
    · cases h
    · split at h <;> cases h

/-- A line that does not come is one of an open connection, and the limit has not been reached. -/
theorem length_of_readLineCrlf {max : ℕ} {closed : Bool} {s : Bytes}
    (h : readLineCrlf max closed s [] = .waiting) : closed = false ∧ s.length < max := by
  unfold readLineCrlf at h
  split at h
  · cases h
  · rw [readLineLoop_nil] at h
    split at h
    · cases h
    · cases h
    · next hscan =>
      split at h
      · cases h
      · next hopen =>
        have hlength := length_of_scanLine (by omega) hscan
        exact ⟨Bool.eq_false_iff.mpr hopen, by omega⟩

/-! ## The exchange on all octets at once -/

/-- What the exchange leaves of an introduction, in a handshaker that has kept the lines `done`
already. -/
def Introduction.identified (intro : Introduction) (done : List Text) (rest : Bytes) : Identified :=
  ⟨intro.identification.text, done ++ intro.lines.map BannerLine.text,
    intro.identification.captured.compatOptions, rest⟩

theorem Introduction.text_cons (line : BannerLine) (lines : List BannerLine)
    (id : Identification) :
    Introduction.text ⟨line :: lines, id⟩ =
      line.text ++ (bannerEnding ++ Introduction.text ⟨lines, id⟩) := by
  simp only [Introduction.text, List.flatMap_cons, List.append_assoc]

theorem bannerEnding_length : bannerEnding.length = 2 := rfl

/-- An introduction within the limit is taken line by line, up to its end. -/
theorem bannerLoop_introduction (closed : Bool) (id : Identification) (rest : Bytes)
    (lines : List BannerLine) {turns count : ℕ} {done : List Text} (hturns : lines.length < turns)
    (hcount : count + (Introduction.text ⟨lines, id⟩).length ≤ maxBanner) :
    bannerLoop closed turns count done (Introduction.text ⟨lines, id⟩ ++ rest) [] =
      .finished (Introduction.identified ⟨lines, id⟩ done rest) [] := by
  induction lines generalizing turns count done with
  | nil =>
    obtain ⟨turns, rfl⟩ := Nat.exists_eq_add_of_lt hturns
    have htext : Introduction.text ⟨[], id⟩ = id.text ++ bannerEnding := rfl
    rw [htext, List.length_append, bannerEnding_length] at hcount
    rw [htext, List.append_assoc, bannerLoop, if_pos (by omega),
      readLineCrlf_line id.isLine_text (by omega)]
    dsimp only [Outcome.andThen]
    rw [onLine_identification]
    simp [Introduction.identified]
  | cons line lines ih =>
    obtain ⟨turns, rfl⟩ : ∃ n, turns = n + 1 := ⟨turns - 1, by omega⟩
    rw [Introduction.text_cons, List.length_append, List.length_append, bannerEnding_length]
      at hcount
    rw [Introduction.text_cons, List.append_assoc, List.append_assoc, bannerLoop,
      if_pos (by omega), readLineCrlf_line line.isLine (by omega)]
    dsimp only [Outcome.andThen]
    rw [onLine_bannerLine]
    dsimp only
    rw [ih (by simpa using hturns)
      (by rw [List.length_append, bannerEnding_length]; omega)]
    simp [Introduction.identified]

/-- What the exchange succeeds on starts with an introduction within the limit. -/
theorem introduction_of_bannerLoop {closed : Bool} {turns count : ℕ} {done : List Text} {s : Bytes}
    {identified : Identified} {reads : List Bytes} (hcount : count ≤ maxBanner)
    (h : bannerLoop closed turns count done s [] = .finished identified reads) :
    ∃ (intro : Introduction) (rest : Bytes), s = intro.text ++ rest ∧
      count + intro.text.length ≤ maxBanner := by
  induction turns generalizing count done s with
  | zero => cases h
  | succ turns ih =>
    unfold bannerLoop at h
    split at h
    · obtain ⟨⟨line, rest⟩, reads', hread, hrest⟩ := Outcome.andThen_eq_finished_iff.mp h
      obtain ⟨rfl, content, hcontent, rfl, rfl, hle⟩ := line_of_readLineCrlf hread
      dsimp only at hrest
      split at hrest
      · cases hrest
      · next hturn =>
        obtain ⟨line, -, hagain⟩ | ⟨id, rfl, -⟩ := turn_of_onLine hcontent hturn
        · cases hagain
        · refine ⟨⟨[], id⟩, rest, rfl, ?_⟩
          change count + (id.text ++ bannerEnding).length ≤ maxBanner
          omega
      · next hturn =>
        obtain ⟨line, rfl, -⟩ | ⟨id, -, _, hdone⟩ := turn_of_onLine hcontent hturn
        · obtain ⟨⟨lines, id⟩, rest', rfl, hlength⟩ := ih (by omega) hrest
          refine ⟨⟨line :: lines, id⟩, rest', ?_, ?_⟩
          · rw [Introduction.text_cons]
            simp only [List.append_assoc]
          · rw [Introduction.text_cons, ← List.append_assoc, List.length_append]
            omega
        · cases hdone
    · cases h

/-- An exchange that waits for octets has not come to the limit, and can still get them. The octets
of every turn pay for it, so that the turns do not run out before. -/
theorem length_of_bannerLoop {closed : Bool} {turns count : ℕ} {done : List Text} {s : Bytes}
    (hcount : count ≤ maxBanner) (hturns : maxBanner < turns + count)
    (h : bannerLoop closed turns count done s [] = .waiting) :
    closed = false ∧ count + s.length < maxBanner := by
  induction turns generalizing count done s with
  | zero => omega
  | succ turns ih =>
    unfold bannerLoop at h
    split at h
    · next hlimit =>
      cases hread : readLineCrlf (maxBanner - count) closed s [] with
      | waiting =>
        obtain ⟨hopen, hlength⟩ := length_of_readLineCrlf hread
        exact ⟨hopen, by omega⟩
      | failed e =>
        rw [hread] at h
        cases h
      | finished result reads =>
        obtain ⟨line, rest⟩ := result
        obtain ⟨rfl, content, -, rfl, rfl, hle⟩ := line_of_readLineCrlf hread
        rw [hread] at h
        dsimp only [Outcome.andThen] at h
        have hpos : 2 ≤ (content ++ bannerEnding).length := by
          rw [List.length_append, bannerEnding_length]
          omega
        split at h
        · cases h
        · cases h
        · obtain ⟨hopen, hlength⟩ := ih (by omega) (by omega) h
          refine ⟨hopen, ?_⟩
          rw [List.length_append]
          omega
    · cases h

/-! ## The exchange -/

/-- The stream completes an introduction within the limit. -/
def Introduces (s : Bytes) : Prop :=
  ∃ (intro : Introduction) (rest : Bytes), s = intro.text ++ rest ∧ intro.text.length ≤ maxBanner

/-- The outcome of the exchange depends on the octets of the server alone, however the socket cuts
them. It succeeds on an introduction of at most 255 octets, with its lines, the identification line
and all octets after it; when no introduction is completed within 255 octets, it fails. -/
theorem bannerVersionExchange_outcome (banner : List Text) (clientVersion : Text)
    (flushed : Bytes → Bool) (closed : Bool) (reads : List Bytes) (hreads : AreReads reads) :
    (∀ reads', AreReads reads' → reads'.flatten = reads.flatten →
      seenIdentified (bannerVersionExchange banner clientVersion flushed closed reads') =
        seenIdentified (bannerVersionExchange banner clientVersion flushed closed reads)) ∧
    (flushed (identificationText banner clientVersion) = true →
      ∀ (intro : Introduction) (rest : Bytes), reads.flatten = intro.text ++ rest →
        intro.text.length ≤ 255 →
        seenIdentified (bannerVersionExchange banner clientVersion flushed closed reads) =
          some (.ok {
            serverVersion := intro.identification.text
            serverBanner := intro.lines.map BannerLine.text
            compatOptions := intro.identification.captured.compatOptions
            rBuf := rest })) ∧
    (¬ Introduces reads.flatten → (closed = true ∨ 255 ≤ reads.flatten.length) →
      ∃ e, seenIdentified (bannerVersionExchange banner clientVersion flushed closed reads) =
        some (.error e)) := by
  have hseen : ∀ reads, AreReads reads →
      seenIdentified (bannerVersionExchange banner clientVersion flushed closed reads) =
        if flushed (identificationText banner clientVersion) then
          seenIdentified (bannerLoop closed (maxBanner + 1) 0 [] reads.flatten [])
        else some (.error .io) := by
    intro reads hreads
    unfold bannerVersionExchange
    split
    · rw [seen_bannerLoop closed _ _ _ hreads, List.nil_append]
    · rfl
  refine ⟨?_, ?_, ?_⟩
  · intro reads' hreads' hflatten
    rw [hseen reads hreads, hseen reads' hreads', hflatten]
  · rintro hflushed ⟨lines, id⟩ rest hflatten hlength
    have hturns : lines.length < maxBanner + 1 := by
      have hle : lines.length ≤ (Introduction.text ⟨lines, id⟩).length := by
        clear hflatten hlength
        induction lines with
        | nil => exact Nat.zero_le _
        | cons line lines ih =>
          rw [Introduction.text_cons, List.length_append, List.length_append,
            bannerEnding_length, List.length_cons]
          omega
      unfold maxBanner
      omega
    rw [hseen reads hreads, if_pos hflushed, hflatten,
      bannerLoop_introduction closed id rest lines hturns (by simpa [maxBanner] using hlength)]
    simp [seenIdentified, Introduction.identified]
  · intro hnone hend
    rw [hseen reads hreads]
    split
    · cases hloop : bannerLoop closed (maxBanner + 1) 0 [] reads.flatten [] with
      | failed e => exact ⟨e, rfl⟩
      | finished identified reads' =>
        obtain ⟨intro, rest, htext, hlength⟩ := introduction_of_bannerLoop (Nat.zero_le _) hloop
        exact absurd ⟨intro, rest, htext, by omega⟩ hnone
      | waiting =>
        obtain ⟨hopen, hlength⟩ := length_of_bannerLoop (Nat.zero_le _) (by omega) hloop
        rw [hopen] at hend
        unfold maxBanner at hlength
        rcases hend with hclosed | hlong
        · cases hclosed
        · omega
    · exact ⟨.io, rfl⟩

/-- A line of text and an identification line. -/
def sampleIntroduction : Introduction :=
  ⟨[⟨ascii "hi", by unfold IsLine; decide, by decide, by decide⟩],
    ⟨ascii "2.0", ascii "s", none, [], .inl rfl, by decide, List.all_eq_true.mp (by decide), by simp,
      .inl rfl⟩⟩

/-- The socket cuts between a CR and its LF, and the last chunk has an octet of the first packet. -/
theorem bannerVersionExchange_sample :
    seenIdentified (bannerVersionExchange [] (ascii "SSH-2.0-c") (fun _ => true) false
      [ascii "hi" ++ [0x0D], 0x0A :: ascii "SSH-2", ascii ".0-s" ++ bannerEnding ++ [7]]) =
        some (.ok ⟨ascii "SSH-2.0-s", [ascii "hi"], CompatOptions.parse (ascii "s"), [7]⟩) :=
  (bannerVersionExchange_outcome [] (ascii "SSH-2.0-c") (fun _ => true) false
    [ascii "hi" ++ [0x0D], 0x0A :: ascii "SSH-2", ascii ".0-s" ++ bannerEnding ++ [7]]
    (by unfold AreReads; decide)).2.1 rfl sampleIntroduction [7] (by decide) (by decide)

end Flatline
