import Flatline.Kex.Identification

/-!
# Identification exchanges and socket reads

The outcome of the exchange is a function of the octets that the server sends. `seenIdentified`
forgets how what is left of them is divided between the read buffer and the socket; the exchange on chunks is
then the exchange on all octets at once, where the search for the end of a line finds the first CRLF
or passes the limit.

Source: `src/stream.rs` (`read_line_crlf`), `src/session/handshake.rs`
(`banner_version_exchange`).
-/

namespace Flatline

open ReceiveLoop

/-! ## Lines -/

/-- No line ends inside. -/
def IsLine (content : Bytes) : Prop :=
  ¬ bannerEnding <:+: content

theorem isLine_cons_iff {b : UInt8} {content : Bytes} :
    IsLine (b :: content) ↔ ¬ (b = 0x0D ∧ content.head? = some 0x0A) ∧ IsLine content := by
  unfold IsLine
  rw [List.infix_cons_iff, not_or]
  refine and_congr_left fun _ => not_congr ?_
  cases content with
  | nil => simp [bannerEnding]
  | cons c rest => simp [bannerEnding, eq_comm]

/-- More octets do not change what a search has come to. -/
theorem scanLine_append {max i : ℕ} {xs : Bytes} {result : Option ℕ}
    (h : scanLine max i xs = some result) (ys : Bytes) :
    scanLine max i (xs ++ ys) = some result := by
  induction xs generalizing i with
  | nil => cases h
  | cons b rest ih =>
    rw [List.cons_append]
    unfold scanLine at h ⊢
    split at h
    · next hlimit => rw [if_pos hlimit, h]
    · next hlimit =>
      rw [if_neg hlimit]
      cases rest with
      | nil =>
        rw [if_neg (by simp)] at h
        cases h
      | cons c rest =>
        have hhead : (c :: rest ++ ys).head? = (c :: rest).head? := rfl
        rw [hhead]
        split at h
        · next hending => rw [if_pos hending, h]
        · next hending =>
          rw [if_neg hending]
          exact ih h

/-- A line and its ending are found, unless they are longer than the limit. -/
theorem scanLine_line {content : Bytes} (hline : IsLine content) (rest : Bytes) {max i : ℕ}
    (hi : i < max) :
    scanLine max i (content ++ (bannerEnding ++ rest)) =
      if i + content.length + 2 ≤ max then some (some (i + content.length + 2)) else some none := by
  induction content generalizing i with
  | nil =>
    change (if i = max - 1 then _ else if _ then _ else _) = _
    by_cases hlimit : i = max - 1
    · rw [if_pos hlimit, if_neg (by simp; omega)]
    · rw [if_neg hlimit, if_pos ⟨rfl, rfl⟩, if_pos (by simp; omega)]
      rfl
  | cons b content ih =>
    obtain ⟨hending, hrest⟩ := isLine_cons_iff.mp hline
    rw [List.cons_append, scanLine, List.length_cons]
    by_cases hlimit : i = max - 1
    · rw [if_pos hlimit, if_neg (by omega)]
    · have hno : ¬ (b = 0x0D ∧ (content ++ (bannerEnding ++ rest)).head? = some 0x0A) := by
        cases content with
        | nil => simp [bannerEnding]
        | cons c content => exact hending
      rw [if_neg hlimit, if_neg hno, ih hrest (by omega)]
      have hsum : i + 1 + content.length + 2 = i + (content.length + 1) + 2 := by omega
      rw [hsum]

/-- What a search has found is the first line, and it is not longer than the limit. -/
theorem line_of_scanLine {max i len : ℕ} {s : Bytes} (hi : i < max)
    (h : scanLine max i s = some (some len)) :
    ∃ content rest, s = content ++ (bannerEnding ++ rest) ∧ IsLine content ∧
      len = i + content.length + 2 ∧ len ≤ max := by
  induction s generalizing i with
  | nil => cases h
  | cons b s ih =>
    unfold scanLine at h
    split at h
    · cases h
    · next hlimit =>
      split at h
      · next hending =>
        cases h
        obtain ⟨rfl, hhead⟩ := hending
        obtain ⟨rest, rfl⟩ := List.head?_eq_some_iff.mp hhead
        exact ⟨[], rest, rfl, by simp [IsLine, bannerEnding], rfl, by omega⟩
      · next hending =>
        obtain ⟨content, rest, rfl, hline, rfl, hmax⟩ := ih (by omega) h
        refine ⟨b :: content, rest, rfl, isLine_cons_iff.mpr ⟨?_, hline⟩, ?_, hmax⟩
        · rintro ⟨hcr, hlf⟩
          apply hending
          refine ⟨hcr, ?_⟩
          obtain ⟨more, rfl⟩ := List.head?_eq_some_iff.mp hlf
          rfl
        · rw [List.length_cons]
          omega

/-- A search that finds nothing has not reached the limit. -/
theorem length_of_scanLine {max i : ℕ} {s : Bytes} (hi : i < max) (h : scanLine max i s = none) :
    i + s.length < max := by
  induction s generalizing i with
  | nil => exact hi
  | cons b s ih =>
    unfold scanLine at h
    split at h
    · cases h
    · split at h
      · cases h
      · have := ih (by omega) h
        rw [List.length_cons]
        omega

theorem trimEnding_line {content : Bytes} (hline : IsLine content) :
    trimEnding (content ++ bannerEnding) = content := by
  have hfront : trimFront content.reverse = content.reverse := by
    unfold trimFront
    split
    · next rest heq =>
      exfalso
      apply hline
      have hcontent : content = rest.reverse ++ bannerEnding := by
        rw [← List.reverse_reverse content, heq]
        simp [bannerEnding]
      exact ⟨rest.reverse, [], by rw [hcontent, List.append_nil]⟩
    · rfl
  have hreverse : (content ++ bannerEnding).reverse = 0x0A :: 0x0D :: content.reverse := by
    simp [bannerEnding]
  rw [trimEnding, hreverse, trimFront, hfront, List.reverse_reverse]

/-! ## Chunks -/

/-- What a caller of `read_line_crlf` sees: the line, and all octets after it. -/
def seenLine : Outcome Error Bytes (Bytes × Bytes) → Option (Except Error (Bytes × Bytes))
  | .finished (line, rBuf) reads => some (.ok (line, rBuf ++ reads.flatten))
  | .failed e => some (.error e)
  | .waiting => none

/-- What the caller of the exchange sees: its result, with all octets after the identification line
in the place of the read buffer. -/
def seenIdentified : Outcome Error Bytes Identified → Option (Except Error Identified)
  | .finished identified reads =>
    some (.ok { identified with rBuf := identified.rBuf ++ reads.flatten })
  | .failed e => some (.error e)
  | .waiting => none

/-- A read that returns nothing is the end of the connection. -/
def AreReads (reads : List Bytes) : Prop :=
  ∀ read ∈ reads, read ≠ []

theorem readLineLoop_nil (max : ℕ) (closed : Bool) (s : Bytes) :
    readLineLoop max closed s [] =
      match scanLine max 0 s with
      | some (some len) => .finished (s.take len, s.drop len) []
      | some none => .failed .io
      | none => if closed then .failed .io else .waiting := by
  unfold readLineLoop
  rfl

/-- A line is read from chunks as from all octets at once. -/
theorem seenLine_readLineLoop {max : ℕ} (hmax : 0 < max) (closed : Bool) {reads : List Bytes}
    (hreads : AreReads reads) (rBuf : Bytes) :
    seenLine (readLineLoop max closed rBuf reads) =
      seenLine (readLineLoop max closed (rBuf ++ reads.flatten) []) := by
  induction reads generalizing rBuf with
  | nil => rw [List.flatten_nil, List.append_nil]
  | cons read reads ih =>
    rw [readLineLoop_nil, readLineLoop]
    cases hscan : scanLine max 0 rBuf with
    | none =>
      have hread : read ≠ [] := hreads read List.mem_cons_self
      rw [if_neg hread, ih (fun r hr => hreads r (List.mem_cons_of_mem _ hr)), readLineLoop_nil,
        List.flatten_cons, List.append_assoc]
    | some found =>
      rw [scanLine_append hscan]
      cases found with
      | none => rfl
      | some len =>
        obtain ⟨content, rest, rfl, -, rfl, -⟩ := line_of_scanLine hmax hscan
        have hlen : 0 + content.length + 2 ≤ (content ++ (bannerEnding ++ rest)).length := by
          simp [bannerEnding]
        simp only [seenLine, List.flatten_nil, List.append_nil, List.take_append_of_le_length hlen,
          List.drop_append_of_le_length hlen]

/-- The reads that are left after a line are reads. -/
theorem areReads_readLineLoop {max : ℕ} {closed : Bool} {reads reads' : List Bytes}
    (hreads : AreReads reads) {rBuf : Bytes} {result : Bytes × Bytes}
    (h : readLineLoop max closed rBuf reads = .finished result reads') : AreReads reads' := by
  induction reads generalizing rBuf with
  | nil =>
    rw [readLineLoop_nil] at h
    split at h
    · cases h
      exact hreads
    · cases h
    · split at h <;> cases h
  | cons read reads ih =>
    rw [readLineLoop] at h
    split at h
    · cases h
      exact hreads
    · cases h
    · split at h
      · cases h
      · exact ih (fun r hr => hreads r (List.mem_cons_of_mem _ hr)) h

/-- A line does not depend on the rest of the read buffer. -/
theorem onLine_eq (line rBuf : Bytes) (lines : List Text) :
    onLine line rBuf lines = (onLine line [] lines).map fun
      | .again lines => .again lines
      | .done identified => .done { identified with rBuf } := by
  unfold onLine
  split
  · dsimp only
    split
    · split
      · split <;> rfl
      · rfl
    · rfl
  · rfl

/-- The exchange on chunks is the exchange on all octets at once. -/
theorem seen_bannerLoop (closed : Bool) (turns count : ℕ) (lines : List Text)
    {reads : List Bytes} (hreads : AreReads reads) (rBuf : Bytes) :
    seenIdentified (bannerLoop closed turns count lines rBuf reads) =
      seenIdentified (bannerLoop closed turns count lines (rBuf ++ reads.flatten) []) := by
  induction turns generalizing count lines rBuf reads with
  | zero => rfl
  | succ turns ih =>
    unfold bannerLoop readLineCrlf
    by_cases hcount : count < maxBanner
    · rw [if_pos hcount, if_pos hcount]
      by_cases hmax : maxBanner - count < 2
      · rw [if_pos hmax, if_pos hmax]
      · rw [if_neg hmax, if_neg hmax]
        have hpos : 0 < maxBanner - count := by omega
        -- the next line is the same, and so are the octets behind it, wherever they are
        have hline := seenLine_readLineLoop hpos closed hreads rBuf
        cases hleft : readLineLoop (maxBanner - count) closed rBuf reads with
        | waiting =>
          rw [hleft] at hline
          cases hright : readLineLoop (maxBanner - count) closed (rBuf ++ reads.flatten) [] with
          | waiting => rfl
          | failed e => rw [hright] at hline; cases hline
          | finished result reads' => rw [hright] at hline; cases hline
        | failed e =>
          rw [hleft] at hline
          cases hright : readLineLoop (maxBanner - count) closed (rBuf ++ reads.flatten) [] with
          | waiting => rw [hright] at hline; cases hline
          | failed e' => rw [hright] at hline; cases hline; rfl
          | finished result reads' => rw [hright] at hline; cases hline
        | finished result reads' =>
          obtain ⟨line, rest⟩ := result
          rw [hleft] at hline
          cases hright : readLineLoop (maxBanner - count) closed (rBuf ++ reads.flatten) [] with
          | waiting => rw [hright] at hline; cases hline
          | failed e' => rw [hright] at hline; cases hline
          | finished result reads'' =>
            obtain ⟨line', rest'⟩ := result
            rw [hright] at hline
            have hseen : line = line' ∧ rest ++ reads'.flatten = rest' ++ reads''.flatten := by
              simpa [seenLine] using hline
            have hreads' := areReads_readLineLoop hreads hleft
            have hreads'' := areReads_readLineLoop (fun _ h => absurd h List.not_mem_nil) hright
            obtain ⟨rfl, hrest⟩ := hseen
            simp only [Outcome.andThen]
            rw [onLine_eq line rest, onLine_eq line rest']
            cases onLine line [] lines with
            | error e => rfl
            | ok turn =>
              cases turn with
              | done identified =>
                simp only [Except.map, seenIdentified, hrest]
              | again lines =>
                simp only [Except.map]
                rw [ih _ _ hreads' rest, ih _ _ hreads'' rest', hrest]
    · rw [if_neg hcount, if_neg hcount]

end Flatline
