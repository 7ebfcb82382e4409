import Flatline.Kex.Methods
import Flatline.Wire.DataTypes

/-!
# `SSH_MSG_KEXINIT` on the wire

What the server advertises comes back from `Methods::parse`, the markers out of the kex list and into
the flags, unless a list is empty: `split` makes one empty name of an empty list, and the language
lists usually are empty. What `Methods::build` writes is what RFC 4253, section 7.1, says of the
client's lists.

Source: `src/session/handshake.rs` (`Methods::parse`, `Methods::build`).
-/

namespace Flatline

open Triple

/-! ## Name lists -/

/-- What is read of a name-list that has been written. -/
def rewritten (names : List Text) : List Text :=
  splitComma (joinComma names)

theorem rewritten_of_ne_nil {names : List Text} (h : ∀ name ∈ names, IsName name)
    (hne : names ≠ []) : rewritten names = names :=
  splitComma_joinComma hne fun name hname => (h name hname).2.1

theorem rewritten_eq_iff {names : List Text} (h : ∀ name ∈ names, IsName name) :
    rewritten names = names ↔ names ≠ [] := by
  refine ⟨fun heq hnil => ?_, rewritten_of_ne_nil h⟩
  rw [hnil] at heq
  cases heq

/-- Different lists are read differently, also if one of them is empty. -/
theorem rewritten_inj {names names' : List Text} (h : ∀ name ∈ names, IsName name)
    (h' : ∀ name ∈ names', IsName name) (heq : rewritten names = rewritten names') :
    names = names' := by
  have hempty {names : List Text} (h : ∀ name ∈ names, IsName name)
      (heq : rewritten names = rewritten []) : names = [] := by
    apply Decidable.of_not_not
    intro hne
    rw [rewritten_of_ne_nil h hne] at heq
    have hmem : ([] : Text) ∈ names := heq ▸ List.mem_singleton.mpr rfl
    exact (h [] hmem).1 rfl
  by_cases hne : names = []
  · rw [hne] at heq ⊢
    exact (hempty h' heq.symm).symm
  · by_cases hne' : names' = []
    · rw [hne'] at heq ⊢
      exact hempty h heq
    · rwa [rewritten_of_ne_nil h hne, rewritten_of_ne_nil h' hne'] at heq

/-! ## The message -/

namespace NameLists

/-- The lists in the order in which they are written. -/
def toList (lists : NameLists) : List (List Text) :=
  [lists.kex, lists.hostKey, lists.cryptClientToServer, lists.cryptServerToClient,
    lists.macClientToServer, lists.macServerToClient, lists.compressClientToServer,
    lists.compressServerToClient, lists.langClientToServer, lists.langServerToClient]

/-- The same change to every list. -/
def map (f : List Text → List Text) (lists : NameLists) : NameLists where
  kex := f lists.kex
  hostKey := f lists.hostKey
  cryptClientToServer := f lists.cryptClientToServer
  cryptServerToClient := f lists.cryptServerToClient
  macClientToServer := f lists.macClientToServer
  macServerToClient := f lists.macServerToClient
  compressClientToServer := f lists.compressClientToServer
  compressServerToClient := f lists.compressServerToClient
  langClientToServer := f lists.langClientToServer
  langServerToClient := f lists.langServerToClient

theorem toList_inj {lists lists' : NameLists} : lists.toList = lists'.toList ↔ lists = lists' := by
  constructor
  · intro h
    cases lists
    cases lists'
    simp only [toList, List.cons.injEq, and_true] at h
    obtain ⟨rfl, rfl, rfl, rfl, rfl, rfl, rfl, rfl, rfl, rfl⟩ := h
    rfl
  · rintro rfl
    rfl

theorem toList_map (f : List Text → List Text) (lists : NameLists) :
    (lists.map f).toList = lists.toList.map f := rfl

/-- The fields of the message behind its number: the cookie, the lists, `first_kex_packet_follows`
and the reserved zero. -/
def fields (lists : NameLists) (cookie : Cookie) (follows : Bool) : List WireValue :=
  .raw cookie.val :: (lists.toList.map .nameList ++ [.boolean follows, .uint32 0])

/-- The payload is an `SSH_MSG_KEXINIT` with the lists. -/
def EncodesKexInit (lists : NameLists) (payload : Bytes) : Prop :=
  ∃ cookie follows octets, payload = sshMsgKexinit :: octets ∧
    EncodesAll (lists.fields cookie follows) octets

/-- The names of the lists can stand in a name-list, and every list fits in a string. -/
def IsWritable (lists : NameLists) : Prop :=
  ∀ list ∈ lists.toList, (∀ name ∈ list, IsName name) ∧ (joinComma list).length < UInt32.size

instance (lists : NameLists) : Decidable lists.IsWritable :=
  inferInstanceAs (Decidable (∀ list ∈ lists.toList, _ ∧ _))

variable {lists lists' : NameLists} {payload : Bytes}

theorem EncodesKexInit.isWritable (h : lists.EncodesKexInit payload) : lists.IsWritable := by
  obtain ⟨cookie, follows, octets, -, _ | ⟨-, h⟩⟩ := h
  have hall {values : List (List Text)} {last : List WireValue} {octets : Bytes}
      (h : EncodesAll (values.map .nameList ++ last) octets) :
      ∀ list ∈ values, (∀ name ∈ list, IsName name) ∧
        (joinComma list).length < UInt32.size := by
    induction values generalizing octets with
    | nil => intro list hlist; exact absurd hlist List.not_mem_nil
    | cons value values ih =>
      obtain _ | ⟨⟨hnames, hfits, -⟩, hrest⟩ := h
      intro list hlist
      obtain rfl | hlist := List.mem_cons.mp hlist
      · exact ⟨hnames, hfits⟩
      · exact ih hrest list hlist
  exact hall h

/-- `Methods::build` writes a message with the lists that it is given, whatever the cookie. -/
theorem IsWritable.encodesKexInit (h : lists.IsWritable) (cookie : Cookie) :
    lists.EncodesKexInit (makeBufferWithoutHeader (Methods.kexInitFields cookie lists)) := by
  have hlists {values : List (List Text)} {last : List WireValue} {octets : Bytes}
      (hvalues : ∀ list ∈ values, (∀ name ∈ list, IsName name) ∧
        (joinComma list).length < UInt32.size) (hlast : EncodesAll last octets) :
      EncodesAll (values.map .nameList ++ last)
        (makeBufferWithoutHeader (values.map fun list => .one (joinComma list)) ++ octets) := by
    induction values with
    | nil => exact hlast
    | cons value values ih =>
      obtain ⟨hnames, hfits⟩ := hvalues value List.mem_cons_self
      have hrest := ih fun list hlist => hvalues list (List.mem_cons_of_mem _ hlist)
      have hput : makeBufferWithoutHeader ((value :: values).map fun list => .one (joinComma list))
          = (Field.one (joinComma value)).put ++
            makeBufferWithoutHeader (values.map fun list => .one (joinComma list)) := rfl
      rw [hput, List.append_assoc]
      exact .cons ⟨hnames, hfits, rfl⟩ hrest
  have hzero : [0, 0, 0, 0] = toBeBytes 0 := by decide
  have hlast : EncodesAll [.boolean false, .uint32 0] ([0] ++ ([0, 0, 0, 0] ++ [])) :=
    .cons ⟨0, rfl, by decide⟩ (.cons hzero .nil)
  have hput : makeBufferWithoutHeader (Methods.kexInitFields cookie lists) =
      sshMsgKexinit :: (cookie.val ++
        (makeBufferWithoutHeader (lists.toList.map fun list => .one (joinComma list)) ++
          ([0] ++ ([0, 0, 0, 0] ++ [])))) := by
    simp only [makeBufferWithoutHeader, Methods.kexInitFields, toList, List.flatMap_cons,
      List.flatMap_nil, List.map_cons, List.map_nil, List.append_assoc, List.append_nil]
    rfl
  exact ⟨cookie, false, _, hput, .cons rfl (hlists h hlast)⟩

theorem reads_names {α : Type} {a : α} {names : List Text} {values : List WireValue}
    {octets : Bytes} {f : List Text → Consumer α}
    (h : EncodesAll (.nameList names :: values) octets)
    (hf : ∀ rest, EncodesAll values rest → Reads (f (rewritten names)) rest a) :
    Reads (Methods.consumeNames >>= f) octets a := by
  obtain _ | ⟨⟨hnames, hstring⟩, hrest⟩ := h
  have hvalid := utf8Valid_joinComma fun name hname => (hnames name hname).2.2
  refine (hf _ hrest).bind ?_
  unfold Methods.consumeNames
  rw [bind_of_ok (Consumer.consumeText_of_encodes hvalid hstring _)]
  rfl

/-- The lists that are read. -/
theorem EncodesKexInit.consume (h : lists.EncodesKexInit payload) :
    Consumer.run' Methods.consumeNameLists payload = .ok (lists.map rewritten) := by
  obtain ⟨cookie, follows, octets, rfl, h⟩ := h
  apply Reads.run'
  change Reads _ ([sshMsgKexinit] ++ octets) _
  refine Reads.bind (Consumer.consumeU8_cons sshMsgKexinit octets) ?_
  change Reads (Consumer.consumeBytes 16 >>= _) _ _
  refine reads_raw h cookie.property fun _ h => reads_names h fun _ h => reads_names h fun _ h =>
    reads_names h fun _ h => reads_names h fun _ h => reads_names h fun _ h =>
    reads_names h fun _ h => reads_names h fun _ h => reads_names h fun _ h =>
    reads_names h fun _ h => reads_names h fun _ h => reads_u8 h fun _ rest h => ?_
  have hreserved : EncodesAll [.raw [0, 0, 0, 0]] rest := by
    obtain _ | ⟨rfl, _ | _⟩ := h
    have hzero : toBeBytes 0 = [0, 0, 0, 0] := by decide
    exact .cons hzero .nil
  exact reads_raw hreserved rfl fun _ _ => reads_pure _ _

/-- A payload encodes one choice of lists at most. -/
theorem EncodesKexInit.unique (h : lists.EncodesKexInit payload)
    (h' : lists'.EncodesKexInit payload) : lists = lists' := by
  have heq : lists.map rewritten = lists'.map rewritten := by
    have hconsume := h.consume
    rw [h'.consume] at hconsume
    injection hconsume with hconsume
    exact hconsume.symm
  have hinj {l l' : List (List Text)} (hl : ∀ list ∈ l, ∀ name ∈ list, IsName name)
      (hl' : ∀ list ∈ l', ∀ name ∈ list, IsName name)
      (heq : l.map rewritten = l'.map rewritten) : l = l' := by
    induction l generalizing l' with
    | nil =>
      cases l' with
      | nil => rfl
      | cons => cases heq
    | cons list l ih =>
      cases l' with
      | nil => cases heq
      | cons list' l' =>
        injection heq with hlist hrest
        rw [rewritten_inj (hl _ List.mem_cons_self) (hl' _ List.mem_cons_self) hlist,
          ih (fun list hlist => hl list (List.mem_cons_of_mem _ hlist))
            (fun list hlist => hl' list (List.mem_cons_of_mem _ hlist)) hrest]
  refine toList_inj.mp (hinj (fun list hlist => (h.isWritable list hlist).1)
    (fun list hlist => (h'.isWritable list hlist).1) ?_)
  rw [← toList_map, ← toList_map, heq]

end NameLists

/-! ## The server's lists -/

namespace Methods

/-- The kex list of a server: the methods with the markers anywhere between them, each once if its
flag is set. -/
structure IsMarked (methods : Methods) (kex : List Text) : Prop where
  names : (kex.filter fun name => name ≠ kexStrictServer && name ≠ extInfoServer) = methods.kex
  strict : kex.count kexStrictServer = if methods.kexStrict then 1 else 0
  ext : kex.count extInfoServer = if methods.ext then 1 else 0

/-- What has one occurrence at most is gone once that is erased. -/
theorem erase_eq_filter {name : Text} {names : List Text} (h : names.count name ≤ 1) :
    names.erase name = names.filter fun other => other ≠ name := by
  induction names with
  | nil => rfl
  | cons other names ih =>
    by_cases hother : other = name
    · subst hother
      have hnone : names.count other = 0 := by
        rw [List.count_cons_self] at h
        omega
      have hkeep : ∀ name ∈ names, decide (name ≠ other) = true := by
        intro name hname
        apply decide_eq_true
        rintro rfl
        exact List.count_eq_zero.mp hnone hname
      rw [List.erase_cons_head, List.filter_cons_of_neg (by simp), List.filter_eq_self.mpr hkeep]
    · rw [List.count_cons_of_ne hother] at h
      rw [List.erase_cons_tail (by simpa using hother), ih h,
        List.filter_cons_of_pos (by simpa using hother)]

/-- The markers are taken out of the list and into the flags. -/
theorem stripMarkers_of_isMarked {methods : Methods} {kex : List Text} (h : methods.IsMarked kex) :
    stripMarkers { methods.toNameLists with kex } = methods := by
  have hne : kexStrictServer ≠ extInfoServer := by decide
  have hstrict : kex.count kexStrictServer ≤ 1 := by
    rw [h.strict]
    split <;> omega
  have hcount : (kex.erase kexStrictServer).count extInfoServer = kex.count extInfoServer :=
    List.count_erase_of_ne hne.symm
  have hext : (kex.erase kexStrictServer).count extInfoServer ≤ 1 := by
    rw [hcount, h.ext]
    split <;> omega
  have hcontains {l : List Text} {name : Text} {flag : Bool}
      (hl : l.count name = if flag then 1 else 0) : l.contains name = flag := by
    cases flag with
    | true => exact List.contains_iff_mem.mpr (List.count_pos_iff.mp (by rw [hl]; decide))
    | false =>
      apply Bool.eq_false_iff.mpr
      exact fun hmem => List.count_eq_zero.mp hl (List.contains_iff_mem.mp hmem)
  have hkex : (kex.erase kexStrictServer).erase extInfoServer = methods.kex := by
    rw [erase_eq_filter hext, erase_eq_filter hstrict, List.filter_filter, ← h.names]
    refine List.filter_congr fun name _ => ?_
    simp [Bool.and_comm]
  unfold stripMarkers
  simp only [hkex, hcontains h.strict, hcontains (hcount.trans h.ext)]

/-- What the server advertises is read as it was meant if no list is empty, and only then. -/
theorem parse_eq_iff {methods : Methods} {kex : List Text} {payload : Bytes}
    (hmarked : methods.IsMarked kex)
    (h : ({ methods.toNameLists with kex } : NameLists).EncodesKexInit payload) :
    parse payload = .ok methods ↔
      ∀ list ∈ ({ methods.toNameLists with kex } : NameLists).toList, list ≠ [] := by
  have hnames := fun list hlist => (h.isWritable list hlist).1
  have hparse : parse payload =
      .ok (stripMarkers (({ methods.toNameLists with kex } : NameLists).map rewritten)) := by
    unfold parse
    rw [h.consume]
    rfl
  rw [hparse]
  simp only [NameLists.toList, List.forall_mem_cons] at hnames ⊢
  obtain ⟨h₁, h₂, h₃, h₄, h₅, h₆, h₇, h₈, h₉, h₁₀, -⟩ := hnames
  rw [← rewritten_eq_iff h₂, ← rewritten_eq_iff h₃, ← rewritten_eq_iff h₄, ← rewritten_eq_iff h₅,
    ← rewritten_eq_iff h₆, ← rewritten_eq_iff h₇, ← rewritten_eq_iff h₈, ← rewritten_eq_iff h₉,
    ← rewritten_eq_iff h₁₀]
  constructor
  · intro heq
    injection heq with heq
    -- The markers leave the empty name of an empty kex list where it is.
    have hkex : kex ≠ [] := by
      rintro rfl
      have hstripped := congrArg (fun methods => methods.kex) heq
      rw [← hmarked.names] at hstripped
      cases hstripped
    obtain ⟨⟨⟩⟩ := methods
    injection heq with heq
    injection heq with _ h₂ h₃ h₄ h₅ h₆ h₇ h₈ h₉ h₁₀
    exact ⟨hkex, h₂, h₃, h₄, h₅, h₆, h₇, h₈, h₉, h₁₀, fun _ hmem => absurd hmem List.not_mem_nil⟩
  · rintro ⟨hkex, g₂, g₃, g₄, g₅, g₆, g₇, g₈, g₉, g₁₀, -⟩
    have hmap : NameLists.map rewritten { methods.toNameLists with kex } =
        { methods.toNameLists with kex } := by
      unfold NameLists.map
      simp only [rewritten_of_ne_nil h₁ hkex, g₂, g₃, g₄, g₅, g₆, g₇, g₈, g₉, g₁₀]
    rw [hmap, stripMarkers_of_isMarked hmarked]

/-! ## The round trip -/

/-- Whatever the server advertises is read as it was meant exactly if none of its lists is empty, and
what the client writes says its own lists and the markers that are set, whenever they can be written
at all. -/
theorem kexInit_round_trip_iff (methods : Methods) :
    (∀ kex payload, methods.IsMarked kex →
      ({ methods.toNameLists with kex } : NameLists).EncodesKexInit payload →
      (parse payload = .ok methods ↔
        ∀ list ∈ ({ methods.toNameLists with kex } : NameLists).toList, list ≠ [])) ∧
    ∀ cookie lists', (∃ payload, methods.advertised.EncodesKexInit payload) →
      (lists'.EncodesKexInit (methods.build cookie) ↔
        lists' = { methods.toNameLists with
          kex := methods.kex ++ (if methods.kexStrict then [kexStrictClient] else []) ++
            (if methods.ext then [extInfoClient] else []) }) := by
  refine ⟨fun kex payload => parse_eq_iff, ?_⟩
  rintro cookie lists' ⟨payload, h⟩
  have hbuild := h.isWritable.encodesKexInit cookie
  constructor
  · intro h'
    exact h'.unique hbuild
  · rintro rfl
    exact hbuild

/-- Nearly every server leaves the language lists empty, and then they are not read as empty. -/
theorem agreeable_not_read :
    ¬ ∀ (methods : Methods) (kex : List Text) (payload : Bytes), methods.IsMarked kex →
      ({ methods.toNameLists with kex } : NameLists).EncodesKexInit payload →
      parse payload = .ok methods := by
  intro hread
  let methods : Methods :=
    { NameLists.agreeable [ascii "curve25519-sha256"] with kexStrict := true, ext := false }
  let kex := [kexStrictServer, ascii "curve25519-sha256"]
  have hmarked : methods.IsMarked kex :=
    ⟨by decide +kernel, by decide +kernel, by decide +kernel⟩
  have hwritable : ({ methods.toNameLists with kex } : NameLists).IsWritable := by
    decide +kernel
  have hencodes := hwritable.encodesKexInit Cookie.zero
  have hne := (parse_eq_iff hmarked hencodes).mp (hread methods kex _ hmarked hencodes)
  exact hne methods.langClientToServer (by decide +kernel) rfl

end Methods

end Flatline
