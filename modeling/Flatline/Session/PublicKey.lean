import Flatline.Session.Frames
import Flatline.Session.Logins
import Flatline.Wire.DataTypes

/-!
# Public-key authentication

The client asks whether a key is acceptable, and when the server says so it sends the request again
with a signature. The signed octets and the sent ones are put together separately;
`signs_what_it_sends` says that they agree, for every request with a signature in any run, and where
its key and its signer come from.

Source: `src/session/backend.rs` (`authenticate_public_key`).
-/

namespace Flatline

/-! ## The request with the signature -/

/-- A payload is the request with the signature: its octets before the signature field are the
request for `algorithm` and the key, the signer has been given these octets behind the session id
as a string, and the signature field holds the signer's name and what it has returned. -/
def IsSignedRequest (sessionId : Bytes) (username algorithm : Text) (publicBlob privateBlob : Bytes)
    (signer : Signature) (payload : Bytes) : Prop :=
  ∃ covered raw name signature field,
    EncodesAll [.raw [sshMsgUserauthRequest], .string username, .string (ascii "ssh-connection"),
      .string (ascii "publickey"), .boolean true, .string algorithm, .string publicBlob] covered ∧
    signer.signature privateBlob ((Field.one sessionId).put ++ covered) = .ok raw ∧
    EncodesString signer.name name ∧ EncodesString raw signature ∧
    EncodesString (name ++ signature) field ∧ payload = covered ++ field

/-- The octets of the request before the signature field. -/
def PublicKeyQuery.covered (query : PublicKeyQuery) : Bytes :=
  makeBufferWithoutHeader [.u8 sshMsgUserauthRequest, .one query.username,
    .one (ascii "ssh-connection"), .one (ascii "publickey"), .u8 1, .one query.method,
    .one query.publicBlob]

/-- The octets of the signature field. -/
def PublicKeyQuery.signatureField (query : PublicKeyQuery) (raw : Bytes) : Bytes :=
  makeBufferWithoutHeader [.u32 (UInt32.ofNat (4 + query.signer.name.length + 4 + raw.length)),
    .one query.signer.name, .one raw]

theorem PublicKeyQuery.encode_request (query : PublicKeyQuery) (raw : Bytes) :
    (query.request raw).encode = query.covered ++ query.signatureField raw := by
  simp only [request, ClientMessage.encode, covered, signatureField, makeBufferWithoutHeader,
    List.flatMap_append, List.flatMap_cons, List.flatMap_nil, List.append_assoc, List.append_nil]

theorem encodesString_put {content : Bytes} (h : content.length < UInt32.size) :
    EncodesString content (Field.one content).put :=
  ⟨h, rfl⟩

/-- What goes out fits a packet, so that the inner length is computed right. -/
theorem PublicKeyQuery.isSignedRequest (query : PublicKeyQuery) {sessionId raw : Bytes}
    (hraw : query.signer.signature query.privateBlob (query.signed sessionId) = .ok raw)
    (hlength : (query.request raw).encode.length ≤ maxPacketPayloadLength) :
    IsSignedRequest sessionId query.username query.method query.publicBlob query.privateBlob
      query.signer (query.request raw).encode := by
  have hsize : maxPacketPayloadLength < UInt32.size := by decide
  have hlengths : query.username.length < UInt32.size ∧ query.method.length < UInt32.size ∧
      query.publicBlob.length < UInt32.size ∧
      4 + query.signer.name.length + 4 + raw.length < UInt32.size := by
    have hparts := hlength
    simp only [encode_request, covered, signatureField, makeBufferWithoutHeader, List.flatMap_cons,
      List.flatMap_nil, List.length_append, List.length_nil, Field.length_put, Field.size] at hparts
    omega
  obtain ⟨husername, hmethod, hpublic, hinner⟩ := hlengths
  refine ⟨query.covered, raw, _, _, query.signatureField raw, ?_, hraw, encodesString_put (by omega),
    encodesString_put (by omega), ⟨?_, ?_⟩, query.encode_request raw⟩
  · exact .cons rfl (.cons (encodesString_put husername) (.cons (encodesString_put (by decide))
      (.cons (encodesString_put (by decide)) (.cons ⟨1, rfl, by decide⟩
        (.cons (encodesString_put hmethod) (.cons (encodesString_put hpublic) .nil))))))
  · simp only [List.length_append, Field.length_put, Field.size]
    omega
  · simp only [signatureField, makeBufferWithoutHeader, List.flatMap_cons, List.flatMap_nil,
      List.append_nil, Field.put, List.length_append, length_toBeBytes, ← Nat.add_assoc]

/-! ## The signer -/

/-- A configured algorithm signs with RSA keys and is listed by the server. -/
def IsListedRsa (listed : List Text) (entry : Text × Signature) : Prop :=
  entry.1 ∈ rsaAlgorithms ∧ entry.1 ∈ listed

/-- The signer for a key type: for RSA keys the first configured RSA algorithm that is listed, and
`rsa-sha2-512` when there is none; for other keys the algorithm of the type. -/
inductive IsSignerFor (configured : List (Text × Signature)) (listed : List Text) :
    Text → Signature → Prop
  | listed {before after : List (Text × Signature)} {name : Text} {signer : Signature}
      (hconfigured : configured = before ++ (name, signer) :: after)
      (hlisted : IsListedRsa listed (name, signer))
      (hbefore : ∀ entry ∈ before, ¬ IsListedRsa listed entry) :
    IsSignerFor configured listed (ascii "ssh-rsa") signer
  | fallback {signer : Signature} (hnone : ∀ entry ∈ configured, ¬ IsListedRsa listed entry)
      (hsigner : (ascii "rsa-sha2-512", signer) ∈ configured) :
    IsSignerFor configured listed (ascii "ssh-rsa") signer
  | other {type : Text} {signer : Signature} (htype : type ≠ ascii "ssh-rsa")
      (hsigner : (type, signer) ∈ configured) : IsSignerFor configured listed type signer

theorem IndexMap.mem_of_get {α : Type} {map : IndexMap α} {key : Text} {value : α}
    (h : map.get key = some value) : (key, value) ∈ map.entries := by
  obtain ⟨before, after, hentries, -⟩ := List.lookup_eq_some_iff.mp h
  rw [hentries]
  exact List.mem_append_right _ List.mem_cons_self

theorem isSignerFor {s : SessionInner} {type : Text} {signer : Signature}
    (h : s.signerFor type = some signer) :
    IsSignerFor s.config.signer.entries s.signAlgorithms type signer := by
  unfold SessionInner.signerFor at h
  split at h
  · next htype =>
      subst htype
      have hlisted : ∀ entry : Text × Signature,
          (rsaAlgorithms.contains entry.1 && s.signAlgorithms.contains entry.1) = true ↔
            IsListedRsa s.signAlgorithms entry := by
        intro entry
        simp [IsListedRsa]
      simp only at h
      cases hfind : s.config.signer.entries.find? fun entry =>
          rsaAlgorithms.contains entry.1 && s.signAlgorithms.contains entry.1 with
      | some entry =>
        rw [hfind] at h
        obtain ⟨hentry, before, after, hconfigured, hbefore⟩ := List.find?_eq_some_iff_append.mp hfind
        obtain rfl := Option.some.inj h
        refine .listed hconfigured ((hlisted entry).mp hentry) fun other hother hrsa => ?_
        have hnot := hbefore other hother
        rw [(hlisted other).mpr hrsa] at hnot
        cases hnot
      | none =>
        rw [hfind] at h
        refine .fallback (fun entry hentry hrsa => ?_) (IndexMap.mem_of_get h)
        exact List.find?_eq_none.mp hfind entry hentry ((hlisted entry).mpr hrsa)
  · next htype => exact .other htype (IndexMap.mem_of_get h)

/-! ## Runs -/

/-- A run leads from one state to another. -/
abbrev Backend.Leads (t : Backend) : Backend → Prop :=
  Machine.ReachVia (· = t) Backend.Step fun _ _ => True

/-- A step changes neither the session id nor the configuration. -/
theorem Backend.sessionId_step {s s' : Backend} {i : Input} (h : Backend.Step s i s') :
    s'.sessionId = s.sessionId := by
  obtain ⟨hpossible, rfl⟩ := h
  have hfixtures : (s.next i).fixtures.sessionId = s.fixtures.sessionId := by
    cases i with
    | packet payload env => rw [Backend.fixtures_next_packet hpossible]; rfl
    | _ => rw [Backend.fixtures_next fun _ _ heq => by cases heq]
  exact hfixtures

/-- In a run to `s`, the user has asked for an authentication with a key, and `query` is what the
event has made of it. -/
structure Asked (s : Backend) (query : PublicKeyQuery) (t : Backend) (env : Env) (type : Text)
    (isCertificate : Bool) : Prop where
  reachable : Backend.Reachable t
  possible : Input.possible t (.event (.authenticatePublicKey query.username type isCertificate
    query.publicBlob query.privateBlob) env) = true
  leads : Backend.Leads (t.next (.event (.authenticatePublicKey query.username type isCertificate
    query.publicBlob query.privateBlob) env)) s
  signer : t.signerFor type = some query.signer
  method : query.method = query.signer.method isCertificate

/-- The user has asked for what `query` is about. -/
def IsAsked (s : Backend) (query : PublicKeyQuery) : Prop :=
  ∃ t env type isCertificate, Asked s query t env type isCertificate

theorem IsAsked.step {s s' : Backend} {i : Input} {query : PublicKeyQuery} (h : IsAsked s query)
    (hstep : Backend.Step s i s') : IsAsked s' query := by
  obtain ⟨t, env, type, isCertificate, hasked⟩ := h
  exact ⟨t, env, type, isCertificate,
    { hasked with leads := .next hasked.leads trivial hstep }⟩

/-- A message of the user authentication carries a signature: it has been made for a query that the
user has asked for. -/
def ClientMessage.IsSignedFor (s : Backend) (message : ClientMessage) : Prop :=
  ∃ query raw, IsAsked s query ∧ message = query.request raw ∧
    query.signer.signature query.privateBlob (query.signed s.sessionId) = .ok raw ∧
    message.encode.length ≤ maxPacketPayloadLength

/-- The message is a request with a signature. -/
def ClientMessage.hasSignature : ClientMessage → Bool
  | .userauthRequest _ method fields => method = ascii "publickey" && fields.head? = some (.u8 1)
  | _ => false

/-- What holds of the key authentications of a run. -/
structure KeepsQueries (s : Backend) : Prop where
  waiting {query : PublicKeyQuery}
    (htask : s.task = .waiting (.authentication (.publicKeyQuery query))) : IsAsked s query
  signed {message : ClientMessage} (hmessage : message ∈ logins s.log)
    (hsignature : message.hasSignature = true) : message.IsSignedFor s

/-- The first message of an authentication carries no signature. -/
theorem hasSignature_of_begins {s : Backend} {event : Event} {message : ClientMessage}
    {loop : AuthenticationWait} (h : Begins s event message loop) :
    message.hasSignature = false := by
  cases h with
  | none username => rfl
  | password username password =>
    have hmethod : ascii "password" ≠ ascii "publickey" := by decide
    simp [ClientMessage.hasSignature, hmethod]
  | keyboardInteractive username methods =>
    have hmethod : ascii "keyboard-interactive" ≠ ascii "publickey" := by decide
    simp [ClientMessage.hasSignature, hmethod]
  | publicKey => simp [ClientMessage.hasSignature]

theorem keepsQueries_step {s s' : Backend} {i : Input} (hreach : Backend.Reachable s)
    (h : KeepsQueries s) (hstep : Backend.Step s i s') : KeepsQueries s' := by
  -- what has been signed stays signed: nothing in it changes later
  have hkeep : ∀ message ∈ logins s.log, message.hasSignature = true → message.IsSignedFor s' := by
    intro message hmessage hsignature
    obtain ⟨query, raw, hasked, hrequest, hraw, hlength⟩ := h.signed hmessage hsignature
    exact ⟨query, raw, hasked.step hstep, hrequest, by rwa [Backend.sessionId_step hstep], hlength⟩
  obtain ⟨hpossible, rfl⟩ := hstep
  have hstep : Backend.Step s i (s.next i) := ⟨hpossible, rfl⟩
  have hlogin := loginStep_next s i
  generalize hnext : s.next i = s' at hlogin hkeep hstep ⊢
  cases hlogin with
  | silent hlogins hwait =>
    refine ⟨fun htask => (h.waiting (hwait _ htask)).step hstep, fun hmessage => ?_⟩
    rw [hlogins] at hmessage
    exact hkeep _ hmessage
  | @begins event env _ sent loop hbegins hlength hlogins hwait =>
    refine ⟨fun {query} htask => ?_, fun {message} hmessage hsignature => ?_⟩
    · have hloop : loop = .publicKeyQuery query := by
        rw [hwait] at htask
        injection htask with htask
        injection htask
      subst hloop
      cases hbegins with
      | publicKey username isCertificate publicBlob privateBlob hsigner =>
        exact ⟨s, env, _, isCertificate, hreach, hpossible, .start hnext.symm, hsigner, rfl⟩
    · rw [hlogins] at hmessage
      rcases List.mem_cons.mp hmessage with rfl | hmessage
      · rw [hasSignature_of_begins hbegins] at hsignature
        cases hsignature
      · exact hkeep _ hmessage hsignature
  | @continues payload env _ sent loop loop' htask hcontinues hlength hlogins hwait =>
    refine ⟨fun {query} hquery => ?_, fun {message} hmessage hsignature => ?_⟩
    · rw [hwait] at hquery
      injection hquery with hquery
      injection hquery with hquery
      subst hquery
      cases hcontinues
    · rw [hlogins] at hmessage
      rcases List.mem_cons.mp hmessage with rfl | hmessage
      · cases hcontinues with
        | signature query hkey hraw =>
          rw [← Backend.sessionId_step hstep] at hraw
          exact ⟨query, _, (h.waiting htask).step hstep, rfl, hraw, hlength⟩
        | infoResponse => cases hsignature
      · exact hkeep _ hmessage hsignature

theorem keepsQueries {s : Backend} (h : Backend.Reachable s) : KeepsQueries s := by
  induction h with
  | start hinit =>
    refine ⟨fun htask => ?_, fun hmessage => ?_⟩
    · rw [hinit.task] at htask
      cases htask
    · rw [hinit.log] at hmessage
      cases hmessage
  | next hreach _ hstep ih => exact keepsQueries_step hreach ih hstep

/-- A request with a signature comes from an authentication that the user has asked for, with a
signer that was right for the key when he asked, under the signer's name, and what has been signed
is what is sent. -/
def SignsWhatItSends (s : Backend) (message : ClientMessage) : Prop :=
  ∃ t env username type isCertificate publicBlob privateBlob signer,
    Backend.Reachable t ∧
    Input.possible t (.event (.authenticatePublicKey username type isCertificate publicBlob
      privateBlob) env) = true ∧
    Backend.Leads (t.next (.event (.authenticatePublicKey username type isCertificate publicBlob
      privateBlob) env)) s ∧
    IsSignerFor t.config.signer.entries t.signAlgorithms type signer ∧
    IsSignedRequest s.sessionId username
      (if isCertificate then signer.name ++ certSuffix else signer.name) publicBlob privateBlob
      signer message.encode

/-- In every run, every request with a signature signs what it sends. -/
theorem signs_what_it_sends {s : Backend} (h : Backend.Reachable s) {message : ClientMessage}
    (hsent : .sent message ∈ s.log) (hsignature : message.hasSignature = true) :
    SignsWhatItSends s message := by
  have hlogin : message ∈ logins s.log := by
    refine List.mem_filterMap.mpr ⟨_, hsent, if_pos ?_⟩
    cases message with
    | userauthRequest => rfl
    | _ => cases hsignature
  obtain ⟨query, raw, ⟨t, env, type, isCertificate, hasked⟩, rfl, hraw, hlength⟩ :=
    (keepsQueries h).signed hlogin hsignature
  refine ⟨t, env, query.username, type, isCertificate, query.publicBlob, query.privateBlob,
    query.signer, hasked.reachable, hasked.possible, hasked.leads, isSignerFor hasked.signer, ?_⟩
  have hrequest := query.isSignedRequest hraw hlength
  rwa [hasked.method] at hrequest

/-! ## Runs with one key -/

/-- A signer that returns 64 octets whatever it signs. -/
def Signature.constant (name : Text) : Signature where
  name
  initializeKey _ := .ok ()
  signature _ _ := .ok (List.replicate 64 0)

/-- A new session with a server of some version, and the signers of these names. -/
def Backend.signing (serverVersion : Text) (names : List Text) (h : names.Nodup) : Backend :=
  { Backend.agreeable with
    compatOptions := .parse serverVersion
    config := { Backend.agreeable.config with
      signer := ⟨names.map fun name => (name, .constant name), by
        rw [List.map_map]
        exact (List.map_id names).symm ▸ h⟩ } }

theorem Backend.reachable_signing (serverVersion : Text) (names : List Text) (h : names.Nodup) :
    Reachable (signing serverVersion names h) :=
  .start ⟨rfl, rfl, rfl, rfl, rfl, rfl, rfl, rfl⟩

/-- The user authenticates with a key of the type, and the server accepts the key. -/
def authenticatesWith (type : Text) : List Input :=
  [.event (.authenticatePublicKey (ascii "user") type false [1] [2]) .agreeable,
    .packet (makeBufferWithoutHeader [.u8 sshMsgUserauthPkOk, .one type, .one [1]]) .agreeable]

/-- A message with a signature is sent. -/
def Effect.signs : Effect → Bool
  | .sent message => message.hasSignature
  | _ => false

/-- The message is sent. -/
def Effect.sends (message : ClientMessage) : Effect → Bool
  | .sent message' => message' = message
  | _ => false

theorem signs_what_it_sends_ed25519 :
    ∃ s message, .sent message ∈ s.log ∧ message.hasSignature = true ∧
      SignsWhatItSends s message := by
  have hrun : (Backend.run (.signing [] [ascii "ssh-ed25519"] (by decide))
      (authenticatesWith (ascii "ssh-ed25519"))).any (fun s => s.log.any Effect.signs) = true := by
    decide +kernel
  obtain ⟨s, hs, hsigned⟩ := (Option.any_eq_true _ _).mp hrun
  obtain ⟨effect, hmem, hsignature⟩ := List.any_eq_true.mp hsigned
  cases effect with
  | sent message =>
    have hreach := Backend.reachable_runVia (Backend.reachable_signing _ _ _) hs
    exact ⟨s, message, hmem, hsignature, signs_what_it_sends hreach hmem hsignature⟩
  | _ => cases hsignature

/-- With OpenSSH 7.4 the client does not go by what the server lists: a server that lists
`rsa-sha2-512` only is sent a request with `rsa-sha2-256`. -/
theorem signer_of_compat :
    ∃ s, Backend.Reachable s ∧ s.serverAlgorithms = [ascii "rsa-sha2-512"] ∧
      s.config.signer.keys = [ascii "rsa-sha2-256", ascii "rsa-sha2-512"] ∧
      .sent (.userauthRequest (ascii "user") (ascii "publickey")
        [.u8 1, .one (ascii "rsa-sha2-256"), .one [1], .u32 84, .one (ascii "rsa-sha2-256"),
          .one (List.replicate 64 0)]) ∈ s.log := by
  have hrun : (Backend.run (.signing (ascii "OpenSSH_7.4")
      [ascii "rsa-sha2-256", ascii "rsa-sha2-512"] (by decide))
      (.packet (makeBufferWithoutHeader [.u8 sshMsgExtInfo, .u32 1, .one (ascii "server-sig-algs"),
        .one (ascii "rsa-sha2-512")]) .agreeable :: authenticatesWith (ascii "ssh-rsa"))).any
      (fun s => decide (s.serverAlgorithms = [ascii "rsa-sha2-512"] ∧
        s.config.signer.keys = [ascii "rsa-sha2-256", ascii "rsa-sha2-512"] ∧
        s.log.any (Effect.sends (.userauthRequest (ascii "user") (ascii "publickey")
          [.u8 1, .one (ascii "rsa-sha2-256"), .one [1], .u32 84, .one (ascii "rsa-sha2-256"),
            .one (List.replicate 64 0)])) = true)) = true := by decide +kernel
  obtain ⟨s, hs, hp⟩ := (Option.any_eq_true _ _).mp hrun
  obtain ⟨halgorithms, hsigners, hsent⟩ := of_decide_eq_true hp
  obtain ⟨effect, hmem, heffect⟩ := List.any_eq_true.mp hsent
  refine ⟨s, Backend.reachable_runVia (Backend.reachable_signing _ _ _) hs, halgorithms, hsigners, ?_⟩
  cases effect with
  | sent message =>
    obtain rfl := of_decide_eq_true heffect
    exact hmem
  | _ => cases heffect

end Flatline
