import Phantasma.Client.StartUp
import Phantasma.Lookup

/-!
# Registering a key

A registration of the command-line client goes through its address and the router of the relay
to the extractor and the handler.  `clientRegister_eq` says that the client is told what the
handler answers, and `register_lookup` that what was registered is looked up.
-/

namespace Phantasma

/-- The answer to a `POST` request whose body is declared to be JSON, and the directory after
it.  For a status that the framework answers by itself, `framework` is the body. -/
def answerPost (serde : JsonCodec) (framework : ℕ → Bytes) (directory : Directory)
    (succeeds : Bool) (target : List Char) (body : Bytes) : Answer × Directory :=
  match route target with
  | none => (⟨404, framework 404⟩, directory)
  | some .users =>
      match serde.fromSlice body with
      | none => (⟨400, framework 400⟩, directory)
      | some value =>
          match PublicKeyRegistration.ofJson value with
          | none => (⟨422, framework 422⟩, directory)
          | some registration =>
              match handleRegistration directory succeeds registration with
              | (.error err, directory) => (.ofError err, directory)
              | (.ok entry, directory) =>
                  match serde.toVec entry.toJson with
                  | none => (⟨500, framework 500⟩, directory)
                  | some body => (⟨201, body⟩, directory)
  | some _ => (⟨405, framework 405⟩, directory)

/-- The answer to a `POST` request, and the directory of the relay after it. -/
def Network.post (net : Network) (serde : JsonCodec) (directory : Directory) (succeeds : Bool)
    (url : String) (body : Bytes) : Option HttpResponse × Directory :=
  match Url.parse url.toList with
  | none => (none, directory)
  | some parsed =>
      if net.isRelay parsed.scheme parsed.authority then
        let (answer, directory) :=
          answerPost serde net.framework directory succeeds (Url.target parsed.path) body
        (some (net.response answer), directory)
      else (net.elsewhere parsed, directory)

/-- The answer to the request of `register_public_key` of the client, when the relay is in the
state `directory`, and the directory after it. -/
def Network.register (net : Network) (serde : JsonCodec) (endpoints : ServerEndpoints)
    (directory : Directory) (succeeds : Bool) (registration : PublicKeyRegistration) :
    Option HttpResponse × Directory :=
  match serde.toVec registration.toJson with
  | none => (none, directory)
  | some body => net.post serde directory succeeds endpoints.registerUrl body

/-- `register_public_key` of the client, and the directory of the relay after it. -/
def clientRegister (net : Network) (serde : JsonCodec) (endpoints : ServerEndpoints)
    (directory : Directory) (succeeds : Bool) (registration : PublicKeyRegistration) :
    Except Error Unit × Directory :=
  let (answer, directory) := net.register serde endpoints directory succeeds registration
  (registerPublicKey endpoints answer, directory)

/-- An address that the client can be given, with the addresses it makes of it, which lead to
the relay. -/
structure RelayAddress (net : Network) where
  scheme : String
  authority : String
  endpoints : RelayEndpoints
  scheme_eq : scheme = "http" ∨ scheme = "https"
  isAuthority : Url.Authority authority.toList
  endpoints_eq : RelayEndpoints.fromOptionalArg (some (scheme ++ "://" ++ authority))
    = .ok endpoints
  isRelay : net.isRelay scheme.toList authority.toList

namespace PublicKeyRegistration

theorem plain_toJson (registration : PublicKeyRegistration) :
  registration.toJson.plain
  := by
  simp [toJson, Json.plain, Json.plainMembers]

@[simp]
theorem ofJson_toJson (registration : PublicKeyRegistration) :
  ofJson registration.toJson = some registration
  := rfl

end PublicKeyRegistration

section

variable {net : Network} {serde : JsonCodec} {username : String} {directory : Directory}
    {succeeds : Bool} {registration : PublicKeyRegistration}

/-- The base of the addresses is the scheme with the authority. -/
theorem httpBaseUrl_eq (address : RelayAddress net) :
  address.endpoints.httpBaseUrl = address.scheme ++ "://" ++ address.authority
  := by
  apply RelayEndpoints.httpBaseUrl_of_fromOptionalArg _ address.isAuthority.ne_nil _
    address.endpoints_eq
  · rcases address.scheme_eq with h | h
    · left
      rw [h]
      rfl
    · right
      rw [h]
      rfl
  · intro hmem
    cases address.isAuthority.inAuthority _ hmem

/-- The address of a registration is parsed to the address of the relay and the path of the
users. -/
theorem parse_registerUrl (address : RelayAddress net) :
  Url.parse address.endpoints.registerUrl.toList
    = some ⟨address.scheme.toList, address.authority.toList,
      Url.normalize [] ["users".toList]⟩
  := by
  have hscheme : address.scheme.toList = "http".toList
      ∨ address.scheme.toList = "https".toList := by
    simpa only [String.toList_inj] using address.scheme_eq
  have hpath : ∀ segment ∈ ["users".toList], Url.Unbroken segment := by
    simp only [List.forall_mem_cons, List.not_mem_nil, false_imp_iff, implies_true, and_true]
    exact Url.forall_mem_of_all rfl
  have hurl : address.endpoints.registerUrl
      = address.scheme ++ "://" ++ address.authority ++ "/users" := by
    rw [ServerEndpoints.registerUrl, httpBaseUrl_eq]
    rfl
  have hcolon : "://".toList = [':', '/', '/'] := rfl
  have husers : "/users".toList = '/' :: "users".toList := rfl
  rw [hurl, ← Url.parse_target hscheme address.isAuthority hpath (List.cons_ne_nil _ _)]
  simp only [String.toList_append, hcolon, husers, Url.target, List.flatMap_cons,
    List.flatMap_nil, List.append_assoc, List.cons_append, List.nil_append, List.append_nil]

theorem route_registerPath :
  route (Url.target (Url.normalize [] ["users".toList])) = some .users
  := by
  decide +kernel

/-- What the client makes of the answer of the handler. -/
def reported (net : Network) : Except (ℕ × String) PublicKeyEntry → Except Error Unit
  | .ok _ => .ok ()
  | .error (status, text) =>
      .error (.text s!"server returned {net.statusText status}: {text}")

/-- An error of a handler is reported with its text. -/
theorem registerPublicKey_of_error
    (endpoints : ServerEndpoints) {err : ℕ × String} (hstatus : 300 ≤ err.1)
    (htext : err.2 ≠ "") :
  registerPublicKey endpoints (some (net.response (.ofError err)))
    = reported net (.error err)
  := by
  have hsuccess : (net.response (.ofError err)).isSuccess = false := by
    simp only [HttpResponse.isSuccess, Network.response, Answer.ofError, hstatus.not_gt,
      decide_false, Bool.and_false]
  have hbody : (net.response (.ofError err)).text = some err.2 := by
    simp only [Network.response, Answer.ofError, Utf8.decode_flatMap, Option.map_some,
      String.ofList_toList]
  have hempty : err.2.isEmpty = false := by
    simpa using htext
  simp only [registerPublicKey, orError, ok_bind, ensureSuccess, hsuccess, hbody,
    Option.getD_some, hempty]
  rfl

/-- A registration that is not valid is a bad request, with a text that says why. -/
theorem error_of_validateRegistration
    {err : StatusCode × String} (h : validateRegistration registration = .error err) :
  err.1 = .badRequest ∧ err.2 ≠ ""
  := by
  unfold validateRegistration at h
  cases hname : isValidUsername registration.username with
  | false =>
      rw [hname] at h
      cases h
      exact ⟨rfl, by decide⟩
  | true =>
      cases hidentity : isValidEd25519PublicKeyText registration.identityPublicKey with
      | false =>
          rw [hname, hidentity] at h
          cases h
          exact ⟨rfl, by decide⟩
      | true =>
          cases hencryption : isValidX25519PublicKeyText registration.encryptionPublicKey with
          | false =>
              rw [hname, hidentity, hencryption] at h
              cases h
              exact ⟨rfl, by decide⟩
          | true =>
              rw [hname, hidentity, hencryption] at h
              cases h

/-- An error of the handler is no success, and has a text. -/
theorem error_of_handleRegistration
    {err : ℕ × String} (h : (handleRegistration directory succeeds registration).1 = .error err) :
  300 ≤ err.1 ∧ err.2 ≠ ""
  := by
  rw [handleRegistration] at h
  cases hvalid : validateRegistration registration with
  | error invalid =>
      obtain ⟨hstatus, htext⟩ := error_of_validateRegistration hvalid
      have hcode : 300 ≤ StatusCode.badRequest.code := by decide
      rw [hvalid] at h
      cases h
      rw [hstatus]
      exact ⟨hcode, htext⟩
  | ok _ =>
      rw [hvalid] at h
      cases succeeds with
      | false =>
          cases h
          exact ⟨by decide, by decide⟩
      | true => cases h

/-- The client is told what the handler answers, and the directory is the one that the handler
leaves. -/
theorem clientRegister_eq
    (hserde : serde.Inverts serde) (address : RelayAddress net) (directory : Directory)
    (succeeds : Bool) (registration : PublicKeyRegistration) :
  clientRegister net serde address.endpoints.toServerEndpoints directory succeeds registration
    = (reported net (handleRegistration directory succeeds registration).1,
      (handleRegistration directory succeeds registration).2)
  := by
  obtain ⟨body, hwrite, hread⟩ := hserde _ registration.plain_toJson
  simp only [clientRegister, Network.register, hwrite, Network.post,
    parse_registerUrl, address.isRelay, if_true, answerPost, route_registerPath, hread,
    PublicKeyRegistration.ofJson_toJson]
  rcases hhandle : handleRegistration directory succeeds registration with ⟨err | entry, after⟩
  · obtain ⟨hstatus, htext⟩ := error_of_handleRegistration (congrArg Prod.fst hhandle)
    dsimp only
    rw [registerPublicKey_of_error _ hstatus htext]
  · obtain ⟨body', hbody', -⟩ := hserde _ entry.plain_toJson
    simp only [hbody']
    rfl

/-- A registration is accepted when it is valid and the database call succeeds; the directory
then has its entry. -/
theorem handleRegistration_eq_ok {entry : PublicKeyEntry} {after : Directory} :
  handleRegistration directory succeeds registration = (.ok entry, after)
    ↔ validateRegistration registration = .ok () ∧ succeeds ∧ entry = registration.entry
      ∧ after = directory.registerPublicKey registration
  := by
  rw [handleRegistration]
  cases validateRegistration registration with
  | error err => simp
  | ok _ =>
      cases succeeds with
      | false => simp
      | true => simp [eq_comm]

/-- A response that `ensure_success` lets through is one of success. -/
theorem isSuccess_of_ensureSuccess
    {response response' : HttpResponse} (h : ensureSuccess response = .ok response') :
  response.isSuccess
  := by
  rw [ensureSuccess] at h
  cases hsuccess : response.isSuccess with
  | true => rfl
  | false =>
      simp only [hsuccess, Bool.false_eq_true, if_false] at h
      split at h <;> cases h

/-- An entry is found in an answer of success only. -/
theorem isSuccess_of_lookupPublicKey
    {endpoints : ServerEndpoints} {response : HttpResponse} {entry : PublicKeyEntry}
    (h : lookupPublicKey serde endpoints (some response) username = .ok (some entry)) :
  response.isSuccess
  := by
  rw [lookupPublicKey] at h
  split at h
  · cases h
  · simp only [orError, ok_bind] at h
    split at h
    · cases h
    · obtain ⟨response', hsuccess, -⟩ := bind_eq_ok.mp h
      apply isSuccess_of_ensureSuccess hsuccess

/-- No entry is found while the database calls fail. -/
theorem clientLookup_of_fails
    (address : RelayAddress net) (hname : isValidUsername username)
    (hdot : ¬ (username = "." ∨ username = "..")) (entry : PublicKeyEntry) :
  clientLookup net serde address.endpoints.toServerEndpoints directory false username
    ≠ .ok (some entry)
  := by
  intro h
  obtain ⟨text, hdecode, htext⟩ := Option.map_eq_some_iff.mp (decode_username hname)
  simp only [clientLookup, Network.get,
    parse_lookupUrl address.scheme_eq address.isAuthority address.endpoints_eq hname,
    Option.bind_eq_bind, Option.bind_some, address.isRelay, if_true, answerGet,
    route_lookupPath hname, if_neg hdot, hdecode, htext, handleLookup, hname, Bool.not_true,
    Bool.not_false, Bool.false_eq_true, if_false] at h
  cases isSuccess_of_lookupPublicKey h

/-- A lookup that finds an entry finds the one in the directory. -/
theorem lookupPublicKey_of_clientLookup
    (hserde : serde.Inverts serde) (address : RelayAddress net) {entry : PublicKeyEntry}
    (h : clientLookup net serde address.endpoints.toServerEndpoints directory succeeds username
      = .ok (some entry)) :
  directory.lookupPublicKey username = some entry
  := by
  cases hname : isValidUsername username with
  | false =>
      simp only [clientLookup, lookupPublicKey, hname, Bool.not_false, if_true] at h
      cases h
  | true =>
      by_cases hdot : username = "." ∨ username = ".."
      · simp only [clientLookup, Network.get,
          parse_lookupUrl address.scheme_eq address.isAuthority address.endpoints_eq hname,
          Option.bind_eq_bind, Option.bind_some, address.isRelay, if_true, answerGet,
          route_lookupPath hname, if_pos hdot] at h
        rw [lookupPublicKey_of_not_found hname rfl] at h
        cases h
      · cases succeeds with
        | false =>
            exact absurd h (clientLookup_of_fails address hname hdot entry)
        | true =>
            rw [clientLookup_eq hserde address.scheme_eq address.isAuthority
              address.endpoints_eq address.isRelay hname hdot] at h
            apply Except.ok.inj h

/-- The result of a registration, as the client is told it. -/
theorem clientRegister_eq_ok
    (hserde : serde.Inverts serde) (address : RelayAddress net) :
  (clientRegister net serde address.endpoints.toServerEndpoints directory succeeds
      registration).1 = .ok ()
    ↔ validateRegistration registration = .ok () ∧ succeeds
  := by
  rw [clientRegister_eq hserde address]
  rcases hhandle : handleRegistration directory succeeds registration with ⟨err | entry, after⟩
  · apply iff_of_false
    · rintro ⟨⟩
    · rintro ⟨hvalid, hsucceeds⟩
      have haccepted : handleRegistration directory succeeds registration
          = (.ok registration.entry, directory.registerPublicKey registration) :=
        handleRegistration_eq_ok.mpr ⟨hvalid, hsucceeds, rfl, rfl⟩
      rw [hhandle] at haccepted
      cases haccepted
  · obtain ⟨hvalid, hsucceeds, -, -⟩ := handleRegistration_eq_ok.mp hhandle
    apply iff_of_true rfl ⟨hvalid, hsucceeds⟩

/-- A registration that is accepted changes the directory, and no other does. -/
theorem directory_of_clientRegister
    (hserde : serde.Inverts serde) (address : RelayAddress net) (directory : Directory)
    (succeeds : Bool) (registration : PublicKeyRegistration) :
  (clientRegister net serde address.endpoints.toServerEndpoints directory succeeds
      registration).2
    = if validateRegistration registration = .ok () ∧ succeeds then
        directory.registerPublicKey registration
      else directory
  := by
  rw [clientRegister_eq hserde address, handleRegistration]
  cases validateRegistration registration with
  | error err => simp
  | ok _ => cases succeeds <;> simp

/-- A client is told that its registration is accepted just when it is valid and the database
call succeeds; and what is looked up afterwards is the entry of that registration, or, for
another name or if it was not accepted, what was looked up before. -/
theorem register_lookup
    (hserde : serde.Inverts serde) (address : RelayAddress net) (directory : Directory)
    (succeeds : Bool) (registration : PublicKeyRegistration) :
  ((clientRegister net serde address.endpoints.toServerEndpoints directory succeeds
        registration).1 = .ok ()
      ↔ validateRegistration registration = .ok () ∧ succeeds)
    ∧ ∀ username, isValidUsername username → username ≠ "." → username ≠ ".." →
      clientLookup net serde address.endpoints.toServerEndpoints
          (clientRegister net serde address.endpoints.toServerEndpoints directory succeeds
            registration).2 true username
        = if (validateRegistration registration = .ok () ∧ succeeds)
              ∧ registration.username = username then
            .ok (some registration.entry)
          else clientLookup net serde address.endpoints.toServerEndpoints directory true username
  := by
  use clientRegister_eq_ok hserde address
  intro username hname hdot hdots
  have hlookup : ∀ directory : Directory,
      clientLookup net serde address.endpoints.toServerEndpoints directory true username
        = .ok (directory.lookupPublicKey username) := by
    intro directory
    apply clientLookup_eq hserde address.scheme_eq address.isAuthority address.endpoints_eq
      address.isRelay hname (not_or.mpr ⟨hdot, hdots⟩)
  rw [hlookup, hlookup, directory_of_clientRegister hserde address]
  by_cases haccepted : validateRegistration registration = .ok () ∧ succeeds
  · rw [if_pos haccepted, Directory.lookupPublicKey_registerPublicKey]
    by_cases heq : registration.username = username
    · rw [if_pos heq, if_pos ⟨haccepted, heq⟩]
    · rw [if_neg heq, if_neg (fun h => heq h.2)]
  · rw [if_neg haccepted, if_neg (fun h => haccepted h.1)]

end

/-! ### A sample registration -/

/-- The address of the sample relay. -/
def sampleAddress : RelayAddress sampleNetwork where
  scheme := "http"
  authority := "127.0.0.1:3000"
  endpoints := RelayEndpoints.ofRest "http://" "ws://" "127.0.0.1:3000".toList
  scheme_eq := Or.inl rfl
  isAuthority := sampleAuthority
  endpoints_eq := rfl
  isRelay := rfl

/-- A key that is registered for `bob` is looked up. -/
theorem register_lookup_sample :
  clientLookup sampleNetwork .compact sampleAddress.endpoints.toServerEndpoints
      (clientRegister sampleNetwork .compact sampleAddress.endpoints.toServerEndpoints .empty true
        (sampleRequest "bob").registration).2 true "bob"
    = .ok (some (sampleRequest "bob").registration.entry)
  := by
  have hvalid : validateRegistration (sampleRequest "bob").registration = .ok () := by
    have haccepted : (sampleRequest "bob").isAccepted := by decide +kernel
    rw [RegistrationRequest.isAccepted, Bool.and_eq_true] at haccepted
    obtain ⟨_, hok⟩ := exists_eq_ok haccepted.2
    apply hok
  have hname : isValidUsername "bob" := by decide +kernel
  obtain ⟨-, hlookup⟩ := register_lookup JsonCodec.inverts_compact sampleAddress .empty true
    (sampleRequest "bob").registration
  rw [hlookup "bob" hname (by decide) (by decide)]
  apply if_pos ⟨⟨hvalid, rfl⟩, rfl⟩

end Phantasma
