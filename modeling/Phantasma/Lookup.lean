import Phantasma.Client.Endpoints
import Phantasma.Relay.Directory
import Phantasma.Shared.JsonText

/-!
# Looking up a registered key

A lookup of the command-line client goes through its address, the parser of the HTTP
library and the router of the relay to the table of the directory.  The names `.` and `..`
are usernames, and the parser removes them from the path; `looksUp_iff` says that every
other name is looked up as it was registered.
-/

namespace Phantasma

/-- What lies between the client and the relay: the addresses under which the relay is
reached, what is answered elsewhere, and the texts that go with a status. -/
structure Network where
  isRelay : List Char → List Char → Bool
  elsewhere : Url.Parsed → Option HttpResponse
  statusText : ℕ → String
  framework : ℕ → Bytes

/-- An answer of the relay, as the client receives it. -/
def Network.response (net : Network) (answer : Answer) : HttpResponse where
  status := answer.status
  statusText := net.statusText answer.status
  body := some answer.body
  text := (Utf8.decode answer.body).map String.ofList

/-- The answer to a `GET` request. -/
def Network.get (net : Network) (serde : JsonCodec) (directory : Directory) (succeeds : Bool)
    (url : String) : Option HttpResponse := do
  let parsed ← Url.parse url.toList
  if net.isRelay parsed.scheme parsed.authority then
    some (net.response
      (answerGet serde net.framework directory succeeds (Url.target parsed.path)))
  else net.elsewhere parsed

/-- The username in the route of the public keys, if a request for the address takes that
route. -/
def requestedUsername (url : String) : Option String := do
  let parsed ← Url.parse url.toList
  match ← route (Url.target parsed.path) with
  | .publicKey username => (Url.decode username).map String.ofList
  | _ => none

/-- `lookup_public_key` of the client, when the relay is in the state `directory`. -/
def clientLookup (net : Network) (serde : JsonCodec) (endpoints : ServerEndpoints)
    (directory : Directory) (succeeds : Bool) (username : String) :
    Except Error (Option PublicKeyEntry) :=
  lookupPublicKey serde endpoints
    (net.get serde directory succeeds (endpoints.lookupUrl username)) username

/-! ### Usernames in a path -/

theorem toNat_of_isUsernameChar {ch : Char} (h : isUsernameChar ch) :
  0x20 < ch.toNat ∧ ch.toNat ≤ 0x7e
  := by
  rw [isUsernameChar] at h
  unfold Char.isAlphanum Char.isAlpha Char.isUpper Char.isLower Char.isDigit at h
  simp only [Bool.or_eq_true, decide_eq_true_eq, Bool.and_eq_true, UInt32.le_iff_toNat_le,
    ge_iff_le] at h
  have hval : ch.val.toNat = ch.toNat := rfl
  rcases h with ((((hupper | hlower) | hdigit) | rfl) | rfl) | rfl
  · simp at hupper
    omega
  · simp at hlower
    omega
  · simp at hdigit
    omega
  all_goals decide

/-- The characters of a username stand for themselves in a path. -/
theorem plain_of_isUsernameChar {ch : Char} (h : isUsernameChar ch) :
  Url.isSlash ch = false ∧ Url.endsPath ch = false ∧ Url.isBlank ch = false
    ∧ Url.inPathSet ch = false ∧ ch ≠ '%'
  := by
  obtain ⟨hlow, hhigh⟩ := toNat_of_isUsernameChar h
  have hne (other : Char) (hother : isUsernameChar other = false) : ch ≠ other := by
    rintro rfl
    rw [h] at hother
    cases hother
  and_intros
  · simp [Url.isSlash, hne '/' rfl, hne '\\' rfl]
  · simp [Url.endsPath, hne '?' rfl, hne '#' rfl]
  · simp [Url.isBlank, hlow]
  · simp [Url.inPathSet, hne ' ' rfl, hne '"' rfl, hne '#' rfl, hne '<' rfl, hne '>' rfl,
      hne '?' rfl, hne '^' rfl, hne '\x60' rfl, hne '\x7b' rfl, hne '\x7d' rfl]
    omega
  · apply hne _ rfl

theorem isUsernameChar_of_isValidUsername
    {username : String} (hname : isValidUsername username) {ch : Char}
    (hch : ch ∈ username.toList) :
  isUsernameChar ch
  := by
  rw [isValidUsername, Bool.and_eq_true, List.all_eq_true] at hname
  apply hname.2 ch hch

/-- The segments of the path of a lookup. -/
def lookupPath (username : String) : List (List Char) :=
  ["users".toList, username.toList, "public-key".toList]

/-- A username that is no dot segment is a plain segment. -/
theorem plain_lookupPath
    {username : String} (hname : isValidUsername username) (hdot : username ≠ ".")
    (hdots : username ≠ "..") :
  ∀ segment ∈ lookupPath username, Url.Plain segment
  := by
  have hchar {ch : Char} (hch : ch ∈ username.toList) :=
    plain_of_isUsernameChar (isUsernameChar_of_isValidUsername hname hch)
  have hpercent : '%' ∉ username.toList := by
    intro hmem
    apply (hchar hmem).2.2.2.2 rfl
  simp only [lookupPath, List.forall_mem_cons, List.not_mem_nil, false_imp_iff, implies_true,
    and_true]
  and_intros
  · exact ⟨Url.forall_mem_of_all rfl, Url.forall_mem_of_all rfl, rfl, rfl⟩
  · constructor
    · intro ch hch
      apply (hchar hch).2.2.2.1
    · intro ch hch
      apply (hchar hch).1
    · rw [Bool.eq_false_iff, ne_eq, Url.isSingleDot_iff hpercent, String.toList_inj]
      apply hdot
    · rw [Bool.eq_false_iff, ne_eq, Url.isDoubleDot_iff hpercent, String.toList_inj]
      apply hdots
  · exact ⟨Url.forall_mem_of_all rfl, Url.forall_mem_of_all rfl, rfl, rfl⟩

section

variable {net : Network} {serde : JsonCodec} {scheme authority username : String}
    {endpoints : RelayEndpoints}

/-- The address of a lookup is parsed to the address of the relay and the path of the
lookup. -/
theorem parse_lookupUrl
    (hscheme : scheme = "http" ∨ scheme = "https") (hauthority : Url.Authority authority.toList)
    (hendpoints : RelayEndpoints.fromOptionalArg (some (scheme ++ "://" ++ authority))
      = .ok endpoints)
    (hname : isValidUsername username) :
  Url.parse (endpoints.lookupUrl username).toList
    = some ⟨scheme.toList, authority.toList, Url.normalize [] (lookupPath username)⟩
  := by
  have hbase : endpoints.httpBaseUrl = scheme ++ "://" ++ authority := by
    apply RelayEndpoints.httpBaseUrl_of_fromOptionalArg _ hauthority.ne_nil _ hendpoints
    · rcases hscheme with rfl | rfl
      · left
        rfl
      · right
        rfl
    · intro hmem
      have := hauthority.inAuthority _ hmem
      cases this
  have hscheme' : scheme.toList = "http".toList ∨ scheme.toList = "https".toList := by
    simpa only [String.toList_inj] using hscheme
  have hpath : ∀ segment ∈ lookupPath username, Url.Unbroken segment := by
    simp only [lookupPath, List.forall_mem_cons, List.not_mem_nil, false_imp_iff, implies_true,
      and_true]
    and_intros
    · exact Url.forall_mem_of_all rfl
    · intro ch hch
      obtain ⟨hslash, hends, hblank, -⟩ :=
        plain_of_isUsernameChar (isUsernameChar_of_isValidUsername hname hch)
      exact ⟨hslash, hends, hblank⟩
    · exact Url.forall_mem_of_all rfl
  have hurl : endpoints.lookupUrl username
      = scheme ++ "://" ++ authority ++ "/users/" ++ username ++ "/public-key" := by
    rw [ServerEndpoints.lookupUrl, hbase]
    rfl
  have hcolon : "://".toList = [':', '/', '/'] := rfl
  have husers : "/users/".toList = '/' :: "users".toList ++ ['/'] := rfl
  have hkey : "/public-key".toList = '/' :: "public-key".toList := rfl
  rw [hurl, ← Url.parse_target hscheme' hauthority hpath (List.cons_ne_nil _ _)]
  simp only [String.toList_append, hcolon, husers, hkey, lookupPath, Url.target,
    List.flatMap_cons, List.flatMap_nil, List.append_assoc, List.cons_append, List.nil_append,
    List.append_nil]

/-- The path of a lookup is routed to the handler, unless the username is a dot segment. -/
theorem route_lookupPath (hname : isValidUsername username) :
  route (Url.target (Url.normalize [] (lookupPath username)))
    = if username = "." ∨ username = ".." then none else some (.publicKey username.toList)
  := by
  split
  · rename_i hdot
    rcases hdot with rfl | rfl <;> decide +kernel
  · rename_i hdot
    rw [not_or] at hdot
    have hplain := plain_lookupPath hname hdot.1 hdot.2
    have hne : username.toList ≠ [] := by
      rw [isValidUsername, Bool.and_eq_true, Bool.and_eq_true] at hname
      simpa using hname.1.1
    have hslash : ∀ segment ∈ lookupPath username, ∀ ch ∈ segment, decide (ch = '/') = false := by
      intro segment hsegment ch hch
      rw [decide_eq_false_iff_not]
      rintro rfl
      cases (hplain segment hsegment).isSlash _ hch
    rw [Url.normalize_plain [] hplain, List.reverse_nil, List.nil_append, route,
      Url.splitOnP_target (p := (· = '/')) rfl hslash]
    apply if_pos ⟨rfl, hne, rfl⟩

theorem decode_username (hname : isValidUsername username) :
  (Url.decode username.toList).map String.ofList = some username
  := by
  rw [Url.decode_plain, Option.map_some, String.ofList_toList]
  intro ch hch
  apply (plain_of_isUsernameChar (isUsernameChar_of_isValidUsername hname hch)).2.2.2.2

theorem requestedUsername_lookupUrl
    (hscheme : scheme = "http" ∨ scheme = "https") (hauthority : Url.Authority authority.toList)
    (hendpoints : RelayEndpoints.fromOptionalArg (some (scheme ++ "://" ++ authority))
      = .ok endpoints)
    (hname : isValidUsername username) :
  requestedUsername (endpoints.lookupUrl username)
    = if username = "." ∨ username = ".." then none else some username
  := by
  simp only [requestedUsername, parse_lookupUrl hscheme hauthority hendpoints hname,
    Option.bind_eq_bind, Option.bind_some, route_lookupPath hname]
  split
  · rfl
  · apply decode_username hname

/-- What is answered to a lookup that reaches its handler is read back by the client. -/
theorem clientLookup_eq
    (hserde : serde.Inverts serde) (hscheme : scheme = "http" ∨ scheme = "https")
    (hauthority : Url.Authority authority.toList)
    (hendpoints : RelayEndpoints.fromOptionalArg (some (scheme ++ "://" ++ authority))
      = .ok endpoints)
    (hrelay : net.isRelay scheme.toList authority.toList) (hname : isValidUsername username)
    (hdot : ¬ (username = "." ∨ username = "..")) (directory : Directory) :
  clientLookup net serde endpoints.toServerEndpoints directory true username
    = .ok (directory.lookupPublicKey username)
  := by
  obtain ⟨text, hdecode, htext⟩ := Option.map_eq_some_iff.mp (decode_username hname)
  simp only [clientLookup, Network.get, parse_lookupUrl hscheme hauthority hendpoints hname,
    Option.bind_eq_bind, Option.bind_some, hrelay, if_true, answerGet, route_lookupPath hname,
    if_neg hdot, hdecode, htext, handleLookup, hname, Bool.not_true, Bool.false_eq_true, if_false]
  cases directory.lookupPublicKey username with
  | none => apply lookupPublicKey_of_not_found hname rfl
  | some entry =>
      obtain ⟨body, hwrite, hread⟩ := fromWire_toWire hserde entry.plain_toJson
        (PublicKeyEntry.ofJson_toJson entry)
      simp only [pure, Except.pure, toWire_eq_ok.mp hwrite]
      apply lookupPublicKey_of_entry hname rfl rfl hread

/-- No key is found for a username that is a dot segment. -/
theorem clientLookup_of_dot
    (hscheme : scheme = "http" ∨ scheme = "https") (hauthority : Url.Authority authority.toList)
    (hendpoints : RelayEndpoints.fromOptionalArg (some (scheme ++ "://" ++ authority))
      = .ok endpoints)
    (hrelay : net.isRelay scheme.toList authority.toList) (hname : isValidUsername username)
    (hdot : username = "." ∨ username = "..") (directory : Directory) :
  clientLookup net serde endpoints.toServerEndpoints directory true username = .ok none
  := by
  simp only [clientLookup, Network.get, parse_lookupUrl hscheme hauthority hendpoints hname,
    Option.bind_eq_bind, Option.bind_some, hrelay, if_true, answerGet, route_lookupPath hname,
    if_pos hdot]
  apply lookupPublicKey_of_not_found hname rfl

/-- A registered key is looked up as it was registered, just when its username is no dot
segment. -/
theorem looksUp_iff
    (hserde : serde.Inverts serde) (hscheme : scheme = "http" ∨ scheme = "https")
    (hauthority : Url.Authority authority.toList)
    (hendpoints : RelayEndpoints.fromOptionalArg (some (scheme ++ "://" ++ authority))
      = .ok endpoints)
    (hrelay : net.isRelay scheme.toList authority.toList) (hname : isValidUsername username)
    (requests : List RegistrationRequest) :
  (requestedUsername (endpoints.lookupUrl username) = some username
      ∧ clientLookup net serde endpoints.toServerEndpoints (Directory.after requests) true username
        = .ok (lastAccepted requests username))
    ↔ username ≠ "." ∧ username ≠ ".."
  := by
  rw [← not_or, requestedUsername_lookupUrl hscheme hauthority hendpoints hname]
  constructor
  · rintro ⟨hroute, -⟩ hdot
    rw [if_pos hdot] at hroute
    cases hroute
  · intro hdot
    rw [if_neg hdot, ← lookupPublicKey_after]
    use rfl
    apply clientLookup_eq hserde hscheme hauthority hendpoints hrelay hname hdot

end

/-! ### A sample relay -/

/-- The network in which every address is the relay's. -/
def sampleNetwork : Network where
  isRelay _ _ := true
  elsewhere _ := none
  statusText := toString
  framework _ := []

/-- An accepted registration of `username`. -/
def sampleRequest (username : String) : RegistrationRequest where
  registration :=
    { username := username
      identityPublicKey := "AAAAAAAAAAAAAAAAAAAAAAAAAAAAAAAAAAAAAAAAAAA"
      encryptionPublicKey := "BBBBBBBBBBBBBBBBBBBBBBBBBBBBBBBBBBBBBBBBBBB" }
  succeeds := true

theorem sampleAuthority :
  Url.Authority "127.0.0.1:3000".toList
  where
  ne_nil := by
    decide
  inAuthority := Url.forall_mem_of_all rfl
  isBlank := Url.forall_mem_of_all rfl

/-- A key that is registered for `bob` is looked up. -/
theorem looksUp_iff_sample :
  ∃ endpoints, RelayEndpoints.fromOptionalArg (some ("http" ++ "://" ++ "127.0.0.1:3000"))
      = .ok endpoints
    ∧ requestedUsername (endpoints.lookupUrl "bob") = some "bob"
    ∧ clientLookup sampleNetwork .compact endpoints.toServerEndpoints
        (Directory.after [sampleRequest "bob"]) true "bob"
      = .ok (lastAccepted [sampleRequest "bob"] "bob")
    ∧ (lastAccepted [sampleRequest "bob"] "bob").isSome
  := by
  have hok : (RelayEndpoints.fromOptionalArg
      (some ("http" ++ "://" ++ "127.0.0.1:3000"))).toOption.isSome := by
    decide +kernel
  have hname : isValidUsername "bob" := by decide +kernel
  have hdot : "bob" ≠ "." ∧ "bob" ≠ ".." := by decide
  have haccepted : (lastAccepted [sampleRequest "bob"] "bob").isSome := by decide +kernel
  obtain ⟨endpoints, hendpoints⟩ := exists_eq_ok hok
  have hrelay : sampleNetwork.isRelay "http".toList "127.0.0.1:3000".toList := rfl
  obtain ⟨hroute, hlookup⟩ := (looksUp_iff JsonCodec.inverts_compact (.inl rfl) sampleAuthority
    hendpoints hrelay hname [sampleRequest "bob"]).mpr hdot
  use endpoints

/-- A key that is registered for `..` is not found. -/
theorem not_looksUp :
  ¬ ∀ (net : Network) (serde : JsonCodec) (scheme authority username : String)
      (endpoints : RelayEndpoints) (requests : List RegistrationRequest),
    serde.Inverts serde → scheme = "http" ∨ scheme = "https" →
    Url.Authority authority.toList →
    RelayEndpoints.fromOptionalArg (some (scheme ++ "://" ++ authority)) = .ok endpoints →
    net.isRelay scheme.toList authority.toList → isValidUsername username →
      requestedUsername (endpoints.lookupUrl username) = some username
        ∧ clientLookup net serde endpoints.toServerEndpoints (Directory.after requests) true
            username
          = .ok (lastAccepted requests username)
  := by
  intro hlooksUp
  have hok : (RelayEndpoints.fromOptionalArg
      (some ("http" ++ "://" ++ "127.0.0.1:3000"))).toOption.isSome := by
    decide +kernel
  have hname : isValidUsername ".." := by decide +kernel
  have haccepted : (lastAccepted [sampleRequest ".."] "..").isSome := by decide +kernel
  obtain ⟨endpoints, hendpoints⟩ := exists_eq_ok hok
  obtain ⟨-, hlookup⟩ := hlooksUp sampleNetwork .compact "http" "127.0.0.1:3000" ".." endpoints
    [sampleRequest ".."] JsonCodec.inverts_compact (.inl rfl) sampleAuthority hendpoints rfl hname
  have hnone : clientLookup sampleNetwork .compact endpoints.toServerEndpoints
      (Directory.after [sampleRequest ".."]) true ".." = .ok none :=
    clientLookup_of_dot (.inl rfl) sampleAuthority hendpoints rfl hname (.inr rfl) _
  rw [hnone, Except.ok.injEq] at hlookup
  rw [← hlookup] at haccepted
  cases haccepted

end Phantasma
