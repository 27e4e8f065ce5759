import Phantasma.Base.TransitionSystem
import Phantasma.Shared.JsonText
import Phantasma.Web.Page

/-!
# Signing in to the browser client

`start` of `app.js` with the functions it calls, over `state` and the texts in the local
storage, run from its beginning to its end.  It assigns the parts of `state` one by one, and
most of the calls in between can throw.  `signIn_allOrNothing` says which calls of `start`
leave `state` as it was when they throw, and that in a session in which all calls do so,
everything in `state` belongs to one successful sign-in.
-/

namespace Phantasma.Web

/-! ### The relay -/

/-- What `new URL` reads from a text, as far as `makeRelayConfig` uses it. -/
structure UrlParts where
  protocol : String
  hostname : String
  host : String
  pathname : String
deriving DecidableEq

/-- What the browser gives to the page: the parser of URLs, and whether the page itself was
loaded over HTTPS. -/
structure Browser where
  parseUrl : String → Option UrlParts
  pageIsHttps : Bool

/-- The result of `makeRelayConfig`. -/
structure RelayConfig where
  httpBaseUrl : String
  webSocketUrl : String
deriving DecidableEq

/-- `pathname.replace(/\/$/, "")`. -/
def withoutSlash (pathname : String) : String :=
  if pathname.toList.getLast? = some '/' then String.ofList pathname.toList.dropLast else pathname

/-- `makeRelayConfig`.  `encodeURIComponent` leaves the characters of a username as they
are. -/
def makeRelayConfig (browser : Browser) (rawUrl username : String) : Except Thrown RelayConfig := do
  let url ← orException (browser.parseUrl rawUrl)
  let isLocal := url.hostname = "localhost" ∨ url.hostname = "127.0.0.1" ∨ url.hostname = "[::1]"
  if browser.pageIsHttps ∧ url.protocol ≠ "https:" ∧ ¬ isLocal then
    throw (.error
      "HTTPS pages need an HTTPS relay URL so WebSocket delivery can use wss://.")
  let wsProtocol := if url.protocol = "https:" then "wss:" else "ws:"
  if browser.pageIsHttps ∧ wsProtocol ≠ "wss:" ∧ ¬ isLocal then
    throw (.error "HTTPS pages need wss:// WebSocket delivery.")
  let basePath := withoutSlash url.pathname
  return {
    httpBaseUrl := s!"{url.protocol}//{url.host}{basePath}"
    webSocketUrl := s!"{wsProtocol}//{url.host}{basePath}/ws/{username}" }

/-! ### The session -/

/-- The texts in the local storage. -/
abbrev Storage := String → Option Bytes

/-- `state.identity`. -/
structure SessionIdentity where
  identityPublicKey : Value
  identitySecretKey : Bytes
  encryptionPublicKey : Value
  encryptionSecretKey : Bytes

/-- `state` with the local storage, the status line and the registrations that were requested.
Of the socket it has the URL.  `contactsOf` is the user that the contacts were loaded for. -/
structure Session where
  username : String
  relay : Option RelayConfig
  identity : Option SessionIdentity
  contacts : List (Value × Json)
  contactsOf : String
  socket : Option String
  started : Bool
  storage : Storage
  status : String
  registrations : List (String × List (String × Value))

/-- A call of `start` with what comes from outside in it: what is typed, the key pairs that
are drawn, each with the public key first, the keys under which the local storage takes an
item, the answer to the registration, and whether `refreshContacts` and `new WebSocket`
succeed. -/
structure StartCall where
  usernameText : String
  relayUrlText : String
  identityPair : Bytes × Bytes
  encryptionPair : Bytes × Bytes
  storageTakes : String → Bool
  answer : Option HttpResponse
  refreshes : Bool
  constructs : Bool

/-- `localStorage.setItem`. -/
def setItem (call : StartCall) (key : String) (text : Bytes) : Program Storage Thrown Unit := do
  if !call.storageTakes key then
    throw .exception
  modify fun storage => Function.update storage key (some text)

/-- The bytes of a text. -/
def textBytes (text : String) : Bytes :=
  text.toList.flatMap String.utf8EncodeChar

/-- The text of an item that there is and that is not empty. -/
def getItem (storage : Storage) (key : String) : Option Bytes :=
  (storage key).filter fun text => !text.isEmpty

section

variable (js : JsonCodec) (call : StartCall) (username : String)

/-- `loadOrCreateIdentity`. -/
def loadOrCreateIdentity : Program Storage Thrown SessionIdentity := do
  let key := s!"phantasma.web.identity.{username}"
  match getItem (← get) key with
  | some existing =>
      let parsed : Value := some (← Program.ofExcept (orException (js.fromSlice existing)))
      let identityPublicKey ← Program.ofExcept (parsed.property "identityPublicKey")
      let identitySecretKey ← Program.ofExcept (do
        fromBase64 (← parsed.property "identitySecretKey"))
      let encryptionPublicKey ← Program.ofExcept (parsed.property "encryptionPublicKey")
      let encryptionSecretKey ← Program.ofExcept (do
        fromBase64 (← parsed.property "encryptionSecretKey"))
      return ⟨identityPublicKey, identitySecretKey, encryptionPublicKey, encryptionSecretKey⟩
  | none =>
      let identityPublicKey := toBase64 call.identityPair.1
      let encryptionPublicKey := toBase64 call.encryptionPair.1
      let text ← Program.ofExcept (orException (js.toVec (.obj [
        ("identityPublicKey", .str identityPublicKey),
        ("identitySecretKey", .str (toBase64 call.identityPair.2)),
        ("encryptionPublicKey", .str encryptionPublicKey),
        ("encryptionSecretKey", .str (toBase64 call.encryptionPair.2))])))
      setItem call key text
      return ⟨.ofString identityPublicKey, call.identityPair.2, .ofString encryptionPublicKey,
        call.encryptionPair.2⟩

/-- `loadContacts`. -/
def loadContacts (storage : Storage) : Except Thrown (List (Value × Json)) :=
  match getItem storage (contactStorageKey username) with
  | none => .ok []
  | some raw => do
      match ← orException (js.fromSlice raw) with
      | .arr entries =>
          let named ← entries.mapM fun entry => do
            return (← Value.property "username" (some entry), entry)
          return named.foldl (fun contacts entry => setContact contacts entry.1 entry.2) []
      | _ => throw .exception

/-- `fetchJson`, where `answer` is the answer to the request it makes. -/
def fetchJson (answer : Option HttpResponse) : Except Thrown Json := do
  let response ← orException answer
  if !response.isSuccess then
    throw (.error (← orException response.text))
  orException (js.fromSlice (← orException response.body))

/-- A function of the page. -/
abbrev SessionTask := Program Session Thrown

/-- A program over the local storage, on the session. -/
def onStorage {α : Type} (x : Program Storage Thrown α) : SessionTask α := do
  let (result, storage) := x.outcome (← get).storage
  modify fun s => { s with storage := storage }
  Program.ofExcept result

/-- `registerPublicKey`. -/
def registerPublicKey : SessionTask Unit := do
  let s ← get
  match s.identity, s.relay with
  | some identity, some relay =>
      let body := [("username", .ofString s.username),
        ("identity_public_key", identity.identityPublicKey),
        ("encryption_public_key", identity.encryptionPublicKey)]
      modify fun s =>
        { s with registrations := s.registrations ++ [(s!"{relay.httpBaseUrl}/users", body)] }
      let _ ← Program.ofExcept (fetchJson js call.answer)
  | _, _ => throw .exception

/-- `connectWebSocket`. -/
def connectWebSocket (constructs : Bool) : SessionTask Unit := do
  match (← get).relay with
  | some relay =>
      if !constructs then
        throw .exception
      modify fun s =>
        { s with
          socket := some relay.webSocketUrl
          status := s!"Connecting to {relay.webSocketUrl}" }
  | none => throw .exception

/-- The rest of `start`, once `state.started` is set. -/
def completeStart (username relayUrl : String) : SessionTask Unit := do
  onStorage (setItem call "phantasma.web.lastUsername" (textBytes username))
  onStorage (setItem call "phantasma.web.relayUrl" (textBytes relayUrl))
  registerPublicKey js call
  if !call.refreshes then
    throw .exception
  connectWebSocket call.constructs
  modify fun s => { s with status := s!"Signed in as {username}." }

/-- `start`. -/
def start (browser : Browser) : SessionTask Unit := do
  let username := trim call.usernameText
  let relayUrl := trim call.relayUrlText
  if !isValidUsername username then
    throw (.error "Username can use letters, numbers, '.', '-', and '_'.")
  let relay ← Program.ofExcept (makeRelayConfig browser relayUrl username)
  modify fun s => { s with relay := some relay }
  modify fun s => { s with username := username }
  let identity ← onStorage (loadOrCreateIdentity js call username)
  modify fun s => { s with identity := some identity }
  let contacts ← Program.ofExcept (loadContacts js username (← get).storage)
  modify fun s => { s with contacts := contacts, contactsOf := username }
  modify fun s => { s with started := true }
  completeStart js call username relayUrl

end

/-! ### How a call of `start` ends -/

section

variable {browser : Browser} {js : JsonCodec} {call : StartCall}

/-- The user that the call of `start` is for. -/
def StartCall.user (call : StartCall) : String :=
  trim call.usernameText

/-- The call gets past its checks, with this relay. -/
def StartCall.Passes (browser : Browser) (call : StartCall) (relay : RelayConfig) : Prop :=
  isValidUsername call.user
    ∧ makeRelayConfig browser (trim call.relayUrlText) call.user = .ok relay

/-- Nothing throws in the call once `state.started` is set. -/
structure StartCall.Completes (js : JsonCodec) (call : StartCall) : Prop where
  lastUsername : call.storageTakes "phantasma.web.lastUsername"
  relayUrl : call.storageTakes "phantasma.web.relayUrl"
  registered : ∃ value, fetchJson js call.answer = .ok value
  refreshes : call.refreshes
  constructs : call.constructs

theorem outcome_onStorage {α : Type} (x : Program Storage Thrown α) (s : Session) :
  (onStorage x).outcome s
    = ((x.outcome s.storage).1, { s with storage := (x.outcome s.storage).2 })
  := by
  simp only [onStorage, Program.outcome_bind, Program.outcome_get, Program.outcome_modify,
    Program.outcome_ofExcept]

/-- `s.SameState s'`: the parts of `state` that `start` assigns are the same. -/
structure Session.SameState (s s' : Session) : Prop where
  relay : s'.relay = s.relay
  username : s'.username = s.username
  identity : s'.identity = s.identity
  contacts : s'.contacts = s.contacts
  contactsOf : s'.contactsOf = s.contactsOf
  started : s'.started = s.started

theorem Session.SameState.refl (s : Session) :
  s.SameState s
  := ⟨rfl, rfl, rfl, rfl, rfl, rfl⟩

theorem Session.SameState.trans {s s' s'' : Session} (h : s.SameState s') (h' : s'.SameState s'') :
  s.SameState s''
  where
  relay := h'.relay.trans h.relay
  username := h'.username.trans h.username
  identity := h'.identity.trans h.identity
  contacts := h'.contacts.trans h.contacts
  contactsOf := h'.contactsOf.trans h.contactsOf
  started := h'.started.trans h.started

section

variable {s s' : Session} {result : Except Thrown Unit}

/-- An item is set just when the local storage takes it. -/
theorem onStorage_setItem
    {key : String} {text : Bytes}
    (h : (onStorage (setItem call key text)).outcome s = (result, s')) :
  s.SameState s' ∧ s'.socket = s.socket ∧ (result = .ok () ↔ call.storageTakes key)
  := by
  rw [outcome_onStorage] at h
  cases h
  use ⟨rfl, rfl, rfl, rfl, rfl, rfl⟩, rfl
  rw [setItem]
  cases call.storageTakes key with
  | false => simp
  | true => simp

/-- The registration succeeds just when its answer can be read. -/
theorem registerPublicKey_cases
    {relay : RelayConfig} {identity : SessionIdentity} (hrelay : s.relay = some relay)
    (hidentity : s.identity = some identity)
    (h : (registerPublicKey js call).outcome s = (result, s')) :
  s.SameState s' ∧ s'.socket = s.socket
    ∧ (result = .ok () ↔ ∃ value, fetchJson js call.answer = .ok value)
  := by
  simp only [registerPublicKey, Program.outcome_bind, Program.outcome_get, hrelay, hidentity,
    Program.outcome_modify, Program.outcome_ofExcept] at h
  cases hfetch : fetchJson js call.answer with
  | error err =>
      rw [hfetch] at h
      cases h
      use ⟨hrelay.symm, rfl, hidentity.symm, rfl, rfl, rfl⟩, rfl
      simp
  | ok value =>
      rw [hfetch] at h
      cases h
      use ⟨hrelay.symm, rfl, hidentity.symm, rfl, rfl, rfl⟩, rfl
      simp

/-- The socket is replaced just when the new one can be constructed. -/
theorem connectWebSocket_cases
    {relay : RelayConfig} {constructs : Bool} (hrelay : s.relay = some relay)
    (h : (connectWebSocket constructs).outcome s = (result, s')) :
  s.SameState s' ∧ (result = .ok () ∧ constructs ∧ s'.socket = some relay.webSocketUrl
    ∨ (∃ err, result = .error err) ∧ ¬ constructs ∧ s'.socket = s.socket)
  := by
  simp only [connectWebSocket, Program.outcome_bind, Program.outcome_get, hrelay] at h
  cases constructs with
  | false =>
      cases h
      use Session.SameState.refl s
      right
      exact ⟨⟨_, rfl⟩, Bool.false_ne_true, rfl⟩
  | true =>
      cases h
      use ⟨rfl, rfl, rfl, rfl, rfl, rfl⟩
      left
      exact ⟨rfl, rfl, rfl⟩

/-- The rest of `start` leaves what was assigned, and it replaces the socket just when nothing
throws. -/
theorem completeStart_cases
    {relay : RelayConfig} {identity : SessionIdentity} {username relayUrl : String}
    (hrelay : s.relay = some relay) (hidentity : s.identity = some identity)
    (h : (completeStart js call username relayUrl).outcome s = (result, s')) :
  s.SameState s' ∧ (result = .ok () ∧ call.Completes js ∧ s'.socket = some relay.webSocketUrl
    ∨ (∃ err, result = .error err) ∧ ¬ call.Completes js ∧ s'.socket = s.socket)
  := by
  rcases Program.bind_cases h with ⟨err, hlast, rfl⟩ | ⟨⟨⟩, s₁, hlast, h⟩
  · obtain ⟨hsame, hsocket, hiff⟩ := onStorage_setItem hlast
    use hsame, Or.inr ⟨⟨err, rfl⟩, ?_, hsocket⟩
    intro hcompletes
    cases hiff.mpr hcompletes.lastUsername
  obtain ⟨hsame₁, hsocket₁, hiff₁⟩ := onStorage_setItem hlast
  rcases Program.bind_cases h with ⟨err, hurl, rfl⟩ | ⟨⟨⟩, s₂, hurl, h⟩
  · obtain ⟨hsame, hsocket, hiff⟩ := onStorage_setItem hurl
    use hsame₁.trans hsame, Or.inr ⟨⟨err, rfl⟩, ?_, hsocket.trans hsocket₁⟩
    intro hcompletes
    cases hiff.mpr hcompletes.relayUrl
  obtain ⟨hsame₂, hsocket₂, hiff₂⟩ := onStorage_setItem hurl
  have hsame₂ := hsame₁.trans hsame₂
  have hsocket₂ := hsocket₂.trans hsocket₁
  have hrelay₂ := hsame₂.relay.trans hrelay
  have hidentity₂ := hsame₂.identity.trans hidentity
  rcases Program.bind_cases h with ⟨err, hregister, rfl⟩ | ⟨⟨⟩, s₃, hregister, h⟩
  · obtain ⟨hsame, hsocket, hiff⟩ := registerPublicKey_cases hrelay₂ hidentity₂ hregister
    use hsame₂.trans hsame, Or.inr ⟨⟨err, rfl⟩, ?_, hsocket.trans hsocket₂⟩
    intro hcompletes
    cases hiff.mpr hcompletes.registered
  obtain ⟨hsame₃, hsocket₃, hiff₃⟩ := registerPublicKey_cases hrelay₂ hidentity₂ hregister
  have hsame₃ := hsame₂.trans hsame₃
  have hsocket₃ := hsocket₃.trans hsocket₂
  cases hrefreshes : call.refreshes with
  | false =>
      simp only [hrefreshes, Bool.not_false, if_true] at h
      cases h
      use hsame₃, Or.inr ⟨⟨_, rfl⟩, ?_, hsocket₃⟩
      intro hcompletes
      cases hrefreshes.symm.trans hcompletes.refreshes
  | true =>
      simp only [hrefreshes, Bool.not_true, Bool.false_eq_true, if_false] at h
      have hrelay₃ := hsame₃.relay.trans hrelay
      rcases Program.bind_cases h with ⟨err, hconnect, rfl⟩ | ⟨⟨⟩, s₄, hconnect, h⟩
      · obtain ⟨hsame, ⟨⟨⟩, -⟩ | ⟨-, hconstructs, hsocket⟩⟩ :=
          connectWebSocket_cases hrelay₃ hconnect
        use hsame₃.trans hsame, Or.inr ⟨⟨err, rfl⟩, ?_, hsocket.trans hsocket₃⟩
        intro hcompletes
        apply hconstructs hcompletes.constructs
      · obtain ⟨hsame, ⟨-, hconstructs, hsocket⟩ | ⟨⟨_, ⟨⟩⟩, -⟩⟩ :=
          connectWebSocket_cases hrelay₃ hconnect
        cases h
        use hsame₃.trans ⟨hsame.relay, hsame.username, hsame.identity, hsame.contacts,
          hsame.contactsOf, hsame.started⟩
        left
        exact ⟨rfl, ⟨hiff₁.mp rfl, hiff₂.mp rfl, hiff₃.mp rfl, hrefreshes, hconstructs⟩, hsocket⟩

end

/-- The session after all that the call of `start` assigns. -/
def StartCall.assign (call : StartCall) (relay : RelayConfig) (identity : SessionIdentity)
    (contacts : List (Value × Json)) (s : Session) : Session :=
  { s with
    relay := some relay
    username := call.user
    identity := some identity
    contacts := contacts
    contactsOf := call.user
    started := true }

/-- `Starts browser js call s result s'`: the call of `start` ends with `result`. -/
inductive Starts (browser : Browser) (js : JsonCodec) (call : StartCall) (s : Session) :
    Except Thrown Unit → Session → Prop where
  | refused {err} (hpass : ∀ relay, ¬ call.Passes browser relay) :
      Starts browser js call s (.error err) s
  | noIdentity {relay err storage} (hpass : call.Passes browser relay)
      (hidentity : (loadOrCreateIdentity js call call.user).outcome s.storage
        = (.error err, storage)) :
      Starts browser js call s (.error err)
        { s with relay := some relay, username := call.user, storage := storage }
  | noContacts {relay identity err storage} (hpass : call.Passes browser relay)
      (hidentity : (loadOrCreateIdentity js call call.user).outcome s.storage
        = (.ok identity, storage))
      (hcontacts : loadContacts js call.user storage = .error err) :
      Starts browser js call s (.error err)
        { s with
          relay := some relay
          username := call.user
          identity := some identity
          storage := storage }
  | ended {relay identity contacts result storage s'} (hpass : call.Passes browser relay)
      (hidentity : (loadOrCreateIdentity js call call.user).outcome s.storage
        = (.ok identity, storage))
      (hcontacts : loadContacts js call.user storage = .ok contacts)
      (hstate : (call.assign relay identity contacts s).SameState s')
      (hend : result = .ok () ∧ call.Completes js ∧ s'.socket = some relay.webSocketUrl
        ∨ (∃ err, result = .error err) ∧ ¬ call.Completes js ∧ s'.socket = s.socket) :
      Starts browser js call s result s'

theorem starts
    {s s' : Session} {result : Except Thrown Unit}
    (h : (start js call browser).outcome s = (result, s')) :
  Starts browser js call s result s'
  := by
  rw [start] at h
  cases hname : isValidUsername (trim call.usernameText) with
  | false =>
      simp only [hname, Bool.not_false, if_true] at h
      cases h
      apply Starts.refused
      rintro relay ⟨hvalid, -⟩
      cases hname.symm.trans hvalid
  | true =>
      simp only [hname, Bool.not_true, Bool.false_eq_true, if_false, Program.outcome_bind,
        Program.outcome_ofExcept, Program.outcome_modify, Program.outcome_get,
        outcome_onStorage] at h
      cases hrelay : makeRelayConfig browser (trim call.relayUrlText) (trim call.usernameText) with
      | error err =>
          rw [hrelay] at h
          cases h
          apply Starts.refused
          rintro relay ⟨-, hok⟩
          cases hrelay.symm.trans hok
      | ok relay =>
          have hpass : call.Passes browser relay := ⟨hname, hrelay⟩
          rw [hrelay] at h
          dsimp only at h
          rcases hidentity : (loadOrCreateIdentity js call (trim call.usernameText)).outcome
            s.storage with ⟨err | identity, storage⟩
          · rw [hidentity] at h
            cases h
            apply Starts.noIdentity hpass hidentity
          · rw [hidentity] at h
            dsimp only at h
            cases hcontacts : loadContacts js (trim call.usernameText) storage with
            | error err =>
                rw [hcontacts] at h
                cases h
                apply Starts.noContacts hpass hidentity hcontacts
            | ok contacts =>
                rw [hcontacts] at h
                obtain ⟨hsame, hend⟩ := completeStart_cases rfl rfl h
                apply Starts.ended hpass hidentity hcontacts _ hend
                exact ⟨hsame.relay, hsame.username, hsame.identity, hsame.contacts,
                  hsame.contactsOf, hsame.started⟩

/-! ### All or nothing -/

/-- If the call of `start` throws, the parts of `state` that it assigns are as they were. -/
def AllOrNothing (browser : Browser) (js : JsonCodec) (s : Session) (call : StartCall) : Prop :=
  ∀ err, ((start js call browser).outcome s).1 = .error err →
    ((start js call browser).outcome s).2.relay = s.relay
      ∧ ((start js call browser).outcome s).2.username = s.username
      ∧ ((start js call browser).outcome s).2.identity = s.identity
      ∧ ((start js call browser).outcome s).2.contacts = s.contacts
      ∧ ((start js call browser).outcome s).2.started = s.started

/-- The call does not pass its checks, or nothing throws after them, or what it assigns before
something throws is what is there. -/
def StartsSafely (browser : Browser) (js : JsonCodec) (s : Session) (call : StartCall) : Prop :=
  ∀ relay, call.Passes browser relay →
    match (loadOrCreateIdentity js call call.user).outcome s.storage with
    | (.error _, _) => s.relay = some relay ∧ s.username = call.user
    | (.ok identity, storage) =>
        match loadContacts js call.user storage with
        | .error _ => s.relay = some relay ∧ s.username = call.user ∧ s.identity = some identity
        | .ok contacts =>
            call.Completes js
              ∨ s.relay = some relay ∧ s.username = call.user ∧ s.identity = some identity
                ∧ s.contacts = contacts ∧ s.started = true

/-- A call that passes its checks does so with one relay. -/
theorem StartCall.Passes.forall_iff
    {p : RelayConfig → Prop} {relay : RelayConfig} (h : call.Passes browser relay) :
  (∀ relay', call.Passes browser relay' → p relay') ↔ p relay
  := by
  constructor
  · intro hall
    apply hall relay h
  · intro hp relay' h'
    obtain rfl := Except.ok.inj (h.2.symm.trans h'.2)
    apply hp

/-- A call of `start` is all or nothing just when it is safe. -/
theorem allOrNothing_iff (browser : Browser) (js : JsonCodec) (s : Session) (call : StartCall) :
  AllOrNothing browser js s call ↔ StartsSafely browser js s call
  := by
  rw [AllOrNothing, StartsSafely]
  rcases hstart : (start js call browser).outcome s with ⟨result, s'⟩
  cases starts hstart with
  | refused hpass =>
      apply iff_of_true
      · intro _ _
        exact ⟨rfl, rfl, rfl, rfl, rfl⟩
      · intro relay h
        apply absurd h (hpass relay)
  | noIdentity hpass hidentity =>
      rw [hpass.forall_iff, hidentity]
      constructor
      · intro h
        obtain ⟨hrelay, husername, -⟩ := h _ rfl
        exact ⟨hrelay.symm, husername.symm⟩
      · rintro ⟨hrelay, husername⟩ _ -
        exact ⟨hrelay.symm, husername.symm, rfl, rfl, rfl⟩
  | noContacts hpass hidentity hcontacts =>
      rw [hpass.forall_iff, hidentity]
      dsimp only
      rw [hcontacts]
      constructor
      · intro h
        obtain ⟨hrelay, husername, hidentity', -⟩ := h _ rfl
        exact ⟨hrelay.symm, husername.symm, hidentity'.symm⟩
      · rintro ⟨hrelay, husername, hidentity'⟩ _ -
        exact ⟨hrelay.symm, husername.symm, hidentity'.symm, rfl, rfl⟩
  | ended hpass hidentity hcontacts hstate hend =>
      rw [hpass.forall_iff, hidentity]
      dsimp only
      rw [hcontacts, hstate.relay, hstate.username, hstate.identity, hstate.contacts,
        hstate.started]
      rcases hend with ⟨rfl, hcompletes, -⟩ | ⟨⟨err, rfl⟩, hcompletes, -⟩
      · apply iff_of_true
        · rintro _ ⟨⟩
        · left
          apply hcompletes
      · constructor
        · intro h
          obtain ⟨hrelay, husername, hidentity', hcontacts', hstarted⟩ := h _ rfl
          right
          exact ⟨hrelay.symm, husername.symm, hidentity'.symm, hcontacts'.symm, hstarted.symm⟩
        · rintro (h | ⟨hrelay, husername, hidentity', hcontacts', hstarted⟩) _ -
          · apply absurd h hcompletes
          · exact ⟨hrelay.symm, husername.symm, hidentity'.symm, hcontacts'.symm, hstarted.symm⟩

end

/-! ### One sign-in -/

/-- What a call of `start` has assigned that has returned. -/
structure SignIn where
  username : String
  relay : RelayConfig
  identity : SessionIdentity

/-- Everything in `state` belongs to the sign-in: the contacts were loaded for its user, and
the socket was made for its user and relay. -/
structure Session.BelongsTo (s : Session) (signIn : SignIn) : Prop where
  username : s.username = signIn.username
  relay : s.relay = some signIn.relay
  identity : s.identity = some signIn.identity
  contacts : s.contactsOf = signIn.username
  socket : s.socket = some signIn.relay.webSocketUrl

/-- The page: its session, and the calls of `start` that have returned. -/
structure SignInPage where
  session : Session
  signIns : List SignIn

namespace SignInPage

/-- What can happen on the page. -/
inductive Action where
  /-- A call of `start`, from its beginning to its end. -/
  | start (call : StartCall)
  /-- A reconnect timer fires. -/
  | reconnect (constructs : Bool)
  /-- An operation changes `state.contacts`. -/
  | setContacts (contacts : List (Value × Json))
  /-- An item in the local storage is changed, here or in another tab. -/
  | setStorage (storage : Storage)

/-- The page after it is loaded. -/
def loaded (storage : Storage) : SignInPage where
  session := ⟨"", none, none, [], "", none, false, storage, "", []⟩
  signIns := []

/-- The sign-in whose parts are in `state`. -/
def signInOf (s : Session) : Option SignIn := do
  return ⟨s.username, ← s.relay, ← s.identity⟩

variable (browser : Browser) (js : JsonCodec)

/-- A step of the page. -/
def step (page : SignInPage) : Action → Option SignInPage
  | .start call =>
      match (Web.start js call browser).outcome page.session with
      | (.ok (), s) => some ⟨s, page.signIns ++ (signInOf s).toList⟩
      | (.error _, s) => some ⟨s, page.signIns⟩
  | .reconnect constructs =>
      if page.session.socket.isSome then
        some { page with session := ((connectWebSocket constructs).outcome page.session).2 }
      else none
  | .setContacts contacts =>
      some { page with session := { page.session with contacts := contacts } }
  | .setStorage storage =>
      some { page with session := { page.session with storage := storage } }

/-- The calls of `start` are safe. -/
def StartsSafely (page : SignInPage) : Action → Prop
  | .start call => Web.StartsSafely browser js page.session call
  | _ => True

/-- When the user has started, everything in `state` belongs to one sign-in that was
successful. -/
def SignedIn (page : SignInPage) : Prop :=
  page.session.started → ∃ signIn ∈ page.signIns, page.session.BelongsTo signIn

variable {browser : Browser} {js : JsonCodec} {page page' : SignInPage}

/-- A call of `start` that is safe leaves everything with one sign-in. -/
theorem SignedIn.start
    (h : page.SignedIn) {call : StartCall} (hsafe : Web.StartsSafely browser js page.session call)
    (hstep : page.step browser js (.start call) = some page') :
  page'.SignedIn
  := by
  rw [SignInPage.step] at hstep
  rcases hstart : (Web.start js call browser).outcome page.session with ⟨result, s'⟩
  rw [hstart] at hstep
  rw [Web.StartsSafely] at hsafe
  cases starts hstart with
  | refused =>
      cases hstep
      apply h
  | noIdentity hpass hidentity =>
      cases hstep
      rw [hpass.forall_iff, hidentity] at hsafe
      intro hstarted
      obtain ⟨signIn, hmem, hbelongs⟩ := h hstarted
      use signIn, hmem
      exact ⟨hsafe.2.symm.trans hbelongs.username, hsafe.1.symm.trans hbelongs.relay,
        hbelongs.identity, hbelongs.contacts, hbelongs.socket⟩
  | noContacts hpass hidentity hcontacts =>
      cases hstep
      rw [hpass.forall_iff, hidentity] at hsafe
      dsimp only at hsafe
      rw [hcontacts] at hsafe
      intro hstarted
      obtain ⟨signIn, hmem, hbelongs⟩ := h hstarted
      use signIn, hmem
      exact ⟨hsafe.2.1.symm.trans hbelongs.username, hsafe.1.symm.trans hbelongs.relay,
        hsafe.2.2.symm.trans hbelongs.identity, hbelongs.contacts, hbelongs.socket⟩
  | ended hpass hidentity hcontacts hstate hend =>
      rw [hpass.forall_iff, hidentity] at hsafe
      dsimp only at hsafe
      rw [hcontacts] at hsafe
      rcases hend with ⟨rfl, -, hsocket⟩ | ⟨⟨err, rfl⟩, hcompletes, hsocket⟩
      · cases hstep
        intro _
        refine ⟨⟨call.user, _, _⟩, ?_, ⟨hstate.username, hstate.relay, hstate.identity,
          hstate.contactsOf, hsocket⟩⟩
        rw [signInOf, hstate.relay, hstate.identity, hstate.username]
        apply List.mem_append_right _ List.mem_cons_self
      · cases hstep
        obtain ⟨hrelay, husername, hidentity', -, hstarted⟩ := hsafe.resolve_left hcompletes
        intro _
        obtain ⟨signIn, hmem, hbelongs⟩ := h hstarted
        use signIn, hmem
        constructor
        · exact hstate.username.trans (husername.symm.trans hbelongs.username)
        · exact hstate.relay.trans (hrelay.symm.trans hbelongs.relay)
        · exact hstate.identity.trans (hidentity'.symm.trans hbelongs.identity)
        · exact hstate.contactsOf.trans (husername.symm.trans hbelongs.username)
        · exact hsocket.trans hbelongs.socket

/-- A new socket is one of the sign-in that everything belongs to. -/
theorem SignedIn.reconnect
    (h : page.SignedIn) (constructs : Bool)
    (hstep : page.step browser js (.reconnect constructs) = some page') :
  page'.SignedIn
  := by
  obtain ⟨-, ⟨⟩⟩ := Option.ite_none_right_eq_some.mp hstep
  intro hstarted
  cases hrelay : page.session.relay with
  | none =>
      simp only [connectWebSocket, Program.outcome_bind, Program.outcome_get, hrelay,
        Program.outcome_throw] at hstarted ⊢
      apply h hstarted
  | some relay =>
      rcases hconnect : (connectWebSocket constructs).outcome page.session with ⟨result, s'⟩
      rw [hconnect] at hstarted
      obtain ⟨hsame, hend⟩ := connectWebSocket_cases hrelay hconnect
      obtain ⟨signIn, hmem, hbelongs⟩ := h (hsame.started.symm.trans hstarted)
      use signIn, hmem
      constructor
      · exact hsame.username.trans hbelongs.username
      · exact hsame.relay.trans hbelongs.relay
      · exact hsame.identity.trans hbelongs.identity
      · exact hsame.contactsOf.trans hbelongs.contacts
      · rcases hend with ⟨-, -, hsocket⟩ | ⟨-, -, hsocket⟩
        · obtain rfl := Option.some.inj (hrelay.symm.trans hbelongs.relay)
          apply hsocket
        · exact hsocket.trans hbelongs.socket

/-- A step whose call of `start` is safe leaves everything with one sign-in. -/
theorem SignedIn.step
    (h : page.SignedIn) {a : Action} (hsafe : page.StartsSafely browser js a)
    (hstep : page.step browser js a = some page') :
  page'.SignedIn
  := by
  cases a with
  | start call => apply h.start hsafe hstep
  | reconnect constructs => apply h.reconnect constructs hstep
  | setContacts | setStorage =>
      cases hstep
      intro hstarted
      obtain ⟨signIn, hmem, hbelongs⟩ := h hstarted
      use signIn, hmem
      exact ⟨hbelongs.username, hbelongs.relay, hbelongs.identity, hbelongs.contacts,
        hbelongs.socket⟩

/-- A call of `start` that throws leaves `state` as it was just when it is safe; and in a
session whose calls of `start` are all safe, everything in `state` belongs to one successful
sign-in when the user has started. -/
theorem signIn_allOrNothing (browser : Browser) (js : JsonCodec) :
  (∀ s call, AllOrNothing browser js s call ↔ Web.StartsSafely browser js s call)
    ∧ ∀ storage page,
      TransitionSystem.Reaches (step browser js) (StartsSafely browser js) (loaded storage) page →
        page.SignedIn
  := by
  constructor
  · apply allOrNothing_iff
  · intro storage page h
    apply h.invariant (I := SignedIn)
    · intro t a t' hsafe hstep ht
      apply ht.step hsafe hstep
    · rintro ⟨⟩

/-! ### A sign-in whose registration fails -/

/-- A browser that reads every text as the URL of a relay on this machine. -/
def sampleBrowser : Browser where
  parseUrl _ := some ⟨"http:", "127.0.0.1", "127.0.0.1:3000", "/"⟩
  pageIsHttps := false

/-- A call of `start` in which everything goes well, but for what the relay answers. -/
def sampleCall (username : String) (answer : Option HttpResponse) : StartCall where
  usernameText := username
  relayUrlText := "http://127.0.0.1:3000"
  identityPair := (List.replicate 32 1, List.replicate 64 2)
  encryptionPair := (List.replicate 32 3, List.replicate 32 4)
  storageTakes _ := true
  answer := answer
  refreshes := true
  constructs := true

/-- The relay takes the registration. -/
def accepted : Option HttpResponse :=
  some ⟨201, "201 Created", some (Json.obj []).compactBytes, none⟩

/-- The relay cannot reach its database. -/
def failed : Option HttpResponse :=
  some ⟨500, "500 Internal Server Error", none, some "directory database error"⟩

/-- `alice` signs in. -/
theorem signIn_allOrNothing_sample :
  ∃ page, (loaded fun _ => none).step sampleBrowser .compact (.start (sampleCall "alice" accepted))
      = some page
    ∧ page.session.started ∧ page.SignedIn
  := by
  have hrun : ∃ page ∈ (loaded fun _ => none).step sampleBrowser .compact
      (.start (sampleCall "alice" accepted)),
      page.session.started ∧ ((Web.start .compact (sampleCall "alice" accepted)
        sampleBrowser).outcome (loaded fun _ => none).session).1.isOk := by
    decide +kernel
  obtain ⟨page, hpage, hstarted, hok⟩ := hrun
  use page, hpage, hstarted
  apply (signIn_allOrNothing sampleBrowser .compact).2 fun _ => none
  have hsafe : Web.StartsSafely sampleBrowser .compact (loaded fun _ => none).session
      (sampleCall "alice" accepted) := by
    apply (allOrNothing_iff ..).mp
    intro err herr
    rw [herr] at hok
    cases hok
  apply Relation.ReflTransGen.single ⟨.start (sampleCall "alice" accepted), hsafe, hpage⟩

/-- `bob` signs in on the page of `alice`, and the relay cannot take his registration: `state` has
his name, identity and contacts, and the socket of `alice`. -/
theorem not_signIn_allOrNothing :
  ¬ ((∀ browser js s call, AllOrNothing browser js s call)
    ∧ ∀ browser js storage page,
      TransitionSystem.Reaches (step browser js) TransitionSystem.anyAction (loaded storage) page →
        page.SignedIn)
  := by
  rintro ⟨hall, -⟩
  have hrun : ∃ page ∈ (loaded fun _ => none).step sampleBrowser .compact
      (.start (sampleCall "alice" accepted)),
      page.session.started ∧ page.session.username = "alice"
        ∧ ¬ ((Web.start .compact (sampleCall "bob" failed) sampleBrowser).outcome
          page.session).1.isOk
        ∧ ((Web.start .compact (sampleCall "bob" failed) sampleBrowser).outcome
          page.session).2.username = "bob" := by
    decide +kernel
  obtain ⟨page, -, -, halice, hfails, hbob⟩ := hrun
  cases hresult : ((Web.start .compact (sampleCall "bob" failed) sampleBrowser).outcome
    page.session).1 with
  | ok =>
      rw [hresult] at hfails
      apply hfails rfl
  | error err =>
      have hsame := (hall sampleBrowser .compact page.session _ err hresult).2.1
      rw [hbob, halice] at hsame
      revert hsame
      decide

end SignInPage

end Phantasma.Web
