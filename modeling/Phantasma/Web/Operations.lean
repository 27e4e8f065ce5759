import Phantasma.Base.TransitionSystem
import Phantasma.Client.SmallOrder
import Phantasma.Web.Page

/-!
# Operations of the browser client that are under way

`sendCurrentMessage`, `receiveEncryptedBytes` and `addContactFromInput` read the global
`state` again after each of their awaits, and `start` replaces parts of it.  `Stage` has the
await points of the operations with what their local variables hold there, `Segment` is what
an operation does between two of them, and `Tab.step` lets `start`, sockets and any number of
operations take turns.  An await after which nothing of `state` is used before the next one
is not a point of its own.

Every part of `state` belongs to the user that it was made for.  The operations keep a
record of the parts they use and of the users these belong to; `oneUser_of_reaches` says
when it is one user from the beginning of an operation to its end.
-/

namespace Phantasma.Web

/-- What of a user an operation uses, and for what. -/
inductive Part where
  /-- `state.username`, compared with the recipient of a message. -/
  | recipient
  /-- `state.username`, the sender in the plaintext. -/
  | plaintextFrom
  /-- `state.username`, the sender in the routed message. -/
  | routedFrom
  /-- `state.username`, the sender of the message that is shown. -/
  | shownFrom
  /-- `state.identity`, from which the key of a message is derived. -/
  | messageKey
  /-- `state.identity`, the sender key text of the envelope. -/
  | senderKeyText
  /-- `state.contacts`. -/
  | contacts
  /-- `state.username`, in the storage key of the contacts. -/
  | storageKey
  /-- `state.relay`, for a lookup. -/
  | relay
  /-- `state.socket`. -/
  | socket
deriving DecidableEq

/-- The users that the parts of `state` belong to; `state.username` belongs to the user it
names. -/
structure Owners where
  relay : String
  identity : String
  contacts : String
  socket : Option String

/-- What an operation runs on: the page, the owners of its parts, and what the operation has
used so far, the oldest first. -/
structure Scope where
  page : Page
  owners : Owners
  uses : List (Part × String)

/-- What an operation does between two awaits. -/
abbrev Segment := Program Scope Thrown

/-! ### Using the state -/

namespace Segment

/-- A part of the state is used, which belongs to the given user. -/
def use (part : Part) (owner : Scope → String) : Segment Unit :=
  modify fun scope => { scope with uses := scope.uses ++ [(part, owner scope)] }

/-- `state.username`. -/
def username (part : Part) : Segment String := do
  use part fun scope => scope.page.username
  return (← get).page.username

/-- `state.identity`. -/
def identity (part : Part) : Segment Identity := do
  use part fun scope => scope.owners.identity
  return (← get).page.identity

/-- `state.contacts`. -/
def contacts : Segment (List (Value × Json)) := do
  use .contacts fun scope => scope.owners.contacts
  return (← get).page.contacts

/-- `state.relay`, for the request of `lookupPublicKey`. -/
def relay : Segment Unit :=
  use .relay fun scope => scope.owners.relay

/-- `state.socket`, if there is one: whether it is open. -/
def socket : Segment Bool := do
  modify fun scope =>
    { scope with uses := scope.uses ++ scope.owners.socket.toList.map fun owner => (.socket, owner) }
  return (← get).page.socketOpen

/-- A change of the page. -/
def change (f : Page → Page) : Segment Unit :=
  modify fun scope => { scope with page := f scope.page }

/-- `state.contacts.set` and `saveContacts`, once a contact was looked up. -/
def addContact (outside : Outside) (username : Value) (contact : Value) : Segment Unit := do
  match contact with
  | some json =>
      if !contact.truthy then
        throw (.error s!"No public key found for {username.display}.")
      let name ← Program.ofExcept (contact.property "username")
      let saved ← contacts
      change fun page => { page with contacts := setContact saved name json }
      let key ← Segment.username .storageKey
      let saved ← contacts
      if !outside.storageTakes then
        throw .exception
      change fun page =>
        let value := some (.arr (saved.map Prod.snd))
        { page with storage := Function.update page.storage (contactStorageKey key) value }
  | none => throw (.error s!"No public key found for {username.display}.")

end Segment

/-! ### The await points -/

/-- The local variables of `encryptMessage` while it awaits `deriveMessageKey`. -/
structure Encryption where
  sender : String
  recipient : String
  body : String
  senderPublicKey : Bytes
  recipientPublicKey : Bytes
  sharedSecret : Key

/-- The local variables of `decryptMessage` while it awaits `deriveMessageKey`. -/
structure Decryption where
  encrypted : Value
  senderPublicKey : Bytes
  recipientPublicKey : Bytes
  sharedSecret : Key

/-- The await points of the operations. -/
inductive Stage where
  /-- `sendCurrentMessage` awaits `lookupPublicKey`. -/
  | sendLookup (recipient body : String)
  /-- `encryptMessage` awaits `deriveMessageKey`. -/
  | sendKey (encryption : Encryption)
  /-- `sendCurrentMessage` awaits `encryptMessage`, which has returned `encrypted`. -/
  | sendReturn (recipient body : String) (encrypted : Json)
  /-- `decryptMessage` awaits `deriveMessageKey`. -/
  | receiveKey (decryption : Decryption)
  /-- `receiveEncryptedBytes` awaits `decryptMessage`, which has returned `plaintext`. -/
  | receiveReturn (encrypted plaintext : Value)
  /-- `findOrAddContact` awaits `lookupPublicKey`. -/
  | receiveLookup (encrypted plaintext sender : Value)
  /-- `receiveEncryptedBytes` awaits `findOrAddContact`, which has returned `contact`. -/
  | receiveContact (encrypted plaintext sender contact : Value)
  /-- `addContactFromInput` awaits `lookupPublicKey`. -/
  | addLookup (username : String)
  /-- The operation has returned or thrown. -/
  | done

/-- The operation is over. -/
def Stage.isDone : Stage → Bool
  | .done => true
  | _ => false

/-! ### The segments -/

namespace Segment

variable {MessageKey : Type} (P : Primitives MessageKey) (js : JsonCodec) (outside : Outside)

/-- The call of `encryptMessage`, to the await of `deriveMessageKey`. -/
def beginEncryption (recipient body : String) (contact : Value) : Segment Stage := do
  let sender ← username .plaintextFrom
  let keyText ← Program.ofExcept (contact.property "encryption_public_key")
  let publicKeyText := (← identity .messageKey).encryptionPublicKey
  let senderPublicKey ← Program.ofExcept (fromBase64 (.ofString publicKeyText))
  let recipientPublicKey ← Program.ofExcept (fromBase64 keyText)
  let secretKey := (← identity .messageKey).encryptionSecretKey
  let sharedSecret ← Program.ofExcept (cryptoScalarmult P secretKey recipientPublicKey)
  return .sendKey
    ⟨sender, recipient, body, senderPublicKey, recipientPublicKey, sharedSecret⟩

/-- `sendCurrentMessage`, for the chosen recipient and the typed text, to its first await. -/
def sendCurrentMessage (recipient text : String) : Segment Stage := do
  if !(← get).page.started then
    throw (.error "Enter a username and start first.")
  let body := trim text
  if recipient.isEmpty then
    throw (.error "Add a contact first.")
  if body.isEmpty then
    return .done
  let contact := getContact (← contacts) (.ofString recipient)
  if contact.truthy then
    beginEncryption P recipient body contact
  else
    relay
    return .sendLookup recipient body

/-- `sendCurrentMessage` after `lookupPublicKey` was answered. -/
def sendContact (recipient body : String) : Segment Stage := do
  let contact ← Program.ofExcept (lookupPublicKey js outside.answer)
  addContact outside (.ofString recipient) contact
  beginEncryption P recipient body contact

/-- `encryptMessage` after `deriveMessageKey`. -/
def finishEncryption (e : Encryption) : Segment Stage := do
  let messageKey ← Program.ofExcept
    (deriveMessageKey P e.sharedSecret e.senderPublicKey e.recipientPublicKey)
  let plaintext ← Program.ofExcept (orException (js.toVec
    (.obj [("from", .str e.sender), ("to", .str e.recipient), ("body", .str e.body)])))
  let aad := associatedData e.senderPublicKey e.recipientPublicKey
  let ciphertext ← Program.ofExcept
    (orException (P.encrypt messageKey outside.nonce aad plaintext))
  let publicKeyText := (← identity .senderKeyText).encryptionPublicKey
  return .sendReturn e.recipient e.body (.obj [("version", .int 1),
    ("sender_encryption_public_key", .str publicKeyText),
    ("nonce", .str (toBase64 outside.nonce.bytes)), ("ciphertext", .str (toBase64 ciphertext))])

/-- `sendCurrentMessage` after `encryptMessage`. -/
def finishSend (recipient body : String) (encrypted : Json) : Segment Stage := do
  let sender ← username .routedFrom
  let bytes ← Program.ofExcept (orException (js.toVec
    (.obj [("from", .str sender), ("to", .str recipient), ("encrypted", encrypted)])))
  if !(← socket) then
    throw (.error "Not connected to the relay.")
  change fun page => { page with sent := page.sent ++ [bytes] }
  let shown ← username .shownFrom
  change fun page => page.addMessage shown body
  change fun page => { page with status := s!"Sent encrypted message to {recipient}." }
  return .done

/-- `receiveEncryptedBytes` to its first await. -/
def receiveEncryptedBytes (bytes : Bytes) : Segment Stage := do
  let encrypted : Value := some (← Program.ofExcept (orException (js.fromSlice bytes)))
  let version ← Program.ofExcept (encrypted.property "version")
  if !version.strictEq (some (.int 1)) then
    throw (.error "Unsupported encrypted message version.")
  let senderKeyText ← Program.ofExcept (encrypted.property "sender_encryption_public_key")
  let senderPublicKey ← Program.ofExcept (fromBase64 senderKeyText)
  let publicKeyText := (← identity .messageKey).encryptionPublicKey
  let recipientPublicKey ← Program.ofExcept (fromBase64 (.ofString publicKeyText))
  let secretKey := (← identity .messageKey).encryptionSecretKey
  let sharedSecret ← Program.ofExcept (cryptoScalarmult P secretKey senderPublicKey)
  return .receiveKey ⟨encrypted, senderPublicKey, recipientPublicKey, sharedSecret⟩

/-- The rest of `decryptMessage`, after `deriveMessageKey`. -/
def finishDecryption (d : Decryption) : Segment Stage := do
  let messageKey ← Program.ofExcept
    (deriveMessageKey P d.sharedSecret d.senderPublicKey d.recipientPublicKey)
  let nonce ← Program.ofExcept (do fromBase64 (← d.encrypted.property "nonce"))
  let ciphertext ← Program.ofExcept (do fromBase64 (← d.encrypted.property "ciphertext"))
  let aad := associatedData d.senderPublicKey d.recipientPublicKey
  let nonce ← Program.ofExcept (orException (FixedBytes.tryInto 24 nonce))
  let plaintext ← Program.ofExcept (orException (P.decrypt messageKey nonce aad ciphertext))
  let value ← Program.ofExcept (orException (js.fromSlice plaintext))
  return .receiveReturn d.encrypted (some value)

/-- `receiveEncryptedBytes` after `decryptMessage`, with the call of `findOrAddContact`. -/
def findContact (encrypted plaintext : Value) : Segment Stage := do
  let recipient ← Program.ofExcept (plaintext.property "to")
  if !recipient.strictEq (.ofString (← username .recipient)) then
    return .done
  let sender ← Program.ofExcept (plaintext.property "from")
  let existing := getContact (← contacts) sender
  if existing.truthy then
    return .receiveContact encrypted plaintext sender existing
  else
    relay
    return .receiveLookup encrypted plaintext sender

/-- `findOrAddContact` after `lookupPublicKey` was answered. -/
def addSender (encrypted plaintext sender : Value) : Segment Stage := do
  let contact ← Program.ofExcept (lookupPublicKey js outside.answer)
  addContact outside sender contact
  let name ← Program.ofExcept (contact.property "username")
  change fun page => { page with status := s!"Added {name.display}." }
  return .receiveContact encrypted plaintext sender contact

/-- `receiveEncryptedBytes` after `findOrAddContact`. -/
def showMessage (encrypted plaintext sender contact : Value) : Segment Stage := do
  let contactKey ← Program.ofExcept (contact.property "encryption_public_key")
  let senderKey ← Program.ofExcept (encrypted.property "sender_encryption_public_key")
  if !contactKey.strictEq senderKey then
    throw (.error s!"Discarded message from {sender.display}; sender key changed.")
  let body ← Program.ofExcept (plaintext.property "body")
  change fun page => page.addMessage sender.display body.display
  return .done

/-- `addContactFromInput`, for the typed name, to its await. -/
def addContactFromInput (text : String) : Segment Stage := do
  if !(← get).page.started then
    throw (.error "Enter a username and start first.")
  let name := trim text
  if !isValidUsername name then
    throw (.error "Contact username can use letters, numbers, '.', '-', and '_'.")
  relay
  return .addLookup name

/-- `addContactFromInput` after `lookupPublicKey` was answered. -/
def addAnswer (name : String) : Segment Stage := do
  let contact ← Program.ofExcept (lookupPublicKey js outside.answer)
  if !contact.truthy then
    change fun page => { page with status := s!"No public key found for {name}." }
    return .done
  addContact outside (.ofString name) contact
  let added ← Program.ofExcept (contact.property "username")
  change fun page => { page with status := s!"Added {added.display}." }
  return .done

/-- What an operation does when what it awaits is there. -/
def resume : Stage → Segment Stage
  | .sendLookup recipient body => sendContact P js outside recipient body
  | .sendKey encryption => finishEncryption P js outside encryption
  | .sendReturn recipient body encrypted => finishSend js recipient body encrypted
  | .receiveKey decryption => finishDecryption P js decryption
  | .receiveReturn encrypted plaintext => findContact encrypted plaintext
  | .receiveLookup encrypted plaintext sender => addSender js outside encrypted plaintext sender
  | .receiveContact encrypted plaintext sender contact =>
      showMessage encrypted plaintext sender contact
  | .addLookup name => addAnswer js outside name
  | .done => pure .done

end Segment

/-! ### Taking turns -/

/-- An operation: where it is, and what it has used so far. -/
structure Operation where
  stage : Stage
  uses : List (Part × String)

namespace Operation

/-- The operation has not returned or thrown yet. -/
def isRunning (operation : Operation) : Bool :=
  !operation.stage.isDone

/-- The operation has used the parts of one user only. -/
def OneUser (operation : Operation) : Prop :=
  ∃ user, ∀ use ∈ operation.uses, use.2 = user

end Operation

/-- The browser client: its page with the owners of the parts, the number of calls of
`start` that await their registration, and the operations in the order in which they
began. -/
structure Tab where
  page : Page
  owners : Owners
  starts : ℕ
  operations : List Operation

namespace Tab

/-- What can happen. -/
inductive Action where
  /-- `start` runs to its registration, or until it throws; `identity` is what
  `loadOrCreateIdentity` returns, `contacts` what `loadContacts` returns, and `storageTakes`
  says whether the local storage takes what follows. -/
  | start (username : String) (identity : Option Identity)
      (contacts : Option (List (Value × Json))) (storageTakes : Bool)
  /-- The registration of a call of `start` is answered; `constructs` says whether
  `new WebSocket` succeeds. -/
  | registered (constructs : Bool)
  /-- The registration of a call of `start` fails. -/
  | notRegistered
  /-- A reconnect timer fires. -/
  | reconnect (constructs : Bool)
  /-- The socket in the slot opens or closes. -/
  | setReadyState (isOpen : Bool)
  /-- The form is submitted. -/
  | send (recipient text : String)
  /-- The button for a contact is pressed. -/
  | add (text : String)
  /-- The socket in the slot has received a frame. -/
  | receive (bytes : Bytes)
  /-- What the operation `i` awaits is there. -/
  | resume (i : ℕ) (outside : Outside)

/-- The browser client after it is loaded. -/
def loaded (storage : String → Option Json) : Tab where
  page := ⟨false, "", ⟨"", []⟩, [], false, "", [], [], storage⟩
  owners := ⟨"", "", "", none⟩
  starts := 0
  operations := []

/-- `start` to its registration, for a valid username and relay URL. -/
def start (s : Tab) (username : String) (identity : Option Identity)
    (contacts : Option (List (Value × Json))) (storageTakes : Bool) : Tab :=
  let named : Tab := { s with
    page := { s.page with username := username }
    owners := { s.owners with relay := username } }
  match identity with
  | none => named
  | some identity =>
      let identified : Tab := { named with
        page := { named.page with identity := identity }
        owners := { named.owners with identity := username } }
      match contacts with
      | none => identified
      | some contacts =>
          { identified with
            page := { identified.page with contacts := contacts, started := true }
            owners := { identified.owners with contacts := username }
            starts := if storageTakes then s.starts + 1 else s.starts }

/-- `connectWebSocket`. -/
def connectWebSocket (s : Tab) (constructs : Bool) : Tab :=
  { s with
    page := { s.page with socketOpen := false }
    owners := { s.owners with
      socket := if constructs then some s.owners.relay else s.owners.socket } }

/-- The segment `x` of an operation is run, which has used `uses` so far: the page it leaves,
and the operation. -/
def runSegment (s : Tab) (uses : List (Part × String)) (x : Segment Stage) : Page × Operation :=
  match x.outcome ⟨s.page, s.owners, uses⟩ with
  | (.ok stage, scope) => (scope.page, ⟨stage, scope.uses⟩)
  | (.error _, scope) => (scope.page, ⟨.done, scope.uses⟩)

/-- An operation begins. -/
def begin (s : Tab) (uses : List (Part × String)) (x : Segment Stage) : Tab :=
  { s with
    page := (s.runSegment uses x).1
    operations := s.operations ++ [(s.runSegment uses x).2] }

/-- The operation `i` goes on. -/
def goOn (s : Tab) (i : ℕ) (uses : List (Part × String)) (x : Segment Stage) : Tab :=
  { s with
    page := (s.runSegment uses x).1
    operations := s.operations.set i (s.runSegment uses x).2 }

variable {MessageKey : Type} (P : Primitives MessageKey) (js : JsonCodec)

/-- A step of the browser client. -/
def step (s : Tab) : Action → Option Tab
  | .start username identity contacts storageTakes =>
      if isValidUsername username then some (s.start username identity contacts storageTakes)
      else none
  | .registered constructs =>
      if 0 < s.starts then
        some ({ s with starts := s.starts - 1 }.connectWebSocket constructs)
      else none
  | .notRegistered => if 0 < s.starts then some { s with starts := s.starts - 1 } else none
  | .reconnect constructs =>
      if s.owners.socket.isSome then some (s.connectWebSocket constructs) else none
  | .setReadyState isOpen =>
      if s.owners.socket.isSome then some { s with page := { s.page with socketOpen := isOpen } }
      else none
  | .send recipient text => some (s.begin [] (Segment.sendCurrentMessage P recipient text))
  | .add text => some (s.begin [] (Segment.addContactFromInput text))
  | .receive bytes => do
      let owner ← s.owners.socket
      if s.page.socketOpen then
        some (s.begin [(.socket, owner)] (Segment.receiveEncryptedBytes P js bytes))
      else none
  | .resume i outside => do
      let operation ← s.operations[i]?
      if operation.isRunning then
        some (s.goOn i operation.uses (Segment.resume P js outside operation.stage))
      else none

end Tab

/-! ### What segments keep -/

/-- The users that the parts of the state belong to. -/
def Scope.owned (scope : Scope) : List String :=
  [scope.page.username, scope.owners.relay, scope.owners.identity, scope.owners.contacts]
    ++ scope.owners.socket.toList

/-- A property of scopes that stays when parts of the state are used, and when the page is
changed and stays one of its user. -/
structure Scope.Stable (I : Scope → Prop) : Prop where
  use : ∀ scope uses, (∀ use ∈ uses, use.2 ∈ scope.owned) → I scope →
    I { scope with uses := scope.uses ++ uses }
  change : ∀ scope (f : Page → Page), (∀ page, (f page).username = page.username) → I scope →
    I { scope with page := f scope.page }

/-- A property of scopes that stays when parts of the state are used, and when the page is
changed and its user and the contacts stay. -/
structure Scope.StableApart (I : Scope → Prop) : Prop where
  use : ∀ scope uses, (∀ use ∈ uses, use.2 ∈ scope.owned) → I scope →
    I { scope with uses := scope.uses ++ uses }
  change : ∀ scope (f : Page → Page),
    (∀ page, (f page).username = page.username ∧ (f page).contacts = page.contacts) →
    I scope → I { scope with page := f scope.page }

theorem Scope.Stable.apart {I : Scope → Prop} (hI : Scope.Stable I) :
  Scope.StableApart I
  where
  use := hI.use
  change scope f hf := hI.change scope f fun page => (hf page).1

namespace Segment

variable {I : Scope → Prop}

/-- What is used is read. -/
theorem keeps_read {α : Type} {x : Segment Unit} (hx : Program.Keeps I x) (read : Scope → α) :
  Program.Keeps I (do x; return read (← get))
  := by
  apply hx.bind
  intro _
  apply Program.keeps_get.bind
  intro _
  apply Program.keeps_pure

variable (hI : Scope.StableApart I)

include hI

theorem keeps_use
    (part : Part) {owner : Scope → String} (howner : ∀ scope, owner scope ∈ scope.owned) :
  Program.Keeps I (use part owner)
  := by
  apply Program.keeps_modify
  intro scope hscope
  apply hI.use _ _ _ hscope
  intro use huse
  rw [List.mem_singleton.mp huse]
  apply howner scope

theorem keeps_username (part : Part) :
  Program.Keeps I (username part)
  := by
  apply keeps_read
  apply keeps_use hI
  simp [Scope.owned]

theorem keeps_identity (part : Part) :
  Program.Keeps I (identity part)
  := by
  apply keeps_read
  apply keeps_use hI
  simp [Scope.owned]

theorem keeps_contacts :
  Program.Keeps I contacts
  := by
  apply keeps_read
  apply keeps_use hI
  simp [Scope.owned]

theorem keeps_relay :
  Program.Keeps I relay
  := by
  apply keeps_use hI
  simp [Scope.owned]

theorem keeps_socket :
  Program.Keeps I socket
  := by
  apply keeps_read
  apply Program.keeps_modify
  intro scope hscope
  apply hI.use _ _ _ hscope
  intro use huse
  obtain ⟨owner, howner, rfl⟩ := List.mem_map.mp huse
  apply List.mem_append_right _ howner

theorem keeps_change
    {f : Page → Page}
    (hf : ∀ page, (f page).username = page.username ∧ (f page).contacts = page.contacts) :
  Program.Keeps I (change f)
  := by
  apply Program.keeps_modify
  intro scope hscope
  apply hI.change scope f hf hscope

theorem keeps_setStatus (message : String) :
  Program.Keeps I (change fun page => { page with status := message })
  := by
  apply keeps_change hI
  intro page
  exact ⟨rfl, rfl⟩

theorem keeps_addMessage (sender body : String) :
  Program.Keeps I (change fun page => page.addMessage sender body)
  := by
  apply keeps_change hI
  intro page
  exact ⟨rfl, rfl⟩

section

variable {MessageKey : Type} (P : Primitives MessageKey) (js : JsonCodec) (outside : Outside)

theorem keeps_beginEncryption (recipient body : String) (contact : Value) :
  Program.Keeps I (beginEncryption P recipient body contact)
  := by
  apply Program.Keeps.bind (keeps_username hI _)
  intro _
  apply Program.Keeps.bind (Program.keeps_ofExcept _)
  intro _
  apply Program.Keeps.bind (keeps_identity hI _)
  intro _
  apply Program.Keeps.bind (Program.keeps_ofExcept _)
  intro _
  apply Program.Keeps.bind (Program.keeps_ofExcept _)
  intro _
  apply Program.Keeps.bind (keeps_identity hI _)
  intro _
  apply Program.Keeps.bind (Program.keeps_ofExcept _)
  intro _
  apply Program.keeps_pure

theorem keeps_sendCurrentMessage (recipient text : String) :
  Program.Keeps I (sendCurrentMessage P recipient text)
  := by
  apply Program.Keeps.bind Program.keeps_get
  intro _
  apply Program.Keeps.unless
  apply Program.Keeps.unless
  apply Program.Keeps.ite
  · apply Program.keeps_pure
  · apply Program.Keeps.bind (keeps_contacts hI)
    intro _
    apply Program.Keeps.ite
    · apply keeps_beginEncryption hI
    · apply Program.Keeps.bind (keeps_relay hI)
      intro _
      apply Program.keeps_pure

theorem keeps_finishEncryption (e : Encryption) :
  Program.Keeps I (finishEncryption P js outside e)
  := by
  apply Program.Keeps.bind (Program.keeps_ofExcept _)
  intro _
  apply Program.Keeps.bind (Program.keeps_ofExcept _)
  intro _
  apply Program.Keeps.bind (Program.keeps_ofExcept _)
  intro _
  apply Program.Keeps.bind (keeps_identity hI _)
  intro _
  apply Program.keeps_pure

theorem keeps_finishSend (recipient body : String) (encrypted : Json) :
  Program.Keeps I (finishSend js recipient body encrypted)
  := by
  apply Program.Keeps.bind (keeps_username hI _)
  intro _
  apply Program.Keeps.bind (Program.keeps_ofExcept _)
  intro _
  apply Program.Keeps.bind (keeps_socket hI)
  intro _
  apply Program.Keeps.unless
  apply Program.Keeps.bind
  · apply keeps_change hI
    intro page
    exact ⟨rfl, rfl⟩
  intro _
  apply Program.Keeps.bind (keeps_username hI _)
  intro _
  apply Program.Keeps.bind (keeps_addMessage hI _ _)
  intro _
  apply Program.Keeps.bind (keeps_setStatus hI _)
  intro _
  apply Program.keeps_pure

theorem keeps_receiveEncryptedBytes (bytes : Bytes) :
  Program.Keeps I (receiveEncryptedBytes P js bytes)
  := by
  apply Program.Keeps.bind (Program.keeps_ofExcept _)
  intro _
  apply Program.Keeps.bind (Program.keeps_ofExcept _)
  intro _
  apply Program.Keeps.unless
  apply Program.Keeps.bind (Program.keeps_ofExcept _)
  intro _
  apply Program.Keeps.bind (Program.keeps_ofExcept _)
  intro _
  apply Program.Keeps.bind (keeps_identity hI _)
  intro _
  apply Program.Keeps.bind (Program.keeps_ofExcept _)
  intro _
  apply Program.Keeps.bind (keeps_identity hI _)
  intro _
  apply Program.Keeps.bind (Program.keeps_ofExcept _)
  intro _
  apply Program.keeps_pure

omit hI in
theorem keeps_finishDecryption (d : Decryption) :
  Program.Keeps I (finishDecryption P js d)
  := by
  apply Program.Keeps.bind (Program.keeps_ofExcept _)
  intro _
  apply Program.Keeps.bind (Program.keeps_ofExcept _)
  intro _
  apply Program.Keeps.bind (Program.keeps_ofExcept _)
  intro _
  apply Program.Keeps.bind (Program.keeps_ofExcept _)
  intro _
  apply Program.Keeps.bind (Program.keeps_ofExcept _)
  intro _
  apply Program.Keeps.bind (Program.keeps_ofExcept _)
  intro _
  apply Program.keeps_pure

theorem keeps_findContact (encrypted plaintext : Value) :
  Program.Keeps I (findContact encrypted plaintext)
  := by
  apply Program.Keeps.bind (Program.keeps_ofExcept _)
  intro _
  apply Program.Keeps.bind (keeps_username hI _)
  intro _
  apply Program.Keeps.ite
  · apply Program.keeps_pure
  · apply Program.Keeps.bind (Program.keeps_ofExcept _)
    intro _
    apply Program.Keeps.bind (keeps_contacts hI)
    intro _
    apply Program.Keeps.ite
    · apply Program.keeps_pure
    · apply Program.Keeps.bind (keeps_relay hI)
      intro _
      apply Program.keeps_pure

theorem keeps_showMessage (encrypted plaintext sender contact : Value) :
  Program.Keeps I (showMessage encrypted plaintext sender contact)
  := by
  apply Program.Keeps.bind (Program.keeps_ofExcept _)
  intro _
  apply Program.Keeps.bind (Program.keeps_ofExcept _)
  intro _
  apply Program.Keeps.unless
  apply Program.Keeps.bind (Program.keeps_ofExcept _)
  intro _
  apply Program.Keeps.bind (keeps_addMessage hI _ _)
  intro _
  apply Program.keeps_pure

theorem keeps_addContactFromInput (text : String) :
  Program.Keeps I (addContactFromInput text)
  := by
  apply Program.Keeps.bind Program.keeps_get
  intro _
  apply Program.Keeps.unless
  apply Program.Keeps.unless
  apply Program.Keeps.bind (keeps_relay hI)
  intro _
  apply Program.keeps_pure

end

end Segment

/-! ### What segments keep that add contacts -/

namespace Segment

variable {I : Scope → Prop} (hI : Scope.Stable I)

include hI

theorem keeps_change_contacts {f : Page → Page} (hf : ∀ page, (f page).username = page.username) :
  Program.Keeps I (change f)
  := by
  apply Program.keeps_modify
  intro scope hscope
  apply hI.change scope f hf hscope

theorem keeps_addContact (outside : Outside) (name contact : Value) :
  Program.Keeps I (addContact outside name contact)
  := by
  cases contact with
  | none => apply Program.keeps_throw
  | some json =>
      simp only [addContact]
      apply Program.Keeps.unless
      apply Program.Keeps.bind (Program.keeps_ofExcept _)
      intro key
      apply Program.Keeps.bind (keeps_contacts hI.apart)
      intro saved
      apply Program.Keeps.bind
      · apply keeps_change_contacts hI
        intro page
        rfl
      intro _
      apply Program.Keeps.bind (keeps_username hI.apart _)
      intro _
      apply Program.Keeps.bind (keeps_contacts hI.apart)
      intro _
      apply Program.Keeps.unless
      apply keeps_change_contacts hI
      intro page
      rfl

section

variable {MessageKey : Type} (P : Primitives MessageKey) (js : JsonCodec) (outside : Outside)

theorem keeps_sendContact (recipient body : String) :
  Program.Keeps I (sendContact P js outside recipient body)
  := by
  apply Program.Keeps.bind (Program.keeps_ofExcept _)
  intro _
  apply Program.Keeps.bind (keeps_addContact hI _ _ _)
  intro _
  apply keeps_beginEncryption hI.apart

theorem keeps_addSender (encrypted plaintext sender : Value) :
  Program.Keeps I (addSender js outside encrypted plaintext sender)
  := by
  apply Program.Keeps.bind (Program.keeps_ofExcept _)
  intro _
  apply Program.Keeps.bind (keeps_addContact hI _ _ _)
  intro _
  apply Program.Keeps.bind (Program.keeps_ofExcept _)
  intro _
  apply Program.Keeps.bind (keeps_setStatus hI.apart _)
  intro _
  apply Program.keeps_pure

theorem keeps_addAnswer (name : String) :
  Program.Keeps I (addAnswer js outside name)
  := by
  apply Program.Keeps.bind (Program.keeps_ofExcept _)
  intro _
  apply Program.Keeps.ite
  · apply Program.Keeps.bind (keeps_setStatus hI.apart _)
    intro _
    apply Program.keeps_pure
  · apply Program.Keeps.bind (keeps_addContact hI _ _ _)
    intro _
    apply Program.Keeps.bind (Program.keeps_ofExcept _)
    intro _
    apply Program.Keeps.bind (keeps_setStatus hI.apart _)
    intro _
    apply Program.keeps_pure

/-- An operation that goes on keeps what is stable. -/
theorem keeps_resume (stage : Stage) :
  Program.Keeps I (resume P js outside stage)
  := by
  cases stage with
  | sendLookup recipient body => apply keeps_sendContact hI
  | sendKey encryption => apply keeps_finishEncryption hI.apart
  | sendReturn recipient body encrypted => apply keeps_finishSend hI.apart
  | receiveKey decryption => apply keeps_finishDecryption
  | receiveReturn encrypted plaintext => apply keeps_findContact hI.apart
  | receiveLookup encrypted plaintext sender => apply keeps_addSender hI
  | receiveContact encrypted plaintext sender contact => apply keeps_showMessage hI.apart
  | addLookup name => apply keeps_addAnswer hI
  | done => apply Program.keeps_pure

end

end Segment

/-! ### Operations of one user -/

/-- Everything that an operation can use belongs to `user`, and so does what it has used. -/
structure Scope.BelongsTo (user : String) (scope : Scope) : Prop where
  username : scope.page.username = user
  relay : scope.owners.relay = user
  identity : scope.owners.identity = user
  contacts : scope.owners.contacts = user
  socket : ∀ owner ∈ scope.owners.socket, owner = user
  uses : ∀ use ∈ scope.uses, use.2 = user

theorem Scope.BelongsTo.eq_of_mem_owned
    {user owner : String} {scope : Scope} (h : scope.BelongsTo user)
    (howner : owner ∈ scope.owned) :
  owner = user
  := by
  simp only [Scope.owned, List.mem_append, List.mem_cons, List.not_mem_nil, or_false,
    Option.mem_toList] at howner
  rcases howner with (rfl | rfl | rfl | rfl) | howner
  · apply h.username
  · apply h.relay
  · apply h.identity
  · apply h.contacts
  · apply h.socket owner howner

theorem Scope.stable_belongsTo (user : String) :
  Scope.Stable (Scope.BelongsTo user)
  where
  use scope uses howned h := by
    use h.username, h.relay, h.identity, h.contacts, h.socket
    intro use huse
    rcases List.mem_append.mp huse with hold | hnew
    · apply h.uses use hold
    · apply h.eq_of_mem_owned (howned use hnew)
  change scope f hf h := by
    use (hf scope.page).trans h.username, h.relay, h.identity, h.contacts, h.socket, h.uses

namespace Tab

variable {MessageKey : Type} {P : Primitives MessageKey} {js : JsonCodec} {s s' : Tab}

/-- The identity, the contacts and the socket belong to `state.username`. -/
def Agrees (s : Tab) : Prop :=
  s.owners.identity = s.page.username ∧ s.owners.contacts = s.page.username
    ∧ ∀ owner ∈ s.owners.socket, owner = s.page.username

instance : DecidablePred Agrees := fun s =>
  inferInstanceAs (Decidable (s.owners.identity = s.page.username ∧ _))

/-- Some operation is under way. -/
def isBusy (s : Tab) : Bool :=
  s.operations.any Operation.isRunning

/-- The action does not sign in another user while an operation is under way, and it begins
an operation only while everything belongs to one user. -/
def KeepsApart (s : Tab) : Action → Prop
  | .start username _ _ _ => s.isBusy → username = s.page.username
  | .send _ _ | .add _ | .receive _ => s.Agrees
  | _ => True

instance (s : Tab) : ∀ a, Decidable (s.KeepsApart a)
  | .start username _ _ _ => inferInstanceAs (Decidable (s.isBusy → username = s.page.username))
  | .send _ _ | .add _ | .receive _ => inferInstanceAs (Decidable s.Agrees)
  | .registered _ | .notRegistered | .reconnect _ | .setReadyState _ | .resume _ _ =>
      .isTrue trivial

/-- While an operation is under way, everything belongs to one user, and so does what it has
used; and every operation has used what belongs to one user. -/
structure Apart (s : Tab) : Prop where
  relay : s.owners.relay = s.page.username
  agrees : s.isBusy → s.Agrees
  running : ∀ operation ∈ s.operations, operation.isRunning →
    ∀ use ∈ operation.uses, use.2 = s.page.username
  oneUser : ∀ operation ∈ s.operations, operation.OneUser

theorem apart_loaded (storage : String → Option Json) :
  (loaded storage).Apart
  where
  relay := rfl
  agrees := by
    rintro ⟨⟩
  running := by
    rintro operation ⟨⟩
  oneUser := by
    rintro operation ⟨⟩

/-- A segment that keeps what belongs to a user leaves the username as it is, and its
operation has used what belongs to that user. -/
theorem Agrees.runSegment
    (h : s.Agrees) (hrelay : s.owners.relay = s.page.username) {uses : List (Part × String)}
    (huses : ∀ use ∈ uses, use.2 = s.page.username) {x : Segment Stage}
    (hx : Program.Keeps (Scope.BelongsTo s.page.username) x) :
  (s.runSegment uses x).1.username = s.page.username
    ∧ ∀ use ∈ (s.runSegment uses x).2.uses, use.2 = s.page.username
  := by
  obtain ⟨hidentity, hcontacts, hsocket⟩ := h
  have hscope := hx.outcome ⟨s.page, s.owners, uses⟩
    ⟨rfl, hrelay, hidentity, hcontacts, hsocket, huses⟩
  rw [Tab.runSegment]
  generalize x.outcome ⟨s.page, s.owners, uses⟩ = result at hscope ⊢
  rcases result with ⟨_ | stage, scope⟩
  · use hscope.username, hscope.uses
  · use hscope.username, hscope.uses

/-- The users stay apart when a segment of an operation is run that uses what belongs to one
user. -/
theorem Apart.runSegment
    (h : s.Apart) (hagrees : s.Agrees) {uses : List (Part × String)}
    (huses : ∀ use ∈ uses, use.2 = s.page.username) {x : Segment Stage}
    (hx : Program.Keeps (Scope.BelongsTo s.page.username) x) {operations : List Operation}
    (hoperations : ∀ operation ∈ operations,
      operation ∈ s.operations ∨ operation = (s.runSegment uses x).2) :
  Apart { s with page := (s.runSegment uses x).1, operations := operations }
  := by
  obtain ⟨husername, hnew⟩ := hagrees.runSegment h.relay huses hx
  constructor
  case relay => apply h.relay.trans husername.symm
  case agrees =>
    intro _
    rw [Agrees]
    simp only [husername]
    apply hagrees
  case running =>
    intro operation hoperation hrunning
    simp only [husername]
    rcases hoperations operation hoperation with hold | rfl
    · apply h.running operation hold hrunning
    · apply hnew
  case oneUser =>
    intro operation hoperation
    rcases hoperations operation hoperation with hold | rfl
    · apply h.oneUser operation hold
    · use s.page.username, hnew

/-- An operation that begins while everything belongs to one user keeps the users apart. -/
theorem Apart.begin
    (h : s.Apart) (hagrees : s.Agrees) {uses : List (Part × String)}
    (huses : ∀ use ∈ uses, use.2 = s.page.username) {x : Segment Stage}
    (hx : Program.Keeps (Scope.BelongsTo s.page.username) x) :
  (s.begin uses x).Apart
  := by
  apply h.runSegment hagrees huses hx
  intro operation hoperation
  rcases List.mem_append.mp hoperation with hold | hnew
  · left
    apply hold
  · right
    apply List.mem_singleton.mp hnew

/-- An operation that goes on keeps the users apart. -/
theorem Apart.goOn
    (h : s.Apart) {i : ℕ} {operation : Operation} (hi : s.operations[i]? = some operation)
    (hrunning : operation.isRunning) {x : Segment Stage}
    (hx : Program.Keeps (Scope.BelongsTo s.page.username) x) :
  (s.goOn i operation.uses x).Apart
  := by
  have hmem : operation ∈ s.operations := List.mem_of_getElem? hi
  apply h.runSegment _ (h.running operation hmem hrunning) hx
  · intro other hother
    apply List.mem_or_eq_of_mem_set hother
  · apply h.agrees (List.any_eq_true.mpr ⟨operation, hmem, hrunning⟩)

/-- What `start` makes belongs to its user, and what it does not get to stays as it was. -/
theorem start_eq
    (s : Tab) (username : String) (identity : Option Identity)
    (contacts : Option (List (Value × Json))) (storageTakes : Bool) :
  let s' := s.start username identity contacts storageTakes
  s'.page.username = username ∧ s'.owners.relay = username ∧ s'.operations = s.operations
    ∧ s'.owners.socket = s.owners.socket
    ∧ (s'.owners.identity = username ∨ s'.owners.identity = s.owners.identity)
    ∧ (s'.owners.contacts = username ∨ s'.owners.contacts = s.owners.contacts)
  := by
  cases identity with
  | none => simp [start]
  | some identity =>
      cases contacts with
      | none => simp [start]
      | some contacts => simp [start]

/-- A sign-in keeps the users apart, when it is for the same user or nothing is under
way. -/
theorem Apart.start
    (h : s.Apart) {username : String} (hbusy : s.isBusy → username = s.page.username)
    (identity : Option Identity) (contacts : Option (List (Value × Json)))
    (storageTakes : Bool) :
  (s.start username identity contacts storageTakes).Apart
  := by
  obtain ⟨husername, hrelay, hoperations, hsocket, hidentity, hcontacts⟩ :=
    start_eq s username identity contacts storageTakes
  generalize s.start username identity contacts storageTakes = s' at *
  have hbusy' : s'.isBusy → s.isBusy := by
    rw [isBusy, hoperations]
    exact id
  constructor
  case relay => rw [hrelay, husername]
  case agrees =>
    intro hs'
    have heq := hbusy (hbusy' hs')
    obtain ⟨hidentity', hcontacts', hsocket'⟩ := h.agrees (hbusy' hs')
    rw [Agrees, husername, hsocket]
    subst heq
    use hidentity.elim id fun h => h.trans hidentity',
      hcontacts.elim id fun h => h.trans hcontacts', hsocket'
  case running =>
    rw [hoperations]
    intro operation hoperation hrunning
    rw [husername, hbusy (List.any_eq_true.mpr ⟨operation, hoperation, hrunning⟩)]
    apply h.running operation hoperation hrunning
  case oneUser =>
    rw [hoperations]
    apply h.oneUser

/-- The new socket belongs to the user that is signed in. -/
theorem Apart.connectWebSocket (h : s.Apart) (constructs : Bool) :
  (s.connectWebSocket constructs).Apart
  where
  relay := h.relay
  agrees hbusy := by
    obtain ⟨hidentity, hcontacts, hsocket⟩ := h.agrees hbusy
    use hidentity, hcontacts
    cases constructs with
    | false => apply hsocket
    | true =>
        rintro owner ⟨⟩
        apply h.relay
  running := h.running
  oneUser := h.oneUser

/-- A step that keeps the users apart leaves them apart. -/
theorem Apart.step
    (h : s.Apart) {a : Action} (hkeeps : s.KeepsApart a) (hstep : s.step P js a = some s') :
  s'.Apart
  := by
  cases a with
  | start username identity contacts storageTakes =>
      obtain ⟨-, ⟨⟩⟩ := Option.ite_none_right_eq_some.mp hstep
      apply h.start hkeeps
  | registered constructs =>
      obtain ⟨-, ⟨⟩⟩ := Option.ite_none_right_eq_some.mp hstep
      apply Apart.connectWebSocket
      exact ⟨h.relay, h.agrees, h.running, h.oneUser⟩
  | notRegistered =>
      obtain ⟨-, ⟨⟩⟩ := Option.ite_none_right_eq_some.mp hstep
      exact ⟨h.relay, h.agrees, h.running, h.oneUser⟩
  | reconnect constructs =>
      obtain ⟨-, ⟨⟩⟩ := Option.ite_none_right_eq_some.mp hstep
      apply h.connectWebSocket
  | setReadyState isOpen =>
      obtain ⟨-, ⟨⟩⟩ := Option.ite_none_right_eq_some.mp hstep
      exact ⟨h.relay, h.agrees, h.running, h.oneUser⟩
  | send recipient text =>
      obtain rfl := Option.some.inj hstep
      apply h.begin hkeeps
      · simp
      · apply Segment.keeps_sendCurrentMessage (Scope.stable_belongsTo _).apart
  | add text =>
      obtain rfl := Option.some.inj hstep
      apply h.begin hkeeps
      · simp
      · apply Segment.keeps_addContactFromInput (Scope.stable_belongsTo _).apart
  | receive bytes =>
      obtain ⟨owner, howner, hstep⟩ := Option.bind_eq_some_iff.mp hstep
      obtain ⟨-, ⟨⟩⟩ := Option.ite_none_right_eq_some.mp hstep
      apply h.begin hkeeps
      · intro use huse
        rw [List.mem_singleton.mp huse]
        apply hkeeps.2.2 owner howner
      · apply Segment.keeps_receiveEncryptedBytes (Scope.stable_belongsTo _).apart
  | resume i outside =>
      obtain ⟨operation, hi, hstep⟩ := Option.bind_eq_some_iff.mp hstep
      obtain ⟨hrunning, ⟨⟩⟩ := Option.ite_none_right_eq_some.mp hstep
      apply h.goOn hi hrunning
      apply Segment.keeps_resume (Scope.stable_belongsTo _)

/-- In a run in which no other user is signed in while an operation is under way, and an
operation begins only while the identity, the contacts and the socket belong to
`state.username`, every operation uses what belongs to one user. -/
theorem oneUser_of_reaches
    {storage : String → Option Json}
    (h : TransitionSystem.Reaches (step P js) KeepsApart (loaded storage) s) :
  ∀ operation ∈ s.operations, operation.OneUser
  := by
  have hapart : s.Apart := by
    apply h.invariant _ (apart_loaded storage)
    intro t a t' hkeeps hstep ht
    apply ht.step hkeeps hstep
  apply hapart.oneUser

/-! ### Two users of one page -/

/-- The primitives of the sample. -/
def samplePrimitives : Primitives (Key × Bytes) :=
  Phantasma.samplePrimitives fun _ => true

/-- The identity with the secret key `secretKey`. -/
def sampleIdentity (secretKey : Key) : Identity :=
  ⟨encodeKey (samplePrimitives.x25519Base secretKey), secretKey.bytes⟩

/-- The contact `bob`. -/
def bobContact : Value × Json :=
  (.ofString "bob", .obj [("username", .str "bob"),
    ("encryption_public_key", .str (sampleIdentity (.zero 32)).encryptionPublicKey)])

/-- `alice`, who has saved `bob`, signs in, and begins to send him a message. -/
def sends : List Action :=
  [.start "alice" (some (sampleIdentity (.zero 32))) (some [bobContact]) true, .registered true,
    .setReadyState true, .send "bob" "hello"]

/-- Nothing is looked up, and the local storage takes everything. -/
def noLookup : Outside := ⟨none, .zero 24, true⟩

/-- The message that `alice` sends is sent as hers. -/
theorem oneUser_of_reaches_sample :
  ∃ s, TransitionSystem.run (step samplePrimitives .compact) (loaded fun _ => none)
      (sends ++ [.resume 0 noLookup, .resume 0 noLookup]) = some s
    ∧ s.page.sent.length = 1 ∧ ∀ operation ∈ s.operations, operation.OneUser
  := by
  let actions := sends ++ [.resume 0 noLookup, .resume 0 noLookup]
  let result := TransitionSystem.run
    (TransitionSystem.guarded (step samplePrimitives .compact) KeepsApart) (loaded fun _ => none)
    actions
  have hrun : result.isSome := by
    decide +kernel
  have hsent : ∀ t ∈ result, t.page.sent.length = 1 := by
    decide +kernel
  obtain ⟨s, hs⟩ := Option.isSome_iff_exists.mp hrun
  use s, TransitionSystem.run_of_run_guarded hs, hsent s hs
  apply oneUser_of_reaches (TransitionSystem.reaches_of_run_guarded hs)

/-- `carol` signs in while the key of the message from `alice` is derived: the message is
encrypted with the key of `alice` and carries the key text of `carol`. -/
theorem not_oneUser :
  ¬ ∀ s : Tab,
    TransitionSystem.Reaches (step samplePrimitives .compact) TransitionSystem.anyAction
      (loaded fun _ => none) s →
    ∀ operation ∈ s.operations, operation.OneUser
  := by
  intro hone
  let carol := sampleIdentity ⟨0 :: 1 :: List.replicate 30 0, FixedBytes.length_other_key⟩
  let actions := sends ++ [.start "carol" (some carol) (some []) true, .resume 0 noLookup]
  let result :=
    TransitionSystem.run (step samplePrimitives .compact) (loaded fun _ => none) actions
  have hrun : result.isSome := by
    decide +kernel
  have hmixed : ∀ t ∈ result, ∃ operation ∈ t.operations,
      (.messageKey, "alice") ∈ operation.uses ∧ (.senderKeyText, "carol") ∈ operation.uses := by
    decide +kernel
  obtain ⟨s, hs⟩ := Option.isSome_iff_exists.mp hrun
  obtain ⟨operation, hoperation, hkey, htext⟩ := hmixed s hs
  have hreach : TransitionSystem.Reaches (step samplePrimitives .compact)
      TransitionSystem.anyAction (loaded fun _ => none) s :=
    TransitionSystem.reaches_any_of_run hs
  obtain ⟨user, huser⟩ := hone s hreach operation hoperation
  have heq : "alice" = "carol" := (huser _ hkey).trans (huser _ htext).symm
  revert heq
  decide

end Tab

end Phantasma.Web
