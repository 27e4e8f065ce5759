import Mathlib.Logic.Function.Basic
import Phantasma.Base.Program
import Phantasma.Client.ServerApi
import Phantasma.Web.Crypto

/-!
# Sending and receiving in the browser client

The functions of `app.js` that send what is typed and receive a frame, each run from its
beginning to its end.  They are programs over `Page`, what the page holds and shows; what
comes from outside in one call is given to the call as `Outside`.  The list of contacts
to choose from is not part of the page: the chosen recipient and the typed text are
arguments of the call.
-/

namespace Phantasma.Web

/-- `state`, with the status line, the messages shown, the frames given to the socket and
the lists of contacts in the local storage. -/
structure Page where
  started : Bool
  username : String
  identity : Identity
  contacts : List (Value × Json)
  socketOpen : Bool
  status : String
  messages : List (String × String)
  sent : List Bytes
  storage : String → Option Json

/-- What comes from outside in one call: the answer to the lookup it makes, the nonce it
draws, and whether the local storage takes an item. -/
structure Outside where
  answer : Option HttpResponse
  nonce : Nonce
  storageTakes : Bool

/-- A function of the browser client. -/
abbrev Task := Program Page Thrown

/-! ### Contacts -/

/-- `state.contacts.get`. -/
def getContact (contacts : List (Value × Json)) (key : Value) : Value :=
  (contacts.find? fun contact => contact.1.strictEq key).map Prod.snd

/-- `state.contacts.set`. -/
def setContact (contacts : List (Value × Json)) (key : Value) (contact : Json) :
    List (Value × Json) :=
  if contacts.any fun contact => contact.1.strictEq key then
    contacts.map fun entry => if entry.1.strictEq key then (entry.1, contact) else entry
  else contacts ++ [(key, contact)]

/-- `contactStorageKey`. -/
def contactStorageKey (username : String) : String :=
  s!"phantasma.web.contacts.{username}"

/-- `saveContacts`. -/
def saveContacts (outside : Outside) : Task Unit := do
  if !outside.storageTakes then
    throw .exception
  modify fun page =>
    let value := some (.arr (page.contacts.map Prod.snd))
    { page with storage := Function.update page.storage (contactStorageKey page.username) value }

/-- `setStatus`. -/
def setStatus (message : String) : Task Unit :=
  modify fun page => { page with status := message }

/-- The page with a message shown, `addMessage`. -/
def Page.addMessage (page : Page) (sender body : String) : Page :=
  { page with messages := page.messages ++ [(sender, body)] }

/-- `lookupPublicKey`, where `answer` is the answer to the request it makes. -/
def lookupPublicKey (js : JsonCodec) (answer : Option HttpResponse) : Except Thrown Value := do
  let response ← orException answer
  if response.status = 404 then
    return some .null
  if !response.isSuccess then
    throw (.error (← orException response.text))
  let body ← orException response.body
  return some (← orException (js.fromSlice body))

/-- What `sendCurrentMessage` and `findOrAddContact` have in common: the key of `username`
is looked up, and the contact that is found is added under the name it carries. -/
def lookUpAndAdd (js : JsonCodec) (outside : Outside) (username : Value) : Task Value := do
  let contact ← Program.ofExcept (lookupPublicKey js outside.answer)
  match contact with
  | some json =>
      if !contact.truthy then
        throw (.error s!"No public key found for {username.display}.")
      let name ← Program.ofExcept (contact.property "username")
      modify fun page => { page with contacts := setContact page.contacts name json }
      saveContacts outside
      return contact
  | none => throw (.error s!"No public key found for {username.display}.")

/-- `findOrAddContact`.  A name is looked up whatever it is; that of an object with a member
`toString` of its own cannot be put into a URL, and the source looks nothing up. -/
def findOrAddContact (js : JsonCodec) (outside : Outside) (username : Value) : Task Value := do
  let existing := getContact (← get).contacts username
  if existing.truthy then
    return existing
  let contact ← lookUpAndAdd js outside username
  let name ← Program.ofExcept (contact.property "username")
  setStatus s!"Added {name.display}."
  return contact

/-! ### Sending and receiving -/

section

variable {MessageKey : Type} (P : Primitives MessageKey) (js : JsonCodec) (outside : Outside)

/-- The part of `sendCurrentMessage` that makes the frame for the socket: the body is
encrypted to the key text, and the envelope is routed to the recipient. -/
def routedFrame (nonce : Nonce) (identity : Identity) (username recipient body : String)
    (recipientPublicKeyText : Value) : Except Thrown Bytes := do
  let encrypted ← encryptMessage P js nonce identity username recipient body recipientPublicKeyText
  orException (js.toVec
    (.obj [("from", .str username), ("to", .str recipient), ("encrypted", encrypted)]))

/-- `sendCurrentMessage`, for the chosen recipient and the typed text. -/
def sendCurrentMessage (recipient text : String) : Task Unit := do
  let page ← get
  if !page.started then
    throw (.error "Enter a username and start first.")
  let body := trim text
  if recipient.isEmpty then
    throw (.error "Add a contact first.")
  if body.isEmpty then
    return ()
  let existing := getContact page.contacts (.ofString recipient)
  let contact ←
    if existing.truthy then pure existing else lookUpAndAdd js outside (.ofString recipient)
  let keyText ← Program.ofExcept (contact.property "encryption_public_key")
  let bytes ← Program.ofExcept
    (routedFrame P js outside.nonce page.identity page.username recipient body keyText)
  if !page.socketOpen then
    throw (.error "Not connected to the relay.")
  modify fun page =>
    ({ page with sent := page.sent ++ [bytes] }.addMessage page.username body)
  setStatus s!"Sent encrypted message to {recipient}."

/-- `receiveEncryptedBytes`. -/
def receiveEncryptedBytes (bytes : Bytes) : Task Unit := do
  let page ← get
  let encrypted : Value := some (← Program.ofExcept (orException (js.fromSlice bytes)))
  let plaintext ← Program.ofExcept (decryptMessage P js page.identity encrypted)
  let recipient ← Program.ofExcept (plaintext.property "to")
  if !recipient.strictEq (.ofString page.username) then
    return ()
  let sender ← Program.ofExcept (plaintext.property "from")
  let contact ← findOrAddContact js outside sender
  let contactKey ← Program.ofExcept (contact.property "encryption_public_key")
  let senderKey ← Program.ofExcept (encrypted.property "sender_encryption_public_key")
  if !contactKey.strictEq senderKey then
    throw (.error s!"Discarded message from {sender.display}; sender key changed.")
  let body ← Program.ofExcept (plaintext.property "body")
  modify fun page => page.addMessage sender.display body.display

end

/-! ### A frame from a saved contact -/

section

variable {MessageKey : Type} {P : Primitives MessageKey} {js : JsonCodec} {outside : Outside}

/-- `page.Holds name publicKey`: the contact `name` is saved with this key text. -/
def Page.Holds (page : Page) (name publicKey : String) : Prop :=
  ∃ contact, getContact page.contacts (.ofString name) = some contact
    ∧ Value.truthy (some contact)
    ∧ Value.property "encryption_public_key" (some contact) = .ok (.ofString publicKey)

theorem findOrAddContact_of_saved
    {page : Page} {username : Value}
    (hsaved : (getContact page.contacts username).truthy) :
  (findOrAddContact js outside username).outcome page
    = (.ok (getContact page.contacts username), page)
  := by
  simp only [findOrAddContact, Program.outcome_bind, Program.outcome_get, hsaved, if_true,
    Program.outcome_pure]

theorem property_message (message : PlaintextChatMessage) :
  Value.property "from" (some message.toJson) = .ok (.ofString message.from)
    ∧ Value.property "to" (some message.toJson) = .ok (.ofString message.to)
    ∧ Value.property "body" (some message.toJson) = .ok (.ofString message.body)
  := ⟨rfl, rfl, rfl⟩

/-- A frame that is decrypted to a message to this user is shown, when the sender is a
saved contact with the key of the envelope. -/
theorem receiveEncryptedBytes_of_saved
    {page : Page} {bytes : Bytes} {encrypted : EncryptedChatMessage} {sender body : String}
    (hread : js.fromSlice bytes = some encrypted.toJson)
    (hdecrypt : decryptMessage P js page.identity (some encrypted.toJson)
      = .ok (some (PlaintextChatMessage.toJson ⟨sender, page.username, body⟩)))
    (hsaved : page.Holds sender encrypted.senderEncryptionPublicKey) :
  (receiveEncryptedBytes P js outside bytes).outcome page
    = (.ok (), page.addMessage sender body)
  := by
  obtain ⟨contact, hget, htruthy, hkey⟩ := hsaved
  obtain ⟨-, hsenderKey, -, -⟩ := property_toJson encrypted
  obtain ⟨hsender, hrecipient, hbody⟩ := property_message ⟨sender, page.username, body⟩
  have hfind : (findOrAddContact js outside (.ofString sender)).outcome page
      = (.ok (some contact), page) := by
    rw [findOrAddContact_of_saved (by rw [hget, htruthy]), hget]
  simp only [receiveEncryptedBytes, Program.outcome_bind, Program.outcome_get,
    Program.outcome_ofExcept, orException_eq_ok.mpr hread, hdecrypt, hsender, hrecipient,
    Value.strictEq_ofString, decide_true, Bool.not_true, Bool.false_eq_true, if_false]
  rw [hfind]
  simp only [hkey, hsenderKey, Value.strictEq_ofString, decide_true, Bool.not_true,
    Bool.false_eq_true, if_false]
  rw [Program.outcome_bind, Program.outcome_ofExcept, hbody]
  simp only [Program.outcome_modify, Value.display_ofString]

/-- A text for a saved contact gives the socket the frame of its message. -/
theorem sendCurrentMessage_of_saved
    {page : Page} {recipient text publicKey : String} {bytes : Bytes} (hstarted : page.started)
    (hrecipient : ¬ recipient.isEmpty) (hbody : ¬ (trim text).isEmpty)
    (hsaved : page.Holds recipient publicKey)
    (hframe : routedFrame P js outside.nonce page.identity page.username recipient (trim text)
      (.ofString publicKey) = .ok bytes)
    (hopen : page.socketOpen) :
  (sendCurrentMessage P js outside recipient text).outcome page
    = (.ok (), { ({ page with sent := page.sent ++ [bytes] }.addMessage page.username (trim text))
      with status := s!"Sent encrypted message to {recipient}." })
  := by
  obtain ⟨contact, hget, htruthy, hkey⟩ := hsaved
  simp only [sendCurrentMessage, Program.outcome_bind, Program.outcome_get, hstarted, hrecipient,
    hbody, hget, htruthy, Bool.not_true, Bool.false_eq_true, if_false, if_true,
    Program.outcome_pure, Program.outcome_ofExcept, hkey, hframe, hopen, Program.outcome_modify,
    setStatus]

end

end Phantasma.Web
