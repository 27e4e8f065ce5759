import Phantasma.Client.Session

/-!
# What a call of the client does

`Looks`, `Sends` and `Receives` are the branches of `lookUpAndAdd`, `send_message` and
`receive_message` as relations between the client before a call, the result of the call
and the client after it.  Every run is one of the branches.

A call changes the contact book in one place, where it adds the entry that a lookup
brings (`contacts_sendMessage`, `contacts_receiveMessage`).
-/

namespace Phantasma

namespace Client

variable (client : Client) (event : Event)

@[simp]
theorem contacts_record :
  (client.record event).contacts = client.contacts
  := rfl

@[simp]
theorem events_record :
  (client.record event).events = client.events ++ [event]
  := rfl

end Client

@[simp]
theorem outcome_record (event : Event) (client : Client) :
  (record event).outcome client = (.ok (), client.record event)
  := rfl

@[simp]
theorem outcome_println (text : String) (client : Client) :
  (println text).outcome client = (.ok (), client.record (.line text))
  := rfl

section

variable {MessageKey : Type} {setup : Setup MessageKey} {outside : Outside}

/-! ### Looking up -/

/-- The client with the entry added to the contact book, and the file as the write leaves
it. -/
def Client.addEntry (setup : Setup MessageKey) (outside : Outside) (client : Client)
    (entry : PublicKeyEntry) : Client :=
  let added := client.contacts.add setup.pretty outside.write client.file entry
  { client with contacts := added.2.1, file := added.2.2 }

@[simp]
theorem Client.contacts_addEntry (client : Client) (entry : PublicKeyEntry) :
  (client.addEntry setup outside entry).contacts = client.contacts.insert entry
  := rfl

theorem outcome_addEntry (entry : PublicKeyEntry) (client : Client) :
  (addEntry setup outside entry).outcome client
    = ((client.contacts.add setup.pretty outside.write client.file entry).1,
      client.addEntry setup outside entry)
  := rfl

/-- `Looks setup outside username client result client'`: the lookup of `username` ends
with `result`. -/
inductive Looks (setup : Setup MessageKey) (outside : Outside) (username : String)
    (client : Client) : Except Error (Option PublicKeyEntry) → Client → Prop where
  | failed {err}
      (hanswer : lookupPublicKey setup.serde setup.endpoints outside.answer username
        = .error err) :
      Looks setup outside username client (.error err) client
  | notFound
      (hanswer : lookupPublicKey setup.serde setup.endpoints outside.answer username = .ok none) :
      Looks setup outside username client (.ok none) client
  | unsaved {entry err}
      (hanswer : lookupPublicKey setup.serde setup.endpoints outside.answer username
        = .ok (some entry)) :
      Looks setup outside username client (.error err) (client.addEntry setup outside entry)
  | added {entry}
      (hanswer : lookupPublicKey setup.serde setup.endpoints outside.answer username
        = .ok (some entry)) :
      Looks setup outside username client (.ok (some entry))
        ((client.addEntry setup outside entry).record (.line s!"added contact {username}"))

theorem looks
    {username : String} {client client' : Client} {result : Except Error (Option PublicKeyEntry)}
    (h : (lookUpAndAdd setup outside username).outcome client = (result, client')) :
  Looks setup outside username client result client'
  := by
  rw [lookUpAndAdd, Program.outcome_bind, Program.outcome_ofExcept] at h
  rcases hanswer : lookupPublicKey setup.serde setup.endpoints outside.answer username
    with err | _ | entry <;> rw [hanswer] at h
  · cases h
    apply Looks.failed hanswer
  · cases h
    apply Looks.notFound hanswer
  · simp only [Program.outcome_bind, outcome_addEntry] at h
    rcases hadd : (client.contacts.add setup.pretty outside.write client.file entry).1
      with err | _ <;> rw [hadd] at h
    · cases h
      apply Looks.unsaved hanswer
    · cases h
      apply Looks.added hanswer

/-- `client'` has printed lines of text after `client`, and done nothing else that is
recorded. -/
def OnlyPrints (client client' : Client) : Prop :=
  ∃ texts : List String, client'.events = client.events ++ texts.map .line

theorem OnlyPrints.refl (client : Client) :
  OnlyPrints client client
  := ⟨[], by rw [List.map_nil, List.append_nil]⟩

theorem OnlyPrints.record
    {client client' : Client} (h : OnlyPrints client client') (text : String) :
  OnlyPrints client (client'.record (.line text))
  := by
  obtain ⟨texts, htexts⟩ := h
  use texts ++ [text]
  rw [Client.events_record, htexts, List.map_append, List.append_assoc]
  rfl

/-- What was done other than printing lines was done before. -/
theorem OnlyPrints.mem
    {client client' : Client} (h : OnlyPrints client client') {event : Event}
    (hevent : event ∈ client'.events) (hline : ∀ text, event ≠ .line text) :
  event ∈ client.events
  := by
  obtain ⟨texts, htexts⟩ := h
  rw [htexts, List.mem_append] at hevent
  rcases hevent with hold | hnew
  · apply hold
  · obtain ⟨text, -, rfl⟩ := List.mem_map.mp hnew
    apply absurd rfl (hline text)

theorem onlyPrints_lookUpAndAdd
    {username : String} {client client' : Client} {result : Except Error (Option PublicKeyEntry)}
    (h : (lookUpAndAdd setup outside username).outcome client = (result, client')) :
  OnlyPrints client client'
  := by
  cases looks h with
  | failed | notFound => apply OnlyPrints.refl
  | unsaved => apply OnlyPrints.refl
  | added => apply OnlyPrints.record (OnlyPrints.refl client)

/-- The entry that a lookup of `username` brings. -/
def answeredEntry (setup : Setup MessageKey) (outside : Outside) (username : String) :
    Option PublicKeyEntry :=
  match lookupPublicKey setup.serde setup.endpoints outside.answer username with
  | .ok (some entry) => some entry
  | _ => none

/-- The entry that is looked up when the contact `username` is needed: there is none when
the contact is saved. -/
def newEntry (setup : Setup MessageKey) (outside : Outside) (client : Client)
    (username : String) : Option PublicKeyEntry :=
  match client.contacts.get username with
  | some _ => none
  | none => answeredEntry setup outside username

/-- The book with an entry added, if there is one. -/
def ContactBook.learn (book : ContactBook) : Option PublicKeyEntry → ContactBook
  | some entry => book.insert entry
  | none => book

/-- An entry that a lookup brings is added, whatever comes of saving it. -/
theorem contacts_lookUpAndAdd (username : String) (client : Client) :
  ((lookUpAndAdd setup outside username).outcome client).2.contacts
    = client.contacts.learn (answeredEntry setup outside username)
  := by
  rw [answeredEntry]
  rcases hlook : (lookUpAndAdd setup outside username).outcome client with ⟨result, client'⟩
  cases looks hlook with
  | failed hanswer | notFound hanswer => simp only [hanswer, ContactBook.learn]
  | unsaved hanswer | added hanswer =>
      simp only [hanswer, ContactBook.learn, Client.contacts_record, Client.contacts_addEntry]

theorem newEntry_of_saved
    {client : Client} {username : String} {entry : PublicKeyEntry}
    (hget : client.contacts.get username = some entry) :
  newEntry setup outside client username = none
  := by
  rw [newEntry, hget]

theorem newEntry_of_unsaved
    {client : Client} {username : String} (hget : client.contacts.get username = none) :
  newEntry setup outside client username = answeredEntry setup outside username
  := by
  rw [newEntry, hget]

theorem recipientEntry_of_saved
    {client : Client} {recipient : String} {entry : PublicKeyEntry}
    (hget : client.contacts.get recipient = some entry) :
  (recipientEntry setup outside recipient).outcome client = (.ok (some entry), client)
  := by
  simp only [recipientEntry, Program.outcome_bind, Program.outcome_get, hget,
    Program.outcome_pure]

theorem recipientEntry_of_unsaved
    {client : Client} {recipient : String} (hget : client.contacts.get recipient = none) :
  (recipientEntry setup outside recipient).outcome client
    = (lookUpAndAdd setup outside recipient).outcome client
  := by
  simp only [recipientEntry, Program.outcome_bind, Program.outcome_get, hget]

theorem findOrAddSender_of_saved
    {client : Client} {username : String} {entry : PublicKeyEntry}
    (hget : client.contacts.get username = some entry) :
  (findOrAddSender setup outside username).outcome client = (.ok entry, client)
  := by
  simp only [findOrAddSender, Program.outcome_bind, Program.outcome_get, hget,
    Program.outcome_pure]

theorem snd_findOrAddSender_of_unsaved
    {client : Client} {username : String} (hget : client.contacts.get username = none) :
  ((findOrAddSender setup outside username).outcome client).2
    = ((lookUpAndAdd setup outside username).outcome client).2
  := by
  simp only [findOrAddSender, Program.outcome_bind, Program.outcome_get, hget]
  rcases (lookUpAndAdd setup outside username).outcome client with ⟨_ | _ | _, _⟩ <;> rfl

/-- `find_or_add_sender` leaves the client as `send_message` does when it looks for the
entry of that contact. -/
theorem snd_findOrAddSender (username : String) (client : Client) :
  ((findOrAddSender setup outside username).outcome client).2
    = ((recipientEntry setup outside username).outcome client).2
  := by
  cases hget : client.contacts.get username with
  | none => rw [snd_findOrAddSender_of_unsaved hget, recipientEntry_of_unsaved hget]
  | some entry => rw [findOrAddSender_of_saved hget, recipientEntry_of_saved hget]

theorem contacts_recipientEntry (recipient : String) (client : Client) :
  ((recipientEntry setup outside recipient).outcome client).2.contacts
    = client.contacts.learn (newEntry setup outside client recipient)
  := by
  cases hget : client.contacts.get recipient with
  | none =>
      rw [recipientEntry_of_unsaved hget, newEntry_of_unsaved hget, contacts_lookUpAndAdd]
  | some entry =>
      rw [recipientEntry_of_saved hget, newEntry_of_saved hget]
      rfl

theorem contacts_findOrAddSender (username : String) (client : Client) :
  ((findOrAddSender setup outside username).outcome client).2.contacts
    = client.contacts.learn (newEntry setup outside client username)
  := by
  rw [snd_findOrAddSender, contacts_recipientEntry]

theorem onlyPrints_recipientEntry
    {recipient : String} {client client' : Client}
    {result : Except Error (Option PublicKeyEntry)}
    (h : (recipientEntry setup outside recipient).outcome client = (result, client')) :
  OnlyPrints client client'
  := by
  cases hget : client.contacts.get recipient with
  | none =>
      rw [recipientEntry_of_unsaved hget] at h
      apply onlyPrints_lookUpAndAdd h
  | some entry =>
      rw [recipientEntry_of_saved hget] at h
      cases h
      apply OnlyPrints.refl

theorem onlyPrints_findOrAddSender
    {username : String} {client client' : Client} {result : Except Error PublicKeyEntry}
    (h : (findOrAddSender setup outside username).outcome client = (result, client')) :
  OnlyPrints client client'
  := by
  have hclient := congrArg Prod.snd h
  rw [snd_findOrAddSender] at hclient
  subst hclient
  apply onlyPrints_recipientEntry rfl

theorem onlyPrints_addContact
    {username : String} {client client' : Client} {result : Except Error Unit}
    (h : (addContact setup outside username).outcome client = (result, client')) :
  OnlyPrints client client'
  := by
  rw [addContact] at h
  split at h
  · cases h
    apply OnlyPrints.record (OnlyPrints.refl client)
  · rw [Program.outcome_bind] at h
    rcases hlook : (lookUpAndAdd setup outside username).outcome client
      with ⟨err | _ | entry, client''⟩ <;> rw [hlook] at h <;> cases h
    · apply onlyPrints_lookUpAndAdd hlook
    · apply (onlyPrints_lookUpAndAdd hlook).record
    · apply onlyPrints_lookUpAndAdd hlook

/-- The entry that `find_or_add_sender` returns is the one that is saved under the name
afterwards, if any is. -/
theorem eq_of_findOrAddSender
    {username : String} {client client' : Client} {entry saved : PublicKeyEntry}
    (h : (findOrAddSender setup outside username).outcome client = (.ok entry, client'))
    (hget : client'.contacts.get username = some saved) :
  saved = entry
  := by
  cases hbefore : client.contacts.get username with
  | some held =>
      rw [findOrAddSender_of_saved hbefore] at h
      cases h
      rw [hbefore] at hget
      cases hget
      rfl
  | none =>
      simp only [findOrAddSender, Program.outcome_bind, Program.outcome_get, hbefore] at h
      rcases hlook : (lookUpAndAdd setup outside username).outcome client
        with ⟨err | _ | found, client''⟩ <;> rw [hlook] at h <;> cases h
      cases looks hlook
      rw [Client.contacts_record, Client.contacts_addEntry, ContactBook.get_insert, hbefore]
        at hget
      obtain ⟨-, hsaved⟩ := Option.ite_none_right_eq_some.mp hget
      cases hsaved
      rfl

/-! ### Sending -/

/-- `Sends setup outside rest client result client'`: the call of `send_message` ends with
`result`. -/
inductive Sends (setup : Setup MessageKey) (outside : Outside) (rest : String)
    (client : Client) : Except Error Unit → Client → Prop where
  | usage (hparse : parseSend rest = none) :
      Sends setup outside rest client (.ok ())
        (client.record (.line "usage: /send <username> <message>"))
  | lookupFailed {recipient messageBody err client'}
      (hparse : parseSend rest = some (recipient, messageBody))
      (hentry : (recipientEntry setup outside recipient).outcome client = (.error err, client')) :
      Sends setup outside rest client (.error err) client'
  | noKey {recipient messageBody client'}
      (hparse : parseSend rest = some (recipient, messageBody))
      (hentry : (recipientEntry setup outside recipient).outcome client = (.ok none, client')) :
      Sends setup outside rest client (.ok ()) (client'.record
        (.line s!"no public key found for {recipient}. use /add {recipient} after they register."))
  | unencrypted {recipient messageBody entry err client'}
      (hparse : parseSend rest = some (recipient, messageBody))
      (hentry : (recipientEntry setup outside recipient).outcome client
        = (.ok (some entry), client'))
      (hencrypt : encryptMessage setup.primitives setup.serde outside.nonce setup.name recipient
        messageBody setup.identity.encryptionSecretKey setup.identity.encryptionPublicKey
        entry.encryptionPublicKey = .error err) :
      Sends setup outside rest client (.error err) client'
  | unsent {recipient messageBody entry encrypted err client'}
      (hparse : parseSend rest = some (recipient, messageBody))
      (hentry : (recipientEntry setup outside recipient).outcome client
        = (.ok (some entry), client'))
      (hencrypt : encryptMessage setup.primitives setup.serde outside.nonce setup.name recipient
        messageBody setup.identity.encryptionSecretKey setup.identity.encryptionPublicKey
        entry.encryptionPublicKey = .ok encrypted) :
      Sends setup outside rest client (.error err) (client'.record
        (.encrypted recipient messageBody entry.encryptionPublicKey encrypted))
  | sent {recipient messageBody entry encrypted bytes client'}
      (hparse : parseSend rest = some (recipient, messageBody))
      (hentry : (recipientEntry setup outside recipient).outcome client
        = (.ok (some entry), client'))
      (hencrypt : encryptMessage setup.primitives setup.serde outside.nonce setup.name recipient
        messageBody setup.identity.encryptionSecretKey setup.identity.encryptionPublicKey
        entry.encryptionPublicKey = .ok encrypted)
      (hbytes : RoutedEncryptedMessage.toWireBytes setup.serde
        ⟨setup.name, recipient, encrypted⟩ = .ok bytes) :
      Sends setup outside rest client (.ok ()) (((client'.record
        (.encrypted recipient messageBody entry.encryptionPublicKey encrypted)).record
        (.frame bytes)).record (.line s!"sent encrypted message to {recipient}"))

theorem sends
    {rest : String} {client client' : Client} {result : Except Error Unit}
    (h : (sendMessage setup outside rest).outcome client = (result, client')) :
  Sends setup outside rest client result client'
  := by
  rw [sendMessage] at h
  rcases hparse : parseSend rest with _ | ⟨recipient, messageBody⟩ <;> rw [hparse] at h
  · cases h
    apply Sends.usage hparse
  · simp only [Program.outcome_bind] at h
    rcases hentry : (recipientEntry setup outside recipient).outcome client
      with ⟨err | _ | entry, client''⟩ <;> rw [hentry] at h
    · cases h
      apply Sends.lookupFailed hparse hentry
    · cases h
      apply Sends.noKey hparse hentry
    · simp only [routedFrame, Program.outcome_bind, Program.outcome_ofExcept] at h
      rcases hencrypt : encryptMessage setup.primitives setup.serde outside.nonce setup.name
        recipient messageBody setup.identity.encryptionSecretKey
        setup.identity.encryptionPublicKey entry.encryptionPublicKey with err | encrypted
          <;> rw [hencrypt] at h
      · cases h
        apply Sends.unencrypted hparse hentry hencrypt
      · simp only [outcome_record] at h
        rcases hbytes : RoutedEncryptedMessage.toWireBytes setup.serde
          ⟨setup.name, recipient, encrypted⟩ with err | bytes <;> rw [hbytes] at h
        · cases h
          apply Sends.unsent hparse hentry hencrypt
        · cases hsocket : outside.socketTakes <;> rw [hsocket] at h
          · cases h
            apply Sends.unsent hparse hentry hencrypt
          · cases h
            apply Sends.sent hparse hentry hencrypt hbytes

/-- A message that can be encrypted is made into its frame. -/
theorem outcome_routedFrame
    {nonce : Nonce} {recipient messageBody publicKey : String} {encrypted : EncryptedChatMessage}
    {bytes : Bytes} (hencrypt : encryptMessage setup.primitives setup.serde nonce setup.name
      recipient messageBody setup.identity.encryptionSecretKey setup.identity.encryptionPublicKey
      publicKey = .ok encrypted)
    (hbytes : RoutedEncryptedMessage.toWireBytes setup.serde ⟨setup.name, recipient, encrypted⟩
      = .ok bytes) (client : Client) :
  (routedFrame setup nonce recipient messageBody publicKey).outcome client
    = (.ok bytes, client.record (.encrypted recipient messageBody publicKey encrypted))
  := by
  simp only [routedFrame, Program.outcome_bind, Program.outcome_ofExcept, hencrypt,
    outcome_record, hbytes]

/-- A command to a recipient whose entry is found gives the socket the frame of its message. -/
theorem sendMessage_of_entry
    {rest recipient messageBody : String} {client client' client'' : Client}
    {entry : PublicKeyEntry} {bytes : Bytes}
    (hparse : parseSend rest = some (recipient, messageBody))
    (hentry : (recipientEntry setup outside recipient).outcome client
      = (.ok (some entry), client'))
    (hframe : (routedFrame setup outside.nonce recipient messageBody
      entry.encryptionPublicKey).outcome client' = (.ok bytes, client''))
    (hsocket : outside.socketTakes) :
  (sendMessage setup outside rest).outcome client
    = (.ok (), (client''.record (.frame bytes)).record
      (.line s!"sent encrypted message to {recipient}"))
  := by
  rw [sendMessage, hparse]
  simp only [Program.outcome_bind, hentry, hframe, hsocket, Bool.not_true, Bool.false_eq_true,
    if_false, outcome_record, outcome_println]

/-- A call of `send_message` adds the entry that the lookup of the recipient brings. -/
theorem contacts_sendMessage (rest : String) (client : Client) :
  ((sendMessage setup outside rest).outcome client).2.contacts
    = client.contacts.learn
      ((parseSend rest).bind fun command => newEntry setup outside client command.1)
  := by
  rcases hsend : (sendMessage setup outside rest).outcome client with ⟨result, client'⟩
  cases sends hsend with
  | usage hparse => rw [hparse, Client.contacts_record, Option.bind_none, ContactBook.learn]
  | lookupFailed hparse hentry | unencrypted hparse hentry =>
      rw [hparse, Option.bind_some, ← contacts_recipientEntry, hentry]
  | noKey hparse hentry | unsent hparse hentry | sent hparse hentry =>
      rw [hparse, Option.bind_some, ← contacts_recipientEntry, hentry]
      rfl

/-- An envelope that was not encrypted before the call is encrypted in it, for the
recipient and the body that the argument names. -/
theorem encrypted_of_sendMessage
    {rest recipient body publicKey : String} {encrypted : EncryptedChatMessage}
    {client : Client} (hnew : .encrypted recipient body publicKey encrypted ∉ client.events)
    (h : .encrypted recipient body publicKey encrypted
      ∈ ((sendMessage setup outside rest).outcome client).2.events) :
  parseSend rest = some (recipient, body)
    ∧ encryptMessage setup.primitives setup.serde outside.nonce setup.name recipient body
      setup.identity.encryptionSecretKey setup.identity.encryptionPublicKey publicKey
      = .ok encrypted
  := by
  rcases hsend : (sendMessage setup outside rest).outcome client with ⟨result, client'⟩
  rw [hsend] at h
  have hold : ∀ {name result client''},
      (recipientEntry setup outside name).outcome client = (result, client'') →
      Event.encrypted recipient body publicKey encrypted ∉ client''.events := by
    intro name result client'' hentry hmem
    apply hnew ((onlyPrints_recipientEntry hentry).mem hmem (by simp))
  cases sends hsend with
  | usage => simp [hnew] at h
  | lookupFailed hparse hentry | noKey hparse hentry | unencrypted hparse hentry =>
      simp [hold hentry] at h
  | unsent hparse hentry hencrypt | sent hparse hentry hencrypt =>
      simp only [Client.events_record, List.mem_append, hold hentry, List.mem_singleton,
        reduceCtorEq, false_or, or_false] at h
      cases h
      exact ⟨hparse, hencrypt⟩

/-! ### Receiving -/

/-- The sender of the message that a frame opens as, when it is a message to this
client. -/
def openedSender (setup : Setup MessageKey) (bytes : Bytes) : Option String :=
  match openFrame setup bytes with
  | .ok (_, chatMessage) => if chatMessage.to = setup.name then some chatMessage.from else none
  | .error _ => none

/-- `Receives setup outside bytes client result client'`: the call of `receive_message`
ends with `result`. -/
inductive Receives (setup : Setup MessageKey) (outside : Outside) (bytes : Bytes)
    (client : Client) : Except Error Unit → Client → Prop where
  | unopened {err} (hopen : openFrame setup bytes = .error err) :
      Receives setup outside bytes client (.error err) client
  | notAddressed {encrypted chatMessage}
      (hopen : openFrame setup bytes = .ok (encrypted, chatMessage))
      (hto : chatMessage.to ≠ setup.name) :
      Receives setup outside bytes client (.ok ()) client
  | unknownSender {encrypted chatMessage err client'}
      (hopen : openFrame setup bytes = .ok (encrypted, chatMessage))
      (hto : chatMessage.to = setup.name)
      (hentry : (findOrAddSender setup outside chatMessage.from).outcome client
        = (.error err, client')) :
      Receives setup outside bytes client (.error err) client'
  | keyChanged {encrypted chatMessage entry client'}
      (hopen : openFrame setup bytes = .ok (encrypted, chatMessage))
      (hto : chatMessage.to = setup.name)
      (hentry : (findOrAddSender setup outside chatMessage.from).outcome client
        = (.ok entry, client'))
      (hkey : entry.encryptionPublicKey ≠ encrypted.senderEncryptionPublicKey) :
      Receives setup outside bytes client
        (.error (.text "sender key did not match saved contact")) client'
  | displayed {encrypted chatMessage entry client'}
      (hopen : openFrame setup bytes = .ok (encrypted, chatMessage))
      (hto : chatMessage.to = setup.name)
      (hentry : (findOrAddSender setup outside chatMessage.from).outcome client
        = (.ok entry, client'))
      (hkey : entry.encryptionPublicKey = encrypted.senderEncryptionPublicKey) :
      Receives setup outside bytes client (.ok ())
        (client'.record (.message chatMessage.from chatMessage.body))

theorem receives
    {bytes : Bytes} {client client' : Client} {result : Except Error Unit}
    (h : (receiveMessage setup outside bytes).outcome client = (result, client')) :
  Receives setup outside bytes client result client'
  := by
  rw [receiveMessage, Program.outcome_bind, Program.outcome_ofExcept] at h
  rcases hopen : openFrame setup bytes with err | ⟨encrypted, chatMessage⟩ <;> rw [hopen] at h
  · cases h
    apply Receives.unopened hopen
  · by_cases hto : chatMessage.to = setup.name
    · simp only [hto, ne_eq, not_true_eq_false, if_false, Program.outcome_bind] at h
      rcases hentry : (findOrAddSender setup outside chatMessage.from).outcome client
        with ⟨err | entry, client''⟩ <;> rw [hentry] at h
      · cases h
        apply Receives.unknownSender hopen hto hentry
      · by_cases hkey : entry.encryptionPublicKey = encrypted.senderEncryptionPublicKey
        · simp only [hkey, not_true_eq_false, if_false] at h
          cases h
          apply Receives.displayed hopen hto hentry hkey
        · simp only [hkey, not_false_eq_true, if_true] at h
          cases h
          apply Receives.keyChanged hopen hto hentry hkey
    · simp only [ne_eq, hto, not_false_eq_true, if_true] at h
      cases h
      apply Receives.notAddressed hopen hto

/-- A frame that opens as a message to this client is displayed, when the sender is a saved
contact with the key of the envelope. -/
theorem receiveMessage_of_saved
    {bytes : Bytes} {client : Client} {encrypted : EncryptedChatMessage} {sender body : String}
    {entry : PublicKeyEntry}
    (hopen : openFrame setup bytes = .ok (encrypted, ⟨sender, setup.name, body⟩))
    (hget : client.contacts.get sender = some entry)
    (hkey : entry.encryptionPublicKey = encrypted.senderEncryptionPublicKey) :
  (receiveMessage setup outside bytes).outcome client
    = (.ok (), client.record (.message sender body))
  := by
  rw [receiveMessage, Program.outcome_bind, Program.outcome_ofExcept, hopen]
  simp only [ne_eq, not_true_eq_false, if_false]
  rw [Program.outcome_bind, findOrAddSender_of_saved hget]
  simp only [hkey, not_true_eq_false, if_false, outcome_record]

/-- A call of `receive_message` adds the entry that the lookup of the sender brings, if the
frame opens as a message to this client. -/
theorem contacts_receiveMessage (bytes : Bytes) (client : Client) :
  ((receiveMessage setup outside bytes).outcome client).2.contacts
    = client.contacts.learn
      ((openedSender setup bytes).bind fun sender => newEntry setup outside client sender)
  := by
  rcases hreceive : (receiveMessage setup outside bytes).outcome client with ⟨result, client'⟩
  cases receives hreceive with
  | unopened hopen => rw [openedSender, hopen, Option.bind_none, ContactBook.learn]
  | notAddressed hopen hto =>
      rw [openedSender, hopen]
      simp only [if_neg hto, Option.bind_none, ContactBook.learn]
  | unknownSender hopen hto hentry | keyChanged hopen hto hentry =>
      rw [openedSender, hopen]
      simp only [if_pos hto, Option.bind_some]
      rw [← contacts_findOrAddSender, hentry]
  | displayed hopen hto hentry =>
      rw [openedSender, hopen]
      simp only [if_pos hto, Option.bind_some]
      rw [← contacts_findOrAddSender, hentry]
      rfl

/-- A message that was not displayed before the call is displayed in it: the frame opens
as this message to this client, and its key is that of the sender's entry. -/
theorem message_of_receiveMessage
    {bytes : Bytes} {sender body : String} {client : Client}
    (hnew : .message sender body ∉ client.events)
    (h : .message sender body ∈ ((receiveMessage setup outside bytes).outcome client).2.events) :
  ∃ encrypted entry,
    openFrame setup bytes = .ok (encrypted, ⟨sender, setup.name, body⟩)
      ∧ entry.encryptionPublicKey = encrypted.senderEncryptionPublicKey
      ∧ ∀ saved, ((receiveMessage setup outside bytes).outcome client).2.contacts.get sender
        = some saved → saved = entry
  := by
  rcases hreceive : (receiveMessage setup outside bytes).outcome client with ⟨result, client'⟩
  rw [hreceive] at h
  have hold : ∀ {name result client''},
      (findOrAddSender setup outside name).outcome client = (result, client'') →
      Event.message sender body ∉ client''.events := by
    intro name result client'' hentry hmem
    apply hnew ((onlyPrints_findOrAddSender hentry).mem hmem (by simp))
  cases receives hreceive with
  | unopened => apply absurd h hnew
  | notAddressed => apply absurd h hnew
  | unknownSender hopen hto hentry | keyChanged hopen hto hentry => apply absurd h (hold hentry)
  | displayed hopen hto hentry hkey =>
      rename_i encrypted chatMessage entry client''
      simp only [Client.events_record, List.mem_append, hold hentry, List.mem_singleton,
        Event.message.injEq, false_or] at h
      obtain ⟨rfl, rfl⟩ := h
      use encrypted, entry
      and_intros
      · rw [hopen, ← hto]
      · apply hkey
      · intro saved hget
        apply eq_of_findOrAddSender hentry hget

/-- A call of `receive_message` encrypts nothing. -/
theorem encrypted_mem_of_receiveMessage
    {bytes : Bytes} {recipient body publicKey : String} {encrypted : EncryptedChatMessage}
    {client : Client}
    (h : .encrypted recipient body publicKey encrypted
      ∈ ((receiveMessage setup outside bytes).outcome client).2.events) :
  .encrypted recipient body publicKey encrypted ∈ client.events
  := by
  rcases hreceive : (receiveMessage setup outside bytes).outcome client with ⟨result, client'⟩
  rw [hreceive] at h
  have hold : ∀ {name result client''},
      (findOrAddSender setup outside name).outcome client = (result, client'') →
      Event.encrypted recipient body publicKey encrypted ∈ client''.events →
      Event.encrypted recipient body publicKey encrypted ∈ client.events := by
    intro name result client'' hentry hmem
    apply (onlyPrints_findOrAddSender hentry).mem hmem (by simp)
  cases receives hreceive with
  | unopened => apply h
  | notAddressed => apply h
  | unknownSender hopen hto hentry | keyChanged hopen hto hentry => apply hold hentry h
  | displayed hopen hto hentry hkey =>
      simp only [Client.events_record, List.mem_append, List.mem_singleton, reduceCtorEq,
        or_false] at h
      apply hold hentry h

end

end Phantasma
