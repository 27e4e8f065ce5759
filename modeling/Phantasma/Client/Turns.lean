import Phantasma.Client.Loop

/-!
# What a turn of the client does

A turn looks up at most one name, which the input determines (`Input.lookup`).  `turned` says
what a turn can do to the contact book and its file, which messages it encrypts and which
frames it gives to the socket.
-/

namespace Phantasma

/-- The username that a command looks up, unless it is a saved contact. -/
def Command.contact : Command → Option String
  | add username => some username
  | send rest => (parseSend rest).map Prod.fst
  | _ => none

section

variable {MessageKey : Type} (setup : Setup MessageKey)

/-- The username that a turn looks up, unless it is a saved contact, with what comes from
outside in the turn. -/
def Input.lookup : Input → Option (String × Outside)
  | line typed outside =>
      (parseCommand typed).contact.map fun username => (username, outside)
  | binary bytes outside => (openedSender setup bytes).map fun username => (username, outside)
  | _ => none

/-- The input whose lookup, if it makes one, has the answer that `answer` gives. -/
def Input.answered (answer : String → Option HttpResponse) : Input → Input
  | line typed outside =>
      line typed { outside with answer := (parseCommand typed).contact.bind answer }
  | binary bytes outside =>
      binary bytes { outside with answer := (openedSender setup bytes).bind answer }
  | input => input

/-- The answers of the lookup are those that are given. -/
theorem lookup_answered (answer : String → Option HttpResponse) (input : Input) :
  (input.answered setup answer).lookup setup
    = (input.lookup setup).map fun (username, outside) =>
      (username, { outside with answer := answer username })
  := by
  cases input with
  | line typed outside =>
      rw [Input.answered, Input.lookup, Input.lookup]
      cases (parseCommand typed).contact <;> rfl
  | binary bytes outside =>
      rw [Input.answered, Input.lookup, Input.lookup]
      cases openedSender setup bytes <;> rfl
  | _ => rfl

end

section

variable {MessageKey : Type} {setup : Setup MessageKey} {library : Error → String}
    {outside : Outside} {username : String} {client client' client'' : Client} {input : Input}

/-! ### What is learned -/

/-- The client has kept its contact book and the file, or it has added the entry that a lookup
of `username` brings to both, as far as the write goes. -/
def Learns (setup : Setup MessageKey) (outside : Outside) (username : String)
    (client client' : Client) : Prop :=
  (client'.contacts = client.contacts ∧ client'.file = client.file)
    ∨ ∃ entry, lookupPublicKey setup.serde setup.endpoints outside.answer username
        = .ok (some entry)
      ∧ client'.contacts = (client.addEntry setup outside entry).contacts
      ∧ client'.file = (client.addEntry setup outside entry).file

theorem Learns.refl (client : Client) :
  Learns setup outside username client client
  := Or.inl ⟨rfl, rfl⟩

theorem learns_lookUpAndAdd (username : String) (client : Client) :
  Learns setup outside username client
    ((lookUpAndAdd setup outside username).outcome client).2
  := by
  rcases hlook : (lookUpAndAdd setup outside username).outcome client with ⟨result, client'⟩
  cases looks hlook with
  | failed | notFound => apply Learns.refl
  | unsaved hanswer | added hanswer => exact Or.inr ⟨_, hanswer, rfl, rfl⟩

theorem learns_recipientEntry (username : String) (client : Client) :
  Learns setup outside username client
    ((recipientEntry setup outside username).outcome client).2
  := by
  cases hget : client.contacts.get username with
  | none =>
      rw [recipientEntry_of_unsaved hget]
      apply learns_lookUpAndAdd
  | some entry =>
      rw [recipientEntry_of_saved hget]
      apply Learns.refl

theorem learns_findOrAddSender (username : String) (client : Client) :
  Learns setup outside username client
    ((findOrAddSender setup outside username).outcome client).2
  := by
  rw [snd_findOrAddSender]
  apply learns_recipientEntry

theorem learns_addContact (username : String) (client : Client) :
  Learns setup outside username client ((addContact setup outside username).outcome client).2
  := by
  rw [addContact]
  split
  · apply Learns.refl
  · have hlearns : Learns setup outside username client
        ((lookUpAndAdd setup outside username).outcome client).2 := learns_lookUpAndAdd _ _
    rw [Program.outcome_bind]
    rcases hlook : (lookUpAndAdd setup outside username).outcome client
      with ⟨err | _ | entry, client'⟩ <;> rw [hlook] at hlearns <;> apply hlearns

/-! ### What is sent -/

/-- The entry is the one of the saved contact, or there is none and it was looked up. -/
def FindsEntry (setup : Setup MessageKey) (outside : Outside) (username : String)
    (client : Client) (entry : PublicKeyEntry) : Prop :=
  client.contacts.get username = some entry
    ∨ client.contacts.get username = none
      ∧ lookupPublicKey setup.serde setup.endpoints outside.answer username = .ok (some entry)

theorem findsEntry_of_recipientEntry
    {entry : PublicKeyEntry}
    (h : (recipientEntry setup outside username).outcome client = (.ok (some entry), client')) :
  FindsEntry setup outside username client entry
  := by
  cases hget : client.contacts.get username with
  | some saved =>
      rw [recipientEntry_of_saved hget] at h
      cases h
      apply Or.inl hget
  | none =>
      rw [recipientEntry_of_unsaved hget] at h
      cases looks h with
      | added hanswer => exact Or.inr ⟨hget, hanswer⟩

/-- `Writes setup outside username client event`: the event is the encryption of a message to
`username` under the key of the entry that is found. -/
def Writes (setup : Setup MessageKey) (outside : Outside) (client : Client)
    (recipient body publicKey : String) (encrypted : EncryptedChatMessage) : Prop :=
  (∃ entry, FindsEntry setup outside recipient client entry
      ∧ entry.encryptionPublicKey = publicKey)
    ∧ encryptMessage setup.primitives setup.serde outside.nonce setup.name recipient body
        setup.identity.encryptionSecretKey setup.identity.encryptionPublicKey publicKey
      = .ok encrypted

/-- The client has done more, and what is not printing is that a message to `username` was
encrypted and that its frame was given to the socket. -/
structure Acts (setup : Setup MessageKey) (outside : Outside) (username : String)
    (client client' : Client) : Prop where
  learns : Learns setup outside username client client'
  before : client.events <+: client'.events
  encrypted : ∀ recipient body publicKey encrypted,
    .encrypted recipient body publicKey encrypted ∈ client'.events →
      .encrypted recipient body publicKey encrypted ∈ client.events
        ∨ recipient = username ∧ Writes setup outside client recipient body publicKey encrypted
  frame : ∀ bytes, .frame bytes ∈ client'.events → .frame bytes ∈ client.events
    ∨ ∃ recipient body publicKey encrypted,
      .encrypted recipient body publicKey encrypted ∈ client'.events
        ∧ RoutedEncryptedMessage.toWireBytes setup.serde ⟨setup.name, recipient, encrypted⟩
          = .ok bytes

/-- A client that only prints and learns. -/
theorem Acts.of_onlyPrints
    (hlearns : Learns setup outside username client client')
    (hprints : OnlyPrints client client') :
  Acts setup outside username client client'
  where
  learns := hlearns
  before := by
    obtain ⟨texts, htexts⟩ := hprints
    rw [htexts]
    apply List.prefix_append
  encrypted recipient body publicKey encrypted hmem := Or.inl (hprints.mem hmem (by simp))
  frame bytes hmem := Or.inl (hprints.mem hmem (by simp))

/-- One thing more is done. -/
theorem Acts.record
    (h : Acts setup outside username client client') {event : Event}
    (hencrypted : ∀ recipient body publicKey encrypted,
      event = .encrypted recipient body publicKey encrypted →
        recipient = username ∧ Writes setup outside client recipient body publicKey encrypted)
    (hframe : ∀ bytes, event = .frame bytes → ∃ recipient body publicKey encrypted,
      .encrypted recipient body publicKey encrypted ∈ client'.events
        ∧ RoutedEncryptedMessage.toWireBytes setup.serde ⟨setup.name, recipient, encrypted⟩
          = .ok bytes) :
  Acts setup outside username client (client'.record event)
  where
  learns := h.learns
  before := h.before.trans (List.prefix_append _ _)
  encrypted recipient body publicKey encrypted hmem := by
    rw [Client.events_record, List.mem_append, List.mem_singleton] at hmem
    rcases hmem with hmem | hmem
    · apply h.encrypted _ _ _ _ hmem
    · apply Or.inr (hencrypted _ _ _ _ hmem.symm)
  frame bytes hmem := by
    have hold : (.frame bytes ∈ client.events ∨ ∃ recipient body publicKey encrypted,
        .encrypted recipient body publicKey encrypted ∈ client'.events
          ∧ RoutedEncryptedMessage.toWireBytes setup.serde ⟨setup.name, recipient, encrypted⟩
            = .ok bytes) := by
      rw [Client.events_record, List.mem_append, List.mem_singleton] at hmem
      rcases hmem with hmem | hmem
      · apply h.frame bytes hmem
      · apply Or.inr (hframe bytes hmem.symm)
    rcases hold with hold | ⟨recipient, body, publicKey, encrypted, hnew, hbytes⟩
    · apply Or.inl hold
    · right
      exact ⟨recipient, body, publicKey, encrypted, List.mem_append_left _ hnew, hbytes⟩

/-- A line is printed. -/
theorem Acts.println
    (h : Acts setup outside username client client') (text : String) :
  Acts setup outside username client (client'.record (.line text))
  := by
  apply h.record
  · rintro _ _ _ _ ⟨⟩
  · rintro _ ⟨⟩

theorem acts_addContact (username : String) (client : Client) :
  Acts setup outside username client ((addContact setup outside username).outcome client).2
  := by
  apply Acts.of_onlyPrints (learns_addContact username client)
  rcases hadd : (addContact setup outside username).outcome client with ⟨result, client'⟩
  apply onlyPrints_addContact hadd

theorem acts_recipientEntry
    {result : Except Error (Option PublicKeyEntry)}
    (h : (recipientEntry setup outside username).outcome client = (result, client')) :
  Acts setup outside username client client'
  := by
  have hlearns : Learns setup outside username client
      ((recipientEntry setup outside username).outcome client).2 := learns_recipientEntry _ _
  rw [h] at hlearns
  apply Acts.of_onlyPrints hlearns (onlyPrints_recipientEntry h)

theorem acts_findOrAddSender
    {result : Except Error PublicKeyEntry}
    (h : (findOrAddSender setup outside username).outcome client = (result, client')) :
  Acts setup outside username client client'
  := by
  have hlearns : Learns setup outside username client
      ((findOrAddSender setup outside username).outcome client).2 := learns_findOrAddSender _ _
  rw [h] at hlearns
  apply Acts.of_onlyPrints hlearns (onlyPrints_findOrAddSender h)

/-- A message to the entry that was found is encrypted. -/
theorem acts_encrypt
    {recipient body : String} {entry : PublicKeyEntry} {encrypted : EncryptedChatMessage}
    (hentry : (recipientEntry setup outside recipient).outcome client
      = (.ok (some entry), client'))
    (hencrypt : encryptMessage setup.primitives setup.serde outside.nonce setup.name recipient
      body setup.identity.encryptionSecretKey setup.identity.encryptionPublicKey
      entry.encryptionPublicKey = .ok encrypted) :
  Acts setup outside recipient client
    (client'.record (.encrypted recipient body entry.encryptionPublicKey encrypted))
  := by
  apply (acts_recipientEntry hentry).record
  · rintro _ _ _ _ ⟨⟩
    exact ⟨rfl, ⟨entry, findsEntry_of_recipientEntry hentry, rfl⟩, hencrypt⟩
  · rintro _ ⟨⟩

/-- A call of `send_message` looks up the recipient that its argument names. -/
theorem acts_sendMessage
    {rest recipient body : String} (hparse : parseSend rest = some (recipient, body))
    (client : Client) :
  Acts setup outside recipient client ((sendMessage setup outside rest).outcome client).2
  := by
  rcases hsend : (sendMessage setup outside rest).outcome client with ⟨result, client'⟩
  cases sends hsend with
  | usage hparse' =>
      rw [hparse] at hparse'
      cases hparse'
  | lookupFailed hparse' hentry | unencrypted hparse' hentry =>
      obtain ⟨⟩ := Option.some.inj (hparse.symm.trans hparse')
      apply acts_recipientEntry hentry
  | noKey hparse' hentry =>
      obtain ⟨⟩ := Option.some.inj (hparse.symm.trans hparse')
      apply (acts_recipientEntry hentry).println
  | unsent hparse' hentry hencrypt =>
      obtain ⟨⟩ := Option.some.inj (hparse.symm.trans hparse')
      apply acts_encrypt hentry hencrypt
  | sent hparse' hentry hencrypt hbytes =>
      obtain ⟨⟩ := Option.some.inj (hparse.symm.trans hparse')
      apply Acts.println
      apply (acts_encrypt hentry hencrypt).record
      · rintro _ _ _ _ ⟨⟩
      · rintro _ ⟨⟩
        exact ⟨_, _, _, _, List.mem_append_right _ List.mem_cons_self, hbytes⟩

/-- A call of `receive_message` looks up the sender of the message that the frame opens as, if
it is a message to this client; or it does nothing. -/
theorem acts_receiveMessage
    (setup : Setup MessageKey) (outside : Outside) (bytes : Bytes) (client : Client) :
  match openedSender setup bytes with
  | some sender =>
      Acts setup outside sender client ((receiveMessage setup outside bytes).outcome client).2
  | none => ((receiveMessage setup outside bytes).outcome client).2 = client
  := by
  rcases hreceive : (receiveMessage setup outside bytes).outcome client with ⟨result, client'⟩
  cases receives hreceive with
  | unopened hopen => simp only [openedSender, hopen]
  | notAddressed hopen hto => simp only [openedSender, hopen, if_neg hto]
  | unknownSender hopen hto hentry | keyChanged hopen hto hentry =>
      simp only [openedSender, hopen, if_pos hto]
      apply acts_findOrAddSender hentry
  | displayed hopen hto hentry =>
      simp only [openedSender, hopen, if_pos hto]
      apply (acts_findOrAddSender hentry).record
      · rintro _ _ _ _ ⟨⟩
      · rintro _ ⟨⟩

/-! ### A whole turn -/

/-- `Turned setup input client client'`: the client acts as far as the lookup of the input
goes, or it only prints. -/
def Turned (setup : Setup MessageKey) (input : Input) (client client' : Client) : Prop :=
  (∃ username outside, input.lookup setup = some (username, outside)
      ∧ Acts setup outside username client client')
    ∨ client'.contacts = client.contacts ∧ client'.file = client.file
      ∧ OnlyPrints client client'

theorem Turned.println (h : Turned setup input client client') (text : String) :
  Turned setup input client (client'.record (.line text))
  := by
  rcases h with ⟨username, outside, hlookup, hacts⟩ | ⟨hcontacts, hfile, hprints⟩
  · exact Or.inl ⟨username, outside, hlookup, hacts.println text⟩
  · exact Or.inr ⟨hcontacts, hfile, hprints.record text⟩

/-- Lines are printed, and nothing else is done. -/
theorem turned_printed (texts : List String) :
  Turned setup input client (client.printed texts)
  := Or.inr ⟨rfl, rfl, texts, rfl⟩

/-- A call that is reported does what it does, and prints. -/
theorem turned_reporting
    (report : Error → String) {call : Run Unit}
    (h : Turned setup input client (call.outcome client).2) :
  Turned setup input client ((reporting report call).outcome client).2
  := by
  rw [outcome_reporting]
  rcases hcall : call.outcome client with ⟨err | _, client'⟩ <;> rw [hcall] at h
  · apply h.println
  · apply h

/-- What a turn does. -/
theorem turned
    (setup : Setup MessageKey) (library : Error → String) (input : Input) (client : Client) :
  Turned setup input client ((turn setup library input).outcome client).2
  := by
  have hnothing : Turned setup input client client := Or.inr ⟨rfl, rfl, .refl client⟩
  cases input with
  | line typed outside =>
      rw [turn]
      cases hcommand : parseCommand typed with
      | nothing => apply hnothing
      | quit => apply hnothing
      | help => apply turned_printed
      | contacts =>
          rw [runCommand, Program.outcome_bind, outcome_printContacts]
          apply turned_printed
      | add username =>
          have hacts : Acts setup outside username client
              ((addContact setup outside username).outcome client).2 :=
            acts_addContact username client
          have hlookup : (Input.line typed outside).lookup setup = some (username, outside) := by
            rw [Input.lookup, hcommand]
            rfl
          rw [runCommand, Program.outcome_bind]
          rcases hcall : (addContact setup outside username).outcome client
            with ⟨_ | _, client'⟩ <;> rw [hcall] at hacts
              <;> exact Or.inl ⟨username, outside, hlookup, hacts⟩
      | send rest =>
          have hturned : Turned setup (.line typed outside) client
              ((sendMessage setup outside rest).outcome client).2 := by
            rcases hparse : parseSend rest with _ | ⟨recipient, body⟩
            · rw [sendMessage, hparse]
              apply turned_printed [_]
            · left
              use recipient, outside
              rw [Input.lookup, hcommand, Command.contact, hparse]
              exact ⟨rfl, acts_sendMessage hparse client⟩
          have hreported := turned_reporting (sendReport library) hturned
          rw [runCommand, Program.outcome_bind]
          rcases hcall : (reporting (sendReport library)
            (sendMessage setup outside rest)).outcome client with ⟨_ | _, client'⟩
              <;> rw [hcall] at hreported <;> apply hreported
      | unknown => apply turned_printed [_]
  | endOfInput => apply hnothing
  | unreadable err => apply hnothing
  | binary bytes outside =>
      have hturned : Turned setup (.binary bytes outside) client
          ((receiveMessage setup outside bytes).outcome client).2 := by
        have hacts := acts_receiveMessage setup outside bytes client
        cases hsender : openedSender setup bytes with
        | some sender =>
            rw [hsender] at hacts
            left
            use sender, outside
            rw [Input.lookup, hsender]
            exact ⟨rfl, hacts⟩
        | none =>
            rw [hsender] at hacts
            rw [hacts]
            apply hnothing
      have hreported := turned_reporting (receiveReport library) hturned
      rw [turn, Program.outcome_bind]
      rcases hcall : (reporting (receiveReport library)
        (receiveMessage setup outside bytes)).outcome client with ⟨_ | _, client'⟩
          <;> rw [hcall] at hreported <;> apply hreported
  | text typed => apply turned_printed [_]
  | closed failures => apply turned_printed
  | control => apply hnothing
  | failed err failures => apply turned_printed

end

end Phantasma
