import Phantasma.Client.ContactFile
import Phantasma.Client.Pinning

/-!
# What a rejected message leaves behind

`receive_message` rejects a message whose key is not that of the sender's entry, and a
sender who is not saved is looked up and added before the keys are compared.
`traceless_iff` says which calls leave the contact book and its file as they were all the
same.
-/

namespace Phantasma

section

variable {MessageKey : Type} (setup : Setup MessageKey) (outside : Outside) (bytes : Bytes)
    (client : Client)

/-- A message is displayed in the call. -/
def Displays : Prop :=
  ∃ sender body, .message sender body
    ∈ ((receiveMessage setup outside bytes).outcome client).2.events.drop client.events.length

/-- If the call fails or displays no message, the contact book and its file are as they were. -/
def Traceless : Prop :=
  (∃ err, ((receiveMessage setup outside bytes).outcome client).1 = .error err)
      ∨ ¬ Displays setup outside bytes client →
    ((receiveMessage setup outside bytes).outcome client).2.contacts = client.contacts
      ∧ ((receiveMessage setup outside bytes).outcome client).2.file = client.file

/-- The entry that the relay answers when the sender has to be looked up, behind the key of
the envelope. -/
def answeredSender : Option (String × PublicKeyEntry) :=
  match openFrame setup bytes with
  | .ok (encrypted, chatMessage) =>
      if chatMessage.to = setup.name then
        (newEntry setup outside client chatMessage.from).map fun entry =>
          (encrypted.senderEncryptionPublicKey, entry)
      else
        none
  | .error _ => none

/-- The contact book can be saved with the entry. -/
def SavesEntry (entry : PublicKeyEntry) : Prop :=
  outside.write = .complete ∧ (setup.pretty.toVec (client.contacts.insert entry).toJson).isSome

/-- The entry is saved already, and the file is as a write of the book leaves it. -/
def HoldsEntry (entry : PublicKeyEntry) : Prop :=
  client.contacts.get entry.username = some entry
    ∧ ∀ json, setup.pretty.toVec client.contacts.toJson = some json →
      (outside.write.write json client.file).2 = client.file

end

section

variable {MessageKey : Type} {setup : Setup MessageKey} {outside : Outside} {bytes : Bytes}
    {client : Client}

/-! ### Looking up the sender -/

/-- An entry is added without an error just when the book can be saved with it. -/
theorem add_eq_ok (entry : PublicKeyEntry) :
  (client.contacts.add setup.pretty outside.write client.file entry).1 = .ok ()
    ↔ SavesEntry setup outside client entry
  := by
  rw [SavesEntry]
  cases hjson : setup.pretty.toVec (client.contacts.insert entry).toJson <;>
    cases outside.write <;> simp [ContactBook.add, ContactBook.save, hjson]

/-- An added entry changes neither the book nor its file just when it is held already. -/
theorem addEntry_same_iff (entry : PublicKeyEntry) :
  (client.addEntry setup outside entry).contacts = client.contacts
      ∧ (client.addEntry setup outside entry).file = client.file
    ↔ HoldsEntry setup outside client entry
  := by
  rw [HoldsEntry, Client.contacts_addEntry, ContactBook.insert_eq_self_iff]
  apply and_congr_right
  intro hget
  have hsame := (ContactBook.insert_eq_self_iff client.contacts entry).mpr hget
  rw [Client.addEntry, ContactBook.add, hsame]
  cases hjson : setup.pretty.toVec client.contacts.toJson <;> cases outside.write <;>
    simp [ContactBook.save, WriteOutcome.write, hjson]

/-- Without an answered entry nothing is changed. -/
theorem snd_findOrAddSender_of_none
    {username : String} (hnew : newEntry setup outside client username = none) :
  ((findOrAddSender setup outside username).outcome client).2 = client
  := by
  cases hget : client.contacts.get username with
  | some entry => rw [findOrAddSender_of_saved hget]
  | none =>
      rw [newEntry_of_unsaved hget, answeredEntry] at hnew
      rw [snd_findOrAddSender_of_unsaved hget]
      rcases hlook : (lookUpAndAdd setup outside username).outcome client with ⟨result, client'⟩
      cases looks hlook with
      | failed | notFound => rfl
      | unsaved hanswer | added hanswer =>
          rw [hanswer] at hnew
          cases hnew

/-- An answered entry is added, and it is returned when the book is saved with it. -/
theorem findOrAddSender_of_some
    {username : String} {entry : PublicKeyEntry}
    (hnew : newEntry setup outside client username = some entry) :
  ((findOrAddSender setup outside username).outcome client).1
      = ((client.contacts.add setup.pretty outside.write client.file entry).1.map fun _ => entry)
    ∧ ((findOrAddSender setup outside username).outcome client).2.contacts
      = (client.addEntry setup outside entry).contacts
    ∧ ((findOrAddSender setup outside username).outcome client).2.file
      = (client.addEntry setup outside entry).file
  := by
  have hget : client.contacts.get username = none := by
    cases hget : client.contacts.get username with
    | none => rfl
    | some saved =>
        rw [newEntry_of_saved hget] at hnew
        cases hnew
  rw [newEntry_of_unsaved hget, answeredEntry] at hnew
  split at hnew <;> cases hnew
  rename_i hanswer
  simp only [findOrAddSender, lookUpAndAdd, Program.outcome_bind, Program.outcome_get, hget,
    Program.outcome_ofExcept, hanswer, outcome_addEntry]
  cases (client.contacts.add setup.pretty outside.write client.file entry).1 with
  | error err => exact ⟨rfl, rfl, rfl⟩
  | ok => exact ⟨rfl, rfl, rfl⟩

/-! ### Receiving -/

/-- When no entry is answered for the sender, the call leaves the book and its file. -/
theorem same_of_answeredSender_eq_none
    (h : answeredSender setup outside bytes client = none) :
  ((receiveMessage setup outside bytes).outcome client).2.contacts = client.contacts
    ∧ ((receiveMessage setup outside bytes).outcome client).2.file = client.file
  := by
  have hnew : ∀ {encrypted chatMessage},
      openFrame setup bytes = .ok (encrypted, chatMessage) → chatMessage.to = setup.name →
      ((findOrAddSender setup outside chatMessage.from).outcome client).2 = client := by
    intro encrypted chatMessage hopen hto
    apply snd_findOrAddSender_of_none
    simpa only [answeredSender, hopen, hto, if_true, Option.map_eq_none_iff] using h
  rcases hreceive : (receiveMessage setup outside bytes).outcome client with ⟨result, client'⟩
  cases receives hreceive with
  | unopened | notAddressed => exact ⟨rfl, rfl⟩
  | unknownSender hopen hto hentry | keyChanged hopen hto hentry =>
      obtain rfl := (congrArg Prod.snd hentry).symm.trans (hnew hopen hto)
      exact ⟨rfl, rfl⟩
  | displayed hopen hto hentry =>
      obtain rfl := (congrArg Prod.snd hentry).symm.trans (hnew hopen hto)
      exact ⟨rfl, rfl⟩

/-- When an entry is answered for the sender, it is added; the message is displayed just when
the book is saved and the entry has the key of the envelope. -/
theorem receiveMessage_of_answeredSender
    {key : String} {entry : PublicKeyEntry}
    (h : answeredSender setup outside bytes client = some (key, entry)) :
  (((receiveMessage setup outside bytes).outcome client).2.contacts
      = (client.addEntry setup outside entry).contacts
    ∧ ((receiveMessage setup outside bytes).outcome client).2.file
      = (client.addEntry setup outside entry).file)
    ∧ ((∃ err, ((receiveMessage setup outside bytes).outcome client).1 = .error err)
        ∨ ¬ Displays setup outside bytes client
      ↔ ¬ (SavesEntry setup outside client entry ∧ entry.encryptionPublicKey = key))
  := by
  have hnew : ∀ {encrypted chatMessage},
      openFrame setup bytes = .ok (encrypted, chatMessage) → chatMessage.to = setup.name →
      newEntry setup outside client chatMessage.from = some entry
        ∧ encrypted.senderEncryptionPublicKey = key := by
    intro encrypted chatMessage hopen hto
    simp only [answeredSender, hopen, hto, if_true, Option.map_eq_some_iff, Prod.mk.injEq] at h
    obtain ⟨found, hnew, rfl, rfl⟩ := h
    exact ⟨hnew, rfl⟩
  rcases hreceive : (receiveMessage setup outside bytes).outcome client with ⟨result, client'⟩
  cases receives hreceive with
  | unopened hopen =>
      rw [answeredSender, hopen] at h
      cases h
  | notAddressed hopen hto =>
      simp only [answeredSender, hopen, if_neg hto] at h
      cases h
  | unknownSender hopen hto hentry =>
      obtain ⟨hresult, hbook⟩ := findOrAddSender_of_some (hnew hopen hto).1
      rw [hentry] at hresult hbook
      use hbook
      apply iff_of_true
      · exact Or.inl ⟨_, rfl⟩
      · rintro ⟨hsaves, -⟩
        rw [(add_eq_ok entry).mpr hsaves] at hresult
        cases hresult
  | keyChanged hopen hto hentry hkey =>
      obtain ⟨hresult, hbook⟩ := findOrAddSender_of_some (hnew hopen hto).1
      rw [hentry] at hresult hbook
      use hbook
      apply iff_of_true
      · exact Or.inl ⟨_, rfl⟩
      · rintro ⟨hsaves, hsame⟩
        rw [(add_eq_ok entry).mpr hsaves] at hresult
        cases hresult
        apply hkey (hsame.trans (hnew hopen hto).2.symm)
  | displayed hopen hto hentry hkey =>
      rename_i encrypted chatMessage _ client''
      obtain ⟨hresult, hbook⟩ := findOrAddSender_of_some (hnew hopen hto).1
      obtain ⟨texts, htexts⟩ := onlyPrints_findOrAddSender hentry
      rw [hentry] at hresult hbook
      use hbook
      have hdisplays : Displays setup outside bytes client := by
        use chatMessage.from, chatMessage.body
        rw [hreceive, Client.events_record, htexts, List.append_assoc, List.drop_left]
        apply List.mem_append_right _ (List.mem_singleton.mpr rfl)
      apply iff_of_false
      · rintro (⟨err, ⟨⟩⟩ | hnot)
        apply hnot hdisplays
      · rw [not_not]
        cases hadd : (client.contacts.add setup.pretty outside.write client.file entry).1 with
        | error err =>
            rw [hadd] at hresult
            cases hresult
        | ok =>
            rw [hadd] at hresult
            cases hresult
            exact ⟨(add_eq_ok entry).mp hadd, hkey.trans (hnew hopen hto).2⟩

/-- A call that is rejected leaves no trace in the contact book and its file, just when every
entry that is answered for the sender is held already, or is accepted: it has the key of the
envelope and the book is saved with it. -/
theorem traceless_iff (bytes : Bytes) (client : Client) :
  Traceless setup outside bytes client
    ↔ ∀ key entry, answeredSender setup outside bytes client = some (key, entry) →
      HoldsEntry setup outside client entry
        ∨ SavesEntry setup outside client entry ∧ entry.encryptionPublicKey = key
  := by
  rw [Traceless]
  cases hanswer : answeredSender setup outside bytes client with
  | none =>
      apply iff_of_true
      · intro _
        apply same_of_answeredSender_eq_none hanswer
      · rintro _ _ ⟨⟩
  | some answered =>
      obtain ⟨key, entry⟩ := answered
      obtain ⟨⟨hcontacts, hfile⟩, hrejected⟩ := receiveMessage_of_answeredSender hanswer
      rw [hrejected, hcontacts, hfile, addEntry_same_iff]
      constructor
      · rintro h _ _ ⟨⟩
        rw [or_comm]
        apply or_iff_not_imp_left.mpr h
      · intro h
        apply or_iff_not_imp_left.mp (or_comm.mp (h key entry rfl))

end

/-! ### A rejected message that changes the book -/

/-- The client of `alice`, with no contacts. -/
def strangerClient : Client :=
  ⟨⟨∅, "contacts/alice.json"⟩, none, []⟩

/-- A frame with a message in the name of `bob`, whose key is not the one that the relay has. -/
def forgedFrame : Bytes :=
  match encryptMessage aliceSetup.primitives .compact (.zero 24) "bob" "alice" "hi" (.zero 32)
    basePointText basePointText with
  | .ok encrypted => encrypted.toJson.compactBytes
  | .error _ => []

/-- The message is rejected, and `bob` is a contact after it. -/
theorem not_traceless :
  ¬ ∀ (setup : Setup (Key × Bytes)) (outside : Outside) (bytes : Bytes) (client : Client),
    Traceless setup outside bytes client
  := by
  intro htraceless
  have hanswer : answeredSender aliceSetup
      ⟨some substituteAnswer, .zero 24, .complete, true⟩ forgedFrame strangerClient
      = some (basePointText, substitute) := by
    decide +kernel
  obtain ⟨⟨hcontacts, -⟩, hrejected⟩ := receiveMessage_of_answeredSender hanswer
  have hsame := (htraceless aliceSetup _ forgedFrame strangerClient
    (hrejected.mpr fun h => absurd h.2 (by decide +kernel))).1
  rw [hcontacts, Client.contacts_addEntry, ContactBook.insert_eq_self_iff] at hsame
  apply absurd hsame
  decide +kernel

end Phantasma
