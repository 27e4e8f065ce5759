import Phantasma.Client.Turns
import Phantasma.Security.Authenticity

/-!
# Messages stay unread

The attacker carries every envelope of a client, and opens those whose keys it can derive.
What it reads in the envelopes of an honest user was sent in a call of `send_message` to a
key text that belongs to no other honest user (`ran_of_read`).  A contact that is saved with
the key of an honest user keeps that key as long as no lookup is answered with an entry of
its name, whatever else the relay answers; then nothing that is sent to the contact is ever
read (`unread_of_reaches`).
-/

namespace Phantasma

/-! ### What a call adds to the contact book -/

section

variable {MessageKey : Type} {setup : Setup MessageKey} {outside : Outside}

/-- The lookup of some name is answered with this entry. -/
def IsAnswer (serde : JsonCodec) (endpoints : ServerEndpoints) (outside : Outside)
    (entry : PublicKeyEntry) : Prop :=
  ∃ asked, lookupPublicKey serde endpoints outside.answer asked = .ok (some entry)

theorem learns_sendMessage (rest : String) (client : Client) :
  ∃ username, Learns setup outside username client
    ((sendMessage setup outside rest).outcome client).2
  := by
  rcases hparse : parseSend rest with _ | ⟨recipient, body⟩
  · use ""
    rw [sendMessage, hparse]
    apply Learns.refl
  · use recipient
    apply (acts_sendMessage hparse client).learns

theorem learns_receiveMessage (bytes : Bytes) (client : Client) :
  ∃ username, Learns setup outside username client
    ((receiveMessage setup outside bytes).outcome client).2
  := by
  have hacts := acts_receiveMessage setup outside bytes client
  cases hsender : openedSender setup bytes with
  | some sender =>
      rw [hsender] at hacts
      use sender, hacts.learns
  | none =>
      rw [hsender] at hacts
      use ""
      rw [hacts]
      apply Learns.refl

/-- A saved entry stays when no answer carries its name. -/
theorem Learns.get_of_saved
    {client client' : Client} {username name : String}
    (h : Learns setup outside username client client') {saved : PublicKeyEntry}
    (hget : client.contacts.get name = some saved)
    (hanswer : ∀ entry, IsAnswer setup.serde setup.endpoints outside entry →
      entry.username ≠ name) :
  client'.contacts.get name = some saved
  := by
  rcases h with ⟨hcontacts, -⟩ | ⟨entry, hlookup, hcontacts, -⟩
  · rw [hcontacts, hget]
  · rw [hcontacts, Client.contacts_addEntry,
      ContactBook.get_insert_of_ne _ (hanswer entry ⟨username, hlookup⟩), hget]

/-- A message to a saved contact is encrypted to the key that is saved. -/
theorem publicKey_of_sendMessage
    {rest recipient body publicKey : String} {encrypted : EncryptedChatMessage}
    {client : Client} {saved : PublicKeyEntry} (hget : client.contacts.get recipient = some saved)
    (hnew : .encrypted recipient body publicKey encrypted ∉ client.events)
    (h : .encrypted recipient body publicKey encrypted
      ∈ ((sendMessage setup outside rest).outcome client).2.events) :
  publicKey = saved.encryptionPublicKey
  := by
  obtain ⟨hparsed, -⟩ := encrypted_of_sendMessage hnew h
  rcases hsend : (sendMessage setup outside rest).outcome client with ⟨result, client'⟩
  rw [hsend] at h
  have hentry : (recipientEntry setup outside recipient).outcome client
      = (.ok (some saved), client) :=
    recipientEntry_of_saved hget
  cases sends hsend with
  | usage hparse =>
      rw [hparsed] at hparse
      cases hparse
  | lookupFailed hparse hfound | noKey hparse hfound =>
      rw [hparsed] at hparse
      cases hparse
      rw [hentry] at hfound
      cases hfound
  | unencrypted hparse hfound =>
      rw [hparsed] at hparse
      cases hparse
      rw [hentry] at hfound
      cases hfound
      apply absurd h hnew
  | unsent hparse hfound | sent hparse hfound =>
      rw [hparsed] at hparse
      cases hparse
      rw [hentry] at hfound
      cases hfound
      simp only [Client.events_record, List.mem_append, hnew, List.mem_singleton, reduceCtorEq,
        false_or, or_false] at h
      cases h
      rfl

end

/-! ### What the attacker reads -/

namespace World

open TransitionSystem

variable {User MessageKey : Type} {P : Primitives MessageKey} {serde : JsonCodec}

/-- The attacker reads `message` in an envelope of `A`: it can derive the key of the box, which
opens the box to this message. -/
def Read (users : Users User P serde) (w : World User MessageKey) (A : User)
    (message : PlaintextChatMessage) : Prop :=
  ∃ event box, (A, event) ∈ w.history ∧ users.box (A, event) = some box
    ∧ users.CanDerive box.key
    ∧ ∃ plaintext, P.decrypt box.key box.nonce box.associatedData box.ciphertext = some plaintext
      ∧ PlaintextChatMessage.fromWireBytes serde plaintext = .ok message

variable [DecidableEq User] [DecidableEq MessageKey] {users : Users User P serde}
    {w₀ w w' : World User MessageKey}

/-- What the attacker reads in an envelope of `A` is what a call of `send_message` has encrypted
in `A`'s name, to a key text of no other honest user. -/
theorem ran_of_read
    (hP : P.Symbolic) (hserde : serde.Inverts serde) (h₀ : w₀.Initial)
    (h : Reaches (step users) (feasible users) w₀ w) {A : User} {message : PlaintextChatMessage}
    (hread : Read users w A message) :
  ∃ publicKey encrypted,
    Ran users w₀ w A message.to message.body publicKey encrypted
      ∧ (A, .encrypted message.to message.body publicKey encrypted) ∈ w.history
      ∧ message.from = users.name A
      ∧ ∀ B, users.publicKey A ≠ users.publicKey B →
        decodeFixedKey publicKey "recipient public key" ≠ .ok (users.publicKey B)
  := by
  obtain ⟨event, box, hevent, hbox, hderive, hplaintext⟩ := hread
  obtain ⟨recipient, body, publicKey, encrypted, rfl, hsealed⟩ := Users.box_eq_some.mp hbox
  have hran := ran_of_reaches h₀ h hevent
  obtain ⟨_, _, _, _, _, _, _, _, _, hencrypt⟩ := id hran
  obtain ⟨senderKey, recipientKey, hsender, hrecipient, hseals, -⟩ :=
    seals_of_encryptMessage hencrypt hsealed
  obtain ⟨-, -, rfl⟩ := eq_of_seals_of_opens hP hserde hseals
    ⟨hseals.key, hseals.associatedData, hplaintext⟩
  use publicKey, encrypted, hran, hevent, rfl
  intro B hne hpublicKey
  obtain rfl := Except.ok.inj (hrecipient.symm.trans hpublicKey)
  apply hderive A B _ hne hseals.key

/-! ### A contact that is saved -/

/-- What comes from outside in a call of the client of a user. -/
def Action.outside : Action User MessageKey → Option (User × Outside)
  | .add A outside _ | .send A outside _ | .receive A outside _ => some (A, outside)
  | .forge _ => none

/-- The relay answers no lookup of `A` with an entry of this name. -/
def withholds (users : Users User P serde) (A : User) (name : String)
    (w : World User MessageKey) (a : Action User MessageKey) : Prop :=
  feasible users w a ∧ ∀ outside, a.outside = some (A, outside) →
    ∀ entry, IsAnswer serde (users.endpoints A) outside entry → entry.username ≠ name

/-- The client of `A` has saved this entry under its name, and encrypts to the key of the
entry. -/
structure Keeps (A : User) (name : String) (entry : PublicKeyEntry)
    (w : World User MessageKey) : Prop where
  saved : (w.client A).contacts.get name = some entry
  encrypted : ∀ body publicKey encrypted,
    (A, .encrypted name body publicKey encrypted) ∈ w.history →
      publicKey = entry.encryptionPublicKey

omit [DecidableEq MessageKey] in
/-- A call of some client, none of whose answers to `A` carries the name, keeps the entry. -/
theorem Keeps.moveTo
    {A B : User} {name : String} {entry : PublicKeyEntry} (h : w.Keeps A name entry)
    {client : Client} {primitives : Primitives MessageKey} {outside : Outside}
    (hlearns : ∃ username, Learns (users.setup primitives B) outside username (w.idle B) client)
    (hanswer : B = A → ∀ answer, IsAnswer serde (users.endpoints A) outside answer →
      answer.username ≠ name)
    (hevents : B = A → ∀ body publicKey encrypted,
      .encrypted name body publicKey encrypted ∈ client.events →
        publicKey = entry.encryptionPublicKey) :
  (w.moveTo B client).Keeps A name entry
  where
  saved := by
    by_cases hA : B = A
    · subst hA
      obtain ⟨username, hlearns⟩ := hlearns
      rw [client_moveTo]
      apply hlearns.get_of_saved h.saved (hanswer rfl)
    · have hsame : (w.moveTo B client).client A = w.client A :=
        Function.update_of_ne (Ne.symm hA) ..
      rw [hsame, h.saved]
  encrypted body publicKey encrypted hmem := by
    rcases mem_history_moveTo.mp hmem with hold | ⟨hA, hnew⟩
    · apply h.encrypted body publicKey encrypted hold
    · apply hevents hA body publicKey encrypted hnew

theorem Keeps.step
    {A : User} {name : String} {entry : PublicKeyEntry} (h : w.Keeps A name entry)
    {a : Action User MessageKey} (hwithholds : withholds users A name w a)
    (hstep : step users w a = some w') :
  w'.Keeps A name entry
  := by
  cases a with
  | add B outside username =>
      cases hstep
      apply h.moveTo ⟨username, learns_addContact username (w.idle B)⟩
      · rintro rfl
        apply hwithholds.2 outside rfl
      · rintro rfl body publicKey encrypted hmem
        cases (onlyPrints_addContact rfl).mem hmem (by simp)
  | send B outside rest =>
      cases hstep
      apply h.moveTo (learns_sendMessage rest (w.idle B))
      · rintro rfl
        apply hwithholds.2 outside rfl
      · rintro rfl body publicKey encrypted hmem
        have hidle : .encrypted name body publicKey encrypted ∉ (w.idle B).events :=
          List.not_mem_nil
        apply publicKey_of_sendMessage _ hidle hmem
        apply h.saved
  | receive B outside bytes =>
      cases hstep
      apply h.moveTo (learns_receiveMessage bytes (w.idle B))
      · rintro rfl
        apply hwithholds.2 outside rfl
      · rintro rfl body publicKey encrypted hmem
        cases encrypted_mem_of_receiveMessage hmem
  | forge box =>
      cases hstep
      exact ⟨h.saved, h.encrypted⟩

/-- When the client of `A` has saved a contact with the key of another honest user, and no
lookup of `A` is answered with an entry of the contact's name, the attacker reads nothing
that `A` sends to the contact. -/
theorem unread_of_reaches
    (hP : P.Symbolic) (hserde : serde.Inverts serde) (h₀ : w₀.Initial) {A B : User}
    {name : String} {entry : PublicKeyEntry} (hsaved : (w₀.client A).contacts.get name = some entry)
    (hkey : decodeFixedKey entry.encryptionPublicKey "recipient public key"
      = .ok (users.publicKey B))
    (hne : users.publicKey A ≠ users.publicKey B)
    (h : Reaches (step users) (withholds users A name) w₀ w) :
  ∀ message, Read users w A message → message.to ≠ name
  := by
  rintro message hread rfl
  have hkeeps : w.Keeps A message.to entry := by
    apply h.invariant (I := Keeps A message.to entry)
    · intro t a t' hwithholds hstep ht
      apply ht.step hwithholds hstep
    · use hsaved
      rw [h₀.history]
      rintro _ _ _ ⟨⟩
  have hfeasible : Reaches (step users) (feasible users) w₀ w := by
    apply h.mono
    intro t a hwithholds
    apply hwithholds.1
  obtain ⟨publicKey, encrypted, -, hevent, -, hother⟩ := ran_of_read hP hserde h₀ hfeasible hread
  apply hother B hne
  rw [hkeeps.encrypted _ _ _ hevent, hkey]

/-! ### A message to a friend and a message to the attacker -/

/-- The attacker's key. -/
def malloryKey : Key :=
  (samplePrimitives fun _ => true).x25519Base ⟨0 :: 5 :: List.replicate 30 0, rfl⟩

/-- `alice` has saved `bob`, and the attacker as `mallory`. -/
def deceived : World Friend (Key × Bytes) where
  client _ :=
    ⟨(ContactBook.insert ⟨∅, "contacts"⟩ Friend.bob.entry).insert
      ⟨"mallory", encodeKey malloryKey, encodeKey malloryKey⟩, none, []⟩
  forged := []
  history := []

/-- `alice` sends a message to each of her contacts. -/
def confidences : List (Action Friend (Key × Bytes)) :=
  [.send .alice quiet "bob hello bob", .send .alice quiet "mallory hello mallory"]

/-- The key of the attacker with `alice` is not one of two friends. -/
theorem canDerive_mallory (info : Bytes) :
  friends.CanDerive
    ((samplePrimitives fun _ => true).x25519 Friend.alice.secretKey malloryKey, info)
  := by
  have hother : ∀ A B : Friend, (samplePrimitives fun _ => true).x25519 A.secretKey B.publicKey
      ≠ (samplePrimitives fun _ => true).x25519 Friend.alice.secretKey malloryKey := by
    rintro (_ | _) (_ | _) <;> decide +kernel
  intro A B info' _ heq
  apply hother A B (congrArg Prod.fst (Option.some.inj heq))

/-- Nothing is answered in a quiet call. -/
theorem quiet_answers
    {name rest : String} (outside : Outside)
    (h : (Action.send Friend.alice quiet rest : Action Friend (Key × Bytes)).outside
      = some (.alice, outside)) (entry : PublicKeyEntry)
    (hanswer : IsAnswer .compact (friends.endpoints .alice) outside entry) :
  entry.username ≠ name
  := by
  cases h
  obtain ⟨asked, hlookup⟩ := hanswer
  rw [lookupPublicKey] at hlookup
  split at hlookup <;> cases hlookup

/-- The message that a box opens to. -/
def opened (box : Sealed (Key × Bytes)) : Option PlaintextChatMessage := do
  let plaintext ← (samplePrimitives fun _ => true).decrypt box.key box.nonce box.associatedData
    box.ciphertext
  (PlaintextChatMessage.fromWireBytes .compact plaintext).toOption

/-- The attacker reads what `alice` has sent to `mallory`, and not what she has sent to `bob`. -/
theorem unread_of_reaches_sample :
  ∃ w, run (step friends) deceived confidences = some w ∧ (w.boxes friends).length = 2
    ∧ Read friends w .alice ⟨"alice", "mallory", "hello mallory"⟩
    ∧ ¬ ∃ message, Read friends w .alice message ∧ message.to = "bob"
  := by
  have hboxes : ∀ w ∈ run (step friends) deceived confidences, (w.boxes friends).length = 2 := by
    decide +kernel
  have hread : ∀ w ∈ run (step friends) deceived confidences, ∃ event ∈ w.history,
      event.1 = .alice ∧ ((friends.box event).bind opened)
        = some ⟨"alice", "mallory", "hello mallory"⟩
      ∧ ((friends.box event).map fun box => box.key.1)
        = some ((samplePrimitives fun _ => true).x25519 Friend.alice.secretKey malloryKey) := by
    decide +kernel
  obtain ⟨w, hw⟩ : ∃ w, run (step friends) deceived confidences = some w := ⟨_, rfl⟩
  use w, hw, hboxes w hw
  constructor
  · obtain ⟨⟨A, event⟩, hevent, hA, hopened, hkey⟩ := hread w hw
    cases hA
    obtain ⟨box, hbox, hopened⟩ := Option.bind_eq_some_iff.mp hopened
    rw [opened] at hopened
    obtain ⟨plaintext, hplaintext, hmessage⟩ := Option.bind_eq_some_iff.mp hopened
    rw [hbox, Option.map_some, Option.some.injEq] at hkey
    use event, box, hevent, hbox
    constructor
    · have hderive := canDerive_mallory box.key.2
      rw [← hkey] at hderive
      apply hderive
    · use plaintext, hplaintext, toOption_eq_some.mp hmessage
  · rintro ⟨message, hread, hto⟩
    have hreaches : Reaches (step friends) (withholds friends .alice "bob") deceived w := by
      apply reaches_of_run _ hw
      intro a ha t
      simp only [confidences, List.mem_cons, List.not_mem_nil, or_false] at ha
      rcases ha with rfl | rfl
      · use trivial
        apply quiet_answers
      · use trivial
        apply quiet_answers
    have hsaved : (deceived.client .alice).contacts.get "bob" = some Friend.bob.entry := by
      decide +kernel
    have hkey : decodeFixedKey Friend.bob.entry.encryptionPublicKey "recipient public key"
        = .ok (friends.publicKey .bob) := by
      rw [decodeFixedKey_eq_ok]
      decide +kernel
    have hne : friends.publicKey .alice ≠ friends.publicKey .bob := by
      decide +kernel
    apply unread_of_reaches (symbolic_samplePrimitives _) JsonCodec.inverts_compact ⟨rfl, rfl⟩
      hsaved hkey hne hreaches message hread hto

end World

end Phantasma
