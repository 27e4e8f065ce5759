import Phantasma.Client.Sessions
import Phantasma.Client.Stability
import Phantasma.Deployment.Agreement

/-!
# Messages between the users

Whatever a user's client has given to its socket, the relay accepts (`checkPayload_of_wrote`),
and the client of the user it is for displays: now or in any later state, whatever has failed in
between, and whether the sender is a saved contact or has to be looked up first
(`displayed_takeTurn`).  No receiver is told that a sender's key does not match, since the keys of
the users agree.
-/

namespace Phantasma.Deployment

open TransitionSystem

variable {User MessageKey : Type} {d : Deployment User MessageKey} {s s' : State User} {u v : User}

/-! ### What was written -/

/-- A message to `recipient` was encrypted by a user whose keys are in the directory, under a
key that is the recipient's, if the recipient is a user. -/
structure Wrote (d : Deployment User MessageKey) (s : State User) (u : User)
    (recipient body publicKey : String) (encrypted : EncryptedChatMessage) : Prop where
  sender : ∃ identity nonce, d.InSession s u identity
    ∧ encryptMessage d.primitives d.serde nonce (d.name u) recipient body
      identity.encryptionSecretKey identity.encryptionPublicKey publicKey = .ok encrypted
  recipient : ∀ v, d.name v = recipient → ∃ entry, d.Sent s v entry
    ∧ entry.encryptionPublicKey = publicKey
  registered : (s.directory.lookupPublicKey (d.name u)).isSome

/-- What the clients have encrypted and given to their sockets. -/
structure Written (d : Deployment User MessageKey) (s : State User) : Prop where
  encrypted : ∀ u recipient body publicKey encrypted,
    .encrypted recipient body publicKey encrypted ∈ (s.terminals u).client.events →
      d.Wrote s u recipient body publicKey encrypted
  frame : ∀ u bytes, .frame bytes ∈ (s.terminals u).client.events →
    ∃ recipient body publicKey encrypted,
      .encrypted recipient body publicKey encrypted ∈ (s.terminals u).client.events
        ∧ RoutedEncryptedMessage.toWireBytes d.serde ⟨d.name u, recipient, encrypted⟩
          = .ok bytes

theorem Wrote.of_changes
    {recipient body publicKey : String} {encrypted : EncryptedChatMessage}
    (h : d.Wrote s u recipient body publicKey encrypted) (hchanges : d.Changes s s') :
  d.Wrote s' u recipient body publicKey encrypted
  where
  sender := by
    obtain ⟨identity, nonce, hsession, hencrypt⟩ := h.sender
    exact ⟨identity, nonce, hsession.of_changes hchanges, hencrypt⟩
  recipient v hname := by
    obtain ⟨entry, hsent, hkey⟩ := h.recipient v hname
    exact ⟨entry, hsent.of_changes hchanges, hkey⟩
  registered := hchanges.registered u h.registered

/-- A step preserves the invariant. -/
theorem Written.of_changes
    (h : d.Written s) (hs : d.Agrees s) (hchanges : d.Changes s s') :
  d.Written s'
  where
  encrypted u recipient body publicKey encrypted hmem := by
    rcases (hchanges.terminals u).encrypted _ _ _ _ hmem with
      hold | ⟨identity, nonce, entry, hrunning, hknows, hkey, hencrypt⟩
    · apply (h.encrypted u _ _ _ _ hold).of_changes hchanges
    · have hwrote : d.Wrote s u recipient body publicKey encrypted := by
        constructor
        · have hsession := hs.session u identity (by rw [hrunning]; rfl)
          exact ⟨identity, nonce, hsession, hencrypt⟩
        · rintro v rfl
          exact ⟨entry, hs.knows v u entry hknows, hkey⟩
        · apply hs.running u identity hrunning
      apply hwrote.of_changes hchanges
  frame u bytes hmem := by
    rcases (hchanges.terminals u).frame bytes hmem with hold | hnew
    · obtain ⟨recipient, body, publicKey, encrypted, hencrypted, hbytes⟩ := h.frame u bytes hold
      exact ⟨recipient, body, publicKey, encrypted,
        (hchanges.terminals u).before.subset hencrypted, hbytes⟩
    · apply hnew

theorem written_of_initial (hs : d.Initial s) :
  d.Written s
  where
  encrypted u _ _ _ _ hmem := by
    rw [hs.events] at hmem
    cases hmem
  frame u _ hmem := by
    rw [hs.events] at hmem
    cases hmem

/-! ### Opening what was written -/

/-- What is sealed for a pair of keys is opened with the other secret key of the pair. -/
theorem opens_of_seals
    {P : Primitives MessageKey} (hP : P.Agreeing) {serde : JsonCodec}
    (hserde : serde.Inverts serde) {a b : Key} {message : PlaintextChatMessage}
    {box : Sealed MessageKey}
    (h : Seals P serde (P.x25519 a (P.x25519Base b)) (P.x25519Base a) (P.x25519Base b) message
      box) :
  Opens P serde (P.x25519 b (P.x25519Base a)) (P.x25519Base a) (P.x25519Base b) box message
  := by
  obtain ⟨hkey, hdata, plaintext, hplaintext, hencrypt⟩ := h
  rw [hP.x25519_comm] at hkey
  obtain ⟨ciphertext, hencrypt', hdecrypt⟩ :=
    hP.encrypt box.key box.nonce box.associatedData plaintext
  obtain rfl := Option.some.inj (hencrypt'.symm.trans hencrypt)
  obtain ⟨bytes, hwrite, hread⟩ := fromWire_toWire hserde message.plain_toJson
    (PlaintextChatMessage.ofJson_toJson message)
  obtain rfl := Except.ok.inj (hwrite.symm.trans hplaintext)
  exact ⟨hkey, hdata, bytes, hdecrypt, hread⟩

/-- The two encryption keys of an identity in session are a pair. -/
theorem decode_encryptionPublicKey
    {identity : LoadedIdentity} (h : d.InSession s u identity) :
  Base64.decode identity.encryptionPublicKey
    = some (d.primitives.x25519Base identity.encryptionSecretKey).bytes
  := by
  obtain ⟨stored, hholds, hisOf⟩ := h.stored
  obtain ⟨key, hsecret, hpublic⟩ := exists_secretKey hholds
  have hkey : identity.encryptionSecretKey = key := by
    apply FixedBytes.ext_bytes
    apply Option.some.inj (hisOf.encryptionSecretKey.symm.trans hsecret)
  rw [hisOf.encryptionPublicKey, hpublic, hkey, d.x25519Base_store]
  apply Base64.decode_encode

/-- The entry of a session is the one that was sent for its user. -/
theorem entry_of_inSession
    (hs : d.Agrees s) {identity : LoadedIdentity} (h : d.InSession s u identity)
    {entry : PublicKeyEntry} (hsent : d.Sent s u entry) :
  entry.encryptionPublicKey = identity.encryptionPublicKey
  := by
  rw [sent_unique hs hsent ⟨_, h.sent, rfl, rfl⟩]
  rfl

/-- A message to a user is opened by that user's client. -/
theorem openFrame_of_wrote
    (hs : d.Agrees s) {identity : LoadedIdentity} (hsession : d.InSession s v identity)
    {body publicKey : String} {encrypted : EncryptedChatMessage}
    (hwrote : d.Wrote s u (d.name v) body publicKey encrypted) {payload : Bytes}
    (hpayload : d.serde.fromSlice payload = some encrypted.toJson) :
  openFrame (d.setup v identity) payload = .ok (encrypted, ⟨d.name u, d.name v, body⟩)
    ∧ ∀ entry, d.Sent s u entry →
      entry.encryptionPublicKey = encrypted.senderEncryptionPublicKey
  := by
  obtain ⟨identity', nonce, hsession', hencrypt⟩ := hwrote.sender
  obtain ⟨entry, hsent, rfl⟩ := hwrote.recipient v rfl
  rw [entry_of_inSession hs hsession hsent] at hencrypt
  obtain ⟨senderKey, recipientKey, box, hsender, hrecipient, hseals, -, rfl⟩ :=
    encryptMessage_eq_ok.mp hencrypt
  rw [decodeFixedKey_eq_ok_iff, decode_encryptionPublicKey hsession', Option.some.injEq] at hsender
  rw [decodeFixedKey_eq_ok_iff, decode_encryptionPublicKey hsession, Option.some.injEq]
    at hrecipient
  obtain rfl := FixedBytes.ext_bytes hsender
  obtain rfl := FixedBytes.ext_bytes hrecipient
  constructor
  · apply openFrame_of_opens rfl (decode_encryptionPublicKey hsession')
      (decode_encryptionPublicKey hsession) (opens_of_seals d.agreeing d.inverts hseals) hpayload
  · intro entry hsent
    rw [entry_of_inSession hs hsession' hsent]
    rfl

/-! ### Displaying what was written -/

/-- An entry that is answered is added, if the contact book can be written. -/
theorem exists_lookUpAndAdd
    (identity : LoadedIdentity) (client : Client) {username : String} {entry : PublicKeyEntry}
    {outside : Outside} (hwrite : outside.write = .complete)
    (hanswer : lookupPublicKey d.serde (d.endpoints v) outside.answer username
      = .ok (some entry)) :
  ∃ client', (lookUpAndAdd (d.setup v identity) outside username).outcome client
    = (.ok (some entry), client')
  := by
  have hadd : (client.contacts.add (d.setup v identity).pretty outside.write client.file
      entry).1 = .ok () := by
    rw [hwrite]
    apply (ContactBook.add_complete (d.writesFiles v) _ _ _).1
  have hanswer : lookupPublicKey (d.setup v identity).serde (d.setup v identity).endpoints
      outside.answer username = .ok (some entry) := hanswer
  simp only [lookUpAndAdd, Program.outcome_bind, Program.outcome_ofExcept, hanswer,
    outcome_addEntry, hadd, outcome_println, Program.outcome_pure]
  exact ⟨_, rfl⟩

/-- The entry of a sender is found: it is the one of the saved contact, or the one that is
looked up, if the answer arrives and the contact book can be written. -/
theorem exists_findOrAddSender
    (identity : LoadedIdentity) {client : Client} {username : String} {entry : PublicKeyEntry}
    {outside : Outside} (hwrite : outside.write = .complete)
    (hget : client.contacts.get username = none →
      lookupPublicKey d.serde (d.endpoints v) outside.answer username = .ok (some entry)) :
  ∃ client' found, (findOrAddSender (d.setup v identity) outside username).outcome client
      = (.ok found, client')
    ∧ (client.contacts.get username = some found ∨ found = entry)
  := by
  cases hsaved : client.contacts.get username with
  | some found =>
      use client, found, findOrAddSender_of_saved hsaved
      apply Or.inl rfl
  | none =>
      obtain ⟨client', hlook⟩ := exists_lookUpAndAdd identity client hwrite (hget hsaved)
      simp only [findOrAddSender, Program.outcome_bind, Program.outcome_get, hsaved, hlook,
        Program.outcome_pure]
      exact ⟨_, _, rfl, Or.inr rfl⟩

/-- A payload that opens as a message to the user is displayed in a turn, when the entry that
is found for the sender has the key of the envelope. -/
theorem displayed_turn
    {identity : LoadedIdentity} (client : Client) {sender body : String} {payload : Bytes}
    {encrypted : EncryptedChatMessage} {entry : PublicKeyEntry} {outside : Outside}
    (hopen : openFrame (d.setup v identity) payload
      = .ok (encrypted, ⟨sender, d.name v, body⟩))
    (hwrite : outside.write = .complete)
    (hget : client.contacts.get sender = none →
      lookupPublicKey d.serde (d.endpoints v) outside.answer sender = .ok (some entry))
    (hkey : ∀ found, client.contacts.get sender = some found ∨ found = entry →
      found.encryptionPublicKey = encrypted.senderEncryptionPublicKey) :
  ∃ client', (turn (d.setup v identity) d.library (.binary payload outside)).outcome client
      = (.ok true, client')
    ∧ client'.displayed = client.displayed ++ [(sender, body)]
  := by
  obtain ⟨client', found, hfind, hfound⟩ := exists_findOrAddSender identity hwrite hget
  have hreceive : (receiveMessage (d.setup v identity) outside payload).outcome client
      = (.ok (), client'.record (.message sender body)) := by
    have hto : d.name v = (d.setup v identity).name := rfl
    rw [receiveMessage, Program.outcome_bind, Program.outcome_ofExcept, hopen]
    simp only [hto, ne_eq, not_true_eq_false, if_false]
    rw [Program.outcome_bind, hfind]
    simp only [hkey found hfound, not_true_eq_false, if_false, outcome_record]
  use client'.record (.message sender body)
  constructor
  · rw [turn, Program.outcome_bind, outcome_reporting, hreceive]
    rfl
  · rw [displayed_record, (onlyPrints_findOrAddSender hfind).displayed_eq]
    rfl

/-- The relay accepts the frame of a message that a user's client has written to a user. -/
theorem checkPayload_of_wrote
    (hs : d.Agrees s) {body publicKey : String} {encrypted : EncryptedChatMessage} {frame : Bytes}
    (hwrote : d.Wrote s u (d.name v) body publicKey encrypted)
    (hframe : RoutedEncryptedMessage.toWireBytes d.serde ⟨d.name u, d.name v, encrypted⟩
      = .ok frame) :
  ∃ payload, checkPayload d.serde (d.name u) frame = .ok (.accepted (d.name v) payload)
    ∧ d.serde.fromSlice payload = some encrypted.toJson
  := by
  obtain ⟨entry, ⟨registration, hmem, hname, -⟩, -⟩ := hwrote.recipient v rfl
  obtain ⟨w, identity, rfl, hsession⟩ := hs.sent registration hmem
  obtain rfl := d.name_injective hname
  obtain ⟨frame', hwrite, hread⟩ := fromWire_toWire d.inverts
    (RoutedEncryptedMessage.plain_toJson ⟨d.name u, d.name w, encrypted⟩)
    (RoutedEncryptedMessage.ofJson_toJson _)
  obtain rfl := Except.ok.inj (hwrite.symm.trans hframe)
  obtain ⟨payload, hencode, hdecode⟩ := d.inverts _ encrypted.plain_toJson
  use payload
  constructor
  · apply checkPayload_accepted.mpr
    exact ⟨_, hread, toWire_eq_ok.mpr hencode, rfl, rfl, hsession.valid⟩
  · apply hdecode

/-- The name of the user is one that a client can ask the relay for: at the end of a URL, `.` and
`..` stand for no name. -/
def CanBeLookedUp (d : Deployment User MessageKey) (u : User) : Prop :=
  d.name u ≠ "." ∧ d.name u ≠ ".."

/-- The lookup of a user in the directory is answered with the entry, unless the name cannot be
looked up. -/
theorem lookup_of_registered
    {identity : LoadedIdentity} (hsession : d.InSession s u identity) {directory : Directory}
    {entry : PublicKeyEntry} (hentry : directory.lookupPublicKey (d.name u) = some entry)
    (hlookup : d.CanBeLookedUp u) (v : User) :
  lookupPublicKey d.serde (d.endpoints v) (d.lookup directory v true false (d.name u)) (d.name u)
    = .ok (some entry)
  := by
  rw [← hentry]
  apply clientLookup_eq d.inverts (d.address v).scheme_eq (d.address v).isAuthority
    (d.address v).endpoints_eq (d.address v).isRelay hsession.valid
  exact not_or.mpr hlookup

/-- A payload that the relay has made of a message to a user is displayed by that user's
client, in a turn in which the sender can be looked up. -/
theorem displayed_takeTurn
    [DecidableEq User] (hs : d.Agrees s) {identity : LoadedIdentity}
    (hrunning : (s.terminals v).progress = .running identity) {body publicKey : String}
    {encrypted : EncryptedChatMessage}
    (hwrote : d.Wrote s u (d.name v) body publicKey encrypted) {payload : Bytes}
    (hpayload : d.serde.fromSlice payload = some encrypted.toJson)
    (hlookup : (s.terminals v).client.contacts.get (d.name u) = none → d.CanBeLookedUp u)
    {outside : Outside} (hwrite : outside.write = .complete) :
  ((d.takeTurn s v identity (.binary payload outside) true false).terminals v).progress
      = .running identity
    ∧ ((d.takeTurn s v identity (.binary payload outside) true false).terminals
        v).client.displayed
      = (s.terminals v).client.displayed ++ [(d.name u, body)]
  := by
  obtain ⟨hopen, hkeys⟩ :=
    openFrame_of_wrote hs (hs.session v identity (by rw [hrunning]; rfl)) hwrote hpayload
  have hsender : openedSender (d.setup v identity) payload = some (d.name u) := by
    rw [openedSender, hopen]
    apply if_pos rfl
  obtain ⟨entry, hentry⟩ := Option.isSome_iff_exists.mp hwrote.registered
  have hanswer : (s.terminals v).client.contacts.get (d.name u) = none →
      lookupPublicKey d.serde (d.endpoints v)
        (d.lookup s.directory v true false (d.name u)) (d.name u) = .ok (some entry) := by
    intro hunsaved
    obtain ⟨_, _, hsession, -⟩ := hwrote.sender
    apply lookup_of_registered hsession hentry (hlookup hunsaved)
  have hkey : ∀ found, (s.terminals v).client.contacts.get (d.name u) = some found
        ∨ found = entry → found.encryptionPublicKey = encrypted.senderEncryptionPublicKey := by
    rintro found (hsaved | rfl)
    · apply hkeys found (hs.knows u v found (.memory hsaved))
    · apply hkeys found (hs.knows u v found (.directory hentry))
  have hanswered : ({ outside with answer := d.lookup s.directory v true false (d.name u) } :
      Outside).write = .complete := hwrite
  obtain ⟨client, hturn, hdisplayed⟩ :=
    displayed_turn (s.terminals v).client hopen hanswered hanswer hkey
  rw [takeTurn, Input.answered, hsender, Option.bind_some, hturn, terminals_setTerminal_self]
  exact ⟨rfl, hdisplayed⟩

/-! ### In every run -/

/-- What holds of a message that was written holds in every later state. -/
theorem wrote_of_reaches
    [DecidableEq User] {recipient body publicKey : String} {encrypted : EncryptedChatMessage}
    (hs : d.Agrees s) (hwrote : d.Wrote s u recipient body publicKey encrypted)
    (h : Reaches d.step d.guard s s') :
  d.Wrote s' u recipient body publicKey encrypted
  := by
  have hboth : d.Agrees s' ∧ d.Wrote s' u recipient body publicKey encrypted := by
    apply h.invariant (I := fun s => d.Agrees s ∧ d.Wrote s u recipient body publicKey encrypted)
      _ ⟨hs, hwrote⟩
    rintro s action s' hguard hstep ⟨hs, hwrote⟩
    have hchanges := changes_of_step hs hguard hstep
    exact ⟨hs.of_changes hchanges, hwrote.of_changes hchanges⟩
  apply hboth.2

theorem written_of_reaches
    [DecidableEq User] (hs : d.Agrees s) (hwritten : d.Written s)
    (h : Reaches d.step d.guard s s') :
  d.Written s'
  := by
  have hboth : d.Agrees s' ∧ d.Written s' := by
    apply h.invariant (I := fun s => d.Agrees s ∧ d.Written s) _ ⟨hs, hwritten⟩
    rintro s action s' hguard hstep ⟨hs, hwritten⟩
    have hchanges := changes_of_step hs hguard hstep
    exact ⟨hs.of_changes hchanges, hwritten.of_changes hs hchanges⟩
  apply hboth.2

end Phantasma.Deployment
