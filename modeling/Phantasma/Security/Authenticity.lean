import Phantasma.Client.SmallOrder
import Phantasma.Security.World

/-!
# Displayed messages are authentic

When the client of an honest user displays a message of a contact with the key of another
honest user, that user has sent it.  The frame opens because somebody sealed its box; the
key of the box belongs to the pair of the two users in this order, so it was the
contact's client that sealed the box, and the plaintext is what it encrypted
(`authentic_of_reaches`).

The proof rests on two facts about every run: the attacker's boxes have keys that it can
derive (`canDerive_of_reaches`), and every envelope a client has encrypted comes from
a call of `send_message` with that recipient and body (`ran_of_reaches`).
-/

namespace Phantasma.World

open TransitionSystem

variable {MessageKey : Type} {P : Primitives MessageKey} {serde : JsonCodec}

/-! ### Opened boxes -/

/-- A box that is sealed for one pair of keys and opened for another one has the keys and
the message of the first. -/
theorem eq_of_seals_of_opens
    (hP : P.Symbolic) (hserde : serde.Inverts serde)
    {sharedSecret sharedSecret' senderKey senderKey' recipientKey recipientKey' : Key}
    {box : Sealed MessageKey} {message message' : PlaintextChatMessage}
    (hseals : Seals P serde sharedSecret senderKey recipientKey message box)
    (hopens : Opens P serde sharedSecret' senderKey' recipientKey' box message') :
  senderKey' = senderKey ∧ recipientKey' = recipientKey ∧ message' = message
  := by
  obtain ⟨-, hinfo⟩ := hP.hkdf_injective hopens.key hseals.key
  obtain ⟨hsender, hrecipient⟩ := associatedData_injective hinfo
  use hsender, hrecipient
  obtain ⟨plaintext, hplaintext, hciphertext⟩ := hseals.ciphertext
  obtain ⟨plaintext', hplaintext', hmessage'⟩ := hopens.plaintext
  rw [hP.decrypt_encrypt hciphertext] at hplaintext'
  obtain rfl := Option.some.inj hplaintext'
  obtain ⟨bytes, hwrite, hread⟩ := fromWire_toWire hserde
    (PlaintextChatMessage.plain_toJson message) (PlaintextChatMessage.ofJson_toJson message)
  have hbytes : plaintext = bytes := Except.ok.inj (hplaintext.symm.trans hwrite)
  rw [hbytes] at hmessage'
  apply Except.ok.inj (hmessage'.symm.trans hread)

variable [DecidableEq MessageKey]

/-- What a client opens, somebody has sealed. -/
theorem mem_of_opens_opening
    {boxes : List (Sealed MessageKey)} {sharedSecret senderKey recipientKey : Key}
    {box : Sealed MessageKey} {message : PlaintextChatMessage}
    (h : Opens (P.opening boxes) serde sharedSecret senderKey recipientKey box message) :
  box ∈ boxes ∧ Opens P serde sharedSecret senderKey recipientKey box message
  := by
  obtain ⟨hkey, hdata, plaintext, hplaintext, hmessage⟩ := h
  obtain ⟨hmem, hplaintext⟩ := Option.ite_none_right_eq_some.mp hplaintext
  exact ⟨hmem, hkey, hdata, plaintext, hplaintext, hmessage⟩

/-! ### The two facts about every run -/

variable {User : Type} [DecidableEq User] {users : Users User P serde}
    {w₀ w w' : World User MessageKey}

/-- `Ran users w₀ w A recipient body publicKey encrypted`: on the way from `w₀` to `w` the
client of `A` was given a command to send `body` to `recipient`, and encrypted it to
`publicKey` as `encrypted`. -/
def Ran (users : Users User P serde) (w₀ w : World User MessageKey) (A : User)
    (recipient body publicKey : String) (encrypted : EncryptedChatMessage) : Prop :=
  ∃ w₁ w₂ outside rest,
    Reaches (step users) (feasible users) w₀ w₁
      ∧ step users w₁ (.send A outside rest) = some w₂
      ∧ Reaches (step users) (feasible users) w₂ w
      ∧ parseSend rest = some (recipient, body)
      ∧ .encrypted recipient body publicKey encrypted ∈ (w₂.client A).events
      ∧ encryptMessage P serde outside.nonce (users.name A) recipient body (users.secretKey A)
        (users.identity A).encryptionPublicKey publicKey = .ok encrypted

theorem Ran.moves
    {A : User} {recipient body publicKey : String} {encrypted : EncryptedChatMessage}
    (h : Ran users w₀ w A recipient body publicKey encrypted)
    (hmoves : Moves (step users) (feasible users) w w') :
  Ran users w₀ w' A recipient body publicKey encrypted
  := by
  obtain ⟨w₁, w₂, outside, rest, hbefore, hsend, hafter, hran⟩ := h
  use w₁, w₂, outside, rest, hbefore, hsend
  constructor
  · apply Relation.ReflTransGen.tail hafter hmoves
  · apply hran

/-- The attacker's boxes have keys that it can derive. -/
theorem canDerive_of_reaches
    (h₀ : w₀.Initial) (h : Reaches (step users) (feasible users) w₀ w) :
  ∀ box ∈ w.forged, users.CanDerive box.key
  := by
  refine Reaches.invariant (I := fun w => ∀ box ∈ w.forged, users.CanDerive box.key) ?_ h ?_
  · intro w a w' hfeasible hstep hw
    cases a with
    | forge box =>
        cases hstep
        intro box' hbox'
        rcases List.mem_cons.mp hbox' with rfl | hold
        · apply hfeasible
        · apply hw box' hold
    | _ =>
        cases hstep
        apply hw
  · rw [h₀.forged]
    simp

/-- An envelope in the history comes from a call of `send_message`. -/
theorem ran_of_reaches
    (h₀ : w₀.Initial) (h : Reaches (step users) (feasible users) w₀ w)
    {A : User} {recipient body publicKey : String} {encrypted : EncryptedChatMessage}
    (hevent : (A, .encrypted recipient body publicKey encrypted) ∈ w.history) :
  Ran users w₀ w A recipient body publicKey encrypted
  := by
  induction h with
  | refl =>
      rw [h₀.history] at hevent
      cases hevent
  | @tail w w' hreach hmoves ih =>
      have hmoves' := hmoves
      obtain ⟨a, -, hstep⟩ := hmoves'
      cases a with
      | forge box =>
          cases hstep
          apply (ih hevent).moves hmoves
      | add B outside username =>
          cases hstep
          rcases mem_history_moveTo.mp hevent with hold | ⟨rfl, hnew⟩
          · apply (ih hold).moves hmoves
          · cases (onlyPrints_addContact rfl).mem hnew (by simp)
      | receive B outside bytes =>
          cases hstep
          rcases mem_history_moveTo.mp hevent with hold | ⟨rfl, hnew⟩
          · apply (ih hold).moves hmoves
          · cases encrypted_mem_of_receiveMessage hnew
      | send B outside rest =>
          have hsend := hstep
          cases hstep
          rcases mem_history_moveTo.mp hevent with hold | ⟨rfl, hnew⟩
          · apply (ih hold).moves hmoves
          · have hidle : .encrypted recipient body publicKey encrypted ∉ (w.idle B).events :=
              List.not_mem_nil
            obtain ⟨hparse, hencrypt⟩ := encrypted_of_sendMessage hidle hnew
            refine ⟨w, _, outside, rest, hreach, hsend, Relation.ReflTransGen.refl, hparse, ?_,
              hencrypt⟩
            rw [client_moveTo]
            apply hnew

/-! ### Authenticity -/

/-- A message that the client of `B` displays as one of `sender`, while the contact
`sender` is saved with the key of another honest user `A`, was encrypted by the client
of `A` in an earlier call of `send_message`, under the name `sender`, with this body,
for the name and the key of `B`. -/
theorem authentic_of_reaches
    (hP : P.Symbolic) (hserde : serde.Inverts serde) (h₀ : w₀.Initial)
    (h : Reaches (step users) (feasible users) w₀ w) {A B : User} {outside : Outside}
    {bytes : Bytes} (hstep : step users w (.receive B outside bytes) = some w')
    {sender body : String} (hdisplayed : .message sender body ∈ (w'.client B).events)
    {entry : PublicKeyEntry} (hsaved : (w'.client B).contacts.get sender = some entry)
    (hkey : decodeFixedKey entry.encryptionPublicKey "sender public key"
      = .ok (users.publicKey A))
    (hne : users.publicKey A ≠ users.publicKey B) :
  users.name A = sender
    ∧ ∃ publicKey encrypted,
      Ran users w₀ w A (users.name B) body publicKey encrypted
        ∧ decodeFixedKey publicKey "recipient public key" = .ok (users.publicKey B)
  := by
  cases hstep
  rw [client_moveTo] at hdisplayed hsaved
  have hidle : .message sender body ∉ (w.idle B).events := List.not_mem_nil
  obtain ⟨encrypted, found, hopen, hfound, heq⟩ := message_of_receiveMessage hidle hdisplayed
  obtain rfl := heq entry hsaved
  obtain ⟨encrypted', -, hopen⟩ := bind_eq_ok.mp hopen
  obtain ⟨message, hdecrypt, hopen⟩ := bind_eq_ok.mp hopen
  cases hopen
  obtain ⟨-, senderKey, recipientKey, box, hsender, hrecipient, -, -, hopens⟩ :=
    decryptMessage_eq_ok.mp hdecrypt
  have hsenderKey : senderKey = users.publicKey A := by
    rw [← hfound, hkey] at hsender
    cases hsender
    rfl
  have hrecipientKey : recipientKey = users.publicKey B := by
    rw [decodeFixedKey_eq_ok] at hrecipient
    apply Option.some.inj (hrecipient.symm.trans (users.derived B))
  subst hsenderKey hrecipientKey
  obtain ⟨hmem, hopens⟩ := mem_of_opens_opening hopens
  rcases List.mem_append.mp hmem with hforged | hhonest
  · apply absurd hopens.key
    apply canDerive_of_reaches h₀ h box hforged B A _ hne.symm
  · obtain ⟨⟨C, event⟩, hevent, hbox⟩ := List.mem_filterMap.mp hhonest
    obtain ⟨recipient, sent, publicKey, envelope, rfl, hsealed⟩ := Users.box_eq_some.mp hbox
    have hran := ran_of_reaches h₀ h hevent
    obtain ⟨_, _, _, _, _, _, _, _, _, hencrypt⟩ := id hran
    obtain ⟨senderKey, recipientKey, hsender', hrecipient', hseals, -⟩ :=
      seals_of_encryptMessage hencrypt hsealed
    obtain ⟨hsenderKey, hrecipientKey, hmessage⟩ := eq_of_seals_of_opens hP hserde hseals hopens
    cases hmessage
    have hsame : users.publicKey C = users.publicKey A := by
      rw [decodeFixedKey_eq_ok] at hsender'
      rw [hsenderKey]
      apply Option.some.inj ((users.derived C).symm.trans hsender')
    obtain rfl := users.distinct hsame
    use rfl, publicKey, envelope, hran
    rw [hrecipient', hrecipientKey]

/-! ### A message from one friend to another -/

theorem symbolic_samplePrimitives (takes : ℕ → Bool) :
  (samplePrimitives takes).Symbolic
  where
  hkdf_injective := by
    rintro secret secret' info info' key ⟨⟩ ⟨⟩
    exact ⟨rfl, rfl⟩
  decrypt_encrypt h := by
    obtain ⟨-, htext⟩ := Option.ite_none_right_eq_some.mp h
    cases htext
    rfl

/-- The users of the sample. -/
inductive Friend where
  | alice
  | bob
deriving DecidableEq

namespace Friend

def name : Friend → String
  | alice => "alice"
  | bob => "bob"

def secretKey : Friend → Key
  | alice => .zero 32
  | bob => ⟨0 :: 1 :: List.replicate 30 0, FixedBytes.length_other_key⟩

def publicKey (A : Friend) : Key :=
  (samplePrimitives fun _ => true).x25519Base A.secretKey

/-- What a friend has registered. -/
def entry (A : Friend) : PublicKeyEntry :=
  ⟨A.name, encodeKey A.publicKey, encodeKey A.publicKey⟩

end Friend

/-- Two friends with the sample primitives. -/
def friends : Users Friend (samplePrimitives fun _ => true) .compact where
  pretty := .compact
  endpoints _ := ⟨"http://127.0.0.1:3000"⟩
  name := Friend.name
  identity A := ⟨encodeKey A.publicKey, A.secretKey⟩
  derived A := by
    rw [encodeKey, Base64.decode_encode, Option.bind_some, FixedBytes.tryInto_bytes]
    rfl
  distinct := by
    rintro (_ | _) (_ | _) heq
    · rfl
    · cases heq
    · cases heq
    · rfl

/-- The friends have saved each other. -/
def acquainted : World Friend (Key × Bytes) where
  client _ :=
    ⟨(ContactBook.insert ⟨∅, "contacts"⟩ Friend.alice.entry).insert Friend.bob.entry, none, []⟩
  forged := []
  history := []

/-- Nothing is looked up and the socket takes the frame. -/
def quiet : Outside := ⟨none, .zero 24, .complete, true⟩

/-- The friends after `alice` has sent a message to `bob`. -/
def greeted : World Friend (Key × Bytes) :=
  acquainted.moveTo .alice ((sendMessage (friends.setup (samplePrimitives fun _ => true) .alice) quiet
    "bob hello bob").outcome (acquainted.idle .alice)).2

/-- The bytes of the envelope that `alice` has encrypted. -/
def greeting : Bytes :=
  ((greeted.client .alice).events.findSome? fun
    | .encrypted _ _ _ encrypted => some encrypted.toJson.compactBytes
    | _ => none).getD []

/-- The friends after `bob` has received it. -/
def replied : World Friend (Key × Bytes) :=
  greeted.moveTo .bob ((receiveMessage (friends.setup ((samplePrimitives fun _ => true).opening
    (greeted.boxes friends)) .bob) quiet greeting).outcome (greeted.idle .bob)).2

/-- `bob` displays the message that `alice` has sent. -/
theorem authentic_of_reaches_sample :
  .message "alice" "hello bob" ∈ (replied.client .bob).events
    ∧ friends.name .alice = "alice"
    ∧ ∃ publicKey encrypted,
      Ran friends acquainted greeted .alice (friends.name .bob) "hello bob" publicKey encrypted
        ∧ decodeFixedKey publicKey "recipient public key" = .ok (friends.publicKey .bob)
  := by
  have hdisplayed : Event.message "alice" "hello bob" ∈ (replied.client .bob).events := by
    decide +kernel
  have hreaches : Reaches (step friends) (feasible friends) acquainted greeted := by
    apply Relation.ReflTransGen.single
    use .send .alice quiet "bob hello bob", trivial
    rfl
  have hstep : step friends greeted (.receive .bob quiet greeting) = some replied := rfl
  have hsaved : (replied.client .bob).contacts.get "alice" = some Friend.alice.entry := by
    decide +kernel
  use hdisplayed
  apply authentic_of_reaches (symbolic_samplePrimitives _) JsonCodec.inverts_compact ⟨rfl, rfl⟩
    hreaches hstep hdisplayed hsaved
  · rw [decodeFixedKey_eq_ok]
    decide +kernel
  · decide +kernel

end Phantasma.World
