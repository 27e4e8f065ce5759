import Phantasma.Client.SmallOrder
import Phantasma.Web.Crypto

/-!
# The two decryptors

The command-line client and the browser client decrypt the same envelopes, each with
libraries of its own.  What an envelope carries is a text (`Carries`), and no envelope
carries two.  The command-line client reads the text as a message whatever the key of the
sender is; the browser client reads it as any JSON value, and refuses a key of small order.
`alike_iff` says for which envelopes the two end alike.
-/

namespace Phantasma

variable {MessageKey : Type}

/-- The key pair of a recipient: the text of the public key is that of the key derived
from the secret one. -/
structure KeyPair (P : Primitives MessageKey) where
  secretKey : Key
  publicKey : String
  derived : Base64.decode publicKey = some (P.x25519Base secretKey).bytes

/-- The key pair in the browser client. -/
def KeyPair.identity {P : Primitives MessageKey} (pair : KeyPair P) : Web.Identity where
  encryptionPublicKey := pair.publicKey
  encryptionSecretKey := pair.secretKey.bytes

/-! ### What an envelope carries -/

/-- `Carries pair encrypted senderKey box text`: the texts of the envelope are those of the
key `senderKey` and of `box`, and `box` is what sealing `text` for the recipient under the
shared secret with `senderKey` gives. -/
structure Carries {P : Primitives MessageKey} (pair : KeyPair P)
    (encrypted : EncryptedChatMessage) (senderKey : Key) (box : Sealed MessageKey)
    (text : Bytes) : Prop where
  version : encrypted.version = messageVersion
  sender : Base64.decode encrypted.senderEncryptionPublicKey = some senderKey.bytes
  nonce : Base64.decode encrypted.nonce = some box.nonce.bytes
  ciphertext : Base64.decode encrypted.ciphertext = some box.ciphertext
  key : P.hkdf keyDerivationSalt (P.x25519 pair.secretKey senderKey)
    (associatedData senderKey (P.x25519Base pair.secretKey)) = some box.key
  associatedData : box.associatedData = associatedData senderKey (P.x25519Base pair.secretKey)
  text : P.encrypt box.key box.nonce box.associatedData text = some box.ciphertext

/-- What the decryptors rely on: X25519 gives zeros for the coordinates of small order and
no others, and the cipher opens just what it seals. -/
structure Primitives.Exact (P : Primitives MessageKey) : Prop where
  x25519_eq_zero : ∀ secret key, P.x25519 secret key = .zero 32 ↔ isSmallOrder key
  decrypt_iff : ∀ key nonce data text ciphertext,
    P.decrypt key nonce data ciphertext = some text
      ↔ P.encrypt key nonce data text = some ciphertext

section

variable {P : Primitives MessageKey} {pair : KeyPair P} {encrypted : EncryptedChatMessage}
    {senderKey senderKey' : Key} {box box' : Sealed MessageKey} {text text' : Bytes}
    {serde js : JsonCodec}

/-- An envelope carries one text, from one sender. -/
theorem Carries.unique
    (hP : P.Exact) (h : Carries pair encrypted senderKey box text)
    (h' : Carries pair encrypted senderKey' box' text') :
  senderKey' = senderKey ∧ text' = text
  := by
  have hsender : senderKey' = senderKey := by
    apply FixedBytes.ext_bytes
    apply Option.some.inj (h'.sender.symm.trans h.sender)
  subst hsender
  use rfl
  have hkey : box'.key = box.key := Option.some.inj (h'.key.symm.trans h.key)
  have hnonce : box'.nonce = box.nonce := by
    apply FixedBytes.ext_bytes
    apply Option.some.inj (h'.nonce.symm.trans h.nonce)
  have hciphertext : box'.ciphertext = box.ciphertext :=
    Option.some.inj (h'.ciphertext.symm.trans h.ciphertext)
  have htext := (hP.decrypt_iff ..).mpr h.text
  have htext' := (hP.decrypt_iff ..).mpr h'.text
  rw [hkey, hnonce, hciphertext, h'.associatedData, ← h.associatedData, htext] at htext'
  apply (Option.some.inj htext').symm

/-- The command-line client decrypts an envelope to the message it reads from the text that
the envelope carries. -/
theorem decryptMessage_eq_ok_iff_carries (hP : P.Exact) {message : PlaintextChatMessage} :
  decryptMessage P serde pair.secretKey pair.publicKey encrypted = .ok message
    ↔ ∃ senderKey box text, Carries pair encrypted senderKey box text
      ∧ PlaintextChatMessage.fromWireBytes serde text = .ok message
  := by
  simp only [decryptMessage_eq_ok, decodeFixedKey_eq_ok_iff, pair.derived, decodeNonce_eq_ok,
    Option.some.injEq]
  constructor
  · rintro ⟨hversion, senderKey, recipientKey, box, hsender, hrecipient, hnonce, hciphertext,
      hkey, hdata, text, htext, hmessage⟩
    obtain rfl := FixedBytes.ext_bytes hrecipient
    use senderKey, box, text
    apply And.intro _ hmessage
    exact ⟨hversion, hsender, hnonce, hciphertext, hkey, hdata, (hP.decrypt_iff ..).mp htext⟩
  · rintro ⟨senderKey, box, text, ⟨hversion, hsender, hnonce, hciphertext, hkey, hdata, htext⟩,
      hmessage⟩
    use hversion, senderKey, P.x25519Base pair.secretKey, box, hsender, rfl, hnonce, hciphertext
    exact ⟨hkey, hdata, text, (hP.decrypt_iff ..).mpr htext, hmessage⟩

/-- The browser client decrypts an envelope to the value it reads from the text that the
envelope carries, if the key of the sender is not of small order. -/
theorem web_decryptMessage_eq_ok_iff_carries (hP : P.Exact) {value : Web.Value} :
  Web.decryptMessage P js pair.identity (some encrypted.toJson) = .ok value
    ↔ ∃ senderKey box text, Carries pair encrypted senderKey box text
      ∧ ¬ isSmallOrder senderKey ∧ (js.fromSlice text).map some = some value
  := by
  simp only [Web.decryptMessage_eq_ok, KeyPair.identity, pair.derived, Option.some.injEq,
    Web.cryptoScalarmult_eq_ok, FixedBytes.tryInto_eq_some, Web.deriveMessageKey,
    Web.orException_eq_ok, Option.map_eq_some_iff]
  constructor
  · rintro ⟨hversion, _, _, sharedSecret, key, nonceBytes, ciphertext, nonce, text, json, hsender,
      rfl, ⟨senderKey, rfl, rfl, hne⟩, hkey, hnonce, hciphertext, rfl, htext, hjson, rfl⟩
    use senderKey,
      ⟨key, nonce, associatedData senderKey (P.x25519Base pair.secretKey), ciphertext⟩, text
    and_intros
    · exact ⟨hversion, hsender, hnonce, hciphertext, hkey, rfl, (hP.decrypt_iff ..).mp htext⟩
    · rwa [← hP.x25519_eq_zero pair.secretKey]
    · use json, hjson
  · rintro ⟨senderKey, box, text, ⟨hversion, hsender, hnonce, hciphertext, hkey, hdata, htext⟩,
      hsmall, json, hjson, rfl⟩
    rw [hdata] at htext
    rw [← hP.x25519_eq_zero pair.secretKey] at hsmall
    use hversion, senderKey.bytes, (P.x25519Base pair.secretKey).bytes,
      P.x25519 pair.secretKey senderKey, box.key, box.nonce.bytes, box.ciphertext, box.nonce, text,
      json, hsender, rfl
    exact ⟨⟨senderKey, rfl, rfl, hsmall⟩, hkey, hnonce, hciphertext, rfl,
      (hP.decrypt_iff ..).mpr htext, hjson, rfl⟩

/-! ### Results that are alike -/

/-- The value has the sender, the recipient and the body of the message. -/
structure Web.Shows (value : Web.Value) (message : PlaintextChatMessage) : Prop where
  sender : value.property "from" = .ok (.ofString message.from)
  recipient : value.property "to" = .ok (.ofString message.to)
  body : value.property "body" = .ok (.ofString message.body)

/-- Two results are alike: there is no message and no value, or the value shows the
message. -/
inductive Alike : Option PlaintextChatMessage → Option Web.Value → Prop where
  | failed : Alike none none
  | shown {message value} (hshows : Web.Shows value message) : Alike (some message) (some value)

/-- The two clients read a text alike: the command-line client reads a message from it and
the browser client a value that shows the message, or the one reads no message and the
other no value. -/
def ReadAlike (serde js : JsonCodec) (text : Bytes) : Prop :=
  (∃ message value, PlaintextChatMessage.fromWireBytes serde text = .ok message
    ∧ js.fromSlice text = some value ∧ Web.Shows (some value) message)
    ∨ (∀ message, PlaintextChatMessage.fromWireBytes serde text ≠ .ok message)
      ∧ js.fromSlice text = none

theorem alike_iff_readAlike {text : Bytes} :
  Alike (PlaintextChatMessage.fromWireBytes serde text).toOption ((js.fromSlice text).map some)
    ↔ ReadAlike serde js text
  := by
  rw [ReadAlike]
  cases hmessage : PlaintextChatMessage.fromWireBytes serde text with
  | ok message =>
      cases hvalue : js.fromSlice text with
      | some value =>
          constructor
          · rintro ⟨⟩
            left
            use message, value
          · rintro (⟨_, _, ⟨⟩, ⟨⟩, hshows⟩ | ⟨-, ⟨⟩⟩)
            apply Alike.shown hshows
      | none =>
          apply iff_of_false
          · rintro ⟨⟩
          · rintro (⟨_, _, -, ⟨⟩, -⟩ | ⟨hnone, -⟩)
            apply hnone message rfl
  | error err =>
      cases hvalue : js.fromSlice text with
      | some value =>
          apply iff_of_false
          · rintro ⟨⟩
          · rintro (⟨_, _, ⟨⟩, -⟩ | ⟨-, ⟨⟩⟩)
      | none =>
          apply iff_of_true Alike.failed
          right
          constructor
          · rintro message ⟨⟩
          · rfl

/-- The text that is written for a message is read alike. -/
theorem readAlike_of_inverts
    {writer : JsonCodec} (hserde : writer.Inverts serde) (hjs : writer.Inverts js)
    {message : PlaintextChatMessage} (h : message.toWireBytes writer = .ok text) :
  ReadAlike serde js text
  := by
  have hwrite := toWire_eq_ok.mp h
  obtain ⟨bytes, hbytes, hread⟩ := hserde _ message.plain_toJson
  obtain ⟨bytes', hbytes', hread'⟩ := hjs _ message.plain_toJson
  obtain rfl := Option.some.inj (hwrite.symm.trans hbytes)
  obtain rfl := Option.some.inj (hwrite.symm.trans hbytes')
  left
  use message, message.toJson
  and_intros
  · apply fromWire_eq_ok.mpr ⟨_, hread, PlaintextChatMessage.ofJson_toJson message⟩
  · apply hread'
  · exact ⟨rfl, rfl, rfl⟩

theorem toOption_decryptMessage
    (hP : P.Exact) (h : Carries pair encrypted senderKey box text) :
  (decryptMessage P serde pair.secretKey pair.publicKey encrypted).toOption
    = (PlaintextChatMessage.fromWireBytes serde text).toOption
  := by
  apply Option.ext
  intro message
  rw [toOption_eq_some, toOption_eq_some, decryptMessage_eq_ok_iff_carries hP]
  constructor
  · rintro ⟨senderKey', box', text', h', hmessage⟩
    rwa [← (h.unique hP h').2]
  · intro hmessage
    use senderKey, box, text

theorem toOption_web_decryptMessage
    (hP : P.Exact) (h : Carries pair encrypted senderKey box text) :
  (Web.decryptMessage P js pair.identity (some encrypted.toJson)).toOption
    = if isSmallOrder senderKey then none else (js.fromSlice text).map some
  := by
  apply Option.ext
  intro value
  rw [toOption_eq_some, web_decryptMessage_eq_ok_iff_carries hP, Option.ite_none_left_eq_some]
  constructor
  · rintro ⟨senderKey', box', text', h', hsmall, hvalue⟩
    obtain ⟨rfl, rfl⟩ := h.unique hP h'
    apply And.intro hsmall hvalue
  · rintro ⟨hsmall, hvalue⟩
    use senderKey, box, text

/-- An envelope that carries a text carries one that the two clients read alike, if the key
of the sender is not of small order, and one that is no message, if it is. -/
def CarriesAlike (serde js : JsonCodec) (pair : KeyPair P) (encrypted : EncryptedChatMessage) :
    Prop :=
  ∀ senderKey box text, Carries pair encrypted senderKey box text →
    if isSmallOrder senderKey then
      ∀ message, PlaintextChatMessage.fromWireBytes serde text ≠ .ok message
    else ReadAlike serde js text

/-- What an envelope has to satisfy for the one text that it carries. -/
theorem carriesAlike_iff (hP : P.Exact) (h : Carries pair encrypted senderKey box text) :
  CarriesAlike serde js pair encrypted
    ↔ if isSmallOrder senderKey then
        ∀ message, PlaintextChatMessage.fromWireBytes serde text ≠ .ok message
      else ReadAlike serde js text
  := by
  constructor
  · intro halike
    apply halike senderKey box text h
  · intro halike senderKey' box' text' h'
    obtain ⟨rfl, rfl⟩ := h.unique hP h'
    apply halike

/-- The two clients decrypt an envelope alike, just when it carries nothing on which they
differ. -/
theorem alike_iff
    (hP : P.Exact) (serde js : JsonCodec) (pair : KeyPair P) (encrypted : EncryptedChatMessage) :
  Alike (decryptMessage P serde pair.secretKey pair.publicKey encrypted).toOption
      (Web.decryptMessage P js pair.identity (some encrypted.toJson)).toOption
    ↔ CarriesAlike serde js pair encrypted
  := by
  by_cases hcarries : ∃ senderKey box text, Carries pair encrypted senderKey box text
  · obtain ⟨senderKey, box, text, h⟩ := hcarries
    rw [toOption_decryptMessage hP h, toOption_web_decryptMessage hP h, carriesAlike_iff hP h]
    split
    · cases PlaintextChatMessage.fromWireBytes serde text with
      | ok message =>
          apply iff_of_false
          · rintro ⟨⟩
          · intro hnone
            apply hnone message rfl
      | error err =>
          apply iff_of_true Alike.failed
          rintro message ⟨⟩
    · apply alike_iff_readAlike
  · have hcli :
        (decryptMessage P serde pair.secretKey pair.publicKey encrypted).toOption = none := by
      rw [Option.eq_none_iff_forall_ne_some]
      intro message hmessage
      obtain ⟨senderKey, box, text, h, -⟩ :=
        (decryptMessage_eq_ok_iff_carries hP).mp (toOption_eq_some.mp hmessage)
      apply hcarries ⟨senderKey, box, text, h⟩
    have hweb :
        (Web.decryptMessage P js pair.identity (some encrypted.toJson)).toOption = none := by
      rw [Option.eq_none_iff_forall_ne_some]
      intro value hvalue
      obtain ⟨senderKey, box, text, h, -⟩ :=
        (web_decryptMessage_eq_ok_iff_carries hP).mp (toOption_eq_some.mp hvalue)
      apply hcarries ⟨senderKey, box, text, h⟩
    rw [hcli, hweb]
    apply iff_of_true Alike.failed
    intro senderKey box text h
    apply absurd ⟨senderKey, box, text, h⟩ hcarries

end

/-! ### Sample envelopes -/

/-- The key pair of the sample primitives with the secret key of zeros. -/
def sampleKeyPair : KeyPair (samplePrimitives fun _ => true) where
  secretKey := .zero 32
  publicKey := basePointText
  derived := by decide +kernel

/-- An envelope with a message from `senderText`, as the sample primitives seal it. -/
def sampleEnvelope (senderText : String) : EncryptedChatMessage where
  version := messageVersion
  senderEncryptionPublicKey := senderText
  nonce := Base64.encode (FixedBytes.zero 24).bytes
  ciphertext := Base64.encode (PlaintextChatMessage.toJson ⟨"alice", "bob", "hello"⟩).compactBytes

theorem samplePrimitives_exact :
  (samplePrimitives fun _ => true).Exact
  where
  x25519_eq_zero := (samplePrimitives_total 0).x25519_eq_zero
  decrypt_iff key nonce data text ciphertext := by
    simp only [samplePrimitives, if_true, Option.some.injEq]
    apply eq_comm

/-- An envelope with the key of the base point is decrypted alike. -/
theorem alike_iff_sample :
  Alike
    (decryptMessage (samplePrimitives fun _ => true) .compact sampleKeyPair.secretKey
      sampleKeyPair.publicKey (sampleEnvelope basePointText)).toOption
    (Web.decryptMessage (samplePrimitives fun _ => true) .compact sampleKeyPair.identity
      (some (sampleEnvelope basePointText).toJson)).toOption
  := by
  apply (alike_iff samplePrimitives_exact .compact .compact sampleKeyPair _).mpr
  intro senderKey box text h
  have hsmall : ∀ key ∈ (Base64.decode basePointText).bind (FixedBytes.tryInto 32),
      ¬ isSmallOrder key := by
    decide +kernel
  rw [if_neg (hsmall senderKey (decode_bind_tryInto.mpr h.sender))]
  obtain rfl : text = box.ciphertext := Option.some.inj h.text
  obtain ⟨bytes, hbytes, -⟩ := JsonCodec.inverts_compact _
    (PlaintextChatMessage.plain_toJson ⟨"alice", "bob", "hello"⟩)
  obtain rfl := Option.some.inj hbytes
  have htext := h.ciphertext
  rw [sampleEnvelope, Base64.decode_encode] at htext
  rw [← Option.some.inj htext]
  apply readAlike_of_inverts JsonCodec.inverts_compact JsonCodec.inverts_compact
  apply toWire_eq_ok.mpr hbytes

/-- An envelope with a key of zeros is decrypted by the command-line client only. -/
theorem not_alike :
  ¬ ∀ (P : Primitives (Key × Bytes)) (serde js : JsonCodec) (pair : KeyPair P)
      (encrypted : EncryptedChatMessage),
    P.Exact → serde.Inverts serde → js.Inverts js → serde.Inverts js → js.Inverts serde →
      Alike (decryptMessage P serde pair.secretKey pair.publicKey encrypted).toOption
        (Web.decryptMessage P js pair.identity (some encrypted.toJson)).toOption
  := by
  intro halike
  have h := halike _ .compact .compact sampleKeyPair (sampleEnvelope zeroText)
    samplePrimitives_exact JsonCodec.inverts_compact JsonCodec.inverts_compact
    JsonCodec.inverts_compact JsonCodec.inverts_compact
  have hcli : (decryptMessage (samplePrimitives fun _ => true) .compact sampleKeyPair.secretKey
      sampleKeyPair.publicKey (sampleEnvelope zeroText)).toOption
        = some ⟨"alice", "bob", "hello"⟩ := by
    decide +kernel
  have hweb : (Web.decryptMessage (samplePrimitives fun _ => true) .compact sampleKeyPair.identity
      (some (sampleEnvelope zeroText).toJson)).toOption.isNone := by
    decide +kernel
  rw [hcli, Option.isNone_iff_eq_none.mp hweb] at h
  cases h

end Phantasma
