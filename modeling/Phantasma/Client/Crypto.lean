import Phantasma.Base.Base64
import Phantasma.Shared.Wire

/-!
# Encrypting and decrypting messages

The functions of `crypto.rs` over the primitives they take from other packages: X25519,
HKDF-SHA256 and XChaCha20-Poly1305.  A message key is a value of an arbitrary type, so
that an assumption may say that a derived key determines what it was derived from.

`encryptMessage_eq_ok` and `decryptMessage_eq_ok` say when the two functions succeed and
what they return.
-/

namespace Phantasma

/-- An array of `n` bytes, `[u8; n]`. -/
structure FixedBytes (n : ℕ) where
  bytes : Bytes
  length_eq : bytes.length = n
deriving DecidableEq

namespace FixedBytes

variable {n : ℕ}

theorem ext_bytes {a b : FixedBytes n} (h : a.bytes = b.bytes) :
  a = b
  := by
  cases a
  cases b
  cases h
  rfl

/-- `try_into`, from a byte string of any length. -/
def tryInto (n : ℕ) (bytes : Bytes) : Option (FixedBytes n) :=
  if h : bytes.length = n then some ⟨bytes, h⟩ else none

@[simp]
theorem tryInto_bytes (a : FixedBytes n) :
  tryInto n a.bytes = some a
  := dif_pos a.length_eq

theorem tryInto_eq_some {bytes : Bytes} {a : FixedBytes n} :
  tryInto n bytes = some a ↔ bytes = a.bytes
  := by
  constructor
  · intro h
    obtain ⟨hlen, ha⟩ := Option.dite_none_right_eq_some.mp h
    cases ha
    rfl
  · rintro rfl
    apply tryInto_bytes

/-- The array of zeros. -/
def zero (n : ℕ) : FixedBytes n where
  bytes := List.replicate n 0
  length_eq := List.length_replicate

/-- There are 32 bytes in a key of the examples that is not zero. -/
theorem length_other_key :
  (0 :: 1 :: List.replicate 30 0 : Bytes).length = 32
  := rfl

end FixedBytes

/-- A scalar, a `u`-coordinate or a shared secret of X25519. -/
abbrev Key := FixedBytes 32

/-- A nonce of XChaCha20-Poly1305. -/
abbrev Nonce := FixedBytes 24

/-- The primitives: `diffie_hellman` and the public key of a secret, `Hkdf::<Sha256>` with
salt, secret and info, and `encrypt` and `decrypt` of `XChaCha20Poly1305` with key,
nonce, associated data and text. -/
structure Primitives (MessageKey : Type) where
  x25519 : Key → Key → Key
  x25519Base : Key → Key
  hkdf : Bytes → Key → Bytes → Option MessageKey
  encrypt : MessageKey → Nonce → Bytes → Bytes → Option Bytes
  decrypt : MessageKey → Nonce → Bytes → Bytes → Option Bytes

/-- The bytes of an ASCII string. -/
def ascii (s : String) : Bytes :=
  s.toList.map fun ch => UInt8.ofNat ch.toNat

/-- `MESSAGE_VERSION`. -/
def messageVersion : UInt8 := 1

/-- `KEY_DERIVATION_SALT`. -/
def keyDerivationSalt : Bytes :=
  ascii "phantasma x25519 xchacha20poly1305 v1"

/-- `associated_data`. -/
def associatedData (senderPublicKey recipientPublicKey : Key) : Bytes :=
  ascii "phantasma:v1:" ++ senderPublicKey.bytes ++ recipientPublicKey.bytes

/-- The associated data tell both keys and their order. -/
theorem associatedData_injective
    {a b a' b' : Key} (h : associatedData a b = associatedData a' b') :
  a = a' ∧ b = b'
  := by
  simp only [associatedData, List.append_assoc, List.append_cancel_left_eq] at h
  have hlen : a.bytes.length = a'.bytes.length := a.length_eq.trans a'.length_eq.symm
  obtain ⟨ha, hb⟩ := List.append_inj h hlen
  exact ⟨FixedBytes.ext_bytes ha, FixedBytes.ext_bytes hb⟩

/-- `decode_fixed_key`. -/
def decodeFixedKey (encoded label : String) : Except Error Key := do
  let bytes ← orError (.text s!"{label} is not valid base64url") (Base64.decode encoded)
  orError (.text s!"{label} must be 32 bytes") (FixedBytes.tryInto 32 bytes)

/-- `decode_nonce`. -/
def decodeNonce (encoded : String) : Except Error Nonce := do
  let bytes ← orError (.text "nonce is not valid base64url") (Base64.decode encoded)
  orError (.text "nonce must be 24 bytes") (FixedBytes.tryInto 24 bytes)

/-- The text of a key. -/
def encodeKey (key : Key) : String :=
  Base64.encode key.bytes

@[simp]
theorem decodeNonce_encode (nonce : Nonce) :
  decodeNonce (Base64.encode nonce.bytes) = .ok nonce
  := by
  rw [decodeNonce, Base64.decode_encode, bind_eq_ok]
  use nonce.bytes, rfl
  rw [FixedBytes.tryInto_bytes]
  rfl

/-- The label of a key is in the error texts only. -/
theorem decodeFixedKey_eq_ok {encoded label : String} {key : Key} :
  decodeFixedKey encoded label = .ok key
    ↔ (Base64.decode encoded).bind (FixedBytes.tryInto 32) = some key
  := by
  simp only [decodeFixedKey, bind_eq_ok, orError_eq_ok, Option.bind_eq_some_iff]

/-- An array is decoded from the texts that decode to its bytes. -/
theorem decode_bind_tryInto {n : ℕ} {text : String} {a : FixedBytes n} :
  (Base64.decode text).bind (FixedBytes.tryInto n) = some a
    ↔ Base64.decode text = some a.bytes
  := by
  simp only [Option.bind_eq_some_iff, FixedBytes.tryInto_eq_some]
  constructor
  · rintro ⟨bytes, hdecode, rfl⟩
    apply hdecode
  · intro hdecode
    use a.bytes, hdecode

theorem decodeFixedKey_eq_ok_iff {encoded label : String} {key : Key} :
  decodeFixedKey encoded label = .ok key ↔ Base64.decode encoded = some key.bytes
  := decodeFixedKey_eq_ok.trans decode_bind_tryInto

theorem decodeNonce_eq_ok {encoded : String} {nonce : Nonce} :
  decodeNonce encoded = .ok nonce ↔ Base64.decode encoded = some nonce.bytes
  := by
  rw [← decode_bind_tryInto]
  simp only [decodeNonce, bind_eq_ok, orError_eq_ok, Option.bind_eq_some_iff]

variable {MessageKey : Type}

/-- `derive_message_key`. -/
def deriveMessageKey (P : Primitives MessageKey)
    (sharedSecret senderPublicKey recipientPublicKey : Key) : Except Error MessageKey :=
  orError (.text "message key derivation failed")
    (P.hkdf keyDerivationSalt sharedSecret (associatedData senderPublicKey recipientPublicKey))

/-- `encrypt_message`, with the nonce that the random number generator gives it. -/
def encryptMessage (P : Primitives MessageKey) (serde : JsonCodec) (nonce : Nonce)
    (sender recipient body : String) (senderSecretKey : Key)
    (senderPublicKey recipientPublicKey : String) : Except Error EncryptedChatMessage := do
  let senderPublicKeyBytes ← decodeFixedKey senderPublicKey "sender public key"
  let recipientPublicKeyBytes ← decodeFixedKey recipientPublicKey "recipient public key"
  let sharedSecret := P.x25519 senderSecretKey recipientPublicKeyBytes
  let messageKey ← deriveMessageKey P sharedSecret senderPublicKeyBytes recipientPublicKeyBytes
  let plaintext ← PlaintextChatMessage.toWireBytes serde ⟨sender, recipient, body⟩
  let ciphertext ← orError (.text "message encryption failed")
    (P.encrypt messageKey nonce (associatedData senderPublicKeyBytes recipientPublicKeyBytes)
      plaintext)
  return {
    version := messageVersion
    senderEncryptionPublicKey := senderPublicKey
    nonce := Base64.encode nonce.bytes
    ciphertext := Base64.encode ciphertext }

/-- `decrypt_message`. -/
def decryptMessage (P : Primitives MessageKey) (serde : JsonCodec) (recipientSecretKey : Key)
    (recipientPublicKey : String) (encrypted : EncryptedChatMessage) :
    Except Error PlaintextChatMessage := do
  if encrypted.version ≠ messageVersion then
    throw (.text "unsupported encrypted message version")
  let senderPublicKeyBytes ←
    decodeFixedKey encrypted.senderEncryptionPublicKey "sender public key"
  let recipientPublicKeyBytes ← decodeFixedKey recipientPublicKey "recipient public key"
  let nonce ← decodeNonce encrypted.nonce
  let ciphertext ← orError (.text "ciphertext is not valid base64url")
    (Base64.decode encrypted.ciphertext)
  let sharedSecret := P.x25519 recipientSecretKey senderPublicKeyBytes
  let messageKey ← deriveMessageKey P sharedSecret senderPublicKeyBytes recipientPublicKeyBytes
  let plaintext ← orError (.text "message decryption failed")
    (P.decrypt messageKey nonce (associatedData senderPublicKeyBytes recipientPublicKeyBytes)
      ciphertext)
  PlaintextChatMessage.fromWireBytes serde plaintext

/-! ### When encryption and decryption succeed -/

/-- What is sealed and opened: the message key, the nonce, the associated data and the
ciphertext. -/
structure Sealed (MessageKey : Type) where
  key : MessageKey
  nonce : Nonce
  associatedData : Bytes
  ciphertext : Bytes
deriving DecidableEq

/-- `Seals`: the key of the pair of `senderPublicKey` and `recipientPublicKey` with the
shared secret `sharedSecret` seals `message` as `box`. -/
structure Seals (P : Primitives MessageKey) (serde : JsonCodec) (sharedSecret : Key)
    (senderPublicKey recipientPublicKey : Key) (message : PlaintextChatMessage)
    (box : Sealed MessageKey) : Prop where
  key : P.hkdf keyDerivationSalt sharedSecret (associatedData senderPublicKey recipientPublicKey)
    = some box.key
  associatedData : box.associatedData = associatedData senderPublicKey recipientPublicKey
  ciphertext : ∃ plaintext, message.toWireBytes serde = .ok plaintext
    ∧ P.encrypt box.key box.nonce box.associatedData plaintext = some box.ciphertext

/-- `Opens`: the key of the pair of `senderPublicKey` and `recipientPublicKey` with the
shared secret `sharedSecret` opens `box` as `message`. -/
structure Opens (P : Primitives MessageKey) (serde : JsonCodec) (sharedSecret : Key)
    (senderPublicKey recipientPublicKey : Key) (box : Sealed MessageKey)
    (message : PlaintextChatMessage) : Prop where
  key : P.hkdf keyDerivationSalt sharedSecret (associatedData senderPublicKey recipientPublicKey)
    = some box.key
  associatedData : box.associatedData = associatedData senderPublicKey recipientPublicKey
  plaintext : ∃ plaintext, P.decrypt box.key box.nonce box.associatedData box.ciphertext
    = some plaintext ∧ PlaintextChatMessage.fromWireBytes serde plaintext = .ok message

/-- The envelope of a sealed message. -/
def Sealed.envelope (box : Sealed MessageKey) (senderPublicKey : String) :
    EncryptedChatMessage where
  version := messageVersion
  senderEncryptionPublicKey := senderPublicKey
  nonce := Base64.encode box.nonce.bytes
  ciphertext := Base64.encode box.ciphertext

/-- Encryption succeeds when both keys decode and the message is sealed for their pair;
it returns the envelope of what was sealed. -/
theorem encryptMessage_eq_ok
    {P : Primitives MessageKey} {serde : JsonCodec} {nonce : Nonce}
    {sender recipient body : String} {senderSecretKey : Key}
    {senderPublicKey recipientPublicKey : String} {encrypted : EncryptedChatMessage} :
  encryptMessage P serde nonce sender recipient body senderSecretKey senderPublicKey
      recipientPublicKey = .ok encrypted
    ↔ ∃ senderKey recipientKey box,
      decodeFixedKey senderPublicKey "sender public key" = .ok senderKey
        ∧ decodeFixedKey recipientPublicKey "recipient public key" = .ok recipientKey
        ∧ Seals P serde (P.x25519 senderSecretKey recipientKey) senderKey recipientKey
          ⟨sender, recipient, body⟩ box
        ∧ box.nonce = nonce ∧ encrypted = box.envelope senderPublicKey
  := by
  simp only [encryptMessage, deriveMessageKey, bind_eq_ok, orError_eq_ok, pure, Except.pure,
    Except.ok.injEq]
  constructor
  · rintro ⟨senderKey, hsender, recipientKey, hrecipient, key, hkey, plaintext, hplaintext,
      ciphertext, hciphertext, rfl⟩
    use senderKey, recipientKey,
      ⟨key, nonce, associatedData senderKey recipientKey, ciphertext⟩, hsender, hrecipient
    constructor
    · exact ⟨hkey, rfl, plaintext, hplaintext, hciphertext⟩
    · exact ⟨rfl, rfl⟩
  · rintro ⟨senderKey, recipientKey, box, hsender, hrecipient,
      ⟨hkey, hdata, plaintext, hplaintext, hciphertext⟩, rfl, rfl⟩
    rw [hdata] at hciphertext
    exact ⟨senderKey, hsender, recipientKey, hrecipient, box.key, hkey, plaintext, hplaintext,
      box.ciphertext, hciphertext, rfl⟩

/-- What a call of `encrypt_message` has sealed, read off its keys and the envelope it has
returned. -/
def EncryptedChatMessage.box (P : Primitives MessageKey) (senderSecretKey : Key)
    (senderPublicKey recipientPublicKey : String) (encrypted : EncryptedChatMessage) :
    Except Error (Sealed MessageKey) := do
  let senderKey ← decodeFixedKey senderPublicKey "sender public key"
  let recipientKey ← decodeFixedKey recipientPublicKey "recipient public key"
  let key ← deriveMessageKey P (P.x25519 senderSecretKey recipientKey) senderKey recipientKey
  let nonce ← decodeNonce encrypted.nonce
  let ciphertext ← orError (.text "ciphertext is not valid base64url")
    (Base64.decode encrypted.ciphertext)
  return ⟨key, nonce, associatedData senderKey recipientKey, ciphertext⟩

/-- The box of an envelope that `encrypt_message` has returned is sealed for the pair of
its keys, and the envelope is that of the box. -/
theorem seals_of_encryptMessage
    {P : Primitives MessageKey} {serde : JsonCodec} {nonce : Nonce}
    {sender recipient body : String} {senderSecretKey : Key}
    {senderPublicKey recipientPublicKey : String} {encrypted : EncryptedChatMessage}
    {box : Sealed MessageKey}
    (hencrypted : encryptMessage P serde nonce sender recipient body senderSecretKey
      senderPublicKey recipientPublicKey = .ok encrypted)
    (hbox : encrypted.box P senderSecretKey senderPublicKey recipientPublicKey = .ok box) :
  ∃ senderKey recipientKey,
    decodeFixedKey senderPublicKey "sender public key" = .ok senderKey
      ∧ decodeFixedKey recipientPublicKey "recipient public key" = .ok recipientKey
      ∧ Seals P serde (P.x25519 senderSecretKey recipientKey) senderKey recipientKey
        ⟨sender, recipient, body⟩ box
      ∧ encrypted = box.envelope senderPublicKey
  := by
  obtain ⟨senderKey, recipientKey, box', hsender, hrecipient, hseals, rfl, rfl⟩ :=
    encryptMessage_eq_ok.mp hencrypted
  use senderKey, recipientKey, hsender, hrecipient
  have hbox' : (box'.envelope senderPublicKey).box P senderSecretKey senderPublicKey
      recipientPublicKey = .ok box' := by
    simp only [EncryptedChatMessage.box, deriveMessageKey, bind_eq_ok, orError_eq_ok]
    use senderKey, hsender, recipientKey, hrecipient, box'.key, hseals.key, box'.nonce,
      decodeNonce_encode box'.nonce, box'.ciphertext, Base64.decode_encode box'.ciphertext
    rw [← hseals.associatedData]
    rfl
  rw [hbox] at hbox'
  cases hbox'
  exact ⟨hseals, rfl⟩

/-- Decryption succeeds when the version is right, the keys, the nonce and the ciphertext
decode, and the key of their pair opens the ciphertext. -/
theorem decryptMessage_eq_ok
    {P : Primitives MessageKey} {serde : JsonCodec} {recipientSecretKey : Key}
    {recipientPublicKey : String} {encrypted : EncryptedChatMessage}
    {message : PlaintextChatMessage} :
  decryptMessage P serde recipientSecretKey recipientPublicKey encrypted = .ok message
    ↔ encrypted.version = messageVersion ∧ ∃ senderKey recipientKey box,
      decodeFixedKey encrypted.senderEncryptionPublicKey "sender public key" = .ok senderKey
        ∧ decodeFixedKey recipientPublicKey "recipient public key" = .ok recipientKey
        ∧ decodeNonce encrypted.nonce = .ok box.nonce
        ∧ Base64.decode encrypted.ciphertext = some box.ciphertext
        ∧ Opens P serde (P.x25519 recipientSecretKey senderKey) senderKey recipientKey box message
  := by
  unfold decryptMessage
  by_cases hversion : encrypted.version = messageVersion
  · rw [if_neg (not_not_intro hversion)]
    simp only [deriveMessageKey, bind_eq_ok, orError_eq_ok, hversion, true_and]
    constructor
    · rintro ⟨senderKey, hsender, recipientKey, hrecipient, nonce, hnonce, ciphertext,
        hciphertext, key, hkey, plaintext, hplaintext, hmessage⟩
      use senderKey, recipientKey,
        ⟨key, nonce, associatedData senderKey recipientKey, ciphertext⟩, hsender, hrecipient,
        hnonce, hciphertext
      exact ⟨hkey, rfl, plaintext, hplaintext, hmessage⟩
    · rintro ⟨senderKey, recipientKey, box, hsender, hrecipient, hnonce, hciphertext,
        hkey, hdata, plaintext, hplaintext, hmessage⟩
      rw [hdata] at hplaintext
      exact ⟨senderKey, hsender, recipientKey, hrecipient, box.nonce, hnonce, box.ciphertext,
        hciphertext, box.key, hkey, plaintext, hplaintext, hmessage⟩
  · rw [if_pos hversion]
    simp [hversion, bind_eq_ok, throw, throwThe, MonadExceptOf.throw]

end Phantasma
