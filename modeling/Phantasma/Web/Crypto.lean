import Phantasma.Client.Crypto
import Phantasma.Web.Value

/-!
# Encryption in the browser client

The functions of `app.js` that encrypt and decrypt, over the same primitives as those of
the command-line client.  The libraries check the lengths of what they are given, and
`crypto_scalarmult` does not return a shared secret of zeros.

`encryptMessage_eq_ok` says when a message is encrypted, in the terms of `Seals`;
`decryptMessage_of_box` says when an envelope is decrypted.
-/

namespace Phantasma.Web

variable {MessageKey : Type}

/-- `state.identity`, as far as messages need it. -/
structure Identity where
  encryptionPublicKey : String
  encryptionSecretKey : Bytes

/-- `toBase64`. -/
def toBase64 (bytes : Bytes) : String :=
  Base64.encode bytes

/-- `fromBase64`. -/
def fromBase64 : Value → Except Thrown Bytes
  | some (.str text) => orException (Base64.decode text)
  | _ => throw .exception

/-- `associatedData`. -/
def associatedData (senderPublicKey recipientPublicKey : Bytes) : Bytes :=
  ascii "phantasma:v1:" ++ senderPublicKey ++ recipientPublicKey

/-- `sodium.crypto_scalarmult`. -/
def cryptoScalarmult (P : Primitives MessageKey) (secretKey publicKey : Bytes) :
    Except Thrown Key := do
  let secretKey ← orException (FixedBytes.tryInto 32 secretKey)
  let publicKey ← orException (FixedBytes.tryInto 32 publicKey)
  let sharedSecret := P.x25519 secretKey publicKey
  if sharedSecret = .zero 32 then
    throw .exception
  return sharedSecret

/-- `deriveMessageKey`. -/
def deriveMessageKey (P : Primitives MessageKey) (sharedSecret : Key)
    (senderPublicKey recipientPublicKey : Bytes) : Except Thrown MessageKey :=
  orException (P.hkdf (ascii "phantasma x25519 xchacha20poly1305 v1") sharedSecret
    (associatedData senderPublicKey recipientPublicKey))

/-- `encryptMessage`, with the nonce that `randombytes_buf` gives it. -/
def encryptMessage (P : Primitives MessageKey) (js : JsonCodec) (nonce : Nonce)
    (identity : Identity) (sender recipient body : String) (recipientPublicKeyText : Value) :
    Except Thrown Json := do
  let senderPublicKey ← fromBase64 (.ofString identity.encryptionPublicKey)
  let recipientPublicKey ← fromBase64 recipientPublicKeyText
  let sharedSecret ← cryptoScalarmult P identity.encryptionSecretKey recipientPublicKey
  let messageKey ← deriveMessageKey P sharedSecret senderPublicKey recipientPublicKey
  let plaintext ← orException (js.toVec
    (.obj [("from", .str sender), ("to", .str recipient), ("body", .str body)]))
  let aad := associatedData senderPublicKey recipientPublicKey
  let ciphertext ← orException (P.encrypt messageKey nonce aad plaintext)
  return .obj [("version", .int 1),
    ("sender_encryption_public_key", .str identity.encryptionPublicKey),
    ("nonce", .str (toBase64 nonce.bytes)), ("ciphertext", .str (toBase64 ciphertext))]

/-- `decryptMessage`. -/
def decryptMessage (P : Primitives MessageKey) (js : JsonCodec) (identity : Identity)
    (encrypted : Value) : Except Thrown Value := do
  let version ← encrypted.property "version"
  if !version.strictEq (some (.int 1)) then
    throw (.error "Unsupported encrypted message version.")
  let senderPublicKey ← fromBase64 (← encrypted.property "sender_encryption_public_key")
  let recipientPublicKey ← fromBase64 (.ofString identity.encryptionPublicKey)
  let sharedSecret ← cryptoScalarmult P identity.encryptionSecretKey senderPublicKey
  let messageKey ← deriveMessageKey P sharedSecret senderPublicKey recipientPublicKey
  let nonce ← fromBase64 (← encrypted.property "nonce")
  let ciphertext ← fromBase64 (← encrypted.property "ciphertext")
  let aad := associatedData senderPublicKey recipientPublicKey
  let nonce ← orException (FixedBytes.tryInto 24 nonce)
  let plaintext ← orException (P.decrypt messageKey nonce aad ciphertext)
  return some (← orException (js.fromSlice plaintext))

/-! ### When encryption and decryption succeed -/

theorem cryptoScalarmult_bytes
    (P : Primitives MessageKey) {secretKey publicKey : Key}
    (hne : P.x25519 secretKey publicKey ≠ .zero 32) :
  cryptoScalarmult P secretKey.bytes publicKey.bytes = .ok (P.x25519 secretKey publicKey)
  := by
  simp only [cryptoScalarmult, FixedBytes.tryInto_bytes, bind_eq_ok, orException_eq_ok]
  use secretKey, rfl, publicKey, rfl
  rw [if_neg hne]
  rfl

theorem cryptoScalarmult_eq_ok
    {P : Primitives MessageKey} {secretKey sharedSecret : Key} {publicKey : Bytes} :
  cryptoScalarmult P secretKey.bytes publicKey = .ok sharedSecret
    ↔ ∃ key : Key, publicKey = key.bytes ∧ P.x25519 secretKey key = sharedSecret
      ∧ sharedSecret ≠ .zero 32
  := by
  simp only [cryptoScalarmult, FixedBytes.tryInto_bytes, bind_eq_ok, orException_eq_ok,
    FixedBytes.tryInto_eq_some]
  constructor
  · rintro ⟨_, ⟨⟩, key, hkey, h⟩
    use key, hkey
    split at h
    · cases h
    · rename_i hne
      cases h
      use rfl
  · rintro ⟨key, hkey, rfl, hne⟩
    use secretKey, rfl, key, hkey
    rw [if_neg hne]
    rfl

theorem fromBase64_ofString {text : String} {bytes : Bytes} :
  fromBase64 (.ofString text) = .ok bytes ↔ Base64.decode text = some bytes
  := orException_eq_ok

/-- The envelope of a sealed message is what the browser client makes of it. -/
theorem encryptMessage_of_seals
    {P : Primitives MessageKey} {js : JsonCodec} {identity : Identity}
    {sender recipient body recipientText : String} {secretKey senderKey recipientKey : Key}
    {box : Sealed MessageKey} (hsecret : identity.encryptionSecretKey = secretKey.bytes)
    (hsender : Base64.decode identity.encryptionPublicKey = some senderKey.bytes)
    (hrecipient : Base64.decode recipientText = some recipientKey.bytes)
    (hne : P.x25519 secretKey recipientKey ≠ .zero 32)
    (hseals : Seals P js (P.x25519 secretKey recipientKey) senderKey recipientKey
      ⟨sender, recipient, body⟩ box) :
  encryptMessage P js box.nonce identity sender recipient body (.ofString recipientText)
    = .ok (box.envelope identity.encryptionPublicKey).toJson
  := by
  obtain ⟨hkey, hdata, plaintext, hplaintext, hciphertext⟩ := hseals
  rw [hdata] at hciphertext
  simp only [encryptMessage, bind_eq_ok, orException_eq_ok, hsecret]
  use senderKey.bytes, fromBase64_ofString.mpr hsender, recipientKey.bytes,
    fromBase64_ofString.mpr hrecipient, P.x25519 secretKey recipientKey,
    cryptoScalarmult_bytes P hne, box.key, orException_eq_ok.mpr hkey, plaintext,
    toWire_eq_ok.mp hplaintext, box.ciphertext, hciphertext
  rfl

theorem property_toJson (encrypted : EncryptedChatMessage) :
  Value.property "version" (some encrypted.toJson) = .ok (some (Json.ofU8 encrypted.version))
    ∧ Value.property "sender_encryption_public_key" (some encrypted.toJson)
      = .ok (.ofString encrypted.senderEncryptionPublicKey)
    ∧ Value.property "nonce" (some encrypted.toJson) = .ok (.ofString encrypted.nonce)
    ∧ Value.property "ciphertext" (some encrypted.toJson) = .ok (.ofString encrypted.ciphertext)
  := ⟨rfl, rfl, rfl, rfl⟩

theorem strictEq_ofU8 (version : UInt8) :
  Value.strictEq (some (Json.ofU8 version)) (some (.int 1)) = decide (version = messageVersion)
  := by
  rw [Json.ofU8, Value.strictEq]
  apply decide_eq_decide.mpr
  rw [← UInt8.toNat_inj]
  exact Nat.cast_inj (n := 1)

/-- An envelope is decrypted when its version is right, its texts decode, and the key that
is derived from the sender's key and the own one opens the ciphertext to a JSON text. -/
theorem decryptMessage_eq_ok
    {P : Primitives MessageKey} {js : JsonCodec} {identity : Identity}
    {encrypted : EncryptedChatMessage} {value : Value} :
  decryptMessage P js identity (some encrypted.toJson) = .ok value
    ↔ encrypted.version = messageVersion ∧ ∃ senderPublicKey recipientPublicKey sharedSecret key
        nonceBytes ciphertext nonce plaintext json,
      Base64.decode encrypted.senderEncryptionPublicKey = some senderPublicKey
        ∧ Base64.decode identity.encryptionPublicKey = some recipientPublicKey
        ∧ cryptoScalarmult P identity.encryptionSecretKey senderPublicKey = .ok sharedSecret
        ∧ deriveMessageKey P sharedSecret senderPublicKey recipientPublicKey = .ok key
        ∧ Base64.decode encrypted.nonce = some nonceBytes
        ∧ Base64.decode encrypted.ciphertext = some ciphertext
        ∧ FixedBytes.tryInto 24 nonceBytes = some nonce
        ∧ P.decrypt key nonce (associatedData senderPublicKey recipientPublicKey) ciphertext
          = some plaintext
        ∧ js.fromSlice plaintext = some json ∧ value = some json
  := by
  obtain ⟨hversion, hsenderText, hnonce, hciphertext⟩ := property_toJson encrypted
  simp only [decryptMessage, hversion, hsenderText, hnonce, hciphertext, ok_bind, strictEq_ofU8]
  by_cases hone : encrypted.version = messageVersion
  · simp only [hone, decide_true, Bool.not_true, Bool.false_eq_true, if_false, true_and,
      bind_eq_ok, orException_eq_ok, fromBase64_ofString]
    constructor
    · rintro ⟨senderPublicKey, hsender, recipientPublicKey, hrecipient, sharedSecret, hshared,
        key, hkey, nonceBytes, hnonceBytes, ciphertext, hciphertext, nonce, hnonce, plaintext,
        hplaintext, json, hjson, ⟨⟩⟩
      exact ⟨senderPublicKey, recipientPublicKey, sharedSecret, key, nonceBytes, ciphertext, nonce,
        plaintext, json, hsender, hrecipient, hshared, hkey, hnonceBytes, hciphertext, hnonce,
        hplaintext, hjson, rfl⟩
    · rintro ⟨senderPublicKey, recipientPublicKey, sharedSecret, key, nonceBytes, ciphertext,
        nonce, plaintext, json, hsender, hrecipient, hshared, hkey, hnonceBytes, hciphertext,
        hnonce, hplaintext, hjson, rfl⟩
      exact ⟨senderPublicKey, hsender, recipientPublicKey, hrecipient, sharedSecret, hshared,
        key, hkey, nonceBytes, hnonceBytes, ciphertext, hciphertext, nonce, hnonce, plaintext,
        hplaintext, json, hjson, rfl⟩
  · simp only [hone, decide_false, Bool.not_false, if_true, false_and, iff_false]
    rintro ⟨⟩

/-- A box that the recipient's key opens to a text is decrypted to the value of the
text. -/
theorem decryptMessage_of_box
    {P : Primitives MessageKey} {js : JsonCodec} {identity : Identity} {senderText : String}
    {secretKey senderKey recipientKey : Key} {box : Sealed MessageKey} {plaintext : Bytes}
    {json : Json} (hsecret : identity.encryptionSecretKey = secretKey.bytes)
    (hsender : Base64.decode senderText = some senderKey.bytes)
    (hrecipient : Base64.decode identity.encryptionPublicKey = some recipientKey.bytes)
    (hne : P.x25519 secretKey senderKey ≠ .zero 32)
    (hkey : P.hkdf keyDerivationSalt (P.x25519 secretKey senderKey)
      (Phantasma.associatedData senderKey recipientKey) = some box.key)
    (hdata : box.associatedData = Phantasma.associatedData senderKey recipientKey)
    (hplaintext : P.decrypt box.key box.nonce box.associatedData box.ciphertext = some plaintext)
    (hjson : js.fromSlice plaintext = some json) :
  decryptMessage P js identity (some (box.envelope senderText).toJson) = .ok (some json)
  := by
  rw [hdata] at hplaintext
  have hshared := cryptoScalarmult_bytes P hne
  rw [← hsecret] at hshared
  apply decryptMessage_eq_ok.mpr
  exact ⟨rfl, senderKey.bytes, recipientKey.bytes, P.x25519 secretKey senderKey, box.key,
    box.nonce.bytes, box.ciphertext, box.nonce, plaintext, json, hsender, hrecipient, hshared,
    orException_eq_ok.mpr hkey, Base64.decode_encode _, Base64.decode_encode _,
    FixedBytes.tryInto_bytes _, hplaintext, hjson, rfl⟩

end Phantasma.Web
