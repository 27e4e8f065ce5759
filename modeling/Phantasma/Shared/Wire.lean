import Phantasma.Shared.Json

/-!
# The shared types

The message types of the shared crate with their wire form, and its validators.  A
message is written as the object of its fields under their names in the source, and
read back with `Json.structMembers`; the text layer is the codec `serde`.
-/

namespace Phantasma

/-- An error as `anyhow` displays it: the text of a message of the program, or an error of
the JSON, HTTP or WebSocket library. -/
inductive Error where
  | serde
  | http
  | socket
  | text (message : String)
deriving DecidableEq

/-- The value of an option, or the error `err` when there is none. -/
def orError {α : Type} (err : Error) : Option α → Except Error α
  | some a => .ok a
  | none => .error err

theorem orError_eq_ok {α : Type} {err : Error} {o : Option α} {a : α} :
  orError err o = .ok a ↔ o = some a
  := by
  cases o <;> simp [orError]

/-- A computation that goes on after a fallible one has a value when both have one. -/
theorem bind_eq_ok
    {ε α β : Type} {x : Except ε α} {f : α → Except ε β} {b : β} :
  (x >>= f) = .ok b ↔ ∃ a, x = .ok a ∧ f a = .ok b
  := by
  cases x <;> simp [bind, Except.bind]

@[simp]
theorem ok_bind {ε α β : Type} (a : α) (f : α → Except ε β) :
  ((.ok a : Except ε α) >>= f) = f a
  := rfl

/-- A computation whose value is there ends with that value. -/
theorem exists_eq_ok {ε α : Type} {x : Except ε α} (h : x.toOption.isSome) :
  ∃ a, x = .ok a
  := by
  cases x with
  | ok a => exact ⟨a, rfl⟩
  | error err => cases h

theorem toOption_eq_some {ε α : Type} {x : Except ε α} {a : α} :
  x.toOption = some a ↔ x = .ok a
  := by
  cases x <;> simp [Except.toOption]

/-- The longest username, `MAX_USERNAME_LEN`. -/
def maxUsernameLen : ℕ := 64

/-- The characters of a username. -/
def isUsernameChar (ch : Char) : Bool :=
  ch.isAlphanum || ch = '-' || ch = '_' || ch = '.'

/-- `is_valid_username`. -/
def isValidUsername (username : String) : Bool :=
  !username.isEmpty && decide (username.utf8ByteSize ≤ maxUsernameLen) &&
    username.toList.all isUsernameChar

/-- The length of the text of a public key, `ED25519_PUBLIC_KEY_TEXT_LEN` and
`X25519_PUBLIC_KEY_TEXT_LEN`. -/
def publicKeyTextLen : ℕ := 43

/-- The characters of the text of a public key. -/
def isPublicKeyChar (ch : Char) : Bool :=
  ch.isAlphanum || ch = '-' || ch = '_'

/-- The common check of the two validators of public keys. -/
def isValidPublicKeyText (publicKey : String) : Bool :=
  decide (publicKey.utf8ByteSize = publicKeyTextLen) && publicKey.toList.all isPublicKeyChar

/-- `is_valid_ed25519_public_key_text`. -/
def isValidEd25519PublicKeyText (publicKey : String) : Bool :=
  isValidPublicKeyText publicKey

/-- `is_valid_x25519_public_key_text`. -/
def isValidX25519PublicKeyText (publicKey : String) : Bool :=
  isValidPublicKeyText publicKey

/-- `serde_json::to_vec` of the value of a message. -/
def toWire (serde : JsonCodec) (value : Json) : Except Error Bytes :=
  match serde.toVec value with
  | some bytes => .ok bytes
  | none => .error .serde

/-- `serde_json::from_slice` at a message type. -/
def fromWire {α : Type} (serde : JsonCodec) (ofJson : Json → Option α) (bytes : Bytes) :
    Except Error α :=
  match (serde.fromSlice bytes).bind ofJson with
  | some message => .ok message
  | none => .error .serde

theorem toWire_eq_ok {serde : JsonCodec} {value : Json} {bytes : Bytes} :
  toWire serde value = .ok bytes ↔ serde.toVec value = some bytes
  := by
  rw [toWire]
  cases serde.toVec value <;> simp

theorem toOption_toWire (serde : JsonCodec) (value : Json) :
  (toWire serde value).toOption = serde.toVec value
  := by
  rw [toWire]
  cases serde.toVec value <;> rfl

theorem fromWire_eq_ok
    {α : Type} {serde : JsonCodec} {ofJson : Json → Option α} {bytes : Bytes} {message : α} :
  fromWire serde ofJson bytes = .ok message
    ↔ ∃ value, serde.fromSlice bytes = some value ∧ ofJson value = some message
  := by
  rw [fromWire, ← Option.bind_eq_some_iff]
  cases (serde.fromSlice bytes).bind ofJson <;> simp

/-- What is written for a plain value that stands for a message is read back as that
message. -/
theorem fromWire_toWire
    {α : Type} {writer reader : JsonCodec} (hcodec : writer.Inverts reader)
    {ofJson : Json → Option α} {value : Json} {message : α} (hplain : value.plain)
    (hvalue : ofJson value = some message) :
  ∃ bytes, toWire writer value = .ok bytes ∧ fromWire reader ofJson bytes = .ok message
  := by
  obtain ⟨bytes, hwrite, hread⟩ := hcodec value hplain
  use bytes, toWire_eq_ok.mpr hwrite
  apply fromWire_eq_ok.mpr ⟨value, hread, hvalue⟩

/-- `PlaintextChatMessage`. -/
structure PlaintextChatMessage where
  «from» : String
  «to» : String
  body : String
deriving DecidableEq

namespace PlaintextChatMessage

def toJson (message : PlaintextChatMessage) : Json :=
  .obj [("from", .str message.from), ("to", .str message.to), ("body", .str message.body)]

def ofJson (value : Json) : Option PlaintextChatMessage := do
  let [sender, recipient, body] ← value.structMembers ["from", "to", "body"] | none
  return ⟨← sender.asString, ← recipient.asString, ← body.asString⟩

def toWireBytes (serde : JsonCodec) (message : PlaintextChatMessage) : Except Error Bytes :=
  toWire serde message.toJson

def fromWireBytes (serde : JsonCodec) (bytes : Bytes) : Except Error PlaintextChatMessage :=
  fromWire serde ofJson bytes

theorem plain_toJson (message : PlaintextChatMessage) :
  message.toJson.plain
  := by
  simp [toJson, Json.plain, Json.plainMembers]

@[simp]
theorem ofJson_toJson (message : PlaintextChatMessage) :
  ofJson message.toJson = some message
  := rfl

end PlaintextChatMessage

/-! ### Encrypted messages -/

/-- `EncryptedChatMessage`, the envelope the relay transports. -/
structure EncryptedChatMessage where
  version : UInt8
  senderEncryptionPublicKey : String
  nonce : String
  ciphertext : String
deriving DecidableEq

namespace EncryptedChatMessage

def toJson (message : EncryptedChatMessage) : Json :=
  .obj [("version", Json.ofU8 message.version),
    ("sender_encryption_public_key", .str message.senderEncryptionPublicKey),
    ("nonce", .str message.nonce), ("ciphertext", .str message.ciphertext)]

def ofJson (value : Json) : Option EncryptedChatMessage := do
  let [version, key, nonce, ciphertext] ←
    value.structMembers ["version", "sender_encryption_public_key", "nonce", "ciphertext"] | none
  return ⟨← version.asU8, ← key.asString, ← nonce.asString, ← ciphertext.asString⟩

def toWireBytes (serde : JsonCodec) (message : EncryptedChatMessage) : Except Error Bytes :=
  toWire serde message.toJson

def fromWireBytes (serde : JsonCodec) (bytes : Bytes) : Except Error EncryptedChatMessage :=
  fromWire serde ofJson bytes

theorem plain_toJson (message : EncryptedChatMessage) :
  message.toJson.plain
  := by
  have hlt : message.version.toNat < 256 := message.version.toNat_lt
  simp [toJson, Json.ofU8, Json.plain, Json.plainMembers]
  omega

@[simp]
theorem ofJson_toJson (message : EncryptedChatMessage) :
  ofJson message.toJson = some message
  := by
  have hversion := Json.asU8_ofU8 message.version
  simp [ofJson, toJson, Json.structMembers, Json.member, Json.asString, hversion]

end EncryptedChatMessage

/-! ### Routed messages -/

/-- `RoutedEncryptedMessage`, an envelope with the names the relay routes it by. -/
structure RoutedEncryptedMessage where
  «from» : String
  «to» : String
  encrypted : EncryptedChatMessage
deriving DecidableEq

namespace RoutedEncryptedMessage

def toJson (message : RoutedEncryptedMessage) : Json :=
  .obj [("from", .str message.from), ("to", .str message.to),
    ("encrypted", message.encrypted.toJson)]

def ofJson (value : Json) : Option RoutedEncryptedMessage := do
  let [sender, recipient, encrypted] ← value.structMembers ["from", "to", "encrypted"] | none
  return ⟨← sender.asString, ← recipient.asString, ← EncryptedChatMessage.ofJson encrypted⟩

def toWireBytes (serde : JsonCodec) (message : RoutedEncryptedMessage) : Except Error Bytes :=
  toWire serde message.toJson

def fromWireBytes (serde : JsonCodec) (bytes : Bytes) : Except Error RoutedEncryptedMessage :=
  fromWire serde ofJson bytes

theorem plain_toJson (message : RoutedEncryptedMessage) :
  message.toJson.plain
  := by
  simp [toJson, Json.plain, Json.plainMembers, EncryptedChatMessage.plain_toJson]

@[simp]
theorem ofJson_toJson (message : RoutedEncryptedMessage) :
  ofJson message.toJson = some message
  := by
  simp [ofJson, toJson, Json.structMembers, Json.member, Json.asString]

end RoutedEncryptedMessage

/-! ### Registrations and directory entries -/

/-- `PublicKeyRegistration`, what a client registers. -/
structure PublicKeyRegistration where
  username : String
  identityPublicKey : String
  encryptionPublicKey : String
deriving DecidableEq

/-- A registration as the relay reads it. -/
def PublicKeyRegistration.ofJson (value : Json) : Option PublicKeyRegistration := do
  let [username, identityKey, encryptionKey] ←
    value.structMembers ["username", "identity_public_key", "encryption_public_key"] | none
  return ⟨← username.asString, ← identityKey.asString, ← encryptionKey.asString⟩

/-- `PublicKeyEntry`, what the directory holds for a username. -/
structure PublicKeyEntry where
  username : String
  identityPublicKey : String
  encryptionPublicKey : String
deriving DecidableEq

namespace PublicKeyEntry

def toJson (entry : PublicKeyEntry) : Json :=
  .obj [("username", .str entry.username), ("identity_public_key", .str entry.identityPublicKey),
    ("encryption_public_key", .str entry.encryptionPublicKey)]

def ofJson (value : Json) : Option PublicKeyEntry := do
  let [username, identityKey, encryptionKey] ←
    value.structMembers ["username", "identity_public_key", "encryption_public_key"] | none
  return ⟨← username.asString, ← identityKey.asString, ← encryptionKey.asString⟩

theorem plain_toJson (entry : PublicKeyEntry) :
  entry.toJson.plain
  := by
  simp [toJson, Json.plain, Json.plainMembers]

@[simp]
theorem ofJson_toJson (entry : PublicKeyEntry) :
  ofJson entry.toJson = some entry
  := rfl

end PublicKeyEntry

end Phantasma
