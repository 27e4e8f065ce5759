import Phantasma.Base.FileSystem
import Phantasma.Base.Utf8
import Phantasma.Client.Session

/-!
# The identity file

The functions of `identity.rs` that load the identity of a user, create it, or upgrade it
from the format without encryption keys.  They are programs over the content of the
identity file; what comes from outside in one call, the random keys and how the calls to
the file system end, is given to the call as `Attempt`.
-/

namespace Phantasma

/-- The verifying key of an Ed25519 signing key, and the arrays that
`VerifyingKey::from_bytes` takes, verifying keys among them. -/
structure Ed25519 where
  verifyingKey : Key → Key
  isVerifyingKey : Key → Bool
  isVerifyingKey_verifyingKey : ∀ signingKey, isVerifyingKey (verifyingKey signingKey)

/-- `Identity`, with all of its fields. -/
structure LoadedIdentity extends Identity where
  identityPublicKey : String
  path : String
  wasCreated : Bool

/-- What stays the same between two calls: the libraries and the root directory. -/
structure IdentityStore where
  ed25519 : Ed25519
  x25519Base : Key → Key
  serde : JsonCodec
  pretty : JsonCodec
  root : String

/-- What comes from outside in one call: whether `path.exists()` sees a file that is there,
whether the file can be read and the directory created, how the file is written, and the
keys that are drawn. -/
structure Attempt where
  seesFile : Bool
  reads : Bool
  createsDir : Bool
  write : WriteOutcome
  signingKey : Key
  encryptionSecret : Key

/-! ### The two formats -/

/-- `StoredIdentity`. -/
structure StoredIdentity where
  identityPublicKey : String
  identitySecretKey : String
  encryptionPublicKey : String
  encryptionSecretKey : String
deriving DecidableEq

/-- `LegacyStoredIdentity`. -/
structure LegacyStoredIdentity where
  publicKey : String
  secretKey : String
deriving DecidableEq

/-- `Value::get`.  Of two members of one name, a `Value` keeps the last. -/
def Json.get (name : String) : Json → Option Json
  | .obj members => (members.reverse.find? fun m => m.1 = name).map Prod.snd
  | _ => none

/-- The values of the members of a struct, as `from_value` takes them from a `Value`. -/
def Json.valueMembers (names : List String) : Json → Option (List Json)
  | .obj members => names.mapM fun name => (Json.obj members).get name
  | .arr elements => if elements.length = names.length then some elements else none
  | _ => none

namespace StoredIdentity

def toJson (stored : StoredIdentity) : Json :=
  .obj [("identity_public_key", .str stored.identityPublicKey),
    ("identity_secret_key", .str stored.identitySecretKey),
    ("encryption_public_key", .str stored.encryptionPublicKey),
    ("encryption_secret_key", .str stored.encryptionSecretKey)]

def ofValue (value : Json) : Option StoredIdentity := do
  let [identityKey, identitySecret, encryptionKey, encryptionSecret] ← value.valueMembers
    ["identity_public_key", "identity_secret_key", "encryption_public_key",
      "encryption_secret_key"] | none
  return ⟨← identityKey.asString, ← identitySecret.asString, ← encryptionKey.asString,
    ← encryptionSecret.asString⟩

theorem plain_toJson (stored : StoredIdentity) :
  stored.toJson.plain
  := by
  simp [toJson, Json.plain, Json.plainMembers]

@[simp]
theorem ofValue_toJson (stored : StoredIdentity) :
  ofValue stored.toJson = some stored
  := rfl

end StoredIdentity

def LegacyStoredIdentity.ofValue (value : Json) : Option LegacyStoredIdentity := do
  let [publicKey, secretKey] ← value.valueMembers ["public_key", "secret_key"] | none
  return ⟨← publicKey.asString, ← secretKey.asString⟩

/-! ### Files -/

/-- `Path::join`, for a relative name. -/
def joinPath (dir name : String) : String :=
  if dir.isEmpty || dir.toList.getLast? = some '/' then dir ++ name else s!"{dir}/{name}"

/-- `fs::write`: whether it succeeds, and the file after it. -/
def WriteOutcome.write (outcome : WriteOutcome) (contents : Bytes) (file : Option Bytes) :
    Bool × Option Bytes :=
  match outcome with
  | .notOpened => (false, file)
  | .stopped written => (false, some (contents.take written))
  | .complete => (true, some contents)

/-- A function on the identity file. -/
abbrev FileRun := Program (Option Bytes) Error

/-- `write_secret_file`, on Unix: it does not open a file that exists. -/
def writeSecretFile (outcome : WriteOutcome) (contents : Bytes) (file : Option Bytes) :
    Bool × Option Bytes :=
  if file.isSome then (false, file) else outcome.write contents file

/-- A write with the error `err` when it fails. -/
def writeOrError (err : Error) (write : Option Bytes → Bool × Option Bytes) : FileRun Unit := do
  let (succeeds, file) := write (← get)
  modify fun _ => file
  if !succeeds then
    throw err

/-- `fs::read_to_string`: the bytes of the file, when they are a text. -/
def readToString (attempt : Attempt) (path : String) : FileRun Bytes := do
  let text := (← get).filter fun bytes => attempt.reads && (Utf8.decode bytes).isSome
  Program.ofExcept (orError (.text s!"failed to read {path}") text)

/-! ### Checking an identity -/

/-- `decode_key`. -/
def decodeKey (encoded label : String) : Except Error Key :=
  decodeFixedKey encoded label

section

variable (store : IdentityStore)

/-- What `validate_stored_identity` and `upgrade_legacy_identity` have in common: the
identity keys match. -/
def checkIdentityKeys (path identitySecretKey identityPublicKey : String) : Except Error Unit := do
  let secretKey ← decodeKey identitySecretKey "identity secret key"
  let publicKey ← decodeKey identityPublicKey "identity public key"
  if !store.ed25519.isVerifyingKey publicKey then
    throw (.text s!"{path} contains an invalid identity public key")
  if store.ed25519.verifyingKey secretKey ≠ publicKey then
    throw (.text s!"{path} contains an identity public key that does not match its secret key")

/-- `validate_stored_identity`. -/
def validateStoredIdentity (path : String) (stored : StoredIdentity) : Except Error Unit := do
  checkIdentityKeys store path stored.identitySecretKey stored.identityPublicKey
  let encryptionSecretKey ← decodeKey stored.encryptionSecretKey "encryption secret key"
  let encryptionPublicKey ← decodeKey stored.encryptionPublicKey "encryption public key"
  if store.x25519Base encryptionSecretKey ≠ encryptionPublicKey then
    throw (.text s!"{path} contains an encryption public key that does not match its secret key")

/-! ### Loading, upgrading and creating -/

/-- The identity with the given identity keys and a drawn encryption key. -/
def StoredIdentity.withEncryption (identityPublicKey identitySecretKey : String)
    (encryptionSecret : Key) : StoredIdentity where
  identityPublicKey := identityPublicKey
  identitySecretKey := identitySecretKey
  encryptionPublicKey := encodeKey (store.x25519Base encryptionSecret)
  encryptionSecretKey := encodeKey encryptionSecret

/-- What `upgrade_legacy_identity` makes of the identity. -/
def LegacyStoredIdentity.upgraded (legacy : LegacyStoredIdentity) (attempt : Attempt) :
    StoredIdentity :=
  .withEncryption store legacy.publicKey legacy.secretKey attempt.encryptionSecret

/-- What `load_or_create_in` creates. -/
def Attempt.created (attempt : Attempt) : StoredIdentity :=
  .withEncryption store (encodeKey (store.ed25519.verifyingKey attempt.signingKey))
    (encodeKey attempt.signingKey) attempt.encryptionSecret

variable (attempt : Attempt)

/-- `upgrade_legacy_identity`. -/
def upgradeLegacyIdentity (path : String) (value : Json) : FileRun StoredIdentity := do
  let legacy ← Program.ofExcept
    (orError (.text s!"failed to parse {path}") (LegacyStoredIdentity.ofValue value))
  Program.ofExcept (checkIdentityKeys store path legacy.secretKey legacy.publicKey)
  let stored := legacy.upgraded store attempt
  let json ← Program.ofExcept (toWire store.pretty stored.toJson)
  writeOrError (.text s!"failed to update {path}") (attempt.write.write json)
  return stored

/-- `load_identity_file`. -/
def loadIdentityFile (path : String) : FileRun StoredIdentity := do
  let text ← readToString attempt path
  let value ← Program.ofExcept
    (orError (.text s!"failed to parse {path}") (store.serde.fromSlice text))
  let stored ←
    if (value.get "identity_public_key").isSome then
      Program.ofExcept (orError (.text s!"failed to parse {path}") (StoredIdentity.ofValue value))
    else upgradeLegacyIdentity store attempt path value
  Program.ofExcept (validateStoredIdentity store path stored)
  return stored

/-- The path of the identity file of `username`. -/
def IdentityStore.path (username : String) : String :=
  joinPath (joinPath store.root "identities") s!"{username}.json"

/-- `load_or_create_in`, on Unix. -/
def loadOrCreateIn (username : String) : FileRun LoadedIdentity := do
  if !isValidUsername username then
    throw (.text "username must use only letters, numbers, '.', '-', or '_'")
  let identityDir := joinPath store.root "identities"
  let path := store.path username
  if attempt.seesFile && (← get).isSome then
    let stored ← loadIdentityFile store attempt path
    let encryptionSecretKey ←
      Program.ofExcept (decodeKey stored.encryptionSecretKey "encryption secret key")
    return {
      identityPublicKey := stored.identityPublicKey
      encryptionPublicKey := stored.encryptionPublicKey
      encryptionSecretKey := encryptionSecretKey
      path := path
      wasCreated := false }
  if !attempt.createsDir then
    throw (.text s!"failed to create {identityDir}")
  let stored := attempt.created store
  let json ← Program.ofExcept (toWire store.pretty stored.toJson)
  writeOrError (.text s!"failed to write {path}") (writeSecretFile attempt.write json)
  return {
    identityPublicKey := stored.identityPublicKey
    encryptionPublicKey := stored.encryptionPublicKey
    encryptionSecretKey := attempt.encryptionSecret
    path := path
    wasCreated := true }

/-- `load_or_create_in` of `identity.rs` where the system is not Unix: there
`write_secret_file` is `fs::write`, which opens a file that exists. -/
def loadOrCreateElsewhere (username : String) : FileRun LoadedIdentity := do
  if !isValidUsername username || (attempt.seesFile && (← get).isSome) then
    loadOrCreateIn store attempt username
  else
    let identityDir := joinPath store.root "identities"
    let path := store.path username
    if !attempt.createsDir then
      throw (.text s!"failed to create {identityDir}")
    let stored := attempt.created store
    let json ← Program.ofExcept (toWire store.pretty stored.toJson)
    writeOrError (.text s!"failed to write {path}") (attempt.write.write json)
    return {
      identityPublicKey := stored.identityPublicKey
      encryptionPublicKey := stored.encryptionPublicKey
      encryptionSecretKey := attempt.encryptionSecret
      path := path
      wasCreated := true }

end

/-- `load_or_create_in` of `identity.rs`, as it is compiled for the system of the files. -/
def loadOrCreateOn (fs : FileSystem) (store : IdentityStore) (attempt : Attempt)
    (username : String) : FileRun LoadedIdentity :=
  if fs.windows then loadOrCreateElsewhere store attempt username
  else loadOrCreateIn store attempt username

end Phantasma
