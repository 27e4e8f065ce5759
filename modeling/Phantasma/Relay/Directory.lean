import Phantasma.Base.Url
import Phantasma.Relay.Registration
import Std.Data.ExtTreeMap

/-!
# The directory of public keys

The table `public_keys` with its two statements, the handlers of `main.rs` over them, and
the routes by which a request finds its handler.  `lookupPublicKey_after` says what the
directory holds after any registrations: for each username, what was accepted last.
-/

namespace Phantasma

/-- The columns of `public_keys` that are read, besides the username, which is the key. -/
structure PublicKeyRow where
  identityPublicKey : String
  encryptionPublicKey : String

/-- The table `public_keys`. -/
structure Directory where
  publicKeys : Std.ExtTreeMap String PublicKeyRow

namespace Directory

/-- The table without rows. -/
def empty : Directory where
  publicKeys := ∅

/-- `register_public_key` of the directory: a row is inserted, or updated if there is one
for the username. -/
def registerPublicKey (directory : Directory) (registration : PublicKeyRegistration) :
    Directory where
  publicKeys := directory.publicKeys.insert registration.username
    ⟨registration.identityPublicKey, registration.encryptionPublicKey⟩

/-- `lookup_public_key` of the directory. -/
def lookupPublicKey (directory : Directory) (username : String) : Option PublicKeyEntry :=
  directory.publicKeys[username]?.map fun row =>
    ⟨username, row.identityPublicKey, row.encryptionPublicKey⟩

end Directory

/-- The entry for a registration. -/
def PublicKeyRegistration.entry (registration : PublicKeyRegistration) : PublicKeyEntry where
  username := registration.username
  identityPublicKey := registration.identityPublicKey
  encryptionPublicKey := registration.encryptionPublicKey

namespace Directory

theorem lookupPublicKey_empty (username : String) :
  empty.lookupPublicKey username = none
  := by
  rw [lookupPublicKey, empty, Std.ExtTreeMap.getElem?_empty, Option.map_none]

theorem lookupPublicKey_registerPublicKey
    (directory : Directory) (registration : PublicKeyRegistration) (username : String) :
  (directory.registerPublicKey registration).lookupPublicKey username
    = if registration.username = username then some registration.entry
      else directory.lookupPublicKey username
  := by
  rw [lookupPublicKey, registerPublicKey, Std.ExtTreeMap.getElem?_insert]
  simp only [Std.LawfulEqCmp.compare_eq_iff_eq]
  split
  · rename_i heq
    subst heq
    rfl
  · rfl

end Directory

/-! ### The handlers -/

/-- The number of a status. -/
def StatusCode.code : StatusCode → ℕ
  | .badRequest => 400

/-- `internal_error`. -/
def internalError : ℕ × String :=
  (500, "directory database error")

/-- The handler `register_public_key`, where `succeeds` says whether the database call does:
its result and the directory after it. -/
def handleRegistration (directory : Directory) (succeeds : Bool)
    (registration : PublicKeyRegistration) :
    Except (ℕ × String) PublicKeyEntry × Directory :=
  match validateRegistration registration with
  | .error (status, text) => (.error (status.code, text), directory)
  | .ok () =>
      if succeeds then (.ok registration.entry, directory.registerPublicKey registration)
      else (.error internalError, directory)

/-- The handler `lookup_public_key`, where `succeeds` says whether the database call does. -/
def handleLookup (directory : Directory) (succeeds : Bool) (username : String) :
    Except (ℕ × String) PublicKeyEntry := do
  if !isValidUsername username then
    throw (400, "username must use only letters, numbers, '.', '-', or '_'")
  if !succeeds then
    throw internalError
  match directory.lookupPublicKey username with
  | some entry => return entry
  | none => throw (404, "public key not found")

/-! ### Registrations one after another -/

/-- A registration that reaches its handler, and whether the database call succeeds. -/
structure RegistrationRequest where
  registration : PublicKeyRegistration
  succeeds : Bool

/-- The directory after the request. -/
def Directory.take (directory : Directory) (request : RegistrationRequest) : Directory :=
  (handleRegistration directory request.succeeds request.registration).2

/-- The directory after requests, the oldest first. -/
def Directory.after (requests : List RegistrationRequest) : Directory :=
  requests.foldl Directory.take .empty

/-- The relay accepts the registration. -/
def RegistrationRequest.isAccepted (request : RegistrationRequest) : Bool :=
  request.succeeds && (validateRegistration request.registration).toOption.isSome

/-- What was accepted last for a username. -/
def lastAccepted (requests : List RegistrationRequest) (username : String) :
    Option PublicKeyEntry :=
  (requests.reverse.find? fun request =>
    request.isAccepted && request.registration.username = username).map fun request =>
      request.registration.entry

/-- A request changes the directory just when it is accepted. -/
theorem take_eq (directory : Directory) (request : RegistrationRequest) :
  directory.take request
    = if request.isAccepted then directory.registerPublicKey request.registration else directory
  := by
  rw [Directory.take, handleRegistration, RegistrationRequest.isAccepted]
  cases validateRegistration request.registration with
  | error err => cases request.succeeds <;> rfl
  | ok => cases request.succeeds <;> rfl

/-- The directory holds what was accepted last. -/
theorem lookupPublicKey_after (requests : List RegistrationRequest) (username : String) :
  (Directory.after requests).lookupPublicKey username = lastAccepted requests username
  := by
  induction requests using List.reverseRecOn with
  | nil => apply Directory.lookupPublicKey_empty
  | append_singleton requests request ih =>
      rw [Directory.after, List.foldl_append, ← Directory.after, List.foldl_cons, List.foldl_nil,
        take_eq, lastAccepted, List.reverse_append, List.reverse_singleton, List.singleton_append,
        List.find?_cons]
      by_cases haccepted : request.isAccepted
      · rw [if_pos haccepted, Directory.lookupPublicKey_registerPublicKey, haccepted, Bool.true_and]
        by_cases heq : request.registration.username = username
        · rw [if_pos heq, decide_eq_true heq]
          rfl
        · rw [if_neg heq, decide_eq_false heq]
          apply ih
      · rw [if_neg haccepted, Bool.eq_false_iff.mpr haccepted, Bool.false_and]
        apply ih

/-! ### The routes -/

/-- A route of the relay, with what stands in the path in place of its parameter. -/
inductive Route where
  | root
  | users
  | publicKey (username : List Char)
  | ws (username : List Char)
deriving DecidableEq

/-- The route of the target of a request.  A parameter is one segment and not empty. -/
def route (target : List Char) : Option Route :=
  match List.splitOnP (· = '/') target with
  | [[], []] => some .root
  | [[], first] => if first = "users".toList then some .users else none
  | [[], first, username] =>
      if first = "ws".toList ∧ username ≠ [] then some (.ws username) else none
  | [[], first, username, last] =>
      if first = "users".toList ∧ username ≠ [] ∧ last = "public-key".toList then
        some (.publicKey username)
      else none
  | _ => none

/-- An answer of the relay: the status and the body. -/
structure Answer where
  status : ℕ
  body : Bytes

/-- The answer for an error of a handler. -/
def Answer.ofError (err : ℕ × String) : Answer where
  status := err.1
  body := err.2.toList.flatMap String.utf8EncodeChar

/-- The answer to a `GET` request that is not an upgrade.  For a status that the framework
answers by itself, `framework` is the body. -/
def answerGet (serde : JsonCodec) (framework : ℕ → Bytes) (directory : Directory)
    (succeeds : Bool) (target : List Char) : Answer :=
  match route target with
  | none => ⟨404, framework 404⟩
  | some .root => .ofError (200, "Phantasma relay server\n")
  | some .users => ⟨405, framework 405⟩
  | some (.ws _) => ⟨400, framework 400⟩
  | some (.publicKey username) =>
      match Url.decode username with
      | none => ⟨400, framework 400⟩
      | some username =>
          match handleLookup directory succeeds (String.ofList username) with
          | .error err => .ofError err
          | .ok entry =>
              match serde.toVec entry.toJson with
              | none => ⟨500, framework 500⟩
              | some body => ⟨200, body⟩

end Phantasma
