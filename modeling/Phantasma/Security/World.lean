import Mathlib.Logic.Function.Basic
import Phantasma.Base.TransitionSystem
import Phantasma.Client.Calls

/-!
# Honest users and an attacker

A world has the clients of honest users and an attacker who is the relay, the network and
everybody else.  A frame that a client receives and an answer to a lookup are whatever
the attacker wants.  What the attacker cannot do is to seal a message under a key that
only two honest users can derive, and to have a ciphertext opened that nobody has
sealed: the cipher of a client opens the boxes that honest users and the attacker have
sealed so far, and no others.
-/

namespace Phantasma

variable {MessageKey : Type}

/-- The primitives as symbols: a derived key determines what it was derived from, and
what was encrypted is what is decrypted. -/
structure Primitives.Symbolic (P : Primitives MessageKey) : Prop where
  hkdf_injective : ∀ {secret secret' info info' key},
    P.hkdf keyDerivationSalt secret info = some key →
    P.hkdf keyDerivationSalt secret' info' = some key → secret = secret' ∧ info = info'
  decrypt_encrypt : ∀ {key nonce data text ciphertext},
    P.encrypt key nonce data text = some ciphertext →
    P.decrypt key nonce data ciphertext = some text

/-- The primitives with a cipher that opens nothing but the given boxes. -/
def Primitives.opening [DecidableEq MessageKey] (P : Primitives MessageKey)
    (boxes : List (Sealed MessageKey)) : Primitives MessageKey :=
  { P with
    decrypt := fun key nonce data ciphertext =>
      if ⟨key, nonce, data, ciphertext⟩ ∈ boxes then P.decrypt key nonce data ciphertext
      else none }

/-- The honest users, with the names and the identities their clients were started with.
The key text of an identity is that of its secret, and no two users have one key. -/
structure Users (User : Type) (P : Primitives MessageKey) (serde : JsonCodec) where
  pretty : JsonCodec
  endpoints : User → ServerEndpoints
  name : User → String
  identity : User → Identity
  derived : ∀ A, (Base64.decode (identity A).encryptionPublicKey).bind (FixedBytes.tryInto 32)
    = some (P.x25519Base (identity A).encryptionSecretKey)
  distinct : Function.Injective fun A => P.x25519Base (identity A).encryptionSecretKey

namespace Users

variable {User : Type} {P : Primitives MessageKey} {serde : JsonCodec}
    (users : Users User P serde)

def secretKey (A : User) : Key :=
  (users.identity A).encryptionSecretKey

def publicKey (A : User) : Key :=
  P.x25519Base (users.secretKey A)

/-- The setup of a user's client, with the given primitives. -/
def setup (primitives : Primitives MessageKey) (A : User) : Setup MessageKey where
  primitives := primitives
  serde := serde
  pretty := users.pretty
  endpoints := users.endpoints A
  name := users.name A
  identity := users.identity A

/-- The attacker can derive the key: it is not derived from the shared secret of two honest
users. -/
def CanDerive (key : MessageKey) : Prop :=
  ∀ A B info, users.publicKey A ≠ users.publicKey B →
    P.hkdf keyDerivationSalt (P.x25519 (users.secretKey A) (users.publicKey B)) info ≠ some key

/-- The box that a user has sealed in an event of the user's client. -/
def box : User × Event → Option (Sealed MessageKey)
  | (A, .encrypted _ _ recipientPublicKey encrypted) =>
      (encrypted.box P (users.secretKey A) (users.identity A).encryptionPublicKey
        recipientPublicKey).toOption
  | _ => none

theorem box_eq_some {users : Users User P serde} {A : User} {event : Event}
    {box : Sealed MessageKey} :
  users.box (A, event) = some box
    ↔ ∃ recipient body publicKey encrypted,
      event = .encrypted recipient body publicKey encrypted
        ∧ EncryptedChatMessage.box P (users.secretKey A) (users.identity A).encryptionPublicKey
          publicKey encrypted = .ok box
  := by
  cases event with
  | encrypted recipient body publicKey encrypted =>
      simp only [Users.box, Event.encrypted.injEq, toOption_eq_some]
      grind
  | _ => simp [Users.box]

end Users

/-- The clients of the honest users, the boxes that the attacker has sealed, and what the
clients have done, the oldest first. -/
structure World (User MessageKey : Type) where
  client : User → Client
  forged : List (Sealed MessageKey)
  history : List (User × Event)

namespace World

variable {User : Type} {P : Primitives MessageKey} {serde : JsonCodec}

/-- A step of the world: a client is given a command or a frame, or the attacker seals a
box. -/
inductive Action (User MessageKey : Type) where
  | add (A : User) (outside : Outside) (username : String)
  | send (A : User) (outside : Outside) (rest : String)
  | receive (A : User) (outside : Outside) (bytes : Bytes)
  | forge (box : Sealed MessageKey)

/-- Nothing has happened; the contact books are arbitrary. -/
structure Initial (w : World User MessageKey) : Prop where
  forged : w.forged = []
  history : w.history = []

/-- The boxes that have been sealed. -/
def boxes (users : Users User P serde) (w : World User MessageKey) : List (Sealed MessageKey) :=
  w.forged ++ w.history.filterMap users.box

/-- The client of `A` at the start of a call, with no events. -/
def idle (w : World User MessageKey) (A : User) : Client :=
  { w.client A with events := [] }

variable [DecidableEq User]

/-- The world after a call of the client of `A` that has left `client`. -/
def moveTo (w : World User MessageKey) (A : User) (client : Client) :
    World User MessageKey :=
  { w with
    client := Function.update w.client A client
    history := w.history ++ client.events.map fun event => (A, event) }

@[simp]
theorem history_moveTo (w : World User MessageKey) (A : User) (client : Client) :
  (w.moveTo A client).history = w.history ++ client.events.map fun event => (A, event)
  := rfl

/-- What is new in the history are the events of the client that has moved. -/
theorem mem_history_moveTo
    {w : World User MessageKey} {A B : User} {client : Client} {event : Event} :
  (A, event) ∈ (w.moveTo B client).history
    ↔ (A, event) ∈ w.history ∨ B = A ∧ event ∈ client.events
  := by
  rw [history_moveTo, List.mem_append]
  apply or_congr_right
  constructor
  · intro hnew
    obtain ⟨_, hevent, ⟨⟩⟩ := List.mem_map.mp hnew
    exact ⟨rfl, hevent⟩
  · rintro ⟨rfl, hevent⟩
    apply List.mem_map_of_mem hevent

@[simp]
theorem client_moveTo (w : World User MessageKey) (A : User) (client : Client) :
  (w.moveTo A client).client A = client
  := Function.update_self ..

variable [DecidableEq MessageKey]

/-- A step of the world. -/
def step (users : Users User P serde) (w : World User MessageKey) :
    Action User MessageKey → Option (World User MessageKey)
  | .add A outside username =>
      let setup := users.setup P A
      some (w.moveTo A ((addContact setup outside username).outcome (w.idle A)).2)
  | .send A outside rest =>
      let setup := users.setup P A
      some (w.moveTo A ((sendMessage setup outside rest).outcome (w.idle A)).2)
  | .receive A outside bytes =>
      let setup := users.setup (P.opening (w.boxes users)) A
      some (w.moveTo A ((receiveMessage setup outside bytes).outcome (w.idle A)).2)
  | .forge box => some { w with forged := box :: w.forged }

/-- The attacker seals under keys that it can derive. -/
def feasible (users : Users User P serde) (_ : World User MessageKey) :
    Action User MessageKey → Prop
  | .forge box => users.CanDerive box.key
  | _ => True

end World

end Phantasma
