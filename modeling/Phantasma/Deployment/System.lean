import Phantasma.Base.TransitionSystem
import Phantasma.Client.Turns
import Phantasma.Registering
import Phantasma.RoundTrip

/-!
# Users of one relay

Users of the command-line client, each with a machine of their own, and the directory of the
relay they share.  A user starts the client, which loads the files and sends a registration;
the answer lets the client take its turns; and the client can stop at any time.  What is read,
written and answered in between can fail in every way, a request can arrive late and more than
once, and everybody else can register any other name.
-/

namespace Phantasma

open TransitionSystem

/-- How far `main` has come for a user: the client does not run, it waits for the answer to
its registration, or it takes turns. -/
inductive Progress where
  | off
  | registering (identity : LoadedIdentity)
  | running (identity : LoadedIdentity)

namespace Progress

/-- The identity that is loaded. -/
def identity : Progress → Option LoadedIdentity
  | off => none
  | registering identity => some identity
  | running identity => some identity

/-- The client takes its turns when its registration has succeeded, and else it ends. -/
def afterRegister (identity : LoadedIdentity) : Except Error Unit → Progress
  | .ok _ => running identity
  | .error _ => off

/-- The loop goes on, or it has ended. -/
def afterTurn (identity : LoadedIdentity) : Except Error Bool → Progress
  | .ok true => running identity
  | _ => off

end Progress

/-- A machine, and how far the client has come on it. -/
structure Terminal extends Machine where
  progress : Progress

/-! ### The system -/

/-- What stays the same: the libraries, the network, and for each user the machine, the name
and the address that was given for the relay.  No two users have one name. -/
structure Deployment (User MessageKey : Type) where
  primitives : Primitives MessageKey
  agreeing : primitives.Agreeing
  serde : JsonCodec
  inverts : serde.Inverts serde
  library : Error → String
  net : Network
  fs : User → FileSystem
  store : User → IdentityStore
  writesFiles : ∀ u, (store u).WritesFiles
  x25519Base_store : ∀ u, (store u).x25519Base = primitives.x25519Base
  name : User → String
  name_injective : Function.Injective name
  address : User → RelayAddress net

namespace Deployment

variable {User MessageKey : Type}

/-- The directory, the terminals of the users, and every registration that was ever sent for
one of them. -/
structure State (User : Type) where
  directory : Directory
  terminals : User → Terminal
  requests : List PublicKeyRegistration

/-- What can happen. -/
inductive Action (User : Type) where
  /-- A user starts the client, which sends its registration if the files can be loaded. -/
  | start (u : User) (attempt opening : Attempt)
  /-- The registration arrives, and the client is answered, or the answer is lost. -/
  | register (u : User) (succeeds lost : Bool) (failures : List String)
  /-- A registration arrives that was sent before. -/
  | arrive (registration : PublicKeyRegistration) (succeeds : Bool)
  /-- The client takes a turn; its lookup is answered, or the answer is lost. -/
  | turn (u : User) (input : Input) (succeeds lost : Bool)
  /-- The client ends, wherever it is. -/
  | quit (u : User)
  /-- Somebody else registers a key. -/
  | registerOther (registration : PublicKeyRegistration) (succeeds : Bool)

variable (d : Deployment User MessageKey)

/-- What the client of a user is started with. -/
def setup (u : User) (identity : LoadedIdentity) : Setup MessageKey where
  primitives := d.primitives
  serde := d.serde
  pretty := (d.store u).pretty
  endpoints := (d.address u).endpoints.toServerEndpoints
  name := d.name u
  identity := identity.toIdentity

/-- The address of the relay, as a user's client has it. -/
def endpoints (u : User) : ServerEndpoints :=
  (d.address u).endpoints.toServerEndpoints

/-- What a user's client is answered when it looks up a name. -/
def lookup (directory : Directory) (u : User) (succeeds lost : Bool) (username : String) :
    Option HttpResponse :=
  if lost then none
  else d.net.get d.serde directory succeeds ((d.endpoints u).lookupUrl username)

/-- The state with another terminal for a user. -/
def State.setTerminal [DecidableEq User] (s : State User) (u : User) (terminal : Terminal) :
    State User :=
  { s with terminals := Function.update s.terminals u terminal }

/-- The state after a registration was sent. -/
def State.send (s : State User) (registration : PublicKeyRegistration) : State User :=
  { s with requests := s.requests ++ [registration] }

variable [DecidableEq User]

/-- What happens when a user starts the client. -/
def start (s : State User) (u : User) (attempt opening : Attempt) : State User :=
  match (loadUser (d.fs u) (d.store u) (d.name u) attempt opening).outcome
    (s.terminals u).toMachine with
  | (.error _, machine) => s.setTerminal u ⟨machine, .off⟩
  | (.ok identity, machine) =>
      (s.setTerminal u ⟨machine, .registering identity⟩).send
        (identity.registration (d.name u))

/-- What happens when the registration of a user arrives. -/
def register (s : State User) (u : User) (identity : LoadedIdentity) (succeeds lost : Bool)
    (failures : List String) : State User :=
  let terminal := s.terminals u
  let (answer, directory) := d.net.register d.serde (d.endpoints u) s.directory succeeds
    (identity.registration (d.name u))
  let (result, client) := (joinRelay (d.endpoints u) (d.name u)
    (if lost then none else answer) failures).outcome terminal.client
  { s.setTerminal u
      ⟨{ terminal.toMachine with client := client }, .afterRegister identity result⟩ with
    directory := directory }

/-- What happens in a turn of a user's client. -/
def takeTurn (s : State User) (u : User) (identity : LoadedIdentity) (input : Input)
    (succeeds lost : Bool) : State User :=
  let terminal := s.terminals u
  let setup := d.setup u identity
  let (result, client) := (Phantasma.turn setup d.library
    (input.answered setup (d.lookup s.directory u succeeds lost))).outcome terminal.client
  s.setTerminal u ⟨{ terminal.toMachine with client := client }, .afterTurn identity result⟩

/-- A step of the system. -/
def step (s : State User) : Action User → Option (State User)
  | .start u attempt opening =>
      match (s.terminals u).progress with
      | .off => some (d.start s u attempt opening)
      | _ => none
  | .register u succeeds lost failures =>
      match (s.terminals u).progress with
      | .registering identity => some (d.register s u identity succeeds lost failures)
      | _ => none
  | .arrive registration succeeds =>
      if registration ∈ s.requests then
        some { s with directory := s.directory.take ⟨registration, succeeds⟩ }
      else none
  | .turn u input succeeds lost =>
      match (s.terminals u).progress with
      | .running identity => some (d.takeTurn s u identity input succeeds lost)
      | _ => none
  | .quit u => some (s.setTerminal u { s.terminals u with progress := .off })
  | .registerOther registration succeeds =>
      some { s with directory := s.directory.take ⟨registration, succeeds⟩ }

omit [DecidableEq User] in
/-- The condition on the steps: nobody else registers the name of a user; and where the system
is not Unix, the identity file of a user is seen if it is there. -/
def guard (_ : State User) : Action User → Prop
  | .start u attempt _ => (d.fs u).windows → attempt.seesFile
  | .registerOther registration _ => ∀ u, d.name u ≠ registration.username
  | _ => True

omit [DecidableEq User] in
/-- The start of the system: the directory has none of the users, no client runs, no
registration was sent, and no contact book has one of the users as a contact.  An identity file
may be there, whatever it holds. -/
structure Initial (s : State User) : Prop where
  directory : ∀ u, s.directory.lookupPublicKey (d.name u) = none
  progress : ∀ u, (s.terminals u).progress = .off
  requests : s.requests = []
  contacts : ∀ u v, (s.terminals v).client.contacts.get (d.name u) = none
  saved : ∀ u v book, ContactBook.SavedIn (d.store v) book (s.terminals v).client.file →
    book.get (d.name u) = none
  events : ∀ u, (s.terminals u).client.events = []

end Deployment

end Phantasma
