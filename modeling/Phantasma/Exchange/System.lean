import Phantasma.Deployment.Records
import Phantasma.Relay.Written

/-!
# The users and the relay

The clients of the users, the relay, and the connections between them.  A frame that a client
gives to its socket is on the way until the relay receives it, the frames of a connection in
order, or it is never received; a client reads what the relay has written to its connection, in
order, until the connection is lost.  The relay takes its own steps, of all connections in any
order, and so do the clients.  Nobody else connects.
-/

namespace Phantasma.Exchange

open TransitionSystem

/-- The users with their clients, the relay, and what is on the way between them. -/
structure State (User : Type) where
  users : Deployment.State User
  relay : Relay
  /-- The connection that the client of a user has, or had last. -/
  socket : User → Option ℕ
  /-- The frames that have not arrived yet, each with its connection, the oldest first. -/
  sent : User → List (ℕ × Bytes)
  /-- How many of the messages that were written to a connection the client has read. -/
  read : ℕ → ℕ

/-- What can happen. -/
inductive Action (User : Type) where
  /-- Something that has nothing to do with the connections. -/
  | away (a : Deployment.Action User)
  /-- The registration of a user is answered; the client connects if it was accepted. -/
  | join (u : User) (succeeds lost : Bool) (failures : List String)
  /-- A line is typed. -/
  | say (u : User) (typed : String) (outside : Outside) (succeeds lost : Bool)
  /-- The client reads the next message of its connection. -/
  | hear (u : User) (outside : Outside) (succeeds lost : Bool)
  /-- The connection is lost, and the client connects again. -/
  | reconnect (u : User) (input : Input)
  /-- A step of the relay. -/
  | relay (a : Phantasma.Action)
  /-- The relay receives the next frame of a connection. -/
  | arrive (u : User) (c : ℕ)

/-- The action has nothing to do with the connections. -/
def isAway {User : Type} : Deployment.Action User → Bool
  | .start _ _ _ | .arrive _ _ | .quit _ | .registerOther _ _ => true
  | .register _ _ _ _ => false
  | .turn _ input _ _ =>
      match input with
      | .endOfInput | .unreadable _ | .control => true
      | _ => false

/-- The connection is lost. -/
def isLoss : Input → Bool
  | .closed _ | .failed _ _ => true
  | _ => false

/-- The step of the relay does not come from a client. -/
def isInner : Phantasma.Action → Bool
  | .connect _ | .receive _ _ => false
  | _ => true

namespace State

variable {User : Type} (s : State User)

/-- The next message that the client of a user reads, with its connection. -/
def next (u : User) : Option (ℕ × Message) :=
  match s.socket u with
  | none => none
  | some c =>
      match s.relay.connections[c]? with
      | none => none
      | some conn => conn.written[s.read c]?.map fun message => (c, message)

/-- The next frame of a user that the relay receives on the connection. -/
def first (u : User) (c : ℕ) : Option Bytes :=
  ((s.sent u).find? fun frame => frame.1 = c).map Prod.snd

/-- The frames that the client of a user has given to its socket, when the users have become
`users`. -/
def spoken (u : User) (users : Deployment.State User) : List (ℕ × Bytes) :=
  match s.socket u with
  | none => []
  | some c =>
      ((users.terminals u).client.frames.drop (s.users.terminals u).client.frames.length).map
        fun frame => (c, frame)

variable [DecidableEq User]

/-- The state after the frames of a turn were given to the socket. -/
def speak (u : User) (users : Deployment.State User) : State User :=
  { s with
    users := users
    sent := Function.update s.sent u (s.sent u ++ s.spoken u users) }

/-- The state after a message of the connection `c` was read. -/
def heard (c : ℕ) (users : Deployment.State User) : State User :=
  { s with
    users := users
    read := Function.update s.read c (s.read c + 1) }

/-- The state after the client of a user has connected. -/
def connected (u : User) (users : Deployment.State User) (relay : Relay) : State User :=
  { s with
    users := users
    relay := relay
    socket := Function.update s.socket u (some s.relay.connections.length) }

/-- The state after the frame was received. -/
def arrived (u : User) (frame : ℕ × Bytes) (relay : Relay) : State User :=
  { s with
    relay := relay
    sent := Function.update s.sent u ((s.sent u).erase frame) }

end State

/-! ### The steps -/

section

variable {User MessageKey : Type} [DecidableEq User] (d : Deployment User MessageKey)

/-- A step of the system. -/
def step (s : State User) : Action User → Option (State User)
  | .away a =>
      if isAway a then (d.step s.users a).map fun users => { s with users := users } else none
  | .join u succeeds lost failures => do
      let users ← d.step s.users (.register u succeeds lost failures)
      match (users.terminals u).progress with
      | .running _ =>
          (s.relay.step d.serde (.connect (d.name u))).map fun relay => s.connected u users relay
      | _ => some { s with users := users }
  | .say u typed outside succeeds lost =>
      (d.step s.users (.turn u (.line typed outside) succeeds lost)).map fun users =>
        s.speak u users
  | .hear u outside succeeds lost => do
      let (c, message) ← s.next u
      let users ← d.step s.users (.turn u (.binary message.payload outside) succeeds lost)
      some (s.heard c users)
  | .reconnect u input => do
      if isLoss input then
        let users ← d.step s.users (.turn u input true false)
        (s.relay.step d.serde (.connect (d.name u))).map fun relay => s.connected u users relay
      else none
  | .relay a =>
      if isInner a then (s.relay.step d.serde a).map fun relay => { s with relay := relay }
      else none
  | .arrive u c => do
      let frame ← s.first u c
      (s.relay.step d.serde (.receive c frame)).map fun relay => s.arrived u (c, frame) relay

/-- `Step d s a s'`: the state `s` becomes `s'` by the action `a`. -/
inductive Step (s : State User) : Action User → State User → Prop where
  | away {a users} (haway : isAway a) (husers : d.step s.users a = some users) :
      Step s (.away a) { s with users := users }
  | join {u succeeds lost failures users relay}
      (husers : d.step s.users (.register u succeeds lost failures) = some users)
      (hrelay : s.relay.step d.serde (.connect (d.name u)) = some relay) :
      Step s (.join u succeeds lost failures) (s.connected u users relay)
  | refuse {u succeeds lost failures users}
      (husers : d.step s.users (.register u succeeds lost failures) = some users) :
      Step s (.join u succeeds lost failures) { s with users := users }
  | say {u typed outside succeeds lost users}
      (husers : d.step s.users (.turn u (.line typed outside) succeeds lost) = some users) :
      Step s (.say u typed outside succeeds lost) (s.speak u users)
  | hear {u outside succeeds lost c message users} (hnext : s.next u = some (c, message))
      (husers : d.step s.users (.turn u (.binary message.payload outside) succeeds lost)
        = some users) :
      Step s (.hear u outside succeeds lost) (s.heard c users)
  | reconnect {u input users relay} (hloss : isLoss input)
      (husers : d.step s.users (.turn u input true false) = some users)
      (hrelay : s.relay.step d.serde (.connect (d.name u)) = some relay) :
      Step s (.reconnect u input) (s.connected u users relay)
  | relay {a relay} (hinner : isInner a) (hrelay : s.relay.step d.serde a = some relay) :
      Step s (.relay a) { s with relay := relay }
  | arrive {u c frame relay} (hfirst : s.first u c = some frame)
      (hrelay : s.relay.step d.serde (.receive c frame) = some relay) :
      Step s (.arrive u c) (s.arrived u (c, frame) relay)

variable {d} {s s' : State User}

/-- Every step is one of the branches of `Step`. -/
theorem step_of_step {a : Action User} (h : step d s a = some s') :
  Step d s a s'
  := by
  cases a with
  | away a =>
      obtain ⟨haway, h⟩ := Option.ite_none_right_eq_some.mp h
      obtain ⟨users, husers, rfl⟩ := Option.map_eq_some_iff.mp h
      apply Step.away haway husers
  | join u succeeds lost failures =>
      obtain ⟨users, husers, h⟩ := Option.bind_eq_some_iff.mp h
      split at h
      · obtain ⟨relay, hrelay, rfl⟩ := Option.map_eq_some_iff.mp h
        apply Step.join husers hrelay
      · obtain rfl := Option.some.inj h
        apply Step.refuse husers
  | say u typed outside succeeds lost =>
      obtain ⟨users, husers, rfl⟩ := Option.map_eq_some_iff.mp h
      apply Step.say husers
  | hear u outside succeeds lost =>
      obtain ⟨⟨c, message⟩, hnext, h⟩ := Option.bind_eq_some_iff.mp h
      obtain ⟨users, husers, h⟩ := Option.bind_eq_some_iff.mp h
      obtain rfl := Option.some.inj h
      apply Step.hear hnext husers
  | reconnect u input =>
      obtain ⟨hloss, h⟩ := Option.ite_none_right_eq_some.mp h
      obtain ⟨users, husers, h⟩ := Option.bind_eq_some_iff.mp h
      obtain ⟨relay, hrelay, rfl⟩ := Option.map_eq_some_iff.mp h
      apply Step.reconnect hloss husers hrelay
  | relay a =>
      obtain ⟨hinner, h⟩ := Option.ite_none_right_eq_some.mp h
      obtain ⟨relay, hrelay, rfl⟩ := Option.map_eq_some_iff.mp h
      apply Step.relay hinner hrelay
  | arrive u c =>
      obtain ⟨frame, hfirst, h⟩ := Option.bind_eq_some_iff.mp h
      obtain ⟨relay, hrelay, rfl⟩ := Option.map_eq_some_iff.mp h
      apply Step.arrive hfirst hrelay

end

end Phantasma.Exchange
