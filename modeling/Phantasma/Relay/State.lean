import Phantasma.Relay.Queue
import Std.Data.ExtTreeMap

/-!
# The state of the relay

The relay runs one `handle_socket` for each connection.  It takes a connection id, makes
the outbound channel, inserts itself into `active_clients`, delivers the queued messages,
spawns a task that sends what the channel holds and a task that handles what the socket
receives, waits for one of the two to end, aborts the other, and removes its entry.
`Phase`, `SendTask` and `ReceiveTask` are the await points of the three; `Connection` is
what one of them holds.

A connection is named by its position in the list of connections, in the order in which
the connection ids were taken.  An outbound channel is named by its connection.
-/

namespace Phantasma

/-- `ActiveClient`: the id of a registered connection and the sending half of its
outbound channel. -/
structure ActiveClient where
  connectionId : UInt64
  sender : ℕ
deriving DecidableEq

/-- The await points of `handle_socket`. -/
inductive Phase where
  /-- The id is taken and the channel made; the lock of `active_clients` is awaited. -/
  | opened
  /-- The entry is inserted; `queued_messages_for` is awaited. -/
  | registered
  /-- The loop of `deliver_queued_messages` is at its head with the rows still to send;
  without rows the loop is left and the tasks are spawned next. -/
  | draining (rows : List QueuedMessage)
  /-- The message of `row` was sent; `delete_queued_message` is awaited. -/
  | deleting (row : QueuedMessage) (rest : List QueuedMessage)
  /-- The tasks are spawned; `select!` awaits the end of one of them. -/
  | serving
  /-- One task has ended and the other is aborted; the lock is awaited for the cleanup. -/
  | closing
  /-- The cleanup is done. -/
  | closed
deriving DecidableEq

namespace Phase

/-- The rows that were loaded by `deliver_queued_messages` and are not deleted yet. -/
def rows : Phase → List QueuedMessage
  | .draining rows => rows
  | .deleting row rest => row :: rest
  | _ => []

/-- The queued messages are loaded. -/
def hasLoaded : Phase → Bool
  | .opened | .registered => false
  | _ => true

/-- `deliver_queued_messages` has returned and the tasks are spawned. -/
def hasSpawned : Phase → Bool
  | .serving | .closing | .closed => true
  | _ => false

end Phase

/-- The await points of the task that sends.  When it ends, the receiving half of the
channel is dropped. -/
inductive SendTask where
  | unspawned
  /-- `outbound_receiver.recv()` is awaited. -/
  | waiting
  /-- `socket_sender.send(..)` is awaited. -/
  | writing (message : Message)
  | ended
deriving DecidableEq

/-- The task is spawned and has not ended; it can be dropped when it is aborted. -/
def SendTask.isAwaiting : SendTask → Bool
  | .waiting | .writing _ => true
  | _ => false

/-- The await points of the task that receives, with those of `handle_encrypted_payload`
for a message to `recipient`. -/
inductive ReceiveTask where
  | unspawned
  /-- `socket_receiver.next()` is awaited. -/
  | waiting
  /-- The lock of `active_clients` is awaited. -/
  | locking (recipient : String) (message : Message)
  /-- The lock is released again and the entry of the recipient is cloned.  This is not
  an await point. -/
  | routing (recipient : String) (message : Message) (client : Option ActiveClient)
  /-- `queue_message` is awaited. -/
  | queueing (recipient : String) (message : Message)
  | ended
deriving DecidableEq

/-- The task is at an await point; it can be dropped when it is aborted. -/
def ReceiveTask.isAwaiting : ReceiveTask → Bool
  | .waiting | .locking _ _ | .queueing _ _ => true
  | _ => false

/-- The recipient and the message of the payload that is being handled. -/
def ReceiveTask.handled : ReceiveTask → Option (String × Message)
  | .locking recipient message | .routing recipient message _ | .queueing recipient message =>
      some (recipient, message)
  | _ => none

/-- What `handle_socket` and its two tasks hold for one connection.  `outbound` is the
content of the channel, oldest first, and `written` what the socket was given. -/
structure Connection where
  username : String
  connectionId : UInt64
  phase : Phase
  outbound : List Message
  sendTask : SendTask
  sendAborted : Bool
  receiveTask : ReceiveTask
  receiveAborted : Bool
  written : List Message
deriving DecidableEq

namespace Connection

/-- The receiving half of the channel exists. -/
def isOpen (conn : Connection) : Bool :=
  conn.sendTask ≠ .ended

/-- The message the sending task has taken off the channel and is writing. -/
def inHand (conn : Connection) : List Message :=
  match conn.sendTask with
  | .writing message => [message]
  | _ => []

/-- The messages that were put on the channel and neither written nor dropped. -/
def unsent (conn : Connection) : List Message :=
  conn.inHand ++ conn.outbound

/-- The connection with the message `message` at the end of its channel. -/
def push (conn : Connection) (message : Message) : Connection :=
  { conn with outbound := conn.outbound ++ [message] }

/-- A connection right after its id was taken. -/
def new (username : String) (connectionId : UInt64) : Connection where
  username := username
  connectionId := connectionId
  phase := .opened
  outbound := []
  sendTask := .unspawned
  sendAborted := false
  receiveTask := .unspawned
  receiveAborted := false
  written := []

end Connection

/-- The state of the relay.  The first four fields are what the program holds.  The others
record what has happened: the number of payloads accepted, the registrations with the
newest first, the messages put on outbound channels and the binary frames received, each
with its connection and with the oldest first.  `putsInOrder_of_reaches` says what the
connections hold of the messages that were put on their channels. -/
structure Relay where
  activeClients : Std.ExtTreeMap String ActiveClient
  queuedMessages : QueuedMessages
  nextConnectionId : UInt64
  connections : List Connection
  nextTag : ℕ
  registrations : List (String × ℕ)
  puts : List (ℕ × Message)
  received : List (ℕ × Bytes)

namespace Relay

/-- The relay after it has started, with what earlier runs left in the database: no two
rows carry the same message. -/
structure Initial (s : Relay) : Prop where
  activeClients : s.activeClients = ∅
  nextConnectionId : s.nextConnectionId = 1
  connections : s.connections = []
  tags : (s.queuedMessages.rows.map (·.message.tag)).Nodup
  tags_lt : ∀ row ∈ s.queuedMessages.rows, row.message.tag < s.nextTag
  registrations : s.registrations = []
  puts : s.puts = []
  received : s.received = []

/-- The relay after it has started with an empty table. -/
def start : Relay where
  activeClients := ∅
  queuedMessages := .empty
  nextConnectionId := 1
  connections := []
  nextTag := 0
  registrations := []
  puts := []
  received := []

theorem initial_start :
  start.Initial
  := by
  constructor <;> simp [start, QueuedMessages.empty]

/-- The relay with the connection `c` replaced. -/
def setConnection (s : Relay) (c : ℕ) (conn : Connection) : Relay :=
  { s with connections := s.connections.set c conn }

/-- The relay with `message` put on the outbound channel of the connection `c`. -/
def push (s : Relay) (c : ℕ) (message : Message) : Relay :=
  { s with
    connections := s.connections.modify c (fun conn => conn.push message)
    puts := s.puts ++ [(c, message)] }

/-- The outbound channel of the connection `c` can be sent to. -/
def isOpen (s : Relay) (c : ℕ) : Bool :=
  s.connections[c]?.any Connection.isOpen

theorem getElem?_setConnection
    {s : Relay} {c : ℕ} {conn : Connection} (hc : s.connections[c]? = some conn)
    (conn' : Connection) (d : ℕ) :
  (s.setConnection c conn').connections[d]? = if c = d then some conn' else s.connections[d]?
  := by
  have hlt : c < s.connections.length := (List.getElem?_eq_some_iff.mp hc).1
  simp [setConnection, List.getElem?_set, hlt]

theorem getElem?_push (s : Relay) (c : ℕ) (message : Message) (d : ℕ) :
  (s.push c message).connections[d]?
    = if c = d then s.connections[d]?.map (fun conn => conn.push message)
      else s.connections[d]?
  := by
  simp only [push, List.getElem?_modify]
  split
  · rfl
  · simp

/-- A message put on the channel of the connection that was replaced. -/
theorem push_setConnection
    {s : Relay} {c : ℕ} {conn : Connection} (hc : s.connections[c]? = some conn)
    (conn' : Connection) (message : Message) :
  ((s.setConnection c conn').push c message).connections
    = (s.setConnection c (conn'.push message)).connections
  := by
  apply List.ext_getElem?
  intro d
  rw [getElem?_push, getElem?_setConnection hc, getElem?_setConnection hc]
  split <;> rfl

/-- What a connection shares with the one it replaces stays as it was. -/
theorem map_setConnection
    {β : Type*} (f : Connection → β) {s : Relay} {c : ℕ} {conn conn' : Connection}
    (hc : s.connections[c]? = some conn) (hf : f conn' = f conn) :
  (s.setConnection c conn').connections.map f = s.connections.map f
  := by
  apply List.ext_getElem?
  intro d
  simp only [List.getElem?_map, getElem?_setConnection hc]
  split
  · subst d
    simp [hc, hf]
  · rfl

/-- What a message on its channel does not change in a connection stays as it was. -/
theorem map_push
    {β : Type*} (f : Connection → β) (hf : ∀ conn message, f (conn.push message) = f conn)
    (s : Relay) (c : ℕ) (message : Message) :
  (s.push c message).connections.map f = s.connections.map f
  := by
  apply List.ext_getElem?
  intro d
  simp only [List.getElem?_map, getElem?_push]
  split
  · cases s.connections[d]? with
    | none => rfl
    | some conn => simp [hf]
  · rfl

end Relay

end Phantasma
