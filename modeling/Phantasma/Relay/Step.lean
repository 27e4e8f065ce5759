import Phantasma.Base.TransitionSystem
import Phantasma.Relay.State

/-!
# The steps of the relay

`Relay.step` is what one task of the relay does between two of its await points, or
between a lock it releases and the next thing it shares with other tasks.  A call to the
database is one step that takes effect, or one step that fails.  An aborted task ends at
an await point; the call it awaits there is then cancelled.

`Connection.taskStep` has the steps that change nothing but the connection itself.
`Connection.Step` and `Relay.Step` say the same as relations, with a constructor for
each branch of the source, and are what the invariants are proved from.
-/

namespace Phantasma

/-! ### Steps within a connection -/

/-- What the receiving task can find in place of a binary frame. -/
inductive Frame where
  | text (text : String)
  | ping
  | pong
  | close
  | error
  | finished

/-- The frame ends the loop of the receiving task. -/
def Frame.endsTask : Frame → Bool
  | .close | .error | .finished => true
  | _ => false

/-- The steps that change nothing but the connection that takes them. -/
inductive TaskAction where
  /-- `queued_messages_for` fails. -/
  | failLoad
  /-- `delete_queued_message` fails. -/
  | failDelete
  | spawnTasks
  /-- `outbound_receiver.recv()` returns a message. -/
  | takeOutbound
  /-- `socket_sender.send(..)` succeeds. -/
  | write
  /-- `socket_sender.send(..)` fails. -/
  | failWrite
  | receiveFrame (frame : Frame)
  /-- `queue_message` fails. -/
  | failEnqueue
  /-- `select!` takes the branch of the sending task. -/
  | selectSend
  /-- `select!` takes the branch of the receiving task. -/
  | selectReceive
  /-- The aborted sending task is dropped. -/
  | dropSend
  /-- The aborted receiving task is dropped. -/
  | dropReceive

namespace Connection

/-- The connection whose sending task has ended. -/
def endSend (conn : Connection) : Connection :=
  { conn with sendTask := .ended, outbound := [] }

/-- A step of a connection that changes nothing but the connection.  A task that was aborted may go
on as if it were still running, until it is dropped: `Relay.PollsAlive` says which of its steps are
taken only by a task that was not aborted. -/
def taskStep (conn : Connection) : TaskAction → Option Connection
  | .failLoad =>
      match conn.phase with
      | .registered => some { conn with phase := .draining [] }
      | _ => none
  | .failDelete =>
      match conn.phase with
      | .deleting _ _ => some { conn with phase := .draining [] }
      | _ => none
  | .spawnTasks =>
      match conn.phase with
      | .draining [] =>
          some { conn with phase := .serving, sendTask := .waiting, receiveTask := .waiting }
      | _ => none
  | .takeOutbound =>
      match conn.sendTask, conn.outbound with
      | .waiting, message :: rest =>
          some { conn with sendTask := .writing message, outbound := rest }
      | _, _ => none
  | .write =>
      match conn.sendTask with
      | .writing message =>
          some { conn with sendTask := .waiting, written := conn.written ++ [message] }
      | _ => none
  | .failWrite =>
      match conn.sendTask with
      | .writing _ => some conn.endSend
      | _ => none
  | .receiveFrame frame =>
      match conn.receiveTask with
      | .waiting => some (if frame.endsTask then { conn with receiveTask := .ended } else conn)
      | _ => none
  | .failEnqueue =>
      match conn.receiveTask with
      | .queueing _ _ => some { conn with receiveTask := .waiting }
      | _ => none
  | .selectSend =>
      match conn.phase, conn.sendTask with
      | .serving, .ended => some { conn with phase := .closing, receiveAborted := true }
      | _, _ => none
  | .selectReceive =>
      match conn.phase, conn.receiveTask with
      | .serving, .ended => some { conn with phase := .closing, sendAborted := true }
      | _, _ => none
  | .dropSend =>
      if conn.sendAborted ∧ conn.sendTask.isAwaiting then some conn.endSend else none
  | .dropReceive =>
      if conn.receiveAborted ∧ conn.receiveTask.isAwaiting then
        some { conn with receiveTask := .ended }
      else none

/-- `Step conn a conn'`: the connection `conn` becomes `conn'` by its action `a`. -/
inductive Step (conn : Connection) : TaskAction → Connection → Prop where
  | failLoad (hphase : conn.phase = .registered) :
      Step conn .failLoad { conn with phase := .draining [] }
  | failDelete {row rest} (hphase : conn.phase = .deleting row rest) :
      Step conn .failDelete { conn with phase := .draining [] }
  | spawnTasks (hphase : conn.phase = .draining []) :
      Step conn .spawnTasks
        { conn with phase := .serving, sendTask := .waiting, receiveTask := .waiting }
  | takeOutbound {message rest} (hsend : conn.sendTask = .waiting)
      (houtbound : conn.outbound = message :: rest) :
      Step conn .takeOutbound { conn with sendTask := .writing message, outbound := rest }
  | write {message} (hsend : conn.sendTask = .writing message) :
      Step conn .write { conn with sendTask := .waiting, written := conn.written ++ [message] }
  | failWrite {message} (hsend : conn.sendTask = .writing message) :
      Step conn .failWrite conn.endSend
  | ignoreFrame {frame} (hreceive : conn.receiveTask = .waiting) (hframe : ¬ frame.endsTask) :
      Step conn (.receiveFrame frame) conn
  | endReceive {frame} (hreceive : conn.receiveTask = .waiting) (hframe : frame.endsTask) :
      Step conn (.receiveFrame frame) { conn with receiveTask := .ended }
  | failEnqueue {recipient message} (hreceive : conn.receiveTask = .queueing recipient message) :
      Step conn .failEnqueue { conn with receiveTask := .waiting }
  | selectSend (hphase : conn.phase = .serving) (hsend : conn.sendTask = .ended) :
      Step conn .selectSend { conn with phase := .closing, receiveAborted := true }
  | selectReceive (hphase : conn.phase = .serving) (hreceive : conn.receiveTask = .ended) :
      Step conn .selectReceive { conn with phase := .closing, sendAborted := true }
  | dropSend (haborted : conn.sendAborted) (hawait : conn.sendTask.isAwaiting) :
      Step conn .dropSend conn.endSend
  | dropReceive (haborted : conn.receiveAborted) (hawait : conn.receiveTask.isAwaiting) :
      Step conn .dropReceive { conn with receiveTask := .ended }

/-- Every step of a connection is one of the branches of `Step`. -/
theorem step_of_taskStep
    {conn conn' : Connection} {a : TaskAction} (h : conn.taskStep a = some conn') :
  Step conn a conn'
  := by
  cases a with
  | receiveFrame frame =>
      simp only [taskStep] at h
      split at h
      · obtain rfl := Option.some.inj h
        split
        · apply Step.endReceive ‹_› ‹_›
        · apply Step.ignoreFrame ‹_› ‹_›
      · contradiction
  | dropSend =>
      obtain ⟨haborted, ⟨⟩⟩ := Option.ite_none_right_eq_some.mp h
      apply Step.dropSend haborted.1 haborted.2
  | dropReceive =>
      obtain ⟨haborted, ⟨⟩⟩ := Option.ite_none_right_eq_some.mp h
      apply Step.dropReceive haborted.1 haborted.2
  | _ =>
      simp only [taskStep] at h
      split at h
      · obtain rfl := Option.some.inj h
        constructor <;> assumption
      · contradiction

end Connection

/-! ### Checking a payload -/

/-- What `handle_encrypted_payload` decides about a payload before its first await. -/
inductive Verdict where
  | refused (notice : String)
  | accepted (recipient : String) (encryptedPayload : Bytes)

/-- The part of `handle_encrypted_payload` before its first await: the payload is decoded,
its envelope is encoded again, and the names of the route are checked. -/
def checkPayload (serde : JsonCodec) (senderUsername : String) (payload : Bytes) :
    Except Error Verdict := do
  let routed ← RoutedEncryptedMessage.fromWireBytes serde payload
  let encryptedPayload ← routed.encrypted.toWireBytes serde
  if routed.from ≠ senderUsername then
    return .refused s!"server rejected encrypted payload claiming to be from {routed.from} on {senderUsername}'s connection"
  if !isValidUsername routed.to then
    return .refused "server rejected encrypted payload for invalid recipient"
  return .accepted routed.to encryptedPayload

/-- A payload is accepted for a recipient when it decodes to a message routed from the
sender to the recipient, whose name is valid; what goes on is its envelope encoded
again. -/
theorem checkPayload_accepted
    {serde : JsonCodec} {senderUsername recipient : String} {payload encryptedPayload : Bytes} :
  checkPayload serde senderUsername payload = .ok (.accepted recipient encryptedPayload)
    ↔ ∃ routed, RoutedEncryptedMessage.fromWireBytes serde payload = .ok routed
        ∧ routed.encrypted.toWireBytes serde = .ok encryptedPayload
        ∧ routed.from = senderUsername ∧ routed.to = recipient ∧ isValidUsername recipient
  := by
  simp only [checkPayload, bind_eq_ok]
  constructor
  · rintro ⟨routed, hrouted, encrypted, hencrypted, h⟩
    use routed, hrouted
    split at h
    · cases h
    · rename_i hfrom
      split at h
      · cases h
      · rename_i hto
        cases h
        use hencrypted, not_not.mp hfrom, rfl
        simpa using hto
  · rintro ⟨routed, hrouted, hencrypted, hfrom, rfl, hto⟩
    use routed, hrouted, encryptedPayload, hencrypted
    rw [if_neg (not_not_intro hfrom), if_neg (by simp [hto])]
    rfl

/-! ### Steps of the relay -/

/-- The steps of the relay: `connect` is the upgrade of a request to `/ws/{username}` and
the first lines of `handle_socket`, and the others are steps of the connection `c`. -/
inductive Action where
  | connect (username : String)
  | task (c : ℕ) (a : TaskAction)
  /-- The connection inserts itself into `active_clients`. -/
  | register (c : ℕ)
  /-- `queued_messages_for` succeeds. -/
  | loadQueue (c : ℕ)
  /-- `sender.send(..)` in the loop of `deliver_queued_messages`. -/
  | sendQueued (c : ℕ)
  /-- `delete_queued_message` succeeds. -/
  | deleteQueued (c : ℕ)
  /-- The receiving task receives a binary frame. -/
  | receive (c : ℕ) (bytes : Bytes)
  /-- `active_clients` is locked and the entry of the recipient is cloned. -/
  | lookUp (c : ℕ)
  /-- `recipient.sender.send(..)` in `handle_encrypted_payload`. -/
  | forward (c : ℕ)
  /-- `queue_message` succeeds. -/
  | enqueue (c : ℕ)
  /-- The cleanup block of `handle_socket`. -/
  | cleanUp (c : ℕ)

namespace Relay

/-- The relay after the upgrade of a request to `/ws/{username}`: the connection has taken
the next id. -/
def connect (s : Relay) (username : String) : Relay :=
  { s with
    nextConnectionId := s.nextConnectionId + 1
    connections := s.connections ++ [.new username s.nextConnectionId] }

/-- The relay after the connection `c` has inserted itself into `active_clients`. -/
def register (s : Relay) (c : ℕ) (conn : Connection) : Relay :=
  { s.setConnection c { conn with phase := .registered } with
    activeClients := s.activeClients.insert conn.username ⟨conn.connectionId, c⟩
    registrations := (conn.username, c) :: s.registrations }

/-- The relay after `delete_queued_message` for the row the connection `c` has sent. -/
def deleteQueued (s : Relay) (c : ℕ) (conn : Connection) (row : QueuedMessage)
    (rest : List QueuedMessage) : Relay :=
  { s.setConnection c { conn with phase := .draining rest } with
    queuedMessages := s.queuedMessages.deleteQueuedMessage row.id }

/-- The relay after the receiving task of the connection `c` has accepted a payload. -/
def accept (s : Relay) (c : ℕ) (conn : Connection) (bytes : Bytes) (recipient : String)
    (payload : Bytes) : Relay :=
  { s.setConnection c { conn with receiveTask := .locking recipient ⟨s.nextTag, payload⟩ } with
    nextTag := s.nextTag + 1
    received := s.received ++ [(c, bytes)] }

/-- The relay after the receiving task of the connection `c` has refused a payload. -/
def refuse (s : Relay) (c : ℕ) (bytes : Bytes) : Relay :=
  { s with received := s.received ++ [(c, bytes)] }

/-- The relay after `queue_message` in the receiving task of the connection `c`. -/
def enqueue (s : Relay) (c : ℕ) (conn : Connection) (recipient : String) (message : Message) :
    Relay :=
  { s.setConnection c { conn with receiveTask := .waiting } with
    queuedMessages := s.queuedMessages.queueMessage recipient message }

/-- The relay after the cleanup block of the connection `c`: its entry is removed if
the entry under its username has its id. -/
def cleanUp (s : Relay) (c : ℕ) (conn : Connection) : Relay :=
  let shouldRemove := s.activeClients[conn.username]?.any
    fun activeClient => activeClient.connectionId = conn.connectionId
  { s.setConnection c { conn with phase := .closed } with
    activeClients :=
      if shouldRemove then s.activeClients.erase conn.username else s.activeClients }

/-- A step of the relay. -/
def step (serde : JsonCodec) (s : Relay) : Action → Option Relay
  | .connect username => if isValidUsername username then some (s.connect username) else none
  | .task c a => do
      let conn ← s.connections[c]?
      let conn' ← conn.taskStep a
      some (s.setConnection c conn')
  | .register c => do
      let conn ← s.connections[c]?
      match conn.phase with
      | .opened => some (s.register c conn)
      | _ => none
  | .loadQueue c => do
      let conn ← s.connections[c]?
      match conn.phase with
      | .registered =>
          let rows := s.queuedMessages.queuedMessagesFor conn.username
          some (s.setConnection c { conn with phase := .draining rows })
      | _ => none
  | .sendQueued c => do
      let conn ← s.connections[c]?
      match conn.phase with
      | .draining (row :: rest) =>
          if conn.isOpen then
            some ((s.setConnection c { conn with phase := .deleting row rest }).push c row.message)
          else some (s.setConnection c { conn with phase := .draining [] })
      | _ => none
  | .deleteQueued c => do
      let conn ← s.connections[c]?
      match conn.phase with
      | .deleting row rest => some (s.deleteQueued c conn row rest)
      | _ => none
  | .receive c bytes => do
      let conn ← s.connections[c]?
      match conn.receiveTask with
      | .waiting =>
          match checkPayload serde conn.username bytes with
          | .ok (.accepted recipient payload) => some (s.accept c conn bytes recipient payload)
          | _ => some (s.refuse c bytes)
      | _ => none
  | .lookUp c => do
      let conn ← s.connections[c]?
      match conn.receiveTask with
      | .locking recipient message =>
          let client := s.activeClients[recipient]?
          some (s.setConnection c { conn with receiveTask := .routing recipient message client })
      | _ => none
  | .forward c => do
      let conn ← s.connections[c]?
      match conn.receiveTask with
      | .routing recipient message client =>
          match client.filter (fun client => s.isOpen client.sender) with
          | some client =>
              some ((s.setConnection c { conn with receiveTask := .waiting }).push
                client.sender message)
          | none =>
              some (s.setConnection c { conn with receiveTask := .queueing recipient message })
      | _ => none
  | .enqueue c => do
      let conn ← s.connections[c]?
      match conn.receiveTask with
      | .queueing recipient message => some (s.enqueue c conn recipient message)
      | _ => none
  | .cleanUp c => do
      let conn ← s.connections[c]?
      match conn.phase with
      | .closing => some (s.cleanUp c conn)
      | _ => none

/-- `Step serde s a s'`: the relay `s` becomes `s'` by the action `a`. -/
inductive Step (serde : JsonCodec) (s : Relay) : Action → Relay → Prop where
  | connect {username} (hname : isValidUsername username) :
      Step serde s (.connect username) (s.connect username)
  | task {c a conn conn'} (hc : s.connections[c]? = some conn) (hstep : conn.Step a conn') :
      Step serde s (.task c a) (s.setConnection c conn')
  | register {c conn} (hc : s.connections[c]? = some conn) (hphase : conn.phase = .opened) :
      Step serde s (.register c) (s.register c conn)
  | loadQueue {c conn} (hc : s.connections[c]? = some conn) (hphase : conn.phase = .registered) :
      Step serde s (.loadQueue c) (s.setConnection c
        { conn with phase := .draining (s.queuedMessages.queuedMessagesFor conn.username) })
  | sendQueued {c conn row rest} (hc : s.connections[c]? = some conn)
      (hphase : conn.phase = .draining (row :: rest)) (hopen : conn.isOpen) :
      Step serde s (.sendQueued c)
        ((s.setConnection c { conn with phase := .deleting row rest }).push c row.message)
  | breakQueued {c conn row rest} (hc : s.connections[c]? = some conn)
      (hphase : conn.phase = .draining (row :: rest)) (hclosed : ¬ conn.isOpen) :
      Step serde s (.sendQueued c) (s.setConnection c { conn with phase := .draining [] })
  | deleteQueued {c conn row rest} (hc : s.connections[c]? = some conn)
      (hphase : conn.phase = .deleting row rest) :
      Step serde s (.deleteQueued c) (s.deleteQueued c conn row rest)
  | accept {c conn bytes recipient payload} (hc : s.connections[c]? = some conn)
      (hreceive : conn.receiveTask = .waiting)
      (hcheck : checkPayload serde conn.username bytes = .ok (.accepted recipient payload)) :
      Step serde s (.receive c bytes) (s.accept c conn bytes recipient payload)
  | refuse {c conn bytes} (hc : s.connections[c]? = some conn)
      (hreceive : conn.receiveTask = .waiting)
      (hcheck : ∀ recipient payload,
        checkPayload serde conn.username bytes ≠ .ok (.accepted recipient payload)) :
      Step serde s (.receive c bytes) (s.refuse c bytes)
  | lookUp {c conn recipient message} (hc : s.connections[c]? = some conn)
      (hreceive : conn.receiveTask = .locking recipient message) :
      Step serde s (.lookUp c) (s.setConnection c
        { conn with receiveTask := .routing recipient message s.activeClients[recipient]? })
  | forward {c conn recipient message client} (hc : s.connections[c]? = some conn)
      (hreceive : conn.receiveTask = .routing recipient message (some client))
      (hopen : s.isOpen client.sender) :
      Step serde s (.forward c)
        ((s.setConnection c { conn with receiveTask := .waiting }).push client.sender message)
  | fallBack {c conn recipient message client} (hc : s.connections[c]? = some conn)
      (hreceive : conn.receiveTask = .routing recipient message client)
      (hclosed : client.filter (fun client => s.isOpen client.sender) = none) :
      Step serde s (.forward c)
        (s.setConnection c { conn with receiveTask := .queueing recipient message })
  | enqueue {c conn recipient message} (hc : s.connections[c]? = some conn)
      (hreceive : conn.receiveTask = .queueing recipient message) :
      Step serde s (.enqueue c) (s.enqueue c conn recipient message)
  | cleanUp {c conn} (hc : s.connections[c]? = some conn) (hphase : conn.phase = .closing) :
      Step serde s (.cleanUp c) (s.cleanUp c conn)

/-- Every step of the relay is one of the branches of `Step`. -/
theorem step_of_step
    {serde : JsonCodec} {s s' : Relay} {a : Action} (h : s.step serde a = some s') :
  Step serde s a s'
  := by
  cases a with
  | connect username =>
      obtain ⟨hname, ⟨⟩⟩ := Option.ite_none_right_eq_some.mp h
      apply Step.connect hname
  | task c a =>
      obtain ⟨conn, hc, h⟩ := Option.bind_eq_some_iff.mp h
      obtain ⟨conn', hstep, ⟨⟩⟩ := Option.bind_eq_some_iff.mp h
      apply Step.task hc (Connection.step_of_taskStep hstep)
  | sendQueued c =>
      obtain ⟨conn, hc, h⟩ := Option.bind_eq_some_iff.mp h
      split at h
      · split at h
        · obtain rfl := Option.some.inj h
          apply Step.sendQueued hc ‹_› ‹_›
        · obtain rfl := Option.some.inj h
          apply Step.breakQueued hc ‹_› ‹_›
      · contradiction
  | receive c bytes =>
      obtain ⟨conn, hc, h⟩ := Option.bind_eq_some_iff.mp h
      split at h
      · split at h
        · obtain rfl := Option.some.inj h
          apply Step.accept hc ‹_› ‹_›
        · obtain rfl := Option.some.inj h
          apply Step.refuse hc ‹_›
          assumption
      · contradiction
  | forward c =>
      obtain ⟨conn, hc, h⟩ := Option.bind_eq_some_iff.mp h
      split at h
      · split at h
        · rename_i hclient
          obtain ⟨rfl, hopen⟩ := Option.filter_eq_some_iff.mp hclient
          obtain rfl := Option.some.inj h
          apply Step.forward hc ‹_› hopen
        · obtain rfl := Option.some.inj h
          apply Step.fallBack hc ‹_› ‹_›
      · contradiction
  | _ =>
      obtain ⟨conn, hc, h⟩ := Option.bind_eq_some_iff.mp h
      split at h
      · obtain rfl := Option.some.inj h
        constructor <;> assumption
      · contradiction

/-- The database calls of the actions succeed. -/
def dbSucceeds : Action → Bool
  | .task _ .failLoad | .task _ .failDelete | .task _ .failEnqueue => false
  | _ => true

/-! ### A run on given actions -/

/-- The routed message of the tests of the shared crate. -/
def sampleRouted : RoutedEncryptedMessage where
  «from» := "alice"
  «to» := "bob"
  encrypted :=
    { version := 1
      senderEncryptionPublicKey := "AAAAAAAAAAAAAAAAAAAAAAAAAAAAAAAAAAAAAAAAAAA"
      nonce := "AAAAAAAAAAAAAAAAAAAAAAAAAAAAAAAA"
      ciphertext := "unreadable-ciphertext" }

/-- The frame that carries `sampleRouted`. -/
def sampleFrame : Bytes := sampleRouted.toJson.compactBytes

/-- A codec that reads `sampleFrame` and writes compact text. -/
def sampleCodec : JsonCodec := .ofValues [sampleRouted.toJson]

/-- The steps in which the connection `c` of `username` registers, finds its queue empty
and spawns its tasks. -/
def comeOnline (c : ℕ) (username : String) : List Action :=
  [.connect username, .register c, .loadQueue c, .task c .spawnTasks]

/-- The steps in which the connection `0` of the sender of `sampleRouted` comes online and
its message is queued, the recipient being offline. -/
def queueSample : List Action :=
  comeOnline 0 "alice" ++ [.receive 0 sampleFrame, .lookUp 0, .forward 0, .enqueue 0]

/-- The steps in which the recipient of `sampleRouted` comes online as the connection `1`
and is sent the queued message. -/
def drainSample : List Action :=
  [.connect "bob", .register 1, .loadQueue 1, .sendQueued 1, .deleteQueued 1,
    .task 1 .spawnTasks]

/-- The message that is accepted for `sampleFrame`, when it is the first one. -/
def sampleMessage : Message where
  tag := 0
  payload := sampleRouted.encrypted.toJson.compactBytes

/-- The relay after a list of actions, from its start with an empty table. -/
def after (actions : List Action) : Option Relay :=
  TransitionSystem.run (step sampleCodec) start actions

end Relay

end Phantasma
