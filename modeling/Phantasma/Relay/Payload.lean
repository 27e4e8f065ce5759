import Phantasma.Relay.Invariant
import Phantasma.Shared.JsonText

/-!
# Handling one payload

`handleEncryptedPayload` runs the receiving task of a connection from the binary frame it
reads to the end of `handle_encrypted_payload`, while no other task takes a step.
`handleEncryptedPayload_of_reaches` says that it is all or nothing: the relay stays as it
was, or one message is put on one channel, or one row is inserted.
-/

namespace Phantasma

/-- `handle_encrypted_payload` goes on with the payload of `username`: it decodes to
`routed`, which is routed from `username` to a valid name. -/
structure Admits (serde : JsonCodec) (username : String) (payload : Bytes)
    (routed : RoutedEncryptedMessage) : Prop where
  decodes : RoutedEncryptedMessage.fromWireBytes serde payload = .ok routed
  sender : routed.from = username
  recipient : isValidUsername routed.to

/-- The envelope of a message that is read can be written. -/
theorem exists_toWireBytes
    {serde : JsonCodec} (hserde : serde.Inverts serde) (encrypted : EncryptedChatMessage) :
  ∃ payload, encrypted.toWireBytes serde = .ok payload
  := by
  obtain ⟨payload, hwrite, -⟩ := hserde encrypted.toJson encrypted.plain_toJson
  use payload
  apply toWire_eq_ok.mpr hwrite

/-- What is admitted is accepted for its recipient, with its envelope. -/
theorem Admits.checkPayload
    {serde : JsonCodec} {username : String} {payload encryptedPayload : Bytes}
    {routed : RoutedEncryptedMessage} (h : Admits serde username payload routed)
    (hencrypted : routed.encrypted.toWireBytes serde = .ok encryptedPayload) :
  checkPayload serde username payload = .ok (.accepted routed.to encryptedPayload)
  := by
  apply checkPayload_accepted.mpr
  use routed, h.decodes, hencrypted, h.sender, rfl, h.recipient

/-- What is accepted is admitted. -/
theorem exists_admits
    {serde : JsonCodec} {username recipient : String} {payload encryptedPayload : Bytes}
    (h : checkPayload serde username payload = .ok (.accepted recipient encryptedPayload)) :
  ∃ routed, Admits serde username payload routed
  := by
  obtain ⟨routed, hdecodes, -, hsender, rfl, hrecipient⟩ := checkPayload_accepted.mp h
  use routed, hdecodes, hsender, hrecipient

/-- The compact text of a message that is routed to a valid name is admitted. -/
theorem admits_compact
    (routed : RoutedEncryptedMessage) (hrecipient : isValidUsername routed.to) :
  Admits .compact routed.from routed.toJson.compactBytes routed
  where
  decodes := by
    obtain ⟨bytes, hwrite, hread⟩ := JsonCodec.inverts_compact routed.toJson routed.plain_toJson
    obtain rfl := Option.some.inj hwrite
    apply fromWire_eq_ok.mpr ⟨routed.toJson, hread, routed.ofJson_toJson⟩
  sender := rfl
  recipient := hrecipient

namespace Relay

variable {serde : JsonCodec} {s s' : Relay}

/-- The receiving task of the connection `c` handles a payload it has accepted. -/
def isHandling (s : Relay) (c : ℕ) : Bool :=
  s.connections[c]?.any fun conn => conn.receiveTask.handled.isSome

/-- The relay after the receiving task of the connection `c` has read the binary frame
`payload` and handled it to the end, with no step of another task in between.  `inserts`
says whether `queue_message` succeeds. -/
def handleEncryptedPayload (serde : JsonCodec) (inserts : Bool) (s : Relay) (c : ℕ)
    (payload : Bytes) : Option Relay := do
  let checked ← s.step serde (.receive c payload)
  if !checked.isHandling c then
    return checked
  let found ← checked.step serde (.lookUp c)
  let sent ← found.step serde (.forward c)
  if !sent.isHandling c then
    return sent
  sent.step serde (if inserts then .enqueue c else .task c .failEnqueue)

/-- The connection whose channel a message to `recipient` is put on: the one of the entry
of `recipient`, as long as its channel is open. -/
def channelFor (s : Relay) (recipient : String) : Option ℕ :=
  (s.activeClients[recipient]?.map ActiveClient.sender).filter s.isOpen

/-- The program holds the same in `s` and `s'`. -/
structure Unchanged (s s' : Relay) : Prop where
  activeClients : s'.activeClients = s.activeClients
  queuedMessages : s'.queuedMessages = s.queuedMessages
  nextConnectionId : s'.nextConnectionId = s.nextConnectionId
  connections : s'.connections = s.connections

/-- `s` with one row more for `recipient`. -/
def insertRow (s : Relay) (recipient : String) (message : Message) : Relay :=
  { s with queuedMessages := s.queuedMessages.queueMessage recipient message }

/-- After a message was put on a channel, it is the last one there, and nothing else has changed. -/
theorem Unchanged.pushed
    {d : ℕ} {message : Message} {conn : Connection} (h : (s.push d message).Unchanged s')
    (hd : s.connections[d]? = some conn) :
  s'.connections[d]? = some { conn with outbound := conn.outbound ++ [message] }
    ∧ (∀ e, e ≠ d → s'.connections[e]? = s.connections[e]?)
    ∧ s'.queuedMessages = s.queuedMessages
  := by
  rw [h.connections, h.queuedMessages]
  constructor
  · rw [getElem?_push, if_pos rfl, hd]
    rfl
  · use fun e hne => by rw [getElem?_push, if_neg (Ne.symm hne)]
    rfl

/-- After a row was inserted, it is the last one, and nothing else has changed. -/
theorem Unchanged.inserted
    {recipient : String} {message : Message} (h : (s.insertRow recipient message).Unchanged s') :
  (∃ id, s'.queuedMessages.rows = s.queuedMessages.rows ++ [⟨id, recipient, message⟩])
    ∧ s'.connections = s.connections
  := by
  rw [h.connections, h.queuedMessages]
  exact ⟨⟨_, rfl⟩, rfl⟩

/-- What one run of `handle_encrypted_payload` with the payload `payload` of `username` has
done to the relay `s`, if it is `s'` then. -/
structure AllOrNothing (serde : JsonCodec) (inserts : Bool) (username : String)
    (payload : Bytes) (s s' : Relay) : Prop where
  /-- A payload that is not admitted changes nothing. -/
  refused : (∀ routed, ¬ Admits serde username payload routed) → s.Unchanged s'
  /-- The message of a payload that is admitted is put on the open channel of its
  recipient, or without one it is inserted as a row, or the insertion fails: it is the one
  message more on the channel (`Unchanged.pushed`), or the one row more
  (`Unchanged.inserted`). -/
  admitted : ∀ routed, Admits serde username payload routed →
    ∃ encryptedPayload, routed.encrypted.toWireBytes serde = .ok encryptedPayload
      ∧ match s.channelFor routed.to with
        | some d => (s.push d ⟨s.nextTag, encryptedPayload⟩).Unchanged s'
        | none =>
            if inserts then (s.insertRow routed.to ⟨s.nextTag, encryptedPayload⟩).Unchanged s'
            else s.Unchanged s'
  /-- The open channel is the one of a registered connection of the recipient. -/
  channel : ∀ recipient d, s.channelFor recipient = some d →
    ∃ client conn, s.activeClients[recipient]? = some client ∧ client.sender = d
      ∧ s.connections[d]? = some conn ∧ conn.isOpen ∧ conn.username = recipient
      ∧ conn.connectionId = client.connectionId

/-! ### The steps of one run -/

/-- The relay `s`, with the record that the connection `c` has received `payload` and that
it was accepted. -/
def count (s : Relay) (c : ℕ) (payload : Bytes) : Relay :=
  { s.refuse c payload with nextTag := s.nextTag + 1 }

/-- The relay `s`, with the receiving task of its connection `conn` at `task`. -/
def withTask (s : Relay) (c : ℕ) (conn : Connection) (task : ReceiveTask) : Relay :=
  s.setConnection c { conn with receiveTask := task }

/-- The receiving task moves on. -/
theorem withTask_withTask (c : ℕ) (conn : Connection) (task task' : ReceiveTask) :
  (s.withTask c conn task).setConnection c { conn with receiveTask := task' }
    = s.withTask c conn task'
  := by
  rw [withTask, withTask, setConnection, setConnection, setConnection, List.set_set]

section Run

variable {c : ℕ} {conn : Connection} (hc : s.connections[c]? = some conn)
  (recipient : String) (message : Message)

include hc

theorem getElem?_withTask (task : ReceiveTask) :
  (s.withTask c conn task).connections[c]? = some { conn with receiveTask := task }
  := by
  rw [withTask, getElem?_setConnection hc, if_pos rfl]

theorem isHandling_withTask (task : ReceiveTask) :
  (s.withTask c conn task).isHandling c = task.handled.isSome
  := by
  rw [isHandling, getElem?_withTask hc, Option.any_some]

/-- Where the receiving task is does not change which channels are open. -/
theorem isOpen_withTask (task : ReceiveTask) :
  (s.withTask c conn task).isOpen = s.isOpen
  := by
  funext d
  rw [isOpen, isOpen, withTask, getElem?_setConnection hc]
  split
  · subst d
    rw [hc]
    rfl
  · rfl

/-- A task that awaits its socket again is where it was. -/
theorem withTask_waiting (hwaiting : conn.receiveTask = .waiting) :
  s.withTask c conn .waiting = s
  := by
  obtain ⟨hlt, rfl⟩ := List.getElem?_eq_some_iff.mp hc
  rw [withTask, ← hwaiting, setConnection, List.set_getElem_self]

/-- The lock is taken and the entry of the recipient is cloned. -/
theorem step_lookUp_withTask :
  (s.withTask c conn (.locking recipient message)).step serde (.lookUp c)
    = some (s.withTask c conn (.routing recipient message s.activeClients[recipient]?))
  := by
  simp only [step, getElem?_withTask hc, withTask_withTask, Option.bind_eq_bind,
    Option.bind_some]
  rfl

/-- The message is put on the open channel of the recipient, or without one it is to be
queued. -/
theorem step_forward_withTask :
  (s.withTask c conn (.routing recipient message s.activeClients[recipient]?)).step serde
      (.forward c)
    = some (match s.channelFor recipient with
      | some d => (s.withTask c conn .waiting).push d message
      | none => s.withTask c conn (.queueing recipient message))
  := by
  simp only [step, getElem?_withTask hc, isOpen_withTask hc, withTask_withTask,
    Option.bind_eq_bind, Option.bind_some, channelFor]
  cases s.activeClients[recipient]? with
  | none => rfl
  | some client =>
      rw [Option.map_some, Option.filter_some, Option.filter_some]
      cases s.isOpen client.sender <;> rfl

/-- The row is inserted, or its insertion fails. -/
theorem step_enqueue_withTask (inserts : Bool) :
  (s.withTask c conn (.queueing recipient message)).step serde
      (if inserts then .enqueue c else .task c .failEnqueue)
    = some (if inserts then (s.withTask c conn .waiting).insertRow recipient message
      else s.withTask c conn .waiting)
  := by
  cases inserts with
  | false =>
      simp only [step, getElem?_withTask hc, Bool.false_eq_true, if_false, Option.bind_eq_bind,
        Option.bind_some, Connection.taskStep, withTask_withTask]
  | true =>
      simp only [step, getElem?_withTask hc, if_true, Option.bind_eq_bind, Option.bind_some,
        enqueue, withTask_withTask]
      rfl

end Run

/-- A payload that is not accepted leaves the task where it was. -/
theorem handleEncryptedPayload_refused
    {c : ℕ} {conn : Connection} (hc : s.connections[c]? = some conn)
    (hwaiting : conn.receiveTask = .waiting) {payload : Bytes}
    (hcheck : ∀ recipient encryptedPayload,
      checkPayload serde conn.username payload ≠ .ok (.accepted recipient encryptedPayload))
    (inserts : Bool) :
  s.handleEncryptedPayload serde inserts c payload = some (s.refuse c payload)
  := by
  have hstep : s.step serde (.receive c payload) = some (s.refuse c payload) := by
    simp only [step, hc, Option.bind_eq_bind, Option.bind_some, hwaiting]
  have hdone : (s.refuse c payload).isHandling c = false := by
    rw [isHandling, refuse, hc, Option.any_some, hwaiting]
    rfl
  rw [handleEncryptedPayload, hstep, Option.bind_eq_bind, Option.bind_some, hdone]
  rfl

/-- What becomes of a payload that is accepted. -/
theorem handleEncryptedPayload_accepted
    {c : ℕ} {conn : Connection} (hc : s.connections[c]? = some conn)
    (hwaiting : conn.receiveTask = .waiting) {payload encryptedPayload : Bytes}
    {recipient : String}
    (hcheck :
      checkPayload serde conn.username payload = .ok (.accepted recipient encryptedPayload))
    (inserts : Bool) :
  s.handleEncryptedPayload serde inserts c payload
    = some (match s.channelFor recipient with
      | some d => (s.count c payload).push d ⟨s.nextTag, encryptedPayload⟩
      | none =>
          if inserts then (s.count c payload).insertRow recipient ⟨s.nextTag, encryptedPayload⟩
          else s.count c payload)
  := by
  let message : Message := ⟨s.nextTag, encryptedPayload⟩
  have hcount : (s.count c payload).connections[c]? = some conn := hc
  have hstep : s.step serde (.receive c payload)
      = some ((s.count c payload).withTask c conn (.locking recipient message)) := by
    simp only [step, hc, Option.bind_eq_bind, Option.bind_some, hwaiting, hcheck]
    rfl
  have hchannel : (s.count c payload).channelFor recipient = s.channelFor recipient := rfl
  rw [handleEncryptedPayload, hstep, Option.bind_eq_bind, Option.bind_some,
    isHandling_withTask hcount, step_lookUp_withTask hcount]
  simp only [ReceiveTask.handled, Option.isSome_some, Bool.not_true, Bool.false_eq_true,
    if_false, Option.bind_some, step_forward_withTask hcount, hchannel,
    withTask_waiting hcount hwaiting]
  cases s.channelFor recipient with
  | some d =>
      have hdone : ((s.count c payload).push d message).isHandling c = false := by
        rw [isHandling, getElem?_push, hcount]
        split <;> simp [Connection.push, hwaiting, ReceiveTask.handled]
      simp only [hdone]
      rfl
  | none =>
      simp only [isHandling_withTask hcount, ReceiveTask.handled, Option.isSome_some,
        Bool.not_true, Bool.false_eq_true, if_false, step_enqueue_withTask hcount,
        withTask_waiting hcount hwaiting]
      rfl

/-! ### One run is all or nothing -/

/-- The channel that is found for a recipient is the open one of a registered connection of
that user. -/
theorem Wellformed.channelFor (hs : s.Wellformed) {recipient : String} {d : ℕ}
    (hd : s.channelFor recipient = some d) :
  ∃ client conn, s.activeClients[recipient]? = some client ∧ client.sender = d
    ∧ s.connections[d]? = some conn ∧ conn.isOpen ∧ conn.username = recipient
    ∧ conn.connectionId = client.connectionId
  := by
  obtain ⟨hmap, hopen⟩ := Option.filter_eq_some_iff.mp hd
  obtain ⟨client, hclient, rfl⟩ := Option.map_eq_some_iff.mp hmap
  obtain ⟨conn, hconn, husername, hid, -⟩ := hs.entry recipient client hclient
  rw [Relay.isOpen, hconn, Option.any_some] at hopen
  use client, conn

/-- In a well-formed state one run is all or nothing. -/
theorem Wellformed.allOrNothing
    (hs : s.Wellformed) (hserde : serde.Inverts serde) {c : ℕ} {conn : Connection}
    (hc : s.connections[c]? = some conn) (hwaiting : conn.receiveTask = .waiting)
    (inserts : Bool) (payload : Bytes) :
  ∃ s', s.handleEncryptedPayload serde inserts c payload = some s'
    ∧ AllOrNothing serde inserts conn.username payload s s'
  := by
  by_cases hadmits : ∃ routed, Admits serde conn.username payload routed
  · obtain ⟨routed, hrouted⟩ := hadmits
    obtain ⟨encryptedPayload, hencrypted⟩ := exists_toWireBytes hserde routed.encrypted
    have hcheck := hrouted.checkPayload hencrypted
    refine ⟨_, handleEncryptedPayload_accepted hc hwaiting hcheck inserts, ?_⟩
    constructor
    case refused =>
      intro hnone
      apply absurd hrouted (hnone routed)
    case admitted =>
      intro routed' hrouted'
      obtain rfl : routed = routed' := by
        apply Except.ok.inj (hrouted.decodes.symm.trans hrouted'.decodes)
      use encryptedPayload, hencrypted
      cases s.channelFor routed.to with
      | some d => constructor <;> rfl
      | none =>
          cases inserts with
          | false => constructor <;> rfl
          | true => constructor <;> rfl
    case channel =>
      intro recipient d
      apply hs.channelFor
  · rw [not_exists] at hadmits
    have hcheck : ∀ recipient encryptedPayload,
        checkPayload serde conn.username payload ≠ .ok (.accepted recipient encryptedPayload) := by
      intro recipient encryptedPayload haccepted
      obtain ⟨routed, hrouted⟩ := exists_admits haccepted
      apply hadmits routed hrouted
    refine ⟨_, handleEncryptedPayload_refused hc hwaiting hcheck inserts, ?_⟩
    constructor
    case refused =>
      intro _
      constructor <;> rfl
    case admitted =>
      intro routed hrouted
      apply absurd hrouted (hadmits routed)
    case channel =>
      intro recipient d
      apply hs.channelFor

/-- In every reachable state, `handle_encrypted_payload` is all or nothing for every payload
that a connection reads. -/
theorem handleEncryptedPayload_of_reaches
    {s₀ : Relay} (h₀ : s₀.Initial)
    (h : TransitionSystem.Reaches (step serde) TransitionSystem.anyAction s₀ s)
    (hserde : serde.Inverts serde) {c : ℕ} {conn : Connection}
    (hc : s.connections[c]? = some conn) (hwaiting : conn.receiveTask = .waiting)
    (inserts : Bool) (payload : Bytes) :
  ∃ s', s.handleEncryptedPayload serde inserts c payload = some s'
    ∧ AllOrNothing serde inserts conn.username payload s s'
  := by
  apply (wellformed_of_reaches h h₀.wellformed).allOrNothing hserde hc hwaiting

/-- The message of `sampleRouted`, handled while its recipient is offline. -/
theorem handleEncryptedPayload_of_reaches_sample :
  ∃ s conn s', TransitionSystem.run (step .compact) start (comeOnline 0 "alice") = some s
    ∧ s.connections[0]? = some conn
    ∧ s.handleEncryptedPayload .compact true 0 sampleFrame = some s'
    ∧ AllOrNothing .compact true conn.username sampleFrame s s'
  := by
  have hrun : (TransitionSystem.run (step .compact) start (comeOnline 0 "alice")).isSome := by
    decide +kernel
  have hconn : ∀ s ∈ TransitionSystem.run (step .compact) start (comeOnline 0 "alice"),
      ∃ conn ∈ s.connections[0]?, conn.receiveTask = .waiting := by
    decide +kernel
  obtain ⟨s, hs⟩ := Option.isSome_iff_exists.mp hrun
  obtain ⟨conn, hc, hwaiting⟩ := hconn s hs
  have hreach : TransitionSystem.Reaches (step .compact) TransitionSystem.anyAction start s := by
    apply TransitionSystem.reaches_any_of_run hs
  obtain ⟨s', hhandle, hresult⟩ := handleEncryptedPayload_of_reaches initial_start hreach
    JsonCodec.inverts_compact hc hwaiting true sampleFrame
  use s, conn, s', hs, hc, hhandle

end Relay

end Phantasma
