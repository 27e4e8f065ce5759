import Phantasma.Relay.Delivery

/-!
# A connection is served

Whatever the relay is doing, a user who connects can be sent everything that is queued, by steps of
the new connection alone (`exists_delivered`).
-/

namespace Phantasma

namespace QueuedMessages

/-- The table after the rows were deleted one by one. -/
def deleteAll (table : QueuedMessages) (rows : List QueuedMessage) : QueuedMessages :=
  rows.foldl (fun table row => table.deleteQueuedMessage row.id) table

theorem rows_deleteAll (table : QueuedMessages) (rows : List QueuedMessage) :
  (table.deleteAll rows).rows = table.rows.filter fun row => ∀ row' ∈ rows, row.id ≠ row'.id
  := by
  induction rows generalizing table with
  | nil =>
      symm
      apply List.filter_eq_self.mpr
      simp
  | cons first rows ih =>
      change ((table.deleteQueuedMessage first.id).deleteAll rows).rows = _
      rw [ih, deleteQueuedMessage, List.filter_filter]
      apply List.filter_congr
      intro row _
      simp only [List.forall_mem_cons, Bool.decide_and]
      rw [Bool.and_comm]

/-- When the rows of a recipient are deleted, there are none left for it, -/
theorem queuedMessagesFor_deleteAll_self (table : QueuedMessages) (recipient : String) :
  (table.deleteAll (table.queuedMessagesFor recipient)).queuedMessagesFor recipient = []
  := by
  apply List.eq_nil_iff_forall_not_mem.mpr
  intro row hrow
  obtain ⟨hrow, hrecipient⟩ := (mem_queuedMessagesFor ..).mp hrow
  rw [rows_deleteAll, List.mem_filter, decide_eq_true_eq] at hrow
  obtain ⟨hmem, hdeleted⟩ := hrow
  exact hdeleted row ((mem_queuedMessagesFor ..).mpr ⟨hmem, hrecipient⟩) rfl

/-- and the rows of the others are there. -/
theorem queuedMessagesFor_deleteAll_of_ne
    (table : QueuedMessages) {recipient other : String} (hne : other ≠ recipient) :
  (table.deleteAll (table.queuedMessagesFor recipient)).queuedMessagesFor other
    = table.queuedMessagesFor other
  := by
  rw [queuedMessagesFor, rows_deleteAll, List.filter_filter, queuedMessagesFor]
  apply List.filter_congr
  intro row hrow
  by_cases hother : row.recipient = other
  · have hkept : ∀ row' ∈ table.rows.filter fun row => row.recipient = recipient,
        row.id ≠ row'.id := by
      intro row' hrow' hid
      obtain ⟨hmem, hrecipient⟩ := (mem_queuedMessagesFor ..).mp hrow'
      obtain rfl := table.eq_of_id_eq hrow hmem hid
      exact hne (hother.symm.trans hrecipient)
    rw [decide_eq_true hkept, Bool.and_true]
  · rw [decide_eq_false hother, Bool.false_and]

end QueuedMessages

namespace Relay

open TransitionSystem

variable {serde : JsonCodec} {s s' s'' : Relay} {c : ℕ} {conn conn' : Connection}
  {table table' : QueuedMessages}

/-! ### A connection alone -/

/-- The steps of the connection `c` by which it comes online and sends what is queued and what is
on its channel. -/
def serves (c : ℕ) : Action → Bool
  | .register d | .loadQueue d | .sendQueued d | .deleteQueued d | .task d .spawnTasks
  | .task d .takeOutbound | .task d .write => d = c
  | _ => false

/-- `RunsAlone serde s c conn table s'`: the connection `c` alone has run from `s` to `s'`, and is
now `conn`; the table of queued messages is `table`. -/
structure RunsAlone (serde : JsonCodec) (s : Relay) (c : ℕ) (conn : Connection)
    (table : QueuedMessages) (s' : Relay) : Prop where
  reaches : Reaches (step serde) (fun _ a => serves c a) s s'
  self : s'.connections[c]? = some conn
  others : ∀ d, d ≠ c → s'.connections[d]? = s.connections[d]?
  queuedMessages : s'.queuedMessages = table

theorem RunsAlone.refl (hc : s.connections[c]? = some conn) :
  RunsAlone serde s c conn s.queuedMessages s
  where
  reaches := Relation.ReflTransGen.refl
  self := hc
  others _ _ := rfl
  queuedMessages := rfl

theorem RunsAlone.trans
    (h : RunsAlone serde s c conn table s') (h' : RunsAlone serde s' c conn' table' s'') :
  RunsAlone serde s c conn' table' s''
  where
  reaches := Relation.ReflTransGen.trans h.reaches h'.reaches
  self := h'.self
  others d hne := (h'.others d hne).trans (h.others d hne)
  queuedMessages := h'.queuedMessages

/-- A step that changes the connection and the table. -/
theorem runsAlone_step
    (hc : s.connections[c]? = some conn) {a : Action} (hserves : serves c a)
    (hstep : s.step serde a = some s')
    (hconnections : s'.connections = (s.setConnection c conn').connections)
    (htable : s'.queuedMessages = table) :
  RunsAlone serde s c conn' table s'
  where
  reaches := Relation.ReflTransGen.single ⟨a, hserves, hstep⟩
  self := by
    rw [hconnections, getElem?_setConnection hc, if_pos rfl]
  others d hne := by
    rw [hconnections, getElem?_setConnection hc, if_neg (Ne.symm hne)]
  queuedMessages := htable

theorem runsAlone_task
    (serde : JsonCodec) (hc : s.connections[c]? = some conn) {a : TaskAction}
    (hserves : serves c (.task c a)) (hstep : conn.taskStep a = some conn') :
  RunsAlone serde s c conn' s.queuedMessages (s.setConnection c conn')
  := by
  apply runsAlone_step hc hserves _ rfl rfl
  rw [step, hc, Option.bind_eq_bind, Option.bind_some, hstep]
  rfl

/-- The rows that were loaded are sent and deleted, one after another. -/
theorem exists_drained
    (serde : JsonCodec) {rows : List QueuedMessage} (hc : s.connections[c]? = some conn)
    (hphase : conn.phase = .draining rows) (hopen : conn.isOpen) :
  ∃ s', RunsAlone serde s c
    { conn with phase := .draining [], outbound := conn.outbound ++ rows.map (·.message) }
    (s.queuedMessages.deleteAll rows) s'
  := by
  induction rows generalizing s conn with
  | nil =>
      use s
      rw [List.map_nil, List.append_nil, ← hphase]
      apply RunsAlone.refl hc
  | cons row rest ih =>
      let sent : Connection := { conn with
        phase := .deleting row rest, outbound := conn.outbound ++ [row.message] }
      let s₁ := (s.setConnection c { conn with phase := .deleting row rest }).push c row.message
      have hsend : RunsAlone serde s c sent s.queuedMessages s₁ := by
        have hstep : s.step serde (.sendQueued c) = some s₁ := by
          rw [step, hc, Option.bind_eq_bind, Option.bind_some, hphase]
          dsimp only
          rw [if_pos hopen]
        apply runsAlone_step hc _ hstep (push_setConnection hc _ _) rfl
        apply decide_eq_true rfl
      let deleted : Connection := { sent with phase := .draining rest }
      have hdelete : RunsAlone serde s₁ c deleted (s.queuedMessages.deleteQueuedMessage row.id)
          (s₁.deleteQueued c sent row rest) := by
        apply runsAlone_step hsend.self (a := .deleteQueued c)
        · apply decide_eq_true rfl
        · rw [step, hsend.self]
          rfl
        · rfl
        · rfl
      obtain ⟨s', hrest⟩ := ih hdelete.self rfl hopen
      use s'
      rw [List.map_cons, List.append_cons]
      apply (hsend.trans hdelete).trans hrest

/-- What is on the channel is written, one message after another. -/
theorem exists_flushed
    (serde : JsonCodec) (hc : s.connections[c]? = some conn) (hsend : conn.sendTask = .waiting) :
  ∃ s', RunsAlone serde s c
    { conn with
      outbound := [], sendTask := .waiting, written := conn.written ++ conn.outbound }
    s.queuedMessages s'
  := by
  generalize houtbound : conn.outbound = outbound
  induction outbound generalizing s conn with
  | nil =>
      use s
      rw [List.append_nil, ← houtbound, ← hsend]
      apply RunsAlone.refl hc
  | cons message rest ih =>
      let taken : Connection := { conn with sendTask := .writing message, outbound := rest }
      have htake : RunsAlone serde s c taken s.queuedMessages (s.setConnection c taken) := by
        apply runsAlone_task serde hc (a := .takeOutbound)
        · apply decide_eq_true rfl
        · rw [Connection.taskStep, hsend, houtbound]
      let written : Connection := { taken with
        sendTask := .waiting, written := conn.written ++ [message] }
      have hwrite : RunsAlone serde (s.setConnection c taken) c written s.queuedMessages
          ((s.setConnection c taken).setConnection c written) := by
        apply runsAlone_task serde htake.self (a := .write)
        · apply decide_eq_true rfl
        · rfl
      obtain ⟨s', hrest⟩ := ih hwrite.self rfl rfl
      use s'
      rw [List.append_cons]
      apply (htake.trans hwrite).trans hrest

/-- A connection that has inserted itself loads the rows of its user, sends and deletes them, spawns
its tasks and writes everything to its socket. -/
theorem exists_served
    (serde : JsonCodec) (hc : s.connections[c]? = some conn) (hphase : conn.phase = .registered)
    (hopen : conn.isOpen) :
  ∃ s' conn', RunsAlone serde s c conn'
      (s.queuedMessages.deleteAll (s.queuedMessages.queuedMessagesFor conn.username)) s'
    ∧ conn'.username = conn.username ∧ conn'.phase = .serving ∧ conn'.receiveTask = .waiting
    ∧ conn'.receiveAborted = conn.receiveAborted
    ∧ conn'.written = conn.written ++ (conn.outbound
      ++ (s.queuedMessages.queuedMessagesFor conn.username).map (·.message))
  := by
  let rows := s.queuedMessages.queuedMessagesFor conn.username
  have hload : RunsAlone serde s c { conn with phase := .draining rows } s.queuedMessages
      (s.setConnection c { conn with phase := .draining rows }) := by
    apply runsAlone_step hc (a := .loadQueue c) _ _ rfl rfl
    · apply decide_eq_true rfl
    · rw [step, hc, Option.bind_eq_bind, Option.bind_some, hphase]
  obtain ⟨s₁, hdrain⟩ := exists_drained serde hload.self rfl hopen
  have hspawn := runsAlone_task serde hdrain.self (a := .spawnTasks)
    (decide_eq_true rfl) rfl
  obtain ⟨s₂, hflush⟩ := exists_flushed serde hspawn.self rfl
  have hall := ((hload.trans hdrain).trans hspawn).trans hflush
  have htable : s₁.queuedMessages = s.queuedMessages.deleteAll rows := hdrain.queuedMessages
  rw [← htable]
  exact ⟨s₂, _, hall, rfl, rfl, rfl, rfl, rfl⟩

/-- A connection that was opened inserts itself, is sent what is queued, and waits. -/
theorem exists_online
    (serde : JsonCodec) {username : String} {id : UInt64}
    (hc : s.connections[c]? = some (.new username id)) :
  ∃ s' conn, Reaches (step serde) (fun _ a => serves c a) s s'
    ∧ s'.connections[c]? = some conn ∧ (∀ d, d ≠ c → s'.connections[d]? = s.connections[d]?)
    ∧ conn.username = username ∧ conn.phase = .serving ∧ conn.receiveTask = .waiting
    ∧ conn.receiveAborted = false
    ∧ conn.written = (s.queuedMessages.queuedMessagesFor username).map (·.message)
  := by
  have hregister : RunsAlone serde s c { Connection.new username id with phase := .registered }
      s.queuedMessages (s.register c (.new username id)) := by
    apply runsAlone_step hc (a := .register c)
    · apply decide_eq_true rfl
    · rw [step, hc]
      rfl
    · rfl
    · rfl
  obtain ⟨s', conn, hserved, hconn⟩ := exists_served serde hregister.self rfl rfl
  have hall := hregister.trans hserved
  exact ⟨s', conn, hall.reaches, hall.self, hall.others, hconn⟩

/-- A user can connect, and the new connection inserts itself. -/
theorem exists_registered
    (serde : JsonCodec) (s : Relay) {username : String} (hname : isValidUsername username) :
  ∃ s', Reaches (step serde)
      (fun _ a => a = .connect username ∨ serves s.connections.length a) s s'
    ∧ s'.connections[s.connections.length]?
      = some { Connection.new username s.nextConnectionId with phase := .registered }
    ∧ s'.queuedMessages = s.queuedMessages
    ∧ ∀ d < s.connections.length, s'.connections[d]? = s.connections[d]?
  := by
  have hopened : (s.connect username).connections[s.connections.length]?
      = some (.new username s.nextConnectionId) :=
    List.getElem?_concat_length ..
  use (s.connect username).register s.connections.length (.new username s.nextConnectionId)
  constructor
  · apply Relation.ReflTransGen.tail (b := s.connect username)
    · apply Relation.ReflTransGen.single
      exact ⟨.connect username, Or.inl rfl, if_pos hname⟩
    · use .register s.connections.length, Or.inr (decide_eq_true rfl)
      rw [step, hopened]
      rfl
  use (getElem?_setConnection hopened _ _).trans (if_pos rfl), rfl
  intro d hlt
  apply (getElem?_setConnection hopened _ d).trans
  rw [if_neg (Nat.ne_of_gt hlt)]
  apply List.getElem?_append_left hlt

/-- Whatever the relay is doing, a user who connects can be sent everything that is queued: by
steps of the new connection alone, its socket is given the messages of the rows, in their order,
and the rows are deleted; nothing changes for the other connections, and the rows of the other
users stay. -/
theorem exists_delivered
    (serde : JsonCodec) (s : Relay) {username : String} (hname : isValidUsername username) :
  ∃ s' conn, Reaches (step serde)
      (fun _ a => a = .connect username ∨ serves s.connections.length a) s s'
    ∧ s'.connections[s.connections.length]? = some conn ∧ conn.username = username
    ∧ conn.phase = .serving
    ∧ conn.written = (s.queuedMessages.queuedMessagesFor username).map (·.message)
    ∧ s'.queuedMessages.queuedMessagesFor username = []
    ∧ (∀ other, other ≠ username → s'.queuedMessages.queuedMessagesFor other
        = s.queuedMessages.queuedMessagesFor other)
    ∧ ∀ d < s.connections.length, s'.connections[d]? = s.connections[d]?
  := by
  obtain ⟨s₁, honline, hregistered, htable, hothers⟩ := exists_registered serde s hname
  obtain ⟨s', conn, hrun, husername, hphase, -, -, hwritten⟩ :=
    exists_served serde hregistered rfl rfl
  rw [htable] at hrun hwritten
  use s', conn
  constructor
  · apply Relation.ReflTransGen.trans honline
    apply hrun.reaches.mono
    intro _ _ hserves
    apply Or.inr hserves
  use hrun.self, husername, hphase, hwritten
  rw [hrun.queuedMessages]
  use QueuedMessages.queuedMessagesFor_deleteAll_self s.queuedMessages username
  constructor
  · intro other hne
    apply QueuedMessages.queuedMessagesFor_deleteAll_of_ne s.queuedMessages hne
  · intro d hlt
    rw [hrun.others d (Nat.ne_of_lt hlt), hothers d hlt]

/-- `bob` connects and is sent the message that was queued. -/
theorem exists_delivered_sample :
  ∃ s s' conn, after queueSample = some s
    ∧ Reaches (step sampleCodec)
      (fun _ a => a = .connect "bob" ∨ serves s.connections.length a) s s'
    ∧ s'.connections[s.connections.length]? = some conn ∧ conn.written = [sampleMessage]
  := by
  have hrun : (after queueSample).isSome := by
    decide +kernel
  have hqueued : ∀ t ∈ after queueSample,
      (t.queuedMessages.queuedMessagesFor "bob").map (·.message) = [sampleMessage] := by
    decide +kernel
  obtain ⟨s, hs⟩ := Option.isSome_iff_exists.mp hrun
  obtain ⟨s', conn, hreach, hc, -, -, hwritten, -⟩ :=
    exists_delivered sampleCodec s (by decide +kernel : isValidUsername "bob")
  use s, s', conn, hs, hreach, hc
  rw [hwritten, hqueued s hs]

end Relay

end Phantasma
