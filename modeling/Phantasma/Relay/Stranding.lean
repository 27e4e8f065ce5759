import Phantasma.Relay.Invariant

/-!
# Whether a message stays in the queue of an online user

The receiving task looks a recipient up in `active_clients`, lets go of the lock, and
inserts a row into the table later.  A recipient that comes online between the two and
has its queue loaded does not get the row (`Relay.not_noneStranded`).  In a run in which
every row is inserted before the connection with the entry loads the queue, all rows of a
user are among those that this connection still has to deliver
(`Relay.noneStranded_of_reaches`).
-/

namespace Phantasma

/-- A connection in this phase has registered and not finished delivering the queued
messages. -/
def Phase.isDelivering : Phase → Bool
  | .registered | .draining _ | .deleting _ _ => true
  | _ => false

/-- A connection that has loaded its queue has yet to deliver every row of its user. -/
def Connection.Covers (table : QueuedMessages) (conn : Connection) : Prop :=
  conn.phase.hasLoaded → ∀ row ∈ table.rows, row.recipient = conn.username →
    row ∈ conn.phase.rows

namespace Connection

variable {table : QueuedMessages} {conn conn' : Connection}

/-- A connection of another user covers a table with a row inserted. -/
theorem Covers.queueMessage
    (h : conn.Covers table) {recipient : String} (message : Message)
    (hrecipient : conn.phase.hasLoaded → recipient ≠ conn.username) :
  conn.Covers (table.queueMessage recipient message)
  := by
  intro hloaded row hrow huser
  rcases (QueuedMessages.mem_queueMessage ..).mp hrow with hold | rfl
  · apply h hloaded row hold huser
  · apply absurd huser (hrecipient hloaded)

theorem Covers.deleteQueuedMessage (h : conn.Covers table) (id : ℕ) :
  conn.Covers (table.deleteQueuedMessage id)
  := by
  intro hloaded row hrow
  apply h hloaded row ((QueuedMessages.mem_deleteQueuedMessage ..).mp hrow).1

/-- A connection covers the table without the row it was deleting. -/
theorem Covers.deleteQueued
    {row : QueuedMessage} {rest : List QueuedMessage} (h : conn.Covers table)
    (hphase : conn.phase = .deleting row rest) :
  Covers (table.deleteQueuedMessage row.id) { conn with phase := .draining rest }
  := by
  intro _ row' hrow' huser
  obtain ⟨hmem, hid⟩ := (QueuedMessages.mem_deleteQueuedMessage ..).mp hrow'
  have hrows := h (by simp [hphase, Phase.hasLoaded]) row' hmem huser
  simp only [hphase, Phase.rows, List.mem_cons] at hrows
  rcases hrows with rfl | hrest
  · apply absurd rfl hid
  · apply hrest

/-- A step of a connection in which the database does not fail keeps what it has yet to
deliver. -/
theorem Step.covers
    {a : TaskAction} (hstep : conn.Step a conn') (hdb : a ≠ .failLoad ∧ a ≠ .failDelete)
    (h : conn.Covers table) :
  conn'.Covers table
  := by
  cases hstep with
  | failLoad => apply absurd rfl hdb.1
  | failDelete => apply absurd rfl hdb.2
  | spawnTasks hphase | selectSend hphase | selectReceive hphase =>
      intro _ row hrow huser
      simpa [hphase, Phase.rows] using h (by simp [hphase, Phase.hasLoaded]) row hrow huser
  | _ => apply h

end Connection

namespace Relay

variable {serde : JsonCodec} {s s' s₀ : Relay} {a : Action}

/-- No message to `recipient` is stranded: when the connection with the entry of
`recipient` has finished delivering, and no payload to `recipient` is being handled, and no
connection of `recipient` is delivering, then the table has no row for `recipient`. -/
def NoneStranded (s : Relay) (recipient : String) : Prop :=
  ∀ client ∈ s.activeClients[recipient]?, ∀ conn ∈ s.connections[client.sender]?,
    conn.phase.hasSpawned →
    (∀ other ∈ s.connections, other.receiveTask.handled.map Prod.fst ≠ some recipient) →
    (∀ other ∈ s.connections, other.username = recipient → ¬ other.phase.isDelivering) →
    ∀ row ∈ s.queuedMessages.rows, row.recipient ≠ recipient

instance (s : Relay) (recipient : String) : Decidable (s.NoneStranded recipient) := by
  unfold NoneStranded
  infer_instance

/-- The action does not insert a row for a user whose entry belongs to a connection that
has loaded its queue. -/
def QueuesInTime (s : Relay) : Action → Prop
  | .enqueue c =>
      ∀ conn ∈ s.connections[c]?, ∀ handled ∈ conn.receiveTask.handled,
        ∀ client ∈ s.activeClients[handled.1]?, ∀ other ∈ s.connections[client.sender]?,
          ¬ other.phase.hasLoaded
  | _ => True

instance (s : Relay) : DecidablePred s.QueuesInTime
  | .enqueue c => by
      unfold QueuesInTime
      infer_instance
  | .connect _ | .task _ _ | .register _ | .loadQueue _ | .sendQueued _ | .deleteQueued _
  | .receive _ _ | .lookUp _ | .forward _ | .cleanUp _ => .isTrue trivial

/-- The connection `c` has an entry in `active_clients`. -/
def IsActive (s : Relay) (c : ℕ) : Prop :=
  ∃ (username : String) (client : ActiveClient),
    s.activeClients[username]? = some client ∧ client.sender = c

/-- Every connection with an entry covers the table. -/
def Covered (s : Relay) : Prop :=
  ∀ (c : ℕ) (conn : Connection), s.connections[c]? = some conn → s.IsActive c →
    conn.Covers s.queuedMessages

theorem Initial.covered (h : s.Initial) :
  s.Covered
  := by
  simp [Covered, h.connections]

/-- A row inserted in time leaves the table covered. -/
theorem covered_enqueue
    (hs : s.Wellformed) (hcovered : s.Covered) {c : ℕ} {conn : Connection}
    (hc : s.connections[c]? = some conn) {recipient : String} {message : Message}
    (hreceive : conn.receiveTask = .queueing recipient message)
    (hguard : s.QueuesInTime (.enqueue c)) :
  (s.enqueue c conn recipient message).Covered
  := by
  have hall : ∀ (d : ℕ) (x : Connection), s.connections[d]? = some x → s.IsActive d →
      x.Covers (s.queuedMessages.queueMessage recipient message) := by
    intro d x hd hactive
    apply (hcovered d x hd hactive).queueMessage
    intro hloaded hrecipient
    obtain ⟨username, client, hclient, rfl⟩ := hactive
    obtain ⟨other, hother, rfl, -⟩ := hs.entry username client hclient
    obtain rfl := Option.some.inj (hd.symm.trans hother)
    apply hguard conn hc (recipient, message) (by simp [hreceive, ReceiveTask.handled]) client
      (by rw [hrecipient]; exact hclient) x hd hloaded
  unfold Covered
  apply forall_setConnection hc hall
  apply hall c conn hc

/-- A connection that registers has not loaded its queue yet, and the entry it replaces is
one less that is active. -/
theorem covered_register
    (hcovered : s.Covered) {c : ℕ} {conn : Connection} (hc : s.connections[c]? = some conn)
    (hphase : conn.phase = .opened) :
  (s.register c conn).Covered
  := by
  refine forall_setConnection hc ?_ ?_
  · intro d x hd hactive
    by_cases hcd : c = d
    · subst d
      obtain rfl := Option.some.inj (hc.symm.trans hd)
      intro hloaded
      simp [hphase, Phase.hasLoaded] at hloaded
    · apply hcovered d x hd
      obtain ⟨username, client, hclient, rfl⟩ := hactive
      use username, client
      simp only [Relay.register, Std.ExtTreeMap.getElem?_insert] at hclient
      split at hclient
      · obtain rfl := Option.some.inj hclient
        apply absurd rfl hcd
      · use hclient
  · intro _ hloaded
    cases hloaded

/-- A connection that cleans up holds no rows, and makes no other connection active. -/
theorem covered_cleanUp
    (hcovered : s.Covered) {c : ℕ} {conn : Connection} (hc : s.connections[c]? = some conn)
    (hphase : conn.phase = .closing) :
  (s.cleanUp c conn).Covered
  := by
  have hactive : ∀ d, (s.cleanUp c conn).IsActive d → s.IsActive d := by
    rintro d ⟨username, client, hclient, rfl⟩
    use username, client
    simp only [Relay.cleanUp] at hclient
    split at hclient
    · rw [Std.ExtTreeMap.getElem?_erase] at hclient
      split at hclient
      · cases hclient
      · use hclient
    · use hclient
  refine forall_setConnection hc ?_ ?_
  · intro d x hd hd'
    apply hcovered d x hd (hactive d hd')
  · intro hc' _ row hrow huser
    have := hcovered c conn hc (hactive c hc') (by simp [hphase, Phase.hasLoaded]) row
      hrow huser
    simp [hphase, Phase.rows] at this

/-- A step that inserts its row in time, and in which the database does not fail, leaves
the table covered. -/
theorem Step.covered
    (h : Step serde s a s') (hs : s.Wellformed) (hdb : dbSucceeds a)
    (hguard : s.QueuesInTime a) (hcovered : s.Covered) :
  s'.Covered
  := by
  unfold Covered
  cases h with
  | connect =>
      apply forall_connect _ hcovered
      intro _ hloaded
      cases hloaded
  | task hc hstep =>
      apply forall_setConnection hc hcovered
      intro hactive
      apply hstep.covers _ (hcovered _ _ hc hactive)
      constructor <;>
        · rintro rfl
          cases hdb
  | register hc hphase => apply covered_register hcovered hc hphase
  | loadQueue hc =>
      apply forall_setConnection hc hcovered
      intro _ _ row hrow huser
      apply (QueuedMessages.mem_queuedMessagesFor ..).mpr ⟨hrow, huser⟩
  | sendQueued hc hphase =>
      apply forall_push
      · apply forall_setConnection hc hcovered
        intro hactive _ row hrow huser
        have := hcovered _ _ hc hactive (by simp [hphase, Phase.hasLoaded]) row hrow huser
        simpa [hphase, Phase.rows] using this
      · intro d x hx
        apply hx
  | breakQueued hc hphase hclosed =>
      apply absurd ((hs.fits _ _ hc).isOpen _) hclosed
      simp [hphase, Phase.hasSpawned]
  | deleteQueued hc hphase =>
      refine forall_setConnection hc ?_ ?_
      · intro d x hd hactive
        apply (hcovered d x hd hactive).deleteQueuedMessage
      · intro hactive
        apply (hcovered _ _ hc hactive).deleteQueued hphase
  | forward hc =>
      apply forall_push
      · apply forall_setConnection hc hcovered
        apply hcovered _ _ hc
      · intro d x hx
        apply hx
  | enqueue hc hreceive => apply covered_enqueue hs hcovered hc hreceive hguard
  | refuse => apply hcovered
  | cleanUp hc hphase => apply covered_cleanUp hcovered hc hphase
  | accept hc | lookUp hc | fallBack hc =>
      apply forall_setConnection hc hcovered
      apply hcovered _ _ hc

theorem Covered.noneStranded (h : s.Covered) (hs : s.Wellformed) (recipient : String) :
  s.NoneStranded recipient
  := by
  intro client hclient conn hc hspawned _ _ row hrow huser
  obtain ⟨other, hother, rfl, -⟩ := hs.entry recipient client hclient
  obtain rfl := Option.some.inj (hc.symm.trans hother)
  have hrows : conn.phase.hasLoaded ∧ conn.phase.rows = [] := by
    cases hphase : conn.phase <;>
      simp_all [Phase.hasSpawned, Phase.hasLoaded, Phase.rows]
  have := h _ conn hc ⟨_, client, hclient, rfl⟩ hrows.1 row hrow huser
  simp [hrows.2] at this

/-- In a run in which every database call succeeds, and no row is inserted for a user whose
entry belongs to a connection that has loaded its queue, no message is stranded. -/
theorem noneStranded_of_reaches
    (h₀ : s₀.Initial)
    (h : TransitionSystem.Reaches (step serde)
      (fun s a => dbSucceeds a ∧ s.QueuesInTime a) s₀ s) (recipient : String) :
  s.NoneStranded recipient
  := by
  have hcovered : s.Covered := by
    apply invariant_of_reaches (I := Covered) _ h h₀.wellformed h₀.covered
    rintro t a t' ⟨hdb, hguard⟩ hstep ht hcovered
    apply hstep.covered ht hdb hguard hcovered
  apply hcovered.noneStranded (wellformed_of_reaches h h₀.wellformed)

/-- A message that is queued before its recipient comes online is not stranded. -/
theorem noneStranded_of_reaches_sample :
  ∃ s, after (queueSample ++ drainSample) = some s ∧ s.NoneStranded "bob"
  := by
  let guard (s : Relay) (a : Action) : Prop := dbSucceeds a ∧ s.QueuesInTime a
  let actions := queueSample ++ drainSample
  have hrun : (TransitionSystem.run (TransitionSystem.guarded (step sampleCodec) guard) start
      actions).isSome := by
    decide +kernel
  obtain ⟨s, hs⟩ := Option.isSome_iff_exists.mp hrun
  use s, TransitionSystem.run_of_run_guarded hs
  apply noneStranded_of_reaches initial_start (TransitionSystem.reaches_of_run_guarded hs)

/-- The message of `sampleRouted` is stranded: its recipient is looked up while offline,
comes online and finds an empty queue, and then the row is inserted. -/
theorem not_noneStranded :
  ¬ ∀ (s : Relay) (recipient : String),
    TransitionSystem.Reaches (step sampleCodec) (fun _ a => dbSucceeds a) start s →
    s.NoneStranded recipient
  := by
  intro hnone
  let actions := comeOnline 0 "alice" ++ [.receive 0 sampleFrame, .lookUp 0]
    ++ comeOnline 1 "bob" ++ [.forward 0, .enqueue 0]
  have hrun : (after actions).isSome := by
    decide +kernel
  have hstranded : ∀ t ∈ after actions, ¬ t.NoneStranded "bob" := by
    decide +kernel
  obtain ⟨s, hs⟩ := Option.isSome_iff_exists.mp hrun
  apply hstranded s hs
  apply hnone
  apply TransitionSystem.reaches_of_run _ hs
  simp [actions, comeOnline, dbSucceeds]

end Relay

end Phantasma
