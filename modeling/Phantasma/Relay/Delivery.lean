import Phantasma.Relay.Invariant

/-!
# Whether a message reaches a socket

A message that was put into the queue of a user, or on the channel of one of the user's
connections, moves from the queue to a channel, from the channel into the hand of the
sending task, and from there to the socket.  When the sending task ends, its channel is
dropped with what it holds (`Relay.not_kept_of_put`).  In a run in which no sending task
ends with messages left, every message stays in one of the places (`Relay.kept_of_put`).
-/

namespace Phantasma

namespace Connection

/-- The message is on the open channel of the connection, or in the hand of its sending
task, or was written to its socket. -/
def Holds (conn : Connection) (message : Message) : Prop :=
  (conn.isOpen ∧ message ∈ conn.unsent) ∨ message ∈ conn.written

instance (conn : Connection) (message : Message) : Decidable (conn.Holds message) :=
  inferInstanceAs (Decidable (_ ∨ _))

theorem holds_push
    (conn : Connection) {message : Message} (h : conn.Holds message) (other : Message) :
  (conn.push other).Holds message
  := by
  rcases h with ⟨hopen, hunsent⟩ | hwritten
  · left
    use hopen
    apply List.mem_append.mpr
    rcases List.mem_append.mp hunsent with hhand | houtbound
    · left
      apply hhand
    · right
      apply List.mem_append_left _ houtbound
  · right
    apply hwritten

/-- A step of a connection that does not end its sending task with messages left keeps
the messages that the connection holds. -/
theorem Step.holds
    {table : QueuedMessages} {conn conn' : Connection} {a : TaskAction}
    (hstep : conn.Step a conn') (hfits : conn.Fits table)
    (hleaves : a = .failWrite ∨ a = .dropSend → conn.unsent = []) {message : Message}
    (h : conn.Holds message) :
  conn'.Holds message
  := by
  cases hstep with
  | failWrite | dropSend =>
      rcases h with ⟨-, hunsent⟩ | hwritten
      · simp [hleaves] at hunsent
      · right
        apply hwritten
  | spawnTasks hphase =>
      obtain ⟨hsend, -⟩ := hfits.unspawned (by simp [hphase, Phase.hasSpawned])
      rcases h with ⟨-, hunsent⟩ | hwritten
      · left
        use rfl
        simpa [unsent, inHand, hsend] using hunsent
      · right
        apply hwritten
  | takeOutbound hsend houtbound =>
      rcases h with ⟨-, hunsent⟩ | hwritten
      · left
        use rfl
        simpa [unsent, inHand, hsend, houtbound] using hunsent
      · right
        apply hwritten
  | write hsend =>
      rcases h with ⟨-, hunsent⟩ | hwritten
      · simp only [unsent, inHand, hsend, List.mem_append, List.mem_singleton] at hunsent
        rcases hunsent with rfl | houtbound
        · right
          simp
        · left
          use rfl
          apply houtbound
      · right
        apply List.mem_append_left _ hwritten
  | _ => apply h

end Connection

namespace Relay

variable {serde : JsonCodec} {s s' s₀ : Relay} {a : Action} {user : String} {message : Message}

/-! ### The places of a message -/

/-- The message is in a row of the queue of `user`. -/
def Queued (s : Relay) (user : String) (message : Message) : Prop :=
  ∃ row ∈ s.queuedMessages.rows, row.recipient = user ∧ row.message = message

/-- The message is in the queue of `user` or on the open channel of a connection of
`user`. -/
def Put (s : Relay) (user : String) (message : Message) : Prop :=
  s.Queued user message
    ∨ ∃ conn ∈ s.connections, conn.username = user ∧ conn.isOpen ∧ message ∈ conn.outbound

/-- The message is in the queue of `user`, or a connection of `user` holds it. -/
def Kept (s : Relay) (user : String) (message : Message) : Prop :=
  s.Queued user message
    ∨ ∃ conn ∈ s.connections, conn.username = user ∧ conn.Holds message

instance : Decidable (s.Queued user message) :=
  inferInstanceAs (Decidable (∃ row ∈ s.queuedMessages.rows, _))

instance : Decidable (s.Put user message) :=
  inferInstanceAs (Decidable (_ ∨ ∃ conn ∈ s.connections, _))

instance : Decidable (s.Kept user message) :=
  inferInstanceAs (Decidable (_ ∨ ∃ conn ∈ s.connections, _))

theorem Put.kept (h : s.Put user message) :
  s.Kept user message
  := by
  rcases h with hqueued | ⟨conn, hconn, huser, hopen, houtbound⟩
  · left
    apply hqueued
  · right
    use conn, hconn, huser
    left
    use hopen
    apply List.mem_append_right _ houtbound

/-- The action does not end a sending task that has messages left. -/
def LeavesNothing (s : Relay) (a : Action) : Prop :=
  ∀ (c : ℕ) (conn : Connection), s.connections[c]? = some conn →
    a = .task c .failWrite ∨ a = .task c .dropSend → conn.unsent = []

/-! ### Keeping a message -/

/-- A message that a connection holds is held by the connection after a step that leaves
nothing. -/
theorem Step.holds
    (h : Step serde s a s') (hs : s.Wellformed) (hleaves : s.LeavesNothing a) :
  Along (fun conn conn' => conn'.username = conn.username
    ∧ (conn.Holds message → conn'.Holds message)) s s'
  := by
  apply h.along
  · intro conn
    use rfl, id
  · rintro conn conn' conn'' ⟨huser, hholds⟩ ⟨huser', hholds'⟩
    use huser'.trans huser, hholds' ∘ hholds
  · intro conn other
    use rfl
    intro hholds
    apply Connection.holds_push conn hholds
  · intro conn phase task _
    use rfl, id
  · intro c a' conn conn' ha hc hstep
    use hstep.later.username
    apply hstep.holds (hs.fits c conn hc)
    intro ha'
    apply hleaves c conn hc
    rw [ha]
    apply ha'.imp (congrArg _) (congrArg _)

/-- A message in the queue of a user is still kept after a step: the only step that takes
it off the queue deletes a row whose message is on the channel of a connection of the
user. -/
theorem Step.kept_of_queued
    (h : Step serde s a s') (hs : s.Wellformed) (hqueued : s.Queued user message) :
  s'.Kept user message
  := by
  obtain ⟨row, hrow, huser, hmessage⟩ := hqueued
  cases h with
  | @deleteQueued c conn row' rest hc hphase =>
      by_cases hid : row.id = row'.id
      · have hfits := hs.fits c conn hc
        obtain ⟨hrecipient, -, honly⟩ := hfits.loaded row' (by simp [hphase, Phase.rows])
        obtain rfl := honly row hrow hid
        right
        use { conn with phase := .draining rest }
        and_intros
        · apply List.mem_of_getElem? (i := c)
          simp [Relay.deleteQueued, getElem?_setConnection hc]
        · apply hrecipient.symm.trans huser
        · left
          use hfits.isOpen (by simp [hphase, Phase.hasSpawned])
          rw [← hmessage]
          apply List.mem_append_right _ (hfits.sent row rest hphase)
      · left
        use row
        simp [Relay.deleteQueued, hrow, hid, huser, hmessage]
  | enqueue =>
      left
      use row
      simp [Relay.enqueue, hrow, huser, hmessage]
  | _ =>
      left
      use row, hrow

/-- A message that is kept is still kept after a step that leaves nothing. -/
theorem Step.kept
    (h : Step serde s a s') (hs : s.Wellformed) (hleaves : s.LeavesNothing a)
    (hkept : s.Kept user message) :
  s'.Kept user message
  := by
  rcases hkept with hqueued | ⟨conn, hconn, huser, hholds⟩
  · apply h.kept_of_queued hs hqueued
  · right
    obtain ⟨c, hc⟩ := List.mem_iff_getElem?.mp hconn
    obtain ⟨conn', hc', huser', hholds'⟩ := h.holds hs hleaves c conn hc
    use conn', List.mem_of_getElem? hc', huser'.trans huser, hholds' hholds

/-- In a run in which no sending task ends with messages left, a message that was put into
the queue of a user or on the channel of one of the user's connections is kept. -/
theorem kept_of_put
    (h₀ : s₀.Initial) (h : TransitionSystem.Reaches (step serde) LeavesNothing s₀ s)
    (hput : s.Put user message)
    (h' : TransitionSystem.Reaches (step serde) LeavesNothing s s') :
  s'.Kept user message
  := by
  have hs := wellformed_of_reaches h h₀.wellformed
  apply invariant_of_reaches (I := fun t => t.Kept user message) _ h' hs hput.kept
  intro t a t' hleaves hstep ht hkept
  apply hstep.kept ht hleaves hkept

/-- The queued message is written to the socket of its recipient. -/
theorem kept_of_put_sample :
  ∃ s s', after queueSample = some s ∧ s.Put "bob" sampleMessage
    ∧ TransitionSystem.Reaches (step sampleCodec) LeavesNothing s s'
    ∧ s'.Kept "bob" sampleMessage
  := by
  let actions := drainSample ++ [.task 1 .takeOutbound, .task 1 .write]
  have hrun : (after queueSample).isSome := by
    decide +kernel
  have hrun' : ∀ t ∈ after queueSample,
      (TransitionSystem.run (step sampleCodec) t actions).isSome := by
    decide +kernel
  have hput : ∀ t ∈ after queueSample, t.Put "bob" sampleMessage := by
    decide +kernel
  obtain ⟨s, hs⟩ := Option.isSome_iff_exists.mp hrun
  obtain ⟨s', hs'⟩ := Option.isSome_iff_exists.mp (hrun' s hs)
  have h : TransitionSystem.Reaches (step sampleCodec) LeavesNothing start s := by
    apply TransitionSystem.reaches_of_run _ hs
    simp [queueSample, comeOnline, LeavesNothing]
  have h' : TransitionSystem.Reaches (step sampleCodec) LeavesNothing s s' := by
    apply TransitionSystem.reaches_of_run _ hs'
    simp [actions, drainSample, LeavesNothing]
  use s, s', hs, hput s hs, h'
  apply kept_of_put initial_start h (hput s hs) h'

/-- A message that was queued is lost when its recipient comes online and closes the
connection before the message is written: the row is deleted and the channel dropped. -/
theorem not_kept_of_put :
  ¬ ∀ (s s' : Relay) (user : String) (message : Message),
    TransitionSystem.Reaches (step sampleCodec) (fun _ a => dbSucceeds a) start s →
    s.Put user message →
    TransitionSystem.Reaches (step sampleCodec) (fun _ a => dbSucceeds a) s s' →
    s'.Kept user message
  := by
  intro hkept
  let actions := drainSample ++
    [.task 1 (.receiveFrame .close), .task 1 .selectReceive, .task 1 .dropSend]
  have hrun : (after queueSample).isSome := by
    decide +kernel
  have hrun' : ∀ t ∈ after queueSample,
      (TransitionSystem.run (step sampleCodec) t actions).isSome := by
    decide +kernel
  have hput : ∀ t ∈ after queueSample, t.Put "bob" sampleMessage := by
    decide +kernel
  have hlost : ∀ t ∈ after queueSample, ∀ t' ∈ TransitionSystem.run (step sampleCodec) t actions,
      ¬ t'.Kept "bob" sampleMessage := by
    decide +kernel
  obtain ⟨s, hs⟩ := Option.isSome_iff_exists.mp hrun
  obtain ⟨s', hs'⟩ := Option.isSome_iff_exists.mp (hrun' s hs)
  apply hlost s hs s' hs'
  apply hkept s s' "bob" sampleMessage _ (hput s hs)
  · apply TransitionSystem.reaches_of_run _ hs'
    simp [actions, drainSample, dbSucceeds]
  · apply TransitionSystem.reaches_of_run _ hs
    simp [queueSample, comeOnline, dbSucceeds]

end Relay

end Phantasma
