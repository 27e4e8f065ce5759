import Mathlib.Logic.Function.Basic
import Phantasma.Relay.Invariant

/-!
# The discipline of delivering queued messages

Every connection runs `deliver_queued_messages` once.  `record` keeps, for each of these
runs, the rows it found in the table, what it has put on channels, and the rows it has
deleted.  `disciplined_of_reaches` says what holds of them in every recorded run of the
relay, whatever the other connections do to the table and wherever the run stops:
`Disciplined` is about the order and the extent of what a run has done, and a row leaves
the table only in the step in which a run deletes the last row it has put on its own
channel.
-/

namespace Phantasma

/-- What a run of `deliver_queued_messages` has done: the rows of its user that were in the
table when it loaded them, the messages it has put on channels, and the rows that
`delete_queued_message` has returned for. -/
structure Drain where
  loaded : List QueuedMessage
  pushed : List (ℕ × Message)
  deleted : List QueuedMessage
deriving DecidableEq

namespace Drain

/-- Nothing is done yet. -/
def empty : Drain := ⟨[], [], []⟩

/-- What the connection `c` is to put on its own channel for a row. -/
def put (c : ℕ) (row : QueuedMessage) : ℕ × Message :=
  (c, row.message)

end Drain

namespace Relay

variable {serde : JsonCodec} {s s' : Relay} {a : Action}

/-- The rows that are in the table for the user of the connection `c`. -/
def rowsOf (s : Relay) (c : ℕ) : List QueuedMessage :=
  (s.connections[c]?.map fun conn =>
    s.queuedMessages.queuedMessagesFor conn.username).getD []

/-- The row that the connection `c` is deleting. -/
def rowInHand (s : Relay) (c : ℕ) : List QueuedMessage :=
  (s.connections[c]?.map fun conn => conn.phase.rows.take 1).getD []

/-- The record of the runs of `deliver_queued_messages`, after the step from `s` to `s'`. -/
def record (s : Relay) (a : Action) (s' : Relay) (drains : ℕ → Drain) : ℕ → Drain :=
  match a with
  | .loadQueue c => Function.update drains c { drains c with loaded := s.rowsOf c }
  | .sendQueued c =>
      Function.update drains c
        { drains c with pushed := (drains c).pushed ++ s'.puts.drop s.puts.length }
  | .deleteQueued c =>
      Function.update drains c
        { drains c with deleted := (drains c).deleted ++ s.rowInHand c }
  | _ => drains

end Relay

/-! ### The discipline -/

/-- What holds of the run of `deliver_queued_messages` of the connection `c` of `username`,
while the table is `table`.  What is put on the channel is written to the socket in the same order
(`putsInOrder_of_reaches`). -/
structure Drain.Disciplined (drain : Drain) (c : ℕ) (username : String)
    (table : QueuedMessages) : Prop where
  /-- The run has loaded rows of its own user only. -/
  own : ∀ row ∈ drain.loaded, row.recipient = username
  /-- They are in the order in which they were queued. -/
  ordered : drain.loaded.Pairwise fun row row' => row.id < row'.id
  /-- It has put the messages of the first ones on its own channel, in their order. -/
  pushed : drain.pushed <+: drain.loaded.map (put c)
  /-- It has deleted the first ones, in their order. -/
  deleted : drain.deleted <+: drain.loaded
  /-- It has put a message on its channel before it has deleted the row. -/
  first : drain.deleted.length ≤ drain.pushed.length
  /-- At most the last row that it has put on its channel is not deleted. -/
  last : drain.pushed.length ≤ drain.deleted.length + 1
  /-- What it has deleted is not in the table. -/
  gone : ∀ row ∈ drain.deleted, row ∉ table.rows

/-- What a run has done when `handle_socket` is at `phase`. -/
def Drain.At (drain : Drain) (c : ℕ) : Phase → Prop
  | .opened | .registered => drain = empty
  | .draining (row :: rest) =>
      drain.loaded = drain.deleted ++ row :: rest ∧ drain.pushed = drain.deleted.map (put c)
  | .deleting row rest =>
      drain.loaded = drain.deleted ++ row :: rest
        ∧ drain.pushed = (drain.deleted ++ [row]).map (put c)
  | _ => True

/-- What holds of a run next to its connection and the table. -/
structure Drain.Sound (drain : Drain) (table : QueuedMessages) (c : ℕ) (conn : Connection) :
    Prop extends drain.Disciplined c conn.username table where
  bounded : ∀ row ∈ drain.loaded, row.id ≤ table.lastId
  phase : drain.At c conn.phase

namespace Drain

variable {drain : Drain} {table : QueuedMessages} {c : ℕ} {conn conn' : Connection}

theorem sound_empty (hphase : empty.At c conn.phase) :
  empty.Sound table c conn
  where
  own := by simp [empty]
  ordered := by simp [empty]
  pushed := by simp [empty]
  deleted := by simp [empty]
  first := by simp [empty]
  last := by simp [empty]
  gone := by simp [empty]
  bounded := by simp [empty]
  phase := hphase

/-- A connection of the same user that is at another point. -/
theorem Sound.move
    (h : drain.Sound table c conn) (husername : conn'.username = conn.username)
    (hphase : drain.At c conn'.phase) :
  drain.Sound table c conn'
  where
  toDisciplined := by
    rw [husername]
    apply h.toDisciplined
  bounded := h.bounded
  phase := hphase

/-- A row for any recipient is inserted. -/
theorem Sound.queueMessage
    (h : drain.Sound table c conn) (recipient : String) (message : Message) :
  drain.Sound (table.queueMessage recipient message) c conn
  where
  toDisciplined := { h.toDisciplined with
    gone := by
      intro row hrow hmem
      rcases (QueuedMessages.mem_queueMessage ..).mp hmem with hold | hnew
      · apply h.gone row hrow hold
      · have hbound := h.bounded row (h.deleted.subset hrow)
        rw [hnew] at hbound
        simp only at hbound
        omega }
  bounded row hrow := by
    have hbound := h.bounded row hrow
    rw [QueuedMessages.lastId_queueMessage]
    omega
  phase := h.phase

/-- A row is deleted by any run. -/
theorem Sound.deleteQueuedMessage (h : drain.Sound table c conn) (id : ℕ) :
  drain.Sound (table.deleteQueuedMessage id) c conn
  where
  toDisciplined := { h.toDisciplined with
    gone := by
      intro row hrow hmem
      apply h.gone row hrow ((QueuedMessages.mem_deleteQueuedMessage ..).mp hmem).1 }
  bounded := h.bounded
  phase := h.phase

/-- The run loads the rows of its user. -/
theorem sound_load (table : QueuedMessages) (c : ℕ) (conn : Connection) :
  Sound { empty with loaded := table.queuedMessagesFor conn.username } table c
    { conn with phase := .draining (table.queuedMessagesFor conn.username) }
  where
  own row hrow := ((QueuedMessages.mem_queuedMessagesFor ..).mp hrow).2
  ordered := table.increasing.filter _
  pushed := List.nil_prefix
  deleted := List.nil_prefix
  first := by simp [empty]
  last := by simp [empty]
  gone := by simp [empty]
  bounded row hrow := table.bounded row ((QueuedMessages.mem_queuedMessagesFor ..).mp hrow).1
  phase := by
    cases h : table.queuedMessagesFor conn.username with
    | nil => trivial
    | cons row rest => exact ⟨rfl, rfl⟩

/-- The run puts the message of the next row on its channel. -/
theorem Sound.sendQueued
    {row : QueuedMessage} {rest : List QueuedMessage} (h : drain.Sound table c conn)
    (hphase : conn.phase = .draining (row :: rest)) :
  Sound { drain with pushed := drain.pushed ++ [put c row] } table c
    { conn with phase := .deleting row rest }
  := by
  obtain ⟨hloaded, hpushed⟩ : drain.At c (.draining (row :: rest)) := hphase ▸ h.phase
  have hpushed' : drain.pushed ++ [put c row] = (drain.deleted ++ [row]).map (put c) := by
    rw [hpushed, List.map_append, List.map_singleton]
  constructor
  case bounded => apply h.bounded
  case phase => exact ⟨hloaded, hpushed'⟩
  constructor
  case own => apply h.own
  case ordered => apply h.ordered
  case deleted => apply h.deleted
  case gone => apply h.gone
  case pushed =>
    simp only [hpushed', hloaded]
    apply List.IsPrefix.map
    use rest
    simp
  case first =>
    simp only [hpushed', List.length_map, List.length_append]
    omega
  case last =>
    simp only [hpushed', List.length_map, List.length_append, List.length_singleton]
    omega

/-- The run deletes the row that it has put on its channel. -/
theorem Sound.deleteQueued
    {row : QueuedMessage} {rest : List QueuedMessage} (h : drain.Sound table c conn)
    (hphase : conn.phase = .deleting row rest) :
  Sound { drain with deleted := drain.deleted ++ [row] } (table.deleteQueuedMessage row.id) c
    { conn with phase := .draining rest }
  := by
  obtain ⟨hloaded, hpushed⟩ : drain.At c (.deleting row rest) := hphase ▸ h.phase
  have hloaded' : drain.loaded = (drain.deleted ++ [row]) ++ rest := by
    rw [hloaded, List.append_assoc, List.singleton_append]
  constructor
  case bounded => apply h.bounded
  case phase =>
    cases rest with
    | nil => trivial
    | cons row' rest => exact ⟨hloaded', hpushed⟩
  constructor
  case own => apply h.own
  case ordered => apply h.ordered
  case pushed => apply h.pushed
  case deleted =>
    use rest
    apply hloaded'.symm
  case first => simp [hpushed]
  case last => simp [hpushed]
  case gone =>
    intro row' hrow' hmem
    obtain ⟨hmem, hid⟩ := (QueuedMessages.mem_deleteQueuedMessage ..).mp hmem
    rcases List.mem_append.mp hrow' with hold | hnew
    · apply h.gone row' hold hmem
    · apply hid
      rw [List.mem_singleton.mp hnew]

end Drain

/-- A step of a connection leaves its run as it was. -/
theorem Connection.Step.sound
    {conn conn' : Connection} {a : TaskAction} (hstep : conn.Step a conn') {drain : Drain}
    {table : QueuedMessages} {c : ℕ} (h : drain.Sound table c conn) :
  drain.Sound table c conn'
  := by
  apply h.move hstep.later.username
  have hphase := h.phase
  cases hstep with
  | failLoad | failDelete | spawnTasks | selectSend | selectReceive => trivial
  | ignoreFrame => apply hphase
  | _ => apply hphase

namespace Relay

/-! ### Every run is sound -/

variable {serde : JsonCodec} {s s' : Relay} {a : Action} {drains : ℕ → Drain}

/-- The runs of all connections are sound, and without a connection there is no run. -/
structure DrainsSound (s : Relay) (drains : ℕ → Drain) : Prop where
  sound : ∀ (c : ℕ) (conn : Connection), s.connections[c]? = some conn →
    (drains c).Sound s.queuedMessages c conn
  absent : ∀ c, s.connections.length ≤ c → drains c = .empty

theorem Initial.drainsSound (h : s.Initial) :
  s.DrainsSound fun _ => .empty
  where
  sound := by simp [h.connections]
  absent _ _ := rfl

/-- The record of the connections that are not there stays empty. -/
theorem Step.record_absent (h : Step serde s a s') (hs : s.DrainsSound drains) :
  ∀ c, s'.connections.length ≤ c → record s a s' drains c = .empty
  := by
  have hkeep : ∀ {c conn} (drain : Drain), s.connections[c]? = some conn →
      ∀ d, s.connections.length ≤ d → Function.update drains c drain d = .empty := by
    intro c conn drain hc d hd
    have hlt := (List.getElem?_eq_some_iff.mp hc).1
    rw [Function.update_of_ne (by omega)]
    apply hs.absent d hd
  intro d hd
  have hd' := h.length_le.trans hd
  cases h with
  | loadQueue hc | sendQueued hc | breakQueued hc | deleteQueued hc => apply hkeep _ hc d hd'
  | _ => apply hs.absent d hd'

/-- The runs stay sound when a connection gets to another point, one that its run is at
already. -/
theorem DrainsSound.setConnection
    (hs : s.DrainsSound drains) {c : ℕ} {conn conn' : Connection}
    (hc : s.connections[c]? = some conn) (husername : conn'.username = conn.username)
    (hphase : (drains c).At c conn'.phase) :
  ∀ (d : ℕ) (x : Connection), (s.setConnection c conn').connections[d]? = some x →
    (drains d).Sound s.queuedMessages d x
  := by
  apply forall_setConnection (P := fun d x => (drains d).Sound s.queuedMessages d x) hc hs.sound
  apply (hs.sound c conn hc).move husername hphase

/-- The runs stay sound when the run of a connection goes on with it. -/
theorem DrainsSound.update
    (hs : s.DrainsSound drains) {c : ℕ} {conn conn' : Connection}
    (hc : s.connections[c]? = some conn) {drain : Drain} {table : QueuedMessages}
    (htable : ∀ d x, (drains d).Sound s.queuedMessages d x → (drains d).Sound table d x)
    (hdrain : drain.Sound table c conn') :
  ∀ (d : ℕ) (x : Connection), (s.setConnection c conn').connections[d]? = some x →
    (Function.update drains c drain d).Sound table d x
  := by
  intro d x hd
  rw [getElem?_setConnection hc] at hd
  split at hd
  · subst d
    obtain rfl := Option.some.inj hd
    rw [Function.update_self]
    apply hdrain
  · rename_i hne
    rw [Function.update_of_ne (Ne.symm hne)]
    apply htable d x (hs.sound d x hd)

/-- After a step the run of every connection is sound. -/
theorem Step.record_sound (h : Step serde s a s') (hs : s.DrainsSound drains) :
  ∀ (c : ℕ) (conn : Connection), s'.connections[c]? = some conn →
    (record s a s' drains c).Sound s'.queuedMessages c conn
  := by
  cases h with
  | connect =>
      apply forall_connect (P := fun d x => (drains d).Sound s.queuedMessages d x) _ hs.sound
      simp only [hs.absent _ le_rfl]
      apply Drain.sound_empty
      rfl
  | task hc hstep =>
      have hsound := hstep.sound (hs.sound _ _ hc)
      apply hs.setConnection hc hstep.later.username hsound.phase
  | register hc hphase =>
      apply hs.setConnection hc
      · rfl
      · have hempty := (hs.sound _ _ hc).phase
        rw [hphase] at hempty
        apply hempty
  | refuse => apply hs.sound
  | accept hc | lookUp hc | fallBack hc =>
      apply hs.setConnection hc
      · rfl
      · apply (hs.sound _ _ hc).phase
  | cleanUp hc =>
      apply hs.setConnection hc
      · rfl
      · trivial
  | forward hc =>
      apply forall_push (P := fun d x => (drains d).Sound s.queuedMessages d x)
      · apply hs.setConnection hc
        · rfl
        · apply (hs.sound _ _ hc).phase
      · intro d x hx
        apply hx.move
        · rfl
        · apply hx.phase
  | enqueue hc =>
      intro d x hd
      apply Drain.Sound.queueMessage
      apply hs.setConnection hc _ _ d x hd
      · rfl
      · apply (hs.sound _ _ hc).phase
  | @loadQueue c conn hc hphase =>
      have hempty := (hs.sound c conn hc).phase
      rw [hphase] at hempty
      have hrows : s.rowsOf c = s.queuedMessages.queuedMessagesFor conn.username := by
        rw [rowsOf, hc, Option.map_some, Option.getD_some]
      apply hs.update hc
      · intro d x hx
        apply hx
      · rw [hempty, hrows]
        apply Drain.sound_load
  | @sendQueued c conn row rest hc hphase =>
      have hput : (s.puts ++ [(c, row.message)]).drop s.puts.length = [Drain.put c row] := by
        rw [List.drop_left]
        rfl
      have hsound := (hs.sound c conn hc).sendQueued hphase
      rw [push_setConnection hc]
      apply hs.update hc
      · intro d x hx
        apply hx
      · simp only [push, Relay.setConnection, hput]
        apply hsound.move
        · rfl
        · apply hsound.phase
  | @breakQueued c conn row rest hc hphase =>
      have hput : s.puts.drop s.puts.length = [] := List.drop_length
      apply hs.update hc
      · intro d x hx
        apply hx
      · simp only [Relay.setConnection, hput, List.append_nil]
        apply (hs.sound c conn hc).move
        · rfl
        · trivial
  | @deleteQueued c conn row rest hc hphase =>
      have hrow : s.rowInHand c = [row] := by
        rw [rowInHand, hc, Option.map_some, Option.getD_some, hphase]
        rfl
      apply hs.update hc
      · intro d x hx
        apply hx.deleteQueuedMessage
      · rw [hrow]
        apply (hs.sound c conn hc).deleteQueued hphase

theorem Step.drainsSound (h : Step serde s a s') (hs : s.DrainsSound drains) :
  s'.DrainsSound (record s a s' drains)
  where
  sound := h.record_sound hs
  absent := h.record_absent hs

/-- The runs can be recorded in every run of the relay. -/
theorem exists_drains_of_reaches
    {guard : Relay → Action → Prop} {s₀ : Relay}
    (h : TransitionSystem.Reaches (step serde) guard s₀ s) :
  ∃ drains, TransitionSystem.Reaches (TransitionSystem.recorded (step serde) record)
    TransitionSystem.anyAction (s₀, fun _ => .empty) (s, drains)
  := by
  apply h.exists_recorded
  intro _ _ _
  trivial

/-! ### What the runs do to the table -/

/-- A row leaves the table when the connection that is deleting it deletes it. -/
theorem Step.deletes
    (h : Step serde s a s') (hs : s.Wellformed) {row : QueuedMessage}
    (hrow : row ∈ s.queuedMessages.rows) (hgone : row ∉ s'.queuedMessages.rows) :
  ∃ c conn rest, a = .deleteQueued c ∧ s.connections[c]? = some conn
    ∧ conn.phase = .deleting row rest
  := by
  cases h with
  | @deleteQueued c conn row' rest hc hphase =>
      have hid : row.id = row'.id := by
        by_contra hne
        apply hgone
        apply (QueuedMessages.mem_deleteQueuedMessage ..).mpr ⟨hrow, hne⟩
      obtain ⟨-, -, honly⟩ := (hs.fits c conn hc).loaded row' (by simp [hphase, Phase.rows])
      obtain rfl := honly row hrow hid
      use c, conn, rest
  | enqueue =>
      apply absurd ((QueuedMessages.mem_queueMessage ..).mpr (.inl hrow)) hgone
  | _ => apply absurd hrow hgone

/-- In every recorded run of the relay, each run of `deliver_queued_messages` is
disciplined, and a row leaves the table only when the run that has just put its message on
its own channel deletes it. -/
theorem disciplined_of_reaches
    {s₀ : Relay} (h₀ : s₀.Initial)
    (h : TransitionSystem.Reaches (TransitionSystem.recorded (step serde) record)
      TransitionSystem.anyAction (s₀, fun _ => .empty) (s, drains)) :
  (∀ (c : ℕ) (conn : Connection), s.connections[c]? = some conn →
      (drains c).Disciplined c conn.username s.queuedMessages)
    ∧ ∀ a s', s.step serde a = some s' →
      ∀ row ∈ s.queuedMessages.rows, row ∉ s'.queuedMessages.rows →
        ∃ c conn, a = .deleteQueued c ∧ s.connections[c]? = some conn
          ∧ row.recipient = conn.username ∧ row ∈ (drains c).loaded
          ∧ (drains c).pushed.getLast? = some (c, row.message)
  := by
  have hsound : s.DrainsSound drains := by
    apply h.invariant (I := fun t => t.1.DrainsSound t.2) _ h₀.drainsSound
    intro t a t' _ hstep ht
    obtain ⟨hstep, hrecord⟩ := TransitionSystem.recorded_eq_some.mp hstep
    rw [hrecord]
    apply (step_of_step hstep).drainsSound ht
  have hwellformed : s.Wellformed := by
    have hreach : TransitionSystem.Reaches (step serde) TransitionSystem.anyAction s₀ s := by
      apply h.of_recorded
      intro _ _ _
      trivial
    apply wellformed_of_reaches hreach h₀.wellformed
  constructor
  · intro c conn hc
    apply (hsound.sound c conn hc).toDisciplined
  · intro a s' hstep row hrow hgone
    obtain ⟨c, conn, rest, rfl, hc, hphase⟩ :=
      (step_of_step hstep).deletes hwellformed hrow hgone
    have hat := (hsound.sound c conn hc).phase
    rw [hphase] at hat
    obtain ⟨hloaded, hpushed⟩ := hat
    have hmem : row ∈ (drains c).loaded := by
      simp [hloaded]
    use c, conn, rfl, hc, (hsound.sound c conn hc).own row hmem, hmem
    rw [hpushed, List.map_append, List.map_singleton, List.getLast?_concat]
    rfl

/-- The queued message of `sampleRouted` is delivered. -/
theorem disciplined_of_reaches_sample :
  ∃ s drains,
    TransitionSystem.run (TransitionSystem.recorded (step sampleCodec) record)
        (start, fun _ => .empty) (queueSample ++ drainSample) = some (s, drains)
      ∧ (drains 1).pushed = [(1, sampleMessage)] ∧ (drains 1).deleted = (drains 1).loaded
      ∧ ∀ (c : ℕ) (conn : Connection), s.connections[c]? = some conn →
        (drains c).Disciplined c conn.username s.queuedMessages
  := by
  let result := TransitionSystem.run (TransitionSystem.recorded (step sampleCodec) record)
    (start, fun _ => .empty) (queueSample ++ drainSample)
  have hrun : result.isSome := by
    decide +kernel
  have hdrain : ∀ t ∈ result,
      (t.2 1).pushed = [(1, sampleMessage)] ∧ (t.2 1).deleted = (t.2 1).loaded := by
    decide +kernel
  obtain ⟨⟨s, drains⟩, ht⟩ := Option.isSome_iff_exists.mp hrun
  obtain ⟨hpushed, hdeleted⟩ := hdrain _ ht
  have hreach : TransitionSystem.Reaches (TransitionSystem.recorded (step sampleCodec) record)
      TransitionSystem.anyAction (start, fun _ => .empty) (s, drains) :=
    TransitionSystem.reaches_any_of_run ht
  use s, drains, ht, hpushed, hdeleted
  apply (disciplined_of_reaches initial_start hreach).1

end Relay

end Phantasma
