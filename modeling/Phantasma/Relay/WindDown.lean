import Phantasma.Relay.Progress
import Phantasma.Relay.Teardown

/-!
# The relay can be wound down

A task that is aborted while it awaits something is not run again.  First the aborted sending tasks
are dropped (`exists_noneDoomed`); then the connections, one after another, spawn their tasks, end
what they are doing, and are torn down (`exists_tornDown`).
-/

namespace Phantasma

namespace Connection

/-- The sending task was aborted and has not ended: what is on the channel goes down with it. -/
def IsDoomed (conn : Connection) : Prop :=
  conn.sendAborted ∧ conn.isOpen

/-- The tasks of a connection are spawned once it serves; they are aborted only when it closes, and
then its sending task is aborted or has ended. -/
structure Ends (conn : Connection) : Prop where
  spawned : conn.phase.hasSpawned → conn.sendTask ≠ .unspawned ∧ conn.receiveTask ≠ .unspawned
  aborted : conn.sendAborted → conn.phase = .closing ∨ conn.phase = .closed
  closing : conn.phase = .closing ∨ conn.phase = .closed → conn.sendTask = .ended ∨ conn.sendAborted

/-- A connection whose tasks are not spawned. -/
theorem ends_of_phase
    {conn : Connection} (h : conn.phase.hasSpawned = false) (halive : conn.sendAborted = false) :
  conn.Ends
  where
  spawned hspawned := by
    rw [h] at hspawned
    cases hspawned
  aborted haborted := by
    rw [halive] at haborted
    cases haborted
  closing hclosing := by
    rcases hclosing with heq | heq
    all_goals
      rw [heq] at h
      cases h

/-- Until its tasks are spawned, no task of a connection is aborted. -/
theorem Ends.sendAborted
    {conn : Connection} (h : conn.Ends) (hphase : conn.phase.hasSpawned = false) :
  conn.sendAborted = false
  := by
  apply Bool.eq_false_of_not_eq_true
  intro haborted
  rcases h.aborted haborted with heq | heq
  all_goals
    rw [heq] at hphase
    cases hphase

theorem Step.ends
    {conn conn' : Connection} {a : TaskAction} (hstep : conn.Step a conn') (h : conn.Ends) :
  conn'.Ends
  := by
  cases hstep with
  | failLoad hphase | failDelete hphase =>
      apply ends_of_phase rfl
      apply h.sendAborted
      rw [hphase]
      rfl
  | spawnTasks hphase =>
      have halive := h.sendAborted (by rw [hphase]; rfl)
      constructor <;> simp_all [Phase.hasSpawned]
  | _ =>
      obtain ⟨hspawned, haborted, hclosing⟩ := h
      constructor <;> simp_all [endSend, Phase.hasSpawned]

/-- Only the `select!` that aborts it dooms a sending task. -/
theorem Step.isDoomed
    {conn conn' : Connection} {a : TaskAction} (hstep : conn.Step a conn') (h : conn.Ends)
    (ha : a ≠ .selectReceive) (hdoomed : conn'.IsDoomed) :
  conn.IsDoomed
  := by
  obtain ⟨haborted, hopen⟩ := hdoomed
  cases hstep with
  | selectReceive => exact absurd rfl ha
  | spawnTasks hphase =>
      have halive := h.sendAborted (by rw [hphase]; rfl)
      exact absurd (halive.symm.trans haborted) Bool.false_ne_true
  | failWrite | dropSend => cases hopen
  | takeOutbound hsend | write hsend =>
      refine ⟨haborted, ?_⟩
      rw [isOpen, hsend]
      rfl
  | _ => exact ⟨haborted, hopen⟩

end Connection

namespace Relay

open TransitionSystem

variable {serde : JsonCodec} {s s' : Relay} {c : ℕ} {conn conn' : Connection}
  {P Q : Connection → Prop}

/-! ### What a step keeps -/

/-- The state is well-formed, and every connection can end. -/
structure Ready (s : Relay) : Prop extends s.Wellformed where
  ends : ∀ (c : ℕ) (conn : Connection), s.connections[c]? = some conn → conn.Ends

theorem Initial.ready (h : s.Initial) :
  s.Ready
  where
  toWellformed := h.wellformed
  ends := by
    simp [h.connections]

theorem Step.ready {a : Action} (h : Step serde s a s') (hs : s.Ready) :
  s'.Ready
  where
  toWellformed := h.wellformed hs.toWellformed
  ends := by
    have hends := hs.ends
    cases h with
    | connect =>
        apply forall_connect _ hends
        apply Connection.ends_of_phase rfl rfl
    | task hc hstep =>
        apply forall_setConnection hc hends
        apply hstep.ends (hends _ _ hc)
    | register hc hphase | loadQueue hc hphase | breakQueued hc hphase | deleteQueued hc hphase =>
        apply forall_setConnection hc hends
        apply Connection.ends_of_phase rfl
        apply (hends _ _ hc).sendAborted
        rw [hphase]
        rfl
    | sendQueued hc hphase =>
        rw [push_setConnection hc]
        apply forall_setConnection hc hends
        apply Connection.ends_of_phase rfl
        apply (hends _ _ hc).sendAborted
        rw [hphase]
        rfl
    | refuse => apply hends
    | accept hc hreceive | lookUp hc hreceive | fallBack hc hreceive | enqueue hc hreceive =>
        apply forall_setConnection hc hends
        obtain ⟨hspawned, haborted, hclosing⟩ := hends _ _ hc
        constructor <;> simp_all
    | forward hc hreceive =>
        apply forall_push (P := fun _ conn => conn.Ends)
        · apply forall_setConnection (P := fun _ conn => conn.Ends) hc hends
          obtain ⟨hspawned, haborted, hclosing⟩ := hends _ _ hc
          constructor <;> simp_all
        · intro d x hx
          exact ⟨hx.spawned, hx.aborted, hx.closing⟩
    | cleanUp hc hphase =>
        apply forall_setConnection hc hends
        obtain ⟨hspawned, haborted, hclosing⟩ := hends _ _ hc
        constructor <;> simp_all [Phase.hasSpawned]

theorem ready_of_reaches
    {guard : Relay → Action → Prop} (h : Reaches (step serde) guard s s') (hs : s.Ready) :
  s'.Ready
  := by
  apply h.invariant _ hs
  intro t a t' _ hstep ht
  apply (step_of_step hstep).ready ht

/-- Only `select!` aborts a sending task. -/
theorem Step.sendAborted
    {a : Action} (h : Step serde s a s') (ha : ∀ c, a ≠ .task c .selectReceive) :
  Along (fun conn conn' => conn'.sendAborted = conn.sendAborted) s s'
  := by
  apply h.along
  · exact fun _ => rfl
  · exact fun _ _ _ h h' => h'.trans h
  · exact fun _ _ => rfl
  · exact fun _ _ _ _ => rfl
  · rintro c a' conn conn' rfl - hstep
    cases hstep with
    | selectReceive => exact absurd rfl (ha c)
    | _ => rfl

/-! ### Winding down -/

/-- A task that was aborted while it awaits something is not run again, it is only dropped.  The
receiving task awaits nothing between its lookup and what it does with the entry, so there it goes
on. -/
def PollsAlive (s : Relay) : Action → Prop
  | .task c .takeOutbound | .task c .write | .task c .failWrite =>
      ∀ conn, s.connections[c]? = some conn → conn.sendAborted = false
  | .task c (.receiveFrame _) | .task c .failEnqueue | .receive c _ | .lookUp c | .enqueue c =>
      ∀ conn, s.connections[c]? = some conn → conn.receiveAborted = false
  | _ => True

/-- No channel is doomed. -/
def NoneDoomed (s : Relay) : Prop :=
  ∀ (c : ℕ) (conn : Connection), s.connections[c]? = some conn → ¬ conn.IsDoomed

/-- The steps by which the relay is wound down: nothing comes in any more, nothing fails, and no
aborted task is run again; a task is aborted only where it has nothing left to do, and no message is
forwarded while the channel of an aborted task is open. -/
def WindsDown (s : Relay) : Action → Prop
  | .connect _ | .receive _ _ | .task _ .failLoad | .task _ .failDelete | .task _ .failEnqueue
  | .task _ .failWrite => False
  | .task c .selectSend =>
      ∀ conn, s.connections[c]? = some conn → conn.receiveTask.handled = none
  | .task c .selectReceive => ∀ conn, s.connections[c]? = some conn → conn.unsent = []
  | .forward _ => s.NoneDoomed
  | a => s.PollsAlive a

theorem WindsDown.dbSucceeds {a : Action} (h : s.WindsDown a) :
  Relay.dbSucceeds a
  := by
  unfold Relay.dbSucceeds
  split
  · cases h
  · cases h
  · cases h
  · rfl

theorem WindsDown.pollsAlive {a : Action} (h : s.WindsDown a) :
  s.PollsAlive a
  := by
  cases a with
  | connect | receive => cases h
  | forward => trivial
  | task c a =>
      cases a with
      | failLoad | failDelete | failEnqueue | failWrite => cases h
      | selectSend | selectReceive => trivial
      | _ => apply h
  | _ => apply h

/-! ### Doomed channels -/

/-- The state is ready, and no channel but that of the connection `c` is doomed. -/
structure Clear (s : Relay) (c : ℕ) : Prop extends s.Ready where
  others : ∀ (d : ℕ) (conn : Connection), s.connections[d]? = some conn → d ≠ c → ¬ conn.IsDoomed

/-- The steps of winding down in which no task of another connection than `c` is aborted. -/
def WindsDownAt (c : ℕ) (s : Relay) (a : Action) : Prop :=
  s.WindsDown a ∧ ∀ d, d ≠ c → a ≠ .task d .selectReceive

/-- A step that is not one of a single task aborts none. -/
theorem windsDownAt_of_ne_task
    {a : Action} (h : s.WindsDown a) (ha : ∀ d a', a ≠ .task d a') :
  WindsDownAt c s a
  := ⟨h, fun d _ => ha d _⟩

/-- A connection whose sending task is not aborted serves by such steps. -/
theorem windsDownAt_of_serves
    (h : Reaches (step serde) (fun _ a => serves c a) s s') (hc : s.connections[c]? = some conn)
    (halive : conn.sendAborted = false) :
  Reaches (step serde) (WindsDownAt c) s s'
  := by
  have hne : ∀ {a d}, serves c a → a ≠ .task d .selectReceive := by
    rintro _ d hserves rfl
    cases hserves
  apply h.simulation id (I := fun s => ∃ conn, s.connections[c]? = some conn
    ∧ conn.sendAborted = false) _ _ ⟨conn, hc, halive⟩
  · rintro t a t' hserves hstep ⟨conn, hc, halive⟩
    obtain ⟨conn', hc', hsame⟩ :=
      (step_of_step hstep).sendAborted (fun d => hne hserves) c conn hc
    exact ⟨conn', hc', hsame.trans halive⟩
  · rintro t a t' hserves hstep ⟨conn, hc, halive⟩
    refine Or.inr ⟨a, ⟨?_, fun d _ => hne hserves⟩, hstep⟩
    have hpolls : ∀ conn', t.connections[c]? = some conn' → conn'.sendAborted = false := by
      intro conn' hc'
      obtain rfl := Option.some.inj (hc.symm.trans hc')
      apply halive
    unfold serves at hserves
    split at hserves
    case h_6 | h_7 =>
      obtain rfl := of_decide_eq_true hserves
      apply hpolls
    case h_8 => cases hserves
    all_goals trivial

theorem Step.clear {a : Action} (h : Step serde s a s') (hs : s.Clear c) (ha : WindsDownAt c s a) :
  s'.Clear c
  where
  toReady := h.ready hs.toReady
  others := by
    have hothers := hs.others
    cases h with
    | connect => cases ha.1
    | @task d a conn conn' hd hstep =>
        apply forall_setConnection (P := fun d conn => d ≠ c → ¬ conn.IsDoomed) hd hothers
        intro hne hdoomed
        apply hothers d conn hd hne
        apply hstep.isDoomed (hs.ends d conn hd) _ hdoomed
        rintro rfl
        exact ha.2 d hne rfl
    | refuse => apply hothers
    | sendQueued hd | forward hd =>
        apply forall_push (P := fun d conn => d ≠ c → ¬ conn.IsDoomed)
        · apply forall_setConnection (P := fun d conn => d ≠ c → ¬ conn.IsDoomed) hd hothers
          apply hothers _ _ hd
        · exact fun _ _ => id
    | register hd | loadQueue hd | breakQueued hd | deleteQueued hd | accept hd | lookUp hd
    | fallBack hd | enqueue hd | cleanUp hd =>
        apply forall_setConnection (P := fun d conn => d ≠ c → ¬ conn.IsDoomed) hd hothers
        apply hothers _ _ hd

theorem clear_of_reaches (h : Reaches (step serde) (WindsDownAt c) s s') (hs : s.Clear c) :
  s'.Clear c
  := by
  apply h.invariant _ hs
  intro t a t' ha hstep ht
  apply (step_of_step hstep).clear ht ha

theorem Clear.noneDoomed
    (hs : s.Clear c) (hc : s.connections[c]? = some conn) (h : ¬ conn.IsDoomed) :
  s.NoneDoomed
  := by
  intro d other hd
  by_cases hdc : d = c
  · subst hdc
    obtain rfl := Option.some.inj (hc.symm.trans hd)
    apply h
  · apply hs.others d other hd hdc

theorem NoneDoomed.clear (h : s.NoneDoomed) (hs : s.Ready) (c : ℕ) :
  s.Clear c
  where
  toReady := hs
  others d conn hd _ := h d conn hd

/-! ### One connection -/

/-- `Gets serde s c P`: by winding down, the connection `c` gets to where `P` holds of it. -/
def Gets (serde : JsonCodec) (s : Relay) (c : ℕ) (P : Connection → Prop) : Prop :=
  ∃ s' conn, Reaches (step serde) (WindsDownAt c) s s' ∧ s'.connections[c]? = some conn ∧ P conn

theorem Gets.refl (hc : s.connections[c]? = some conn) (hP : P conn) :
  Gets serde s c P
  := ⟨s, conn, Relation.ReflTransGen.refl, hc, hP⟩

theorem Gets.trans
    (h : Gets serde s c P) (hs : s.Clear c)
    (h' : ∀ s' conn, s'.Clear c → s'.connections[c]? = some conn → P conn → Gets serde s' c Q) :
  Gets serde s c Q
  := by
  obtain ⟨s', conn, hreach, hc, hP⟩ := h
  obtain ⟨s'', conn', hreach', hc', hQ⟩ := h' s' conn (clear_of_reaches hreach hs) hc hP
  exact ⟨s'', conn', Relation.ReflTransGen.trans hreach hreach', hc', hQ⟩

theorem gets_of_runsAlone
    {table : QueuedMessages} (hc : s.connections[c]? = some conn)
    (halive : conn.sendAborted = false) (h : RunsAlone serde s c conn' table s') (hP : P conn') :
  Gets serde s c P
  := ⟨s', conn', windsDownAt_of_serves h.reaches hc halive, h.self, hP⟩

theorem gets_of_step
    {a : Action} (hstep : s.step serde a = some s') (hwinds : WindsDownAt c s a)
    (hc : s'.connections[c]? = some conn) (hP : P conn) :
  Gets serde s c P
  := ⟨s', conn, Relation.ReflTransGen.single ⟨a, hwinds, hstep⟩, hc, hP⟩

/-- The steps of a connection are taken where that is to wind down. -/
theorem gets_of_taskStep
    (hc : s.connections[c]? = some conn) {a : TaskAction} (hwinds : s.WindsDown (.task c a))
    (hstep : conn.taskStep a = some conn') (hP : P conn') :
  Gets serde s c P
  := by
  have hstep' : s.step serde (.task c a) = some (s.setConnection c conn') := by
    rw [step, hc, Option.bind_eq_bind, Option.bind_some, hstep]
    rfl
  apply gets_of_step hstep' ⟨hwinds, _⟩ _ hP
  · rintro d hne ⟨⟩
    exact hne rfl
  · rw [getElem?_setConnection hc, if_pos rfl]

/-- What is known of the connection is known of it in the state. -/
theorem forall_of_getElem?
    (hc : s.connections[c]? = some conn) {R : Connection → Prop} (h : R conn) :
  ∀ conn', s.connections[c]? = some conn' → R conn'
  := by
  intro conn' hc'
  obtain rfl := Option.some.inj (hc.symm.trans hc')
  apply h

/-! ### How far a connection gets -/

/-- The tasks of the connection are spawned, and its channel is not doomed. -/
def HasSpawned (conn : Connection) : Prop :=
  conn.phase.hasSpawned ∧ ¬ conn.IsDoomed

/-- So they are, and the receiving one handles nothing. -/
def IsIdle (conn : Connection) : Prop :=
  HasSpawned conn ∧ (conn.receiveTask = .waiting ∨ conn.receiveTask = .ended)

/-- The receiving one has ended. -/
def HasReceived (conn : Connection) : Prop :=
  HasSpawned conn ∧ conn.receiveTask = .ended

/-- So has the sending one, or nothing is left for it to send. -/
def HasSent (conn : Connection) : Prop :=
  HasReceived conn ∧ (conn.sendTask = .ended ∨ conn.sendTask = .waiting ∧ conn.outbound = [])

/-- `select!` has taken a branch, and nothing goes on in the tasks. -/
def HasClosed (conn : Connection) : Prop :=
  (conn.phase = .closing ∨ conn.phase = .closed) ∧ conn.receiveTask = .ended
    ∧ (conn.sendTask = .ended ∨ conn.sendTask = .waiting ∧ conn.sendAborted)

/-- A sending task that is not aborted does not doom its channel. -/
theorem not_isDoomed (h : conn.sendAborted = false) :
  ¬ conn.IsDoomed
  := by
  rintro ⟨haborted, -⟩
  exact absurd (h.symm.trans haborted) Bool.false_ne_true

theorem gets_spawned_of_draining
    (hs : s.Clear c) (hc : s.connections[c]? = some conn)
    (h : ∃ rows, conn.phase = .draining rows) :
  Gets serde s c HasSpawned
  := by
  obtain ⟨rows, hphase⟩ := h
  have hunspawned : conn.phase.hasSpawned = false := by
    rw [hphase]
    rfl
  have halive := (hs.ends c conn hc).sendAborted hunspawned
  obtain ⟨s₁, hdrain⟩ := exists_drained serde hc hphase ((hs.fits c conn hc).isOpen hunspawned)
  have hdrained : Gets serde s c fun conn =>
      conn.phase = .draining [] ∧ conn.sendAborted = false :=
    gets_of_runsAlone hc halive hdrain ⟨rfl, halive⟩
  apply hdrained.trans hs
  rintro s' conn' hs' hc' ⟨hphase', halive'⟩
  apply gets_of_taskStep hc' (a := .spawnTasks) trivial
  · rw [Connection.taskStep, hphase']
  · exact ⟨rfl, not_isDoomed halive'⟩

theorem gets_spawned_of_registered
    (hs : s.Clear c) (hc : s.connections[c]? = some conn) (hphase : conn.phase = .registered) :
  Gets serde s c HasSpawned
  := by
  have hstep : s.step serde (.loadQueue c) = some (s.setConnection c { conn with
      phase := .draining (s.queuedMessages.queuedMessagesFor conn.username) }) := by
    rw [step, hc, Option.bind_eq_bind, Option.bind_some, hphase]
  have hload : Gets serde s c fun conn => ∃ rows, conn.phase = .draining rows := by
    apply gets_of_step hstep (windsDownAt_of_ne_task trivial (by rintro _ _ ⟨⟩))
    · rw [getElem?_setConnection hc, if_pos rfl]
    · exact ⟨_, rfl⟩
  exact hload.trans hs fun _ _ => gets_spawned_of_draining

/-- A connection can spawn its tasks. -/
theorem gets_spawned
    (hs : s.Clear c) (hc : s.connections[c]? = some conn) (hdoomed : ¬ conn.IsDoomed) :
  Gets serde s c HasSpawned
  := by
  cases hphase : conn.phase with
  | opened =>
      have hstep : s.step serde (.register c) = some (s.register c conn) := by
        rw [step, hc, Option.bind_eq_bind, Option.bind_some, hphase]
      have hregister : Gets serde s c fun conn => conn.phase = .registered := by
        apply gets_of_step hstep (windsDownAt_of_ne_task trivial (by rintro _ _ ⟨⟩))
        · apply (getElem?_setConnection hc _ c).trans (if_pos rfl)
        · rfl
      exact hregister.trans hs fun _ _ => gets_spawned_of_registered
  | registered => apply gets_spawned_of_registered hs hc hphase
  | draining rows => apply gets_spawned_of_draining hs hc ⟨rows, hphase⟩
  | deleting row rest =>
      have hstep : s.step serde (.deleteQueued c) = some (s.deleteQueued c conn row rest) := by
        rw [step, hc, Option.bind_eq_bind, Option.bind_some, hphase]
      have hdelete : Gets serde s c fun conn => ∃ rows, conn.phase = .draining rows := by
        apply gets_of_step hstep (windsDownAt_of_ne_task trivial (by rintro _ _ ⟨⟩))
        · apply (getElem?_setConnection hc _ c).trans (if_pos rfl)
        · exact ⟨rest, rfl⟩
      exact hdelete.trans hs fun _ _ => gets_spawned_of_draining
  | serving | closing | closed =>
      apply Gets.refl hc
      rw [HasSpawned, hphase]
      exact ⟨rfl, hdoomed⟩

/-- A receiving task that is aborted where it awaits something is dropped. -/
theorem gets_idle_of_aborted
    (hc : s.connections[c]? = some conn) (hspawned : HasSpawned conn)
    (haborted : conn.receiveAborted) (hawaits : conn.receiveTask.isAwaiting) :
  Gets serde s c IsIdle
  := by
  apply gets_of_taskStep hc (a := .dropReceive) trivial
  · apply if_pos ⟨haborted, hawaits⟩
  · exact ⟨hspawned, Or.inr rfl⟩

theorem gets_idle_of_queueing
    (hc : s.connections[c]? = some conn)
    (h : HasSpawned conn ∧ ∃ recipient message, conn.receiveTask = .queueing recipient message) :
  Gets serde s c IsIdle
  := by
  obtain ⟨hspawned, recipient, message, hreceive⟩ := h
  cases halive : conn.receiveAborted with
  | true => apply gets_idle_of_aborted hc hspawned halive (by rw [hreceive]; rfl)
  | false =>
      have hstep : s.step serde (.enqueue c) = some (s.enqueue c conn recipient message) := by
        rw [step, hc, Option.bind_eq_bind, Option.bind_some, hreceive]
      have hpolls : s.PollsAlive (.enqueue c) := forall_of_getElem? hc halive
      apply gets_of_step hstep (windsDownAt_of_ne_task hpolls (by rintro _ _ ⟨⟩))
      · apply (getElem?_setConnection hc _ c).trans (if_pos rfl)
      · exact ⟨hspawned, Or.inl rfl⟩

theorem gets_idle_of_routing
    (hs : s.Clear c) (hc : s.connections[c]? = some conn)
    (h : HasSpawned conn ∧ ∃ recipient message client,
      conn.receiveTask = .routing recipient message client) :
  Gets serde s c IsIdle
  := by
  obtain ⟨hspawned, recipient, message, client, hreceive⟩ := h
  have hwinds : WindsDownAt c s (.forward c) :=
    windsDownAt_of_ne_task (hs.noneDoomed hc hspawned.2) (by rintro _ _ ⟨⟩)
  cases hclient : client.filter fun client => s.isOpen client.sender with
  | none =>
      have hstep : s.step serde (.forward c) = some (s.setConnection c
          { conn with receiveTask := .queueing recipient message }) := by
        rw [step, hc, Option.bind_eq_bind, Option.bind_some, hreceive]
        dsimp only
        rw [hclient]
      have hfall : Gets serde s c fun conn => HasSpawned conn ∧ ∃ recipient message,
          conn.receiveTask = .queueing recipient message := by
        apply gets_of_step hstep hwinds
        · rw [getElem?_setConnection hc, if_pos rfl]
        · exact ⟨hspawned, recipient, message, rfl⟩
      exact hfall.trans hs fun _ _ _ => gets_idle_of_queueing
  | some client =>
      have hstep : s.step serde (.forward c) = some ((s.setConnection c
          { conn with receiveTask := .waiting }).push client.sender message) := by
        rw [step, hc, Option.bind_eq_bind, Option.bind_some, hreceive]
        dsimp only
        rw [hclient]
      have hself : ∃ conn', ((s.setConnection c { conn with receiveTask := .waiting }).push
          client.sender message).connections[c]? = some conn' ∧ IsIdle conn' := by
        rw [getElem?_push, getElem?_setConnection hc, if_pos rfl]
        split
        · exact ⟨_, rfl, hspawned, Or.inl rfl⟩
        · exact ⟨_, rfl, hspawned, Or.inl rfl⟩
      obtain ⟨conn', hc', hidle⟩ := hself
      apply gets_of_step hstep hwinds hc' hidle

/-- A connection whose tasks are spawned can handle what it has received, or drops it. -/
theorem gets_idle
    (hs : s.Clear c) (hc : s.connections[c]? = some conn) (hspawned : HasSpawned conn) :
  Gets serde s c IsIdle
  := by
  cases hreceive : conn.receiveTask with
  | unspawned => exact absurd hreceive ((hs.ends c conn hc).spawned hspawned.1).2
  | waiting => exact Gets.refl hc ⟨hspawned, Or.inl hreceive⟩
  | locking recipient message =>
      cases halive : conn.receiveAborted with
      | true => apply gets_idle_of_aborted hc hspawned halive (by rw [hreceive]; rfl)
      | false =>
          have hstep : s.step serde (.lookUp c) = some (s.setConnection c { conn with
              receiveTask := .routing recipient message s.activeClients[recipient]? }) := by
            rw [step, hc, Option.bind_eq_bind, Option.bind_some, hreceive]
          have hpolls : s.PollsAlive (.lookUp c) := forall_of_getElem? hc halive
          have hlook : Gets serde s c fun conn => HasSpawned conn ∧ ∃ recipient message client,
              conn.receiveTask = .routing recipient message client := by
            apply gets_of_step hstep (windsDownAt_of_ne_task hpolls (by rintro _ _ ⟨⟩))
            · rw [getElem?_setConnection hc, if_pos rfl]
            · exact ⟨hspawned, recipient, message, _, rfl⟩
          exact hlook.trans hs fun _ _ => gets_idle_of_routing
  | routing recipient message client =>
      apply gets_idle_of_routing hs hc ⟨hspawned, recipient, message, client, hreceive⟩
  | queueing recipient message =>
      apply gets_idle_of_queueing hc ⟨hspawned, recipient, message, hreceive⟩
  | ended => exact Gets.refl hc ⟨hspawned, Or.inr hreceive⟩

/-- The client of a connection can close it. -/
theorem gets_received (hc : s.connections[c]? = some conn) (hidle : IsIdle conn) :
  Gets serde s c HasReceived
  := by
  obtain ⟨hspawned, hwaiting | hended⟩ := hidle
  · cases halive : conn.receiveAborted with
    | true =>
        apply gets_of_taskStep hc (a := .dropReceive) trivial
        · apply if_pos ⟨halive, by rw [hwaiting]; rfl⟩
        · exact ⟨hspawned, rfl⟩
    | false =>
        apply gets_of_taskStep hc (a := .receiveFrame .finished) (forall_of_getElem? hc halive)
        · rw [Connection.taskStep, hwaiting]
        · exact ⟨hspawned, rfl⟩
  · exact Gets.refl hc ⟨hspawned, hended⟩

/-- A sending task that has not ended and does not doom its channel is not aborted. -/
theorem sendAborted_of_not_isDoomed (h : ¬ conn.IsDoomed) (hsend : conn.sendTask ≠ .ended) :
  conn.sendAborted = false
  := by
  apply Bool.eq_false_of_not_eq_true
  intro haborted
  exact h ⟨haborted, decide_eq_true hsend⟩

/-- The sending task of a connection can send everything. -/
theorem gets_sent
    (hs : s.Clear c) (hc : s.connections[c]? = some conn) (hreceived : HasReceived conn) :
  Gets serde s c HasSent
  := by
  have hwaiting : ∀ s conn, s.connections[c]? = some conn →
      HasReceived conn ∧ conn.sendTask = .waiting → Gets serde s c HasSent := by
    rintro s conn hc ⟨hreceived, hsend⟩
    have halive : conn.sendAborted = false := by
      apply sendAborted_of_not_isDoomed hreceived.1.2
      rw [hsend]
      rintro ⟨⟩
    obtain ⟨s', hflush⟩ := exists_flushed serde hc hsend
    exact gets_of_runsAlone hc halive hflush
      ⟨⟨⟨hreceived.1.1, not_isDoomed halive⟩, hreceived.2⟩, Or.inr ⟨rfl, rfl⟩⟩
  cases hsend : conn.sendTask with
  | unspawned => exact absurd hsend ((hs.ends c conn hc).spawned hreceived.1.1).1
  | waiting => exact hwaiting s conn hc ⟨hreceived, hsend⟩
  | writing message =>
      have halive : conn.sendAborted = false := by
        apply sendAborted_of_not_isDoomed hreceived.1.2
        rw [hsend]
        rintro ⟨⟩
      have hwrite : Gets serde s c fun conn => HasReceived conn ∧ conn.sendTask = .waiting := by
        apply gets_of_taskStep hc (a := .write) (forall_of_getElem? hc halive)
        · rw [Connection.taskStep, hsend]
        · exact ⟨⟨⟨hreceived.1.1, not_isDoomed halive⟩, hreceived.2⟩, rfl⟩
      exact hwrite.trans hs fun s' conn' _ => hwaiting s' conn'
  | ended => exact Gets.refl hc ⟨hreceived, Or.inl hsend⟩

/-- `select!` takes the branch of a task that has ended. -/
theorem gets_closed (hs : s.Clear c) (hc : s.connections[c]? = some conn) (h : HasSent conn) :
  Gets serde s c HasClosed
  := by
  obtain ⟨⟨⟨hspawned, -⟩, hreceive⟩, hsend⟩ := h
  cases hphase : conn.phase with
  | serving =>
      rcases hsend with hended | ⟨hwaiting, houtbound⟩
      · apply gets_of_taskStep hc (a := .selectSend)
        · apply forall_of_getElem? hc (R := fun conn => conn.receiveTask.handled = none)
          rw [hreceive]
          rfl
        · rw [Connection.taskStep, hphase, hended]
        · exact ⟨Or.inl rfl, hreceive, Or.inl rfl⟩
      · apply gets_of_taskStep hc (a := .selectReceive)
        · apply forall_of_getElem? hc (R := fun conn => conn.unsent = [])
          rw [Connection.unsent, Connection.inHand, hwaiting, houtbound]
          rfl
        · rw [Connection.taskStep, hphase, hreceive]
        · exact ⟨Or.inl rfl, rfl, Or.inr ⟨hwaiting, rfl⟩⟩
  | closing | closed =>
      have hclosing : conn.phase = .closing ∨ conn.phase = .closed := by
        simp [hphase]
      apply Gets.refl hc
      use hclosing, hreceive
      rcases hsend with hended | ⟨hwaiting, -⟩
      · apply Or.inl hended
      · apply ((hs.ends c conn hc).closing hclosing).imp_right
        exact fun haborted => ⟨hwaiting, haborted⟩
  | _ =>
      rw [hphase] at hspawned
      cases hspawned

theorem gets_tornDown_of_ended
    (hc : s.connections[c]? = some conn)
    (h : (conn.phase = .closing ∨ conn.phase = .closed) ∧ conn.receiveTask = .ended
      ∧ conn.sendTask = .ended) :
  Gets serde s c Connection.TornDown
  := by
  obtain ⟨hclosing | hclosed, hreceive, hsend⟩ := h
  · have hstep : s.step serde (.cleanUp c) = some (s.cleanUp c conn) := by
      rw [step, hc, Option.bind_eq_bind, Option.bind_some, hclosing]
    apply gets_of_step hstep (windsDownAt_of_ne_task trivial (by rintro _ _ ⟨⟩))
    · apply (getElem?_setConnection hc _ c).trans (if_pos rfl)
    · exact ⟨rfl, hsend, hreceive⟩
  · exact Gets.refl hc ⟨hclosed, hsend, hreceive⟩

theorem gets_tornDown_of_hasClosed
    (hs : s.Clear c) (hc : s.connections[c]? = some conn) (h : HasClosed conn) :
  Gets serde s c Connection.TornDown
  := by
  obtain ⟨hclosing, hreceive, hended | ⟨hwaiting, haborted⟩⟩ := h
  · apply gets_tornDown_of_ended hc ⟨hclosing, hreceive, hended⟩
  · have hdrop : Gets serde s c fun conn => (conn.phase = .closing ∨ conn.phase = .closed)
        ∧ conn.receiveTask = .ended ∧ conn.sendTask = .ended := by
      apply gets_of_taskStep hc (a := .dropSend) trivial
      · apply if_pos ⟨haborted, by rw [hwaiting]; rfl⟩
      · exact ⟨hclosing, hreceive, rfl⟩
    exact hdrop.trans hs fun _ _ _ => gets_tornDown_of_ended

/-- A connection whose channel is not doomed can be torn down. -/
theorem gets_tornDown
    (hs : s.Clear c) (hc : s.connections[c]? = some conn) (hdoomed : ¬ conn.IsDoomed) :
  Gets serde s c Connection.TornDown
  := by
  have hidle : Gets serde s c IsIdle := (gets_spawned hs hc hdoomed).trans hs fun _ _ => gets_idle
  have hreceived : Gets serde s c HasReceived := hidle.trans hs fun _ _ _ => gets_received
  have hsent : Gets serde s c HasSent := hreceived.trans hs fun _ _ => gets_sent
  have hclosed : Gets serde s c HasClosed := hsent.trans hs fun _ _ => gets_closed
  exact hclosed.trans hs fun _ _ => gets_tornDown_of_hasClosed

/-! ### All connections -/

/-- A connection that is torn down takes no step. -/
theorem not_tornDown_of_step {a : TaskAction} (h : conn.Step a conn') :
  ¬ conn.TornDown
  := by
  rintro ⟨hphase, hsend, hreceive⟩
  cases h <;> simp_all [SendTask.isAwaiting, ReceiveTask.isAwaiting]

/-- A connection that is torn down stays so, and writes nothing more. -/
def StaysDown (conn conn' : Connection) : Prop :=
  conn.TornDown → conn'.TornDown ∧ conn'.written = conn.written

theorem StaysDown.trans
    (conn conn' conn'' : Connection) (h : StaysDown conn conn') (h' : StaysDown conn' conn'') :
  StaysDown conn conn''
  := by
  intro hdown
  obtain ⟨hdown', hwritten'⟩ := h hdown
  obtain ⟨hdown'', hwritten''⟩ := h' hdown'
  exact ⟨hdown'', hwritten''.trans hwritten'⟩

theorem Step.staysDown {a : Action} (h : Step serde s a s') :
  Along StaysDown s s'
  := by
  have hrefl : ∀ conn, StaysDown conn conn := fun _ hdown => ⟨hdown, rfl⟩
  have hpush : ∀ conn message, StaysDown conn (conn.push message) :=
    fun _ _ hdown => ⟨hdown, rfl⟩
  cases h with
  | connect => apply along_connect hrefl
  | task hc hstep =>
      apply along_setConnection hrefl hc
      intro hdown
      exact absurd hdown (not_tornDown_of_step hstep)
  | refuse => exact fun _ conn hc => ⟨conn, hc, hrefl conn⟩
  | sendQueued hc hphase =>
      apply along_trans StaysDown.trans _ (along_push hrefl hpush _ _)
      apply along_setConnection hrefl hc
      rintro ⟨hclosed, -⟩
      cases hphase.symm.trans hclosed
  | forward hc hreceive =>
      apply along_trans StaysDown.trans _ (along_push hrefl hpush _ _)
      apply along_setConnection hrefl hc
      rintro ⟨-, -, hended⟩
      cases hreceive.symm.trans hended
  | register hc hphase | loadQueue hc hphase | breakQueued hc hphase | deleteQueued hc hphase
  | cleanUp hc hphase =>
      apply along_setConnection hrefl hc
      rintro ⟨hclosed, -⟩
      cases hphase.symm.trans hclosed
  | accept hc hreceive | lookUp hc hreceive | fallBack hc hreceive | enqueue hc hreceive =>
      apply along_setConnection hrefl hc
      rintro ⟨-, -, hended⟩
      cases hreceive.symm.trans hended

/-- No connection is added while the relay is wound down. -/
theorem Step.length_eq {a : Action} (h : Step serde s a s') (hwinds : s.WindsDown a) :
  s'.connections.length = s.connections.length
  := by
  cases h with
  | connect => cases hwinds
  | refuse => rfl
  | sendQueued | forward => simp [push, setConnection]
  | _ => apply List.length_set

/-- What a run by which the relay is wound down keeps. -/
theorem windsDown_keeps (h : Reaches (step serde) WindsDown s s') :
  s'.connections.length = s.connections.length
    ∧ Along StaysDown s s'
  := by
  induction h with
  | refl => exact ⟨rfl, fun _ conn hc => ⟨conn, hc, fun hdown => ⟨hdown, rfl⟩⟩⟩
  | tail _ hmove ih =>
      obtain ⟨a, hwinds, hstep⟩ := hmove
      have hstep := step_of_step hstep
      use (hstep.length_eq hwinds).trans ih.1
      apply along_trans StaysDown.trans ih.2 hstep.staysDown

/-- The connections of a state, one after another, get to where `P` holds of them, if each of them
can where `I` holds of the state, and those of which `P` holds are let alone. -/
theorem exists_forall
    {I : Relay → Prop}
    (hgets : ∀ (s : Relay) (c : ℕ) (conn : Connection), I s → s.connections[c]? = some conn →
      ∃ s' conn', Reaches (step serde) WindsDown s s' ∧ I s' ∧ s'.connections[c]? = some conn'
        ∧ P conn' ∧ Along (fun conn conn' => P conn → P conn') s s')
    (hs : I s) :
  ∃ s', Reaches (step serde) WindsDown s s' ∧ I s' ∧ ∀ conn ∈ s'.connections, P conn
  := by
  have hfirst : ∀ n ≤ s.connections.length, ∃ s', Reaches (step serde) WindsDown s s' ∧ I s'
      ∧ ∀ c < n, ∀ conn, s'.connections[c]? = some conn → P conn := by
    intro n
    induction n with
    | zero =>
        exact fun _ => ⟨s, Relation.ReflTransGen.refl, hs, fun c hlt => absurd hlt c.not_lt_zero⟩
    | succ n ih =>
        intro hle
        obtain ⟨s₁, hreach, hI, hbefore⟩ := ih (Nat.le_of_succ_le hle)
        have hlt : n < s₁.connections.length := by
          rw [(windsDown_keeps hreach).1]
          apply hle
        obtain ⟨s₂, conn, hreach', hI', hc, hlast, hkeeps⟩ :=
          hgets s₁ n _ hI (List.getElem?_eq_getElem hlt)
        use s₂, Relation.ReflTransGen.trans hreach hreach', hI'
        intro c hc' conn' hconn'
        rcases Nat.lt_succ_iff_lt_or_eq.mp hc' with hearlier | rfl
        · have hlt' : c < s₁.connections.length := Nat.lt_trans hearlier hlt
          obtain ⟨conn'', hconn'', hP⟩ := hkeeps c _ (List.getElem?_eq_getElem hlt')
          obtain rfl := Option.some.inj (hconn''.symm.trans hconn')
          apply hP (hbefore c hearlier _ (List.getElem?_eq_getElem hlt'))
        · obtain rfl := Option.some.inj (hc.symm.trans hconn')
          apply hlast
  obtain ⟨s', hreach, hI, hall⟩ := hfirst s.connections.length (Nat.le_refl _)
  use s', hreach, hI
  intro conn hmem
  obtain ⟨c, hlt, rfl⟩ := List.mem_iff_getElem.mp hmem
  apply hall c _ _ (List.getElem?_eq_getElem hlt)
  rw [← (windsDown_keeps hreach).1]
  apply hlt

/-- The aborted sending tasks are dropped, and then no channel is doomed. -/
theorem exists_noneDoomed (serde : JsonCodec) (hs : s.Ready) :
  ∃ s', Reaches (step serde) WindsDown s s' ∧ s'.Ready ∧ s'.NoneDoomed
  := by
  have hall : ∃ s', Reaches (step serde) WindsDown s s' ∧ s'.Ready
      ∧ ∀ conn ∈ s'.connections, ¬ conn.IsDoomed := by
    apply exists_forall _ hs
    intro s c conn hs hc
    by_cases hdoomed : conn.IsDoomed
    · obtain ⟨haborted, hopen⟩ := hdoomed
      have hspawned : conn.phase.hasSpawned := by
        rcases (hs.ends c conn hc).aborted haborted with heq | heq <;> rw [heq] <;> rfl
      have hawaits : conn.sendTask.isAwaiting := by
        have hunspawned := ((hs.ends c conn hc).spawned hspawned).1
        have hended := of_decide_eq_true hopen
        cases hsend : conn.sendTask <;> simp_all [SendTask.isAwaiting]
      have hstep : s.step serde (.task c .dropSend) = some (s.setConnection c conn.endSend) := by
        rw [step, hc, Option.bind_eq_bind, Option.bind_some, Connection.taskStep,
          if_pos ⟨haborted, hawaits⟩]
        rfl
      use s.setConnection c conn.endSend, conn.endSend
      refine ⟨Relation.ReflTransGen.single ⟨.task c .dropSend, trivial, hstep⟩,
        (step_of_step hstep).ready hs, ?_, ?_, ?_⟩
      · rw [getElem?_setConnection hc, if_pos rfl]
      · rintro ⟨-, ⟨⟩⟩
      · apply along_setConnection (fun _ => id) hc
        rintro - ⟨-, ⟨⟩⟩
    · exact ⟨s, conn, Relation.ReflTransGen.refl, hs, hc, hdoomed, fun _ conn hc => ⟨conn, hc, id⟩⟩
  obtain ⟨s', hreach, hs', hnone⟩ := hall
  use s', hreach, hs'
  exact fun c conn hc => hnone conn (List.mem_of_getElem? hc)

/-- All connections can be torn down. -/
theorem exists_tornDown (serde : JsonCodec) (hs : s.Ready) :
  ∃ s', Reaches (step serde) WindsDown s s' ∧ ∀ conn ∈ s'.connections, conn.TornDown
  := by
  obtain ⟨s₁, hdrop, hs₁, hnone⟩ := exists_noneDoomed serde hs
  have hall : ∃ s', Reaches (step serde) WindsDown s₁ s' ∧ (s'.Ready ∧ s'.NoneDoomed)
      ∧ ∀ conn ∈ s'.connections, conn.TornDown := by
    apply exists_forall _ ⟨hs₁, hnone⟩
    rintro s c conn ⟨hs, hnone⟩ hc
    have hclear := hnone.clear hs c
    have hgets : Gets serde s c Connection.TornDown := gets_tornDown hclear hc (hnone c conn hc)
    obtain ⟨s', conn', hreach, hc', hdown⟩ := hgets
    have hclear' := clear_of_reaches hreach hclear
    have hwinds : Reaches (step serde) WindsDown s s' := hreach.mono fun _ _ h => h.1
    refine ⟨s', conn', hwinds, ⟨hclear'.toReady, ?_⟩, hc', hdown, ?_⟩
    · apply hclear'.noneDoomed hc'
      rintro ⟨-, hopen⟩
      exact of_decide_eq_true hopen hdown.2.1
    · intro d conn hd
      obtain ⟨conn', hd', hstays⟩ := (windsDown_keeps hwinds).2 d conn hd
      exact ⟨conn', hd', fun hdown => (hstays hdown).1⟩
  obtain ⟨s', hreach, -, hdown⟩ := hall
  exact ⟨s', Relation.ReflTransGen.trans hdrop hreach, hdown⟩

end Relay

end Phantasma
