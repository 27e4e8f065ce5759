import Phantasma.Relay.WindDown

/-!
# What the relay answers for

What an aborted task has not done is lost.  The relay answers for every other message that is kept
for a user or is being handled: from every state that is reached it can be wound down so that the
message is queued for the user or has been written to a socket of the user (`exists_windDown`), and
then it can still be written to a socket (`exists_written`).
-/

namespace Phantasma

namespace Connection

/-- The connection holds the message; if its sending task is aborted, it has written it. -/
def Saves (conn : Connection) (message : Message) : Prop :=
  conn.Holds message ∧ (conn.sendAborted → message ∈ conn.written)

/-- A message that is saved stays so, unless a write fails or the sending task is aborted with
messages left. -/
theorem Step.saves
    {table : QueuedMessages} {conn conn' : Connection} {a : TaskAction}
    (hstep : conn.Step a conn') (hfits : conn.Fits table) (hfail : a ≠ .failWrite)
    (hselect : a = .selectReceive → conn.unsent = []) {message : Message}
    (h : conn.Saves message) :
  conn'.Saves message
  := by
  obtain ⟨hholds, haborted⟩ := h
  by_cases hwritten : message ∈ conn.written
  · have hlater := hstep.later.written message hwritten
    exact ⟨Or.inr hlater, fun _ => hlater⟩
  · have halive : ¬ conn.sendAborted := mt haborted hwritten
    constructor
    · apply hstep.holds hfits _ hholds
      rintro (rfl | rfl)
      · exact absurd rfl hfail
      · cases hstep with
        | dropSend haborted => exact absurd haborted halive
    · intro haborted'
      cases hstep with
      | selectReceive =>
          rcases hholds with ⟨-, hunsent⟩ | hold
          · rw [hselect rfl] at hunsent
            cases hunsent
          · apply hold
      | _ => exact absurd haborted' halive

/-- The receiving task handles the message, and it is not aborted. -/
def Completes (conn : Connection) (user : String) (message : Message) : Prop :=
  conn.receiveAborted = false ∧ conn.receiveTask.handled = some (user, message)

end Connection

namespace Relay

open TransitionSystem

variable {serde : JsonCodec} {s s' : Relay} {c : ℕ} {conn : Connection} {user : String}
    {message : Message}

/-! ### What is saved -/

/-- The message is queued for the user, or a connection of the user saves it. -/
def Saved (s : Relay) (user : String) (message : Message) : Prop :=
  s.Queued user message
    ∨ ∃ conn ∈ s.connections, conn.username = user ∧ conn.Saves message

instance : Decidable (s.Saved user message) :=
  inferInstanceAs (Decidable (_ ∨ ∃ conn ∈ s.connections, _ ∧ _ ∧ _))

/-- The message is saved for the user, or it is being handled by a task that is not aborted. -/
def AnswersFor (s : Relay) (user : String) (message : Message) : Prop :=
  s.Saved user message
    ∨ ∃ (c : ℕ) (conn : Connection), s.connections[c]? = some conn ∧ conn.Completes user message

theorem Step.saves
    {a : Action} (h : Step serde s a s') (hs : s.Ready) (hwinds : s.WindsDown a) :
  Along (fun conn conn' => conn'.username = conn.username
    ∧ (conn.Saves message → conn'.Saves message)) s s'
  := by
  apply h.along
  · exact fun conn => ⟨rfl, id⟩
  · rintro conn conn' conn'' ⟨hname, hsaves⟩ ⟨hname', hsaves'⟩
    exact ⟨hname'.trans hname, hsaves' ∘ hsaves⟩
  · intro conn other
    use rfl
    rintro ⟨hholds, hwritten⟩
    exact ⟨Connection.holds_push conn hholds other, hwritten⟩
  · exact fun conn phase task _ => ⟨rfl, id⟩
  · rintro c a' conn conn' rfl hc hstep
    use hstep.later.username
    apply hstep.saves (hs.fits c conn hc)
    · rintro rfl
      cases hwinds
    · rintro rfl
      apply hwinds conn hc

/-- While the relay is wound down, a message that is saved stays so: a row is deleted by a
connection that has its message on the channel. -/
theorem Step.saved
    {a : Action} (h : Step serde s a s') (hs : s.Ready) (hwinds : s.WindsDown a)
    (hsaved : s.Saved user message) :
  s'.Saved user message
  := by
  have hconn : ∀ (c : ℕ) (conn : Connection), s.connections[c]? = some conn →
      conn.username = user → conn.Saves message → s'.Saved user message := by
    intro c conn hc hname hsaves
    obtain ⟨conn', hc', hname', hsaves'⟩ := h.saves hs hwinds c conn hc
    exact Or.inr ⟨conn', List.mem_of_getElem? hc', hname'.trans hname, hsaves' hsaves⟩
  rcases hsaved with ⟨row, hrow, hrecipient, rfl⟩ | ⟨conn, hmem, hname, hsaves⟩
  · by_cases hkept : row ∈ s'.queuedMessages.rows
    · exact Or.inl ⟨row, hkept, hrecipient, rfl⟩
    · obtain ⟨c, conn, rest, rfl, hc, hphase⟩ := h.deletes hs.toWellformed hrow hkept
      have hfits := hs.fits c conn hc
      have hunspawned : conn.phase.hasSpawned = false := by
        rw [hphase]
        rfl
      obtain ⟨hname, -⟩ := hfits.loaded row (by simp [hphase, Phase.rows])
      apply hconn c conn hc (hname.symm.trans hrecipient)
      constructor
      · left
        exact ⟨hfits.isOpen hunspawned, List.mem_append_right _ (hfits.sent row rest hphase)⟩
      · intro haborted
        have halive := (hs.ends c conn hc).sendAborted hunspawned
        exact absurd (halive.symm.trans haborted) Bool.false_ne_true
  · obtain ⟨c, hc⟩ := List.mem_iff_getElem?.mp hmem
    apply hconn c conn hc hname hsaves

/-- The message that is forwarded is saved by a connection of its recipient, if its channel is not
doomed. -/
theorem saved_of_forward
    (hs : s.Wellformed) (hnone : s.NoneDoomed) (hc : s.connections[c]? = some conn)
    {client : ActiveClient} (hreceive : conn.receiveTask = .routing user message (some client))
    (hopen : s.isOpen client.sender) :
  ((s.setConnection c { conn with receiveTask := .waiting }).push client.sender message).Saved user
    message
  := by
  right
  obtain ⟨target, htarget, hname, -⟩ := hs.routing c conn hc _ _ _ hreceive
  rw [isOpen, htarget, Option.any_some] at hopen
  have halive : target.sendAborted = false :=
    sendAborted_of_not_isDoomed (hnone _ target htarget) (of_decide_eq_true hopen)
  have hself : ∃ target', (s.setConnection c
      { conn with receiveTask := .waiting }).connections[client.sender]? = some target'
      ∧ target'.username = user ∧ target'.isOpen ∧ target'.sendAborted = false := by
    rw [getElem?_setConnection hc]
    split
    · rename_i heq
      subst heq
      obtain rfl := Option.some.inj (hc.symm.trans htarget)
      exact ⟨_, rfl, hname, hopen, halive⟩
    · exact ⟨target, htarget, hname, hopen, halive⟩
  obtain ⟨target', htarget', hname', hopen', halive'⟩ := hself
  have hpushed : ((s.setConnection c { conn with receiveTask := .waiting }).push client.sender
      message).connections[client.sender]? = some (target'.push message) := by
    rw [getElem?_push, if_pos rfl, htarget']
    rfl
  use target'.push message, List.mem_of_getElem? hpushed, hname'
  constructor
  · left
    use hopen'
    apply List.mem_append_right
    apply List.mem_append_right _ (List.mem_singleton_self _)
  · intro haborted
    exact absurd (halive'.symm.trans haborted) Bool.false_ne_true

/-- While the relay is wound down, a message that is handled by a task that is not aborted is still
handled, or it is saved. -/
theorem Step.saved_or_completes
    {a : Action} (h : Step serde s a s') (hs : s.Wellformed) (hwinds : s.WindsDown a)
    (hcompletes : ∃ conn, s.connections[c]? = some conn ∧ conn.Completes user message) :
  s'.Saved user message
    ∨ ∃ conn, s'.connections[c]? = some conn ∧ conn.Completes user message
  := by
  cases h with
  | connect | refuse | accept => cases hwinds
  | @task d a' conn conn' hd hstep =>
      right
      apply exists_setConnection hcompletes hd
      rintro rfl ⟨halive, hhandled⟩
      constructor
      · cases hstep with
        | selectSend =>
            obtain ⟨⟩ := hhandled.symm.trans (hwinds conn hd)
        | _ => apply halive
      · apply hstep.handled (hs.fits d conn hd) _ _ hhandled
        · rintro rfl
          cases hwinds
        · rintro rfl
          cases hstep with
          | dropReceive haborted => exact absurd (halive.symm.trans haborted) Bool.false_ne_true
  | register hd | loadQueue hd | breakQueued hd | deleteQueued hd | cleanUp hd =>
      right
      exact exists_setConnection hcompletes hd fun _ => id
  | sendQueued hd =>
      right
      apply exists_push _ fun _ => id
      exact exists_setConnection hcompletes hd fun _ => id
  | lookUp hd hreceive | fallBack hd hreceive =>
      right
      apply exists_setConnection hcompletes hd
      rintro _ ⟨halive, hhandled⟩
      rw [hreceive] at hhandled
      exact ⟨halive, hhandled⟩
  | @forward d conn recipient other client hd hreceive hopen =>
      by_cases hdc : d = c
      · left
        subst hdc
        obtain ⟨conn', hd', -, hhandled⟩ := hcompletes
        obtain rfl := Option.some.inj (hd.symm.trans hd')
        rw [hreceive] at hhandled
        cases hhandled
        apply saved_of_forward hs hwinds hd hreceive hopen
      · right
        apply exists_push _ fun _ => id
        exact exists_setConnection hcompletes hd fun heq => absurd heq hdc
  | @enqueue d conn recipient other hd hreceive =>
      by_cases hdc : d = c
      · left
        left
        subst hdc
        obtain ⟨conn', hd', -, hhandled⟩ := hcompletes
        obtain rfl := Option.some.inj (hd.symm.trans hd')
        rw [hreceive] at hhandled
        cases hhandled
        use ⟨s.queuedMessages.lastId + 1, user, message⟩
        use (QueuedMessages.mem_queueMessage ..).mpr (.inr rfl)
      · right
        exact exists_setConnection hcompletes hd fun heq => absurd heq hdc

/-- While it is wound down, the relay answers for the messages that it has answered for. -/
theorem answersFor_of_reaches
    (hs : s.Ready) (h : Reaches (step serde) WindsDown s s')
    (hanswers : s.AnswersFor user message) :
  s'.AnswersFor user message
  := by
  have hboth : s'.Ready ∧ s'.AnswersFor user message := by
    apply h.invariant (I := fun s => s.Ready ∧ s.AnswersFor user message) _ ⟨hs, hanswers⟩
    rintro t a t' hwinds hstep ⟨ht, hsaved | ⟨c, hcompletes⟩⟩
    · have hstep := step_of_step hstep
      exact ⟨hstep.ready ht, Or.inl (hstep.saved ht hwinds hsaved)⟩
    · have hstep := step_of_step hstep
      use hstep.ready ht
      apply (hstep.saved_or_completes ht.toWellformed hwinds hcompletes).imp_right
      exact fun hcompletes => ⟨c, hcompletes⟩
  apply hboth.2

/-- When all connections are torn down, a message that the relay answers for is queued or
written. -/
theorem AnswersFor.of_tornDown
    (h : s.AnswersFor user message) (hdown : ∀ conn ∈ s.connections, conn.TornDown) :
  s.Queued user message
    ∨ ∃ conn ∈ s.connections, conn.username = user ∧ message ∈ conn.written
  := by
  rcases h with (hqueued | ⟨conn, hmem, hname, ⟨hopen, -⟩ | hwritten, -⟩)
    | ⟨c, conn, hc, -, hhandled⟩
  · left
    apply hqueued
  · have hended := (hdown conn hmem).2.1
    rw [Connection.isOpen, hended] at hopen
    cases hopen
  · right
    use conn
  · have hended := (hdown conn (List.mem_of_getElem? hc)).2.2
    rw [hended] at hhandled
    cases hhandled

/-- From every state that is reached, however connections, drains and payloads are interleaved, the
relay can be wound down: there are steps in which nothing comes in, nothing fails and no aborted
task is run again, after which every connection is torn down, and every message that the relay has
answered for is queued for the user, or has been written to a socket of the user. -/
theorem exists_windDown
    {s₀ : Relay} (h₀ : s₀.Initial) (h : Reaches (step serde) anyAction s₀ s) :
  ∃ s', Reaches (step serde) WindsDown s s' ∧ (∀ conn ∈ s'.connections, conn.TornDown)
    ∧ ∀ user message, s.AnswersFor user message →
      s'.Queued user message
        ∨ ∃ conn ∈ s'.connections, conn.username = user ∧ message ∈ conn.written
  := by
  have hs := ready_of_reaches h h₀.ready
  obtain ⟨s', hreach, hdown⟩ := exists_tornDown serde hs
  use s', hreach, hdown
  intro user message hanswers
  apply (answersFor_of_reaches hs hreach hanswers).of_tornDown hdown

/-- The steps in which the message of `sampleRouted` is put on the channel of `bob`, whose sending
task has not been aborted. -/
def forwardSample : List Action :=
  comeOnline 0 "alice" ++ comeOnline 1 "bob" ++ [.receive 0 sampleFrame, .lookUp 0, .forward 0]

/-- The relay is wound down when the message of `sampleRouted` is on the channel of `bob`. -/
theorem exists_windDown_sample :
  ∃ s s', after forwardSample = some s ∧ Reaches (step sampleCodec) WindsDown s s'
    ∧ (∀ conn ∈ s'.connections, conn.TornDown)
    ∧ (s'.Queued "bob" sampleMessage
      ∨ ∃ conn ∈ s'.connections, conn.username = "bob" ∧ sampleMessage ∈ conn.written)
  := by
  have hrun : (after forwardSample).isSome := by
    decide +kernel
  have hsaved : ∀ t ∈ after forwardSample, t.Saved "bob" sampleMessage := by
    decide +kernel
  obtain ⟨s, hs⟩ := Option.isSome_iff_exists.mp hrun
  obtain ⟨s', hreach, hdown, hanswers⟩ := exists_windDown initial_start (reaches_any_of_run hs)
  use s, s', hs, hreach, hdown
  apply hanswers _ _ (Or.inl (hsaved s hs))

/-- A message that the relay answers for is never out of reach of its recipient: from every state
that is reached there are steps, in which no database call fails and no aborted task is run again,
after which it has been written to a socket of the user. -/
theorem exists_written
    {s₀ : Relay} (h₀ : s₀.Initial) (h : Reaches (step serde) anyAction s₀ s)
    (huser : isValidUsername user) (hanswers : s.AnswersFor user message) :
  ∃ s', Reaches (step serde) (fun s a => dbSucceeds a ∧ s.PollsAlive a) s s'
    ∧ ∃ conn ∈ s'.connections, conn.username = user ∧ message ∈ conn.written
  := by
  have hs := ready_of_reaches h h₀.ready
  have hguard : ∀ {t t' : Relay}, Reaches (step serde) WindsDown t t' →
      Reaches (step serde) (fun s a => dbSucceeds a ∧ s.PollsAlive a) t t' :=
    fun hreach => hreach.mono fun _ _ hwinds => ⟨hwinds.dbSucceeds, hwinds.pollsAlive⟩
  obtain ⟨s₁, hreach, hdown⟩ := exists_tornDown serde hs
  rcases (answersFor_of_reaches hs hreach hanswers).of_tornDown hdown with
    ⟨row, hrow, hrecipient, rfl⟩ | hwritten
  · let c := s₁.connections.length
    let s₂ := s₁.connect user
    have hconnect : s₁.step serde (.connect user) = some s₂ := if_pos huser
    have hopened : s₂.connections[c]? = some (.new user s₁.nextConnectionId) :=
      List.getElem?_concat_length ..
    obtain ⟨s₃, conn, hserve, hc, -, hname, -, -, -, hwritten⟩ :=
      exists_online (s := s₂) serde hopened
    use s₃
    constructor
    · have hserves : Reaches (step serde) WindsDown s₂ s₃ :=
        (windsDownAt_of_serves hserve hopened rfl).mono fun _ _ h => h.1
      apply Relation.ReflTransGen.trans _ (hguard hserves)
      apply (hguard hreach).tail ⟨.connect user, ⟨rfl, trivial⟩, hconnect⟩
    · use conn, List.mem_of_getElem? hc, hname
      rw [hwritten]
      apply List.mem_map_of_mem
      exact (QueuedMessages.mem_queuedMessagesFor ..).mpr ⟨hrow, hrecipient⟩
  · exact ⟨s₁, hguard hreach, hwritten⟩

/-- The message of `sampleRouted` can be written to a socket of `bob`. -/
theorem exists_written_sample :
  ∃ s s', after queueSample = some s
    ∧ Reaches (step sampleCodec) (fun s a => dbSucceeds a ∧ s.PollsAlive a) s s'
    ∧ ∃ conn ∈ s'.connections, conn.username = "bob" ∧ sampleMessage ∈ conn.written
  := by
  have hrun : (after queueSample).isSome := by
    decide +kernel
  have hsaved : ∀ t ∈ after queueSample, t.Saved "bob" sampleMessage := by
    decide +kernel
  obtain ⟨s, hs⟩ := Option.isSome_iff_exists.mp hrun
  obtain ⟨s', hreach, hwritten⟩ := exists_written initial_start (reaches_any_of_run hs)
    (by decide +kernel : isValidUsername "bob") (Or.inl (hsaved s hs))
  exact ⟨s, s', hs, hreach, hwritten⟩

end Relay

end Phantasma
