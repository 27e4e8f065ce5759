import Phantasma.Relay.Delivery
import Phantasma.Relay.Drain
import Phantasma.Relay.Payload

/-!
# Payloads that are handled while their connection is torn down

When the sending task of a connection ends, `select!` aborts the receiving task, which is
dropped at its next await point.  If it awaits the lock of `active_clients` or
`queue_message` there, the payload that it handles is dropped with it
(`Relay.not_handedOver`).  In a run in which the receiving task of a connection is not
dropped while it handles a payload, every payload that it has accepted is handed over
before the connection is torn down (`Relay.handedOver_of_reaches`).
-/

namespace Phantasma

namespace Connection

/-- `handle_socket` has returned and both tasks have ended. -/
def TornDown (conn : Connection) : Prop :=
  conn.phase = .closed ∧ conn.sendTask = .ended ∧ conn.receiveTask = .ended

instance : DecidablePred TornDown := fun conn =>
  inferInstanceAs (Decidable (conn.phase = .closed ∧ _))

/-- A step within a connection goes on with the payload that is handled, unless it drops it
or fails to queue it. -/
theorem Step.handled
    {conn conn' : Connection} {a : TaskAction} (hstep : conn.Step a conn')
    {table : QueuedMessages} (hfits : conn.Fits table) (hfail : a ≠ .failEnqueue)
    (hdrop : a ≠ .dropReceive) {handled : String × Message}
    (h : conn.receiveTask.handled = some handled) :
  conn'.receiveTask.handled = some handled
  := by
  cases hstep with
  | spawnTasks hphase =>
      obtain ⟨-, hreceive⟩ := hfits.unspawned (by simp [hphase, Phase.hasSpawned])
      rw [hreceive] at h
      cases h
  | endReceive hreceive =>
      rw [hreceive] at h
      cases h
  | failEnqueue => apply absurd rfl hfail
  | dropReceive => apply absurd rfl hdrop
  | _ => apply h

/-- A step within a connection does not begin to delete a row. -/
theorem Step.deleting
    {conn conn' : Connection} {a : TaskAction} (hstep : conn.Step a conn')
    {row : QueuedMessage} {rest : List QueuedMessage} (h : conn'.phase = .deleting row rest) :
  conn.phase = .deleting row rest
  := by
  cases hstep with
  | failLoad | failDelete | spawnTasks | selectSend | selectReceive => cases h
  | _ => apply h

end Connection

namespace Relay

variable {serde : JsonCodec} {s s' s₀ : Relay} {a : Action} {user : String} {message : Message}

/-- The message is in the queue of `user`, or was put on the channel of a connection of
`user`. -/
def HandedOver (s : Relay) (user : String) (message : Message) : Prop :=
  s.Queued user message
    ∨ ∃ put ∈ s.puts, put.2 = message
      ∧ s.connections[put.1]?.any fun conn => conn.username = user

instance : Decidable (s.HandedOver user message) :=
  inferInstanceAs (Decidable (_ ∨ ∃ put ∈ s.puts, _))

/-- The action drops the receiving task of the connection `c`. -/
def dropsReceive (c : ℕ) : Action → Bool
  | .task d .dropReceive => d = c
  | _ => false

/-- The action does not drop the receiving task of the connection `c` while it handles a
payload. -/
def FinishesHandling (c : ℕ) (s : Relay) (a : Action) : Prop :=
  dropsReceive c a → ¬ s.isHandling c

instance (c : ℕ) (s : Relay) : DecidablePred (FinishesHandling c s) := fun a =>
  inferInstanceAs (Decidable (dropsReceive c a → ¬ s.isHandling c))

/-! ### What is handed over stays handed over -/

/-- The message of a row that is being deleted was put on the channel of its connection. -/
def DeletesPut (s : Relay) : Prop :=
  ∀ (c : ℕ) (conn : Connection), s.connections[c]? = some conn →
    ∀ row rest, conn.phase = .deleting row rest → (c, row.message) ∈ s.puts

theorem Step.puts_subset (h : Step serde s a s') :
  s.puts ⊆ s'.puts
  := by
  cases h with
  | sendQueued | forward => apply List.subset_append_left
  | _ => apply List.Subset.refl

theorem Step.deletesPut (h : Step serde s a s') (hs : s.DeletesPut) :
  s'.DeletesPut
  := by
  unfold DeletesPut
  have hold : ∀ (c : ℕ) (conn : Connection), s.connections[c]? = some conn →
      ∀ row rest, conn.phase = .deleting row rest → (c, row.message) ∈ s'.puts := by
    intro c conn hc row rest hphase
    apply h.puts_subset (hs c conn hc row rest hphase)
  cases h with
  | connect =>
      apply forall_connect _ hs
      simp [Connection.new]
  | task hc hstep =>
      apply forall_setConnection hc hs
      intro row rest hphase
      apply hs _ _ hc row rest (hstep.deleting hphase)
  | sendQueued hc hphase =>
      rw [push_setConnection hc]
      apply forall_setConnection hc hold
      rintro row rest ⟨⟩
      apply List.mem_append_right _ (List.mem_singleton_self _)
  | forward hc =>
      apply forall_push
      · apply forall_setConnection hc hold
        apply hold _ _ hc
      · intro d x hx
        apply hx
  | refuse => apply hs
  | register hc | loadQueue hc | breakQueued hc | deleteQueued hc | cleanUp hc =>
      apply forall_setConnection hc hs
      simp
  | accept hc | lookUp hc | fallBack hc | enqueue hc =>
      apply forall_setConnection hc hs
      apply hs _ _ hc

theorem Initial.deletesPut (h : s.Initial) :
  s.DeletesPut
  := by
  simp [DeletesPut, h.connections]

/-- A message on the channel of a connection of the user is handed over. -/
theorem handedOver_of_put
    {c : ℕ} {conn : Connection} (hc : s.connections[c]? = some conn)
    (husername : conn.username = user) (hput : (c, message) ∈ s.puts) :
  s.HandedOver user message
  := by
  right
  use (c, message), hput, rfl
  simpa [hc] using husername

/-- A message that is handed over stays handed over: a row is deleted by the connection
that has put its message on its own channel. -/
theorem Step.handedOver
    (h : Step serde s a s') (hs : s.Wellformed) (hdeletes : s.DeletesPut)
    (hover : s.HandedOver user message) :
  s'.HandedOver user message
  := by
  have hput : ∀ (c : ℕ) (conn : Connection), s.connections[c]? = some conn →
      conn.username = user → (c, message) ∈ s.puts → s'.HandedOver user message := by
    intro c conn hc husername hput
    obtain ⟨conn', hc', hlater⟩ := h.later c conn hc
    apply handedOver_of_put hc' (hlater.username.trans husername) (h.puts_subset hput)
  rcases hover with ⟨row, hrow, hrecipient, hmessage⟩ | ⟨⟨c, _⟩, hmem, rfl, husername⟩
  · by_cases hkept : row ∈ s'.queuedMessages.rows
    · left
      use row, hkept, hrecipient
    · obtain ⟨c, conn, rest, rfl, hc, hphase⟩ := h.deletes hs hrow hkept
      obtain ⟨husername, -⟩ := (hs.fits c conn hc).loaded row (by simp [hphase, Phase.rows])
      apply hput c conn hc (husername.symm.trans hrecipient)
      rw [← hmessage]
      apply hdeletes c conn hc row rest hphase
  · obtain ⟨conn, hc, hconn⟩ := (Option.any_eq_true _ _).mp husername
    apply hput c conn hc (of_decide_eq_true hconn) hmem

/-! ### What is handled is handed over -/

/-- The receiving task of the connection `c` handles the message. -/
def Handles (s : Relay) (c : ℕ) (user : String) (message : Message) : Prop :=
  ∃ conn, s.connections[c]? = some conn ∧ conn.receiveTask.handled = some (user, message)

/-- What holds of the connection `c` still holds when a connection is replaced, if it holds of the
one that replaces `c`. -/
theorem exists_setConnection
    {P : Connection → Prop} {c d : ℕ} {conn conn' : Connection}
    (h : ∃ conn, s.connections[c]? = some conn ∧ P conn) (hd : s.connections[d]? = some conn)
    (hconn : d = c → P conn → P conn') :
  ∃ conn, (s.setConnection d conn').connections[c]? = some conn ∧ P conn
  := by
  obtain ⟨conn₀, hc, hP⟩ := h
  by_cases hcd : d = c
  · subst d
    obtain rfl := Option.some.inj (hc.symm.trans hd)
    use conn'
    rw [getElem?_setConnection hd, if_pos rfl]
    use rfl, hconn rfl hP
  · use conn₀
    rw [getElem?_setConnection hd, if_neg hcd]
    use hc

theorem exists_push
    {P : Connection → Prop} {c d : ℕ} {other : Message}
    (h : ∃ conn, s.connections[c]? = some conn ∧ P conn)
    (hpush : ∀ conn, P conn → P (conn.push other)) :
  ∃ conn, (s.push d other).connections[c]? = some conn ∧ P conn
  := by
  obtain ⟨conn, hc, hP⟩ := h
  rw [getElem?_push, hc]
  split
  · exact ⟨conn.push other, rfl, hpush conn hP⟩
  · exact ⟨conn, rfl, hP⟩

/-- The message is the one that the receiving task handles. -/
theorem Handles.handled
    {c : ℕ} (h : s.Handles c user message) {conn : Connection}
    (hc : s.connections[c]? = some conn) :
  conn.receiveTask.handled = some (user, message)
  := by
  obtain ⟨conn', hc', hhandled⟩ := h
  obtain rfl := Option.some.inj (hc.symm.trans hc')
  apply hhandled

/-- A message that is handled is still handled or handed over after a step that does not
drop it, and in which the database does not fail. -/
theorem Step.handles
    (h : Step serde s a s') (hs : s.Wellformed) (hdb : dbSucceeds a) {c : ℕ}
    (hfinishes : FinishesHandling c s a) (hhandles : s.Handles c user message) :
  s'.Handles c user message ∨ s'.HandedOver user message
  := by
  have hlater := h.later
  cases h with
  | connect =>
      left
      obtain ⟨conn, hc, hhandled⟩ := hhandles
      use conn
      constructor
      · apply (List.getElem?_append_left _).trans hc
        apply (List.getElem?_eq_some_iff.mp hc).1
      · apply hhandled
  | refuse =>
      left
      apply hhandles
  | @task d a' conn conn' hd hstep =>
      left
      apply exists_setConnection hhandles hd
      rintro rfl hhandled
      apply hstep.handled (hs.fits d conn hd) _ _ hhandled
      · rintro rfl
        cases hdb
      · rintro rfl
        apply hfinishes (decide_eq_true rfl)
        rw [isHandling, hd, Option.any_some, hhandled]
        rfl
  | register hd | loadQueue hd | breakQueued hd | deleteQueued hd | cleanUp hd =>
      left
      apply exists_setConnection hhandles hd
      exact fun _ => id
  | sendQueued hd =>
      left
      apply exists_push _ fun _ => id
      apply exists_setConnection hhandles hd
      exact fun _ => id
  | accept hd hreceive =>
      left
      apply exists_setConnection hhandles hd
      intro _ hhandled
      rw [hreceive] at hhandled
      cases hhandled
  | lookUp hd hreceive | fallBack hd hreceive =>
      left
      apply exists_setConnection hhandles hd
      intro _ hhandled
      rw [hreceive] at hhandled
      apply hhandled
  | @forward d conn recipient other client hd hreceive =>
      by_cases hdc : d = c
      · right
        subst d
        have hhandled := hhandles.handled hd
        rw [hreceive] at hhandled
        cases hhandled
        obtain ⟨target, htarget, husername, -⟩ := hs.routing c conn hd _ _ _ hreceive
        obtain ⟨target', htarget', hconn⟩ := hlater _ target htarget
        apply handedOver_of_put htarget' (hconn.username.trans husername)
        apply List.mem_append_right _ (List.mem_singleton_self _)
      · left
        apply exists_push _ fun _ => id
        apply exists_setConnection hhandles hd
        intro heq
        apply absurd heq hdc
  | @enqueue d conn recipient other hd hreceive =>
      by_cases hdc : d = c
      · right
        left
        subst d
        have hhandled := hhandles.handled hd
        rw [hreceive] at hhandled
        cases hhandled
        use ⟨s.queuedMessages.lastId + 1, user, message⟩
        use (QueuedMessages.mem_queueMessage ..).mpr (.inr rfl)
      · left
        apply exists_setConnection hhandles hd
        intro heq
        apply absurd heq hdc

/-- A connection that is torn down handles nothing. -/
theorem Handles.not_tornDown
    {c : ℕ} (h : s.Handles c user message) {conn : Connection}
    (hc : s.connections[c]? = some conn) :
  ¬ conn.TornDown
  := by
  rintro ⟨-, -, hreceive⟩
  have hhandled := h.handled hc
  rw [hreceive] at hhandled
  cases hhandled

/-- A connection that reads a payload which is admitted handles its message. -/
theorem handles_of_receive
    {c : ℕ} {conn : Connection} (hc : s.connections[c]? = some conn) {bytes payload : Bytes}
    {routed : RoutedEncryptedMessage} (hrouted : Admits serde conn.username bytes routed)
    (hpayload : routed.encrypted.toWireBytes serde = .ok payload)
    (h : Step serde s (.receive c bytes) s') :
  s'.Handles c routed.to ⟨s.nextTag, payload⟩
  := by
  have hcheck := hrouted.checkPayload hpayload
  cases h with
  | refuse hc' hreceive hrefuse =>
      obtain rfl := Option.some.inj (hc.symm.trans hc')
      apply absurd hcheck (hrefuse _ _)
  | accept hc' hreceive haccept =>
      obtain rfl := Option.some.inj (hc.symm.trans hc')
      obtain ⟨⟩ := hcheck.symm.trans haccept
      use { conn with receiveTask := .locking routed.to ⟨s.nextTag, payload⟩ }
      use (getElem?_setConnection hc _ c).trans (if_pos rfl)
      rfl

/-- A payload that a connection has read, and that is admitted, is handed over when the
connection is torn down, if from then on no database call fails and the receiving task of
the connection is not dropped while it handles a payload. -/
theorem handedOver_of_reaches
    (hserde : serde.Inverts serde) (h₀ : s₀.Initial) {s₁ : Relay}
    (h : TransitionSystem.Reaches (step serde) TransitionSystem.anyAction s₀ s)
    {c : ℕ} {conn conn' : Connection} (hc : s.connections[c]? = some conn) {bytes : Bytes}
    {routed : RoutedEncryptedMessage} (hrouted : Admits serde conn.username bytes routed)
    (hreceive : s.step serde (.receive c bytes) = some s₁)
    (h' : TransitionSystem.Reaches (step serde)
      (fun s a => dbSucceeds a ∧ FinishesHandling c s a) s₁ s')
    (hc' : s'.connections[c]? = some conn') (hdown : conn'.TornDown) :
  ∃ payload, routed.encrypted.toWireBytes serde = .ok payload
    ∧ s'.HandedOver routed.to ⟨s.nextTag, payload⟩
  := by
  obtain ⟨payload, hpayload⟩ := exists_toWireBytes hserde routed.encrypted
  use payload, hpayload
  have hs : s.Wellformed := wellformed_of_reaches h h₀.wellformed
  have hdeletes : s.DeletesPut := by
    apply invariant_of_reaches (I := DeletesPut) _ h h₀.wellformed h₀.deletesPut
    intro t a t' _ hstep _ ht
    apply hstep.deletesPut ht
  have hstep := step_of_step hreceive
  let I (t : Relay) : Prop := t.DeletesPut ∧ (t.Handles c routed.to ⟨s.nextTag, payload⟩
    ∨ t.HandedOver routed.to ⟨s.nextTag, payload⟩)
  have hI : I s' := by
    apply invariant_of_reaches (I := I) _ h' (hstep.wellformed hs)
    · use hstep.deletesPut hdeletes
      left
      apply handles_of_receive hc hrouted hpayload hstep
    · rintro t a t' ⟨hdb, hfinishes⟩ hstep ht ⟨hdeletes, hhandles | hover⟩
      · use hstep.deletesPut hdeletes
        apply hstep.handles ht hdb hfinishes hhandles
      · use hstep.deletesPut hdeletes
        right
        apply hstep.handedOver ht hdeletes hover
  rcases hI.2 with hhandles | hover
  · apply absurd hdown (hhandles.not_tornDown hc')
  · apply hover

/-! ### A connection that is torn down -/

/-- A message from `bob` to `alice`. -/
def replyRouted : RoutedEncryptedMessage where
  «from» := "bob"
  «to» := "alice"
  encrypted := sampleRouted.encrypted

/-- `alice` is the connection `0` and `bob` the connection `1`, both are online, and the
message of `replyRouted` is being written to the socket of `alice`. -/
def writesReply : List Action :=
  comeOnline 0 "alice" ++ comeOnline 1 "bob"
    ++ [.receive 1 replyRouted.toJson.compactBytes, .lookUp 1, .forward 1, .task 0 .takeOutbound]

/-- The message of `sampleRouted` is put on the channel of `bob` before the sending task of
`alice` fails. -/
theorem handedOver_of_reaches_sample :
  ∃ s s₁ s' : Relay, ∃ payload, TransitionSystem.run (step .compact) start writesReply = some s
    ∧ s.step .compact (.receive 0 sampleFrame) = some s₁
    ∧ TransitionSystem.run (step .compact) s₁ [.lookUp 0, .forward 0, .task 0 .failWrite,
      .task 0 .selectSend, .task 0 .dropReceive, .cleanUp 0] = some s'
    ∧ sampleRouted.encrypted.toWireBytes .compact = .ok payload
    ∧ s'.HandedOver "bob" ⟨s.nextTag, payload⟩
  := by
  let guard (s : Relay) (a : Action) : Prop := dbSucceeds a ∧ FinishesHandling 0 s a
  let actions : List Action := [.lookUp 0, .forward 0, .task 0 .failWrite, .task 0 .selectSend,
    .task 0 .dropReceive, .cleanUp 0]
  let before := TransitionSystem.run (step .compact) start writesReply
  have hbefore : before.isSome := by
    decide +kernel
  have hreads : ∀ t ∈ before, ∃ conn ∈ t.connections[0]?, conn.username = "alice"
      ∧ ∃ t₁ ∈ t.step .compact (.receive 0 sampleFrame),
        (TransitionSystem.run (TransitionSystem.guarded (step .compact) guard) t₁ actions).any
          fun t' => t'.connections[0]?.any fun conn => conn.TornDown := by
    decide +kernel
  obtain ⟨s, hs⟩ := Option.isSome_iff_exists.mp hbefore
  obtain ⟨conn, hc, husername, s₁, hreceive, hafter⟩ := hreads s hs
  obtain ⟨s', hs', hdown⟩ := (Option.any_eq_true _ _).mp hafter
  obtain ⟨conn', hc', hdown⟩ := (Option.any_eq_true _ _).mp hdown
  have hreach : TransitionSystem.Reaches (step .compact) TransitionSystem.anyAction start s :=
    TransitionSystem.reaches_any_of_run hs
  have hrouted : Admits .compact conn.username sampleFrame sampleRouted := by
    rw [husername]
    apply admits_compact sampleRouted (by decide +kernel)
  obtain ⟨payload, hpayload, hover⟩ := handedOver_of_reaches JsonCodec.inverts_compact
    initial_start hreach hc hrouted hreceive (TransitionSystem.reaches_of_run_guarded hs') hc'
    (of_decide_eq_true hdown)
  use s, s₁, s', payload, hs, hreceive, TransitionSystem.run_of_run_guarded hs', hpayload
  apply hover

/-- The message of `sampleRouted` is dropped: the sending task of `alice` fails while the
receiving task awaits the lock of `active_clients`. -/
theorem not_handedOver :
  ¬ ∀ (s s₁ s' : Relay) (c : ℕ) (conn conn' : Connection) (bytes payload : Bytes)
      (routed : RoutedEncryptedMessage),
    TransitionSystem.Reaches (step .compact) (fun _ a => dbSucceeds a) start s →
    s.connections[c]? = some conn → Admits .compact conn.username bytes routed →
    s.step .compact (.receive c bytes) = some s₁ →
    TransitionSystem.Reaches (step .compact) (fun _ a => dbSucceeds a) s₁ s' →
    s'.connections[c]? = some conn' → conn'.TornDown →
    routed.encrypted.toWireBytes .compact = .ok payload →
    s'.HandedOver routed.to ⟨s.nextTag, payload⟩
  := by
  intro hhanded
  let payload := sampleRouted.encrypted.toJson.compactBytes
  let actions : List Action := [.task 0 .failWrite, .task 0 .selectSend, .task 0 .dropReceive,
    .cleanUp 0]
  let before := TransitionSystem.run (step .compact) start writesReply
  have hbefore : before.isSome := by
    decide +kernel
  have hreads : ∀ t ∈ before, ∃ conn ∈ t.connections[0]?, conn.username = "alice"
      ∧ ∃ t₁ ∈ t.step .compact (.receive 0 sampleFrame),
        (TransitionSystem.run (step .compact) t₁ actions).any
          fun t' => (t'.connections[0]?.any fun conn => conn.TornDown)
            ∧ ¬ t'.HandedOver "bob" ⟨t.nextTag, payload⟩ := by
    decide +kernel
  obtain ⟨s, hs⟩ := Option.isSome_iff_exists.mp hbefore
  obtain ⟨conn, hc, husername, s₁, hreceive, hafter⟩ := hreads s hs
  obtain ⟨s', hs', hlost⟩ := (Option.any_eq_true _ _).mp hafter
  obtain ⟨hdown, hlost⟩ := of_decide_eq_true hlost
  obtain ⟨conn', hc', hdown⟩ := (Option.any_eq_true _ _).mp hdown
  apply hlost
  apply hhanded s s₁ s' 0 conn conn' sampleFrame payload sampleRouted _ hc _ hreceive _ hc'
    (of_decide_eq_true hdown) (toWire_eq_ok.mpr rfl)
  · apply TransitionSystem.reaches_of_run _ hs
    simp [writesReply, comeOnline, dbSucceeds]
  · rw [husername]
    apply admits_compact sampleRouted (by decide +kernel)
  · apply TransitionSystem.reaches_of_run _ hs'
    simp [actions, dbSucceeds]

end Relay

end Phantasma
