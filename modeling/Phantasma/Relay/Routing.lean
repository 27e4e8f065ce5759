import Phantasma.Relay.Invariant

/-!
# Where the messages of the relay come from

Every message that the relay handles, queues or puts on a channel for a user was accepted
in a frame of some connection, from the user of that connection and to that user
(`Relay.routed_of_reaches`).  Once it is accepted, it goes to that user and keeps its
payload (`Relay.transports_of_reaches`).  The invariant `Relay.Routed` is stated for any
property `G` of a recipient and a message: what accepted messages have, everything that
is delivered has (`Relay.Step.routed`).
-/

namespace Phantasma

/-- What the connection handles and has loaded has the property `G`. -/
structure Connection.Carries (G : String → Message → Prop) (conn : Connection) : Prop where
  handled : ∀ recipient message, conn.receiveTask.handled = some (recipient, message) →
    G recipient message
  rows : ∀ row ∈ conn.phase.rows, G row.recipient row.message

namespace Connection

variable {G : String → Message → Prop} {conn conn' : Connection}

theorem carries_new (username : String) (connectionId : UInt64) :
  (Connection.new username connectionId).Carries G
  := by
  constructor <;> simp [new, ReceiveTask.handled, Phase.rows]

/-- A connection that handles and has loaded no more than another one carries what that
one carries. -/
theorem Carries.of_imp
    (h : conn.Carries G)
    (hhandled : ∀ handled, conn'.receiveTask.handled = some handled →
      conn.receiveTask.handled = some handled)
    (hrows : ∀ row ∈ conn'.phase.rows, row ∈ conn.phase.rows) :
  conn'.Carries G
  where
  handled recipient message hhandled' := h.handled recipient message (hhandled _ hhandled')
  rows row hrow := h.rows row (hrows row hrow)

theorem Carries.push (h : conn.Carries G) (message : Message) :
  (conn.push message).Carries G
  where
  handled := h.handled
  rows := h.rows

/-- A step of a connection handles and loads nothing. -/
theorem Step.carries
    {a : TaskAction} (hstep : conn.Step a conn') (h : conn.Carries G) :
  conn'.Carries G
  := by
  apply h.of_imp <;> cases hstep <;> simp [ReceiveTask.handled, Phase.rows, endSend, *]

end Connection

namespace Relay

variable {serde : JsonCodec} {s s' s₀ : Relay} {a : Action} {G : String → Message → Prop}
  {message : Message}

/-! ### Properties of what is delivered -/

/-- Every row of the table, every message ever put on a channel, and everything that a
connection handles or has loaded has the property `G` for its recipient. -/
structure Routed (G : String → Message → Prop) (s : Relay) : Prop where
  rows : ∀ row ∈ s.queuedMessages.rows, G row.recipient row.message
  puts : ∀ put ∈ s.puts, ∃ conn, s.connections[put.1]? = some conn
    ∧ G conn.username put.2
  carries : ∀ (c : ℕ) (conn : Connection), s.connections[c]? = some conn → conn.Carries G

theorem Routed.mono
    {G' : String → Message → Prop} (hG : ∀ recipient message, G recipient message →
      G' recipient message) (h : s.Routed G) :
  s.Routed G'
  where
  rows row hrow := hG _ _ (h.rows row hrow)
  puts put hput := by
    obtain ⟨conn, hc, hmessage⟩ := h.puts put hput
    use conn, hc, hG _ _ hmessage
  carries c conn hc := by
    constructor
    · intro recipient message hhandled
      apply hG _ _ ((h.carries c conn hc).handled recipient message hhandled)
    · intro row hrow
      apply hG _ _ ((h.carries c conn hc).rows row hrow)

/-- The messages put on channels before a step still have the property after it. -/
theorem puts_later
    (hlater : Along Connection.Later s s') (h : s.Routed G) :
  ∀ put ∈ s.puts, ∃ conn, s'.connections[put.1]? = some conn ∧ G conn.username put.2
  := by
  intro put hput
  obtain ⟨conn, hc, hmessage⟩ := h.puts put hput
  obtain ⟨conn', hc', hconn⟩ := hlater _ conn hc
  use conn', hc'
  rw [hconn.username]
  apply hmessage

/-- A message put on the channel of `c` has the property, when it has it for the user of
that connection. -/
theorem puts_push
    (hlater : Along Connection.Later s (s'.push c message)) (h : s.Routed G)
    (hputs : s'.puts = s.puts) {conn : Connection} (hc : s.connections[c]? = some conn)
    (hmessage : G conn.username message) :
  ∀ put ∈ (s'.push c message).puts, ∃ conn, (s'.push c message).connections[put.1]? = some conn
    ∧ G conn.username put.2
  := by
  intro put hput
  simp only [push, hputs, List.mem_append, List.mem_singleton] at hput
  rcases hput with hold | rfl
  · apply puts_later hlater h put hold
  · obtain ⟨conn', hc', hconn⟩ := hlater c conn hc
    use conn', hc'
    rw [hconn.username]
    apply hmessage

/-- After a step every row has the property, when every message that is handled has it. -/
theorem Step.routed_rows
    (hstep : Step serde s a s') (h : s.Routed G) :
  ∀ row ∈ s'.queuedMessages.rows, G row.recipient row.message
  := by
  cases hstep with
  | enqueue hc hreceive =>
      intro row hrow
      rcases (QueuedMessages.mem_queueMessage ..).mp hrow with hold | rfl
      · apply h.rows row hold
      · apply (h.carries _ _ hc).handled
        simp [hreceive, ReceiveTask.handled]
  | deleteQueued =>
      intro row hrow
      apply h.rows row ((QueuedMessages.mem_deleteQueuedMessage ..).mp hrow).1
  | _ => apply h.rows

/-- After a step every message put on a channel has the property, when every row and every
message that is handled has it. -/
theorem Step.routed_puts
    (hstep : Step serde s a s') (hs : s.Wellformed) (h : s.Routed G) :
  ∀ put ∈ s'.puts, ∃ conn, s'.connections[put.1]? = some conn ∧ G conn.username put.2
  := by
  have hlater := hstep.later
  cases hstep with
  | @sendQueued c conn row rest hc hphase =>
      apply puts_push hlater h rfl hc
      have hrow : row ∈ conn.phase.rows := by simp [hphase, Phase.rows]
      rw [← ((hs.fits _ _ hc).loaded row hrow).1]
      apply (h.carries _ _ hc).rows row hrow
  | @forward c conn recipient message client hc hreceive =>
      obtain ⟨other, hother, rfl, -⟩ := hs.routing _ _ hc _ _ _ hreceive
      apply puts_push hlater h rfl hother
      apply (h.carries _ _ hc).handled
      simp [hreceive, ReceiveTask.handled]
  | _ => apply puts_later hlater h

/-- After a step the connections carry what has the property, when the rows and an accepted
message have it. -/
theorem Step.routed_carries
    (hstep : Step serde s a s') (h : s.Routed G)
    (haccept : ∀ c bytes conn recipient payload, a = .receive c bytes →
      s.connections[c]? = some conn →
      checkPayload serde conn.username bytes = .ok (.accepted recipient payload) →
      G recipient ⟨s.nextTag, payload⟩) :
  ∀ (c : ℕ) (conn : Connection), s'.connections[c]? = some conn → conn.Carries G
  := by
  cases hstep with
  | connect =>
      apply forall_connect _ h.carries
      apply Connection.carries_new
  | task hc hstep =>
      apply forall_setConnection hc h.carries
      apply hstep.carries (h.carries _ _ hc)
  | accept hc hreceive hcheck =>
      apply forall_setConnection hc h.carries
      constructor
      · simp only [ReceiveTask.handled, Option.some.injEq, Prod.mk.injEq]
        rintro _ _ ⟨rfl, rfl⟩
        apply haccept _ _ _ _ _ rfl hc hcheck
      · apply (h.carries _ _ hc).rows
  | refuse => apply h.carries
  | loadQueue hc =>
      apply forall_setConnection hc h.carries
      constructor
      · apply (h.carries _ _ hc).handled
      · intro row hrow
        apply h.rows row ((QueuedMessages.mem_queuedMessagesFor ..).mp hrow).1
  | sendQueued hc hphase =>
      apply forall_push
      · apply forall_setConnection hc h.carries
        apply (h.carries _ _ hc).of_imp <;> simp [hphase, Phase.rows]
      · intro d x hx
        apply hx.push
  | forward hc =>
      apply forall_push
      · apply forall_setConnection hc h.carries
        apply (h.carries _ _ hc).of_imp <;> simp [ReceiveTask.handled]
      · intro d x hx
        apply hx.push
  | deleteQueued hc hphase =>
      apply forall_setConnection hc h.carries
      apply (h.carries _ _ hc).of_imp
      · simp
      · simp only [hphase, Phase.rows]
        apply List.subset_cons_self
  | register hc hphase | breakQueued hc hphase | cleanUp hc hphase =>
      apply forall_setConnection hc h.carries
      apply (h.carries _ _ hc).of_imp <;> simp [hphase, Phase.rows]
  | lookUp hc hreceive | fallBack hc hreceive | enqueue hc hreceive =>
      apply forall_setConnection hc h.carries
      apply (h.carries _ _ hc).of_imp <;> simp [hreceive, ReceiveTask.handled]

/-- A step delivers only what has the property, when every message it accepts has it. -/
theorem Step.routed
    (hstep : Step serde s a s') (hs : s.Wellformed) (h : s.Routed G)
    (haccept : ∀ c bytes conn recipient payload, a = .receive c bytes →
      s.connections[c]? = some conn →
      checkPayload serde conn.username bytes = .ok (.accepted recipient payload) →
      G recipient ⟨s.nextTag, payload⟩) :
  s'.Routed G
  where
  rows := hstep.routed_rows h
  puts := hstep.routed_puts hs h
  carries := hstep.routed_carries h haccept

/-! ### A message by its tag -/

theorem Step.nextTag_le (h : Step serde s a s') :
  s.nextTag ≤ s'.nextTag
  := by
  cases h with
  | accept => apply Nat.le_succ
  | _ => apply le_refl

theorem Step.nextTag_lt_of_accepted
    {c : ℕ} {bytes : Bytes} (h : Step serde s (.receive c bytes) s') {conn : Connection}
    (hc : s.connections[c]? = some conn) {recipient : String} {payload : Bytes}
    (hcheck : checkPayload serde conn.username bytes = .ok (.accepted recipient payload)) :
  s.nextTag < s'.nextTag
  := by
  cases h with
  | accept => apply Nat.lt_succ_self
  | refuse hc' _ hcheck' =>
      obtain rfl := Option.some.inj (hc.symm.trans hc')
      apply absurd hcheck (hcheck' _ _)

/-- The tags of the messages that the relay delivers were given out. -/
def TagsGiven (s : Relay) : Prop :=
  s.Routed fun _ message => message.tag < s.nextTag

theorem Step.tagsGiven
    (hstep : Step serde s a s') (hs : s.Wellformed) (h : s.TagsGiven) :
  s'.TagsGiven
  := by
  apply hstep.routed hs (h.mono fun _ _ hlt => hlt.trans_le hstep.nextTag_le)
  rintro c bytes conn recipient payload rfl hc hcheck
  apply hstep.nextTag_lt_of_accepted hc hcheck

theorem Initial.tagsGiven (h : s.Initial) :
  s.TagsGiven
  where
  rows := h.tags_lt
  puts := by simp [h.puts]
  carries := by simp [h.connections]

theorem tagsGiven_of_reaches
    {guard : Relay → Action → Prop} (h₀ : s.Initial)
    (h : TransitionSystem.Reaches (step serde) guard s s') :
  s'.TagsGiven
  := by
  apply invariant_of_reaches (I := TagsGiven) _ h h₀.wellformed h₀.tagsGiven
  rintro t a t' - hstep ht htags
  apply hstep.tagsGiven ht htags

/-- The relay delivers the message with the tag `tag` to `recipient` and to nobody else, and
with the payload `payload`. -/
def Transports (s : Relay) (tag : ℕ) (recipient : String) (payload : Bytes) : Prop :=
  s.Routed fun user message => message.tag = tag → user = recipient ∧ message.payload = payload

/-- A step goes on with a message as it is. -/
theorem Step.transports
    (hstep : Step serde s a s') (hs : s.Wellformed) {tag : ℕ} (htag : tag < s.nextTag)
    {recipient : String} {payload : Bytes} (h : s.Transports tag recipient payload) :
  s'.Transports tag recipient payload
  := by
  apply hstep.routed hs h
  rintro c bytes conn user other - - - heq
  apply absurd heq htag.ne'

/-- A message that is accepted is the one with its tag. -/
theorem transports_accept
    (h : s.TagsGiven) {c : ℕ} {conn : Connection} (hc : s.connections[c]? = some conn)
    {bytes : Bytes} {recipient : String} {payload : Bytes}
    (hstep : Step serde s a (s.accept c conn bytes recipient payload)) :
  (s.accept c conn bytes recipient payload).Transports s.nextTag recipient payload
  := by
  have hnew : s.Transports s.nextTag recipient payload := by
    apply h.mono
    intro user message hlt heq
    apply absurd heq hlt.ne
  constructor
  · apply hnew.rows
  · apply puts_later hstep.later hnew
  · apply forall_setConnection hc hnew.carries
    constructor
    · rintro _ _ ⟨⟩ -
      exact ⟨rfl, rfl⟩
    · apply (hnew.carries _ _ hc).rows

/-- In every run after a message was accepted, it is delivered to the recipient it was
accepted for and with the payload it was accepted with. -/
theorem transports_of_reaches
    (h₀ : s₀.Initial) (h : TransitionSystem.Reaches (step serde) TransitionSystem.anyAction s₀ s)
    {c : ℕ} {conn : Connection} (hc : s.connections[c]? = some conn) {bytes : Bytes}
    {recipient : String} {payload : Bytes}
    (haccept : s.step serde (.receive c bytes) = some (s.accept c conn bytes recipient payload))
    (h' : TransitionSystem.Reaches (step serde) TransitionSystem.anyAction
      (s.accept c conn bytes recipient payload) s') :
  s'.Transports s.nextTag recipient payload
  := by
  have hs := wellformed_of_reaches h h₀.wellformed
  have htags := tagsGiven_of_reaches h₀ h
  have hstep := step_of_step haccept
  have htransports : s.nextTag < s'.nextTag ∧ s'.Transports s.nextTag recipient payload := by
    apply invariant_of_reaches (I := fun t => s.nextTag < t.nextTag
      ∧ t.Transports s.nextTag recipient payload) _ h' (hstep.wellformed hs)
    · use Nat.lt_succ_self _
      apply transports_accept htags hc hstep
    · rintro t a t' - hstep ht ⟨hlt, htransports⟩
      use hlt.trans_le hstep.nextTag_le
      apply hstep.transports ht hlt htransports
  apply htransports.2

/-! ### Payloads that were received -/

/-- The payload is the encoded envelope of a message routed to `recipient`, a valid name,
that was received on a connection of the user it is routed from. -/
def Genuine (serde : JsonCodec) (s : Relay) (recipient : String) (payload : Bytes) : Prop :=
  ∃ received ∈ s.received, ∃ conn routed, s.connections[received.1]? = some conn
    ∧ RoutedEncryptedMessage.fromWireBytes serde received.2 = .ok routed
    ∧ routed.from = conn.username ∧ routed.to = recipient ∧ isValidUsername recipient
    ∧ routed.encrypted.toWireBytes serde = .ok payload

/-- A frame that was received stays received. -/
theorem Step.received (h : Step serde s a s') :
  ∀ received ∈ s.received, received ∈ s'.received
  := by
  intro received hreceived
  cases h with
  | accept | refuse => apply List.mem_append_left _ hreceived
  | _ => apply hreceived

/-- A payload that is genuine stays genuine. -/
theorem Step.genuine
    (h : Step serde s a s') {recipient : String} {payload : Bytes}
    (hgenuine : s.Genuine serde recipient payload) :
  s'.Genuine serde recipient payload
  := by
  obtain ⟨received, hreceived, conn, routed, hc, hrouted, hfrom, hrest⟩ := hgenuine
  obtain ⟨conn', hc', hconn⟩ := h.later _ conn hc
  use received, h.received received hreceived, conn', routed, hc', hrouted
  rw [hconn.username]
  apply And.intro hfrom hrest

/-- A payload that a step accepts is genuine. -/
theorem Step.genuine_of_accepted
    {c : ℕ} {bytes : Bytes} (h : Step serde s (.receive c bytes) s') {conn : Connection}
    (hc : s.connections[c]? = some conn) {recipient : String} {payload : Bytes}
    (hcheck : checkPayload serde conn.username bytes = .ok (.accepted recipient payload)) :
  s'.Genuine serde recipient payload
  := by
  obtain ⟨routed, hrouted, hencrypted, hfrom, hto, hname⟩ := checkPayload_accepted.mp hcheck
  obtain ⟨conn', hc', hconn⟩ := h.later c conn hc
  use (c, bytes)
  constructor
  · cases h <;> simp [Relay.accept, Relay.refuse]
  · use conn', routed, hc', hrouted
    rw [hconn.username]
    use hfrom, hto, hname, hencrypted

/-- Every message that the relay delivers has a genuine payload. -/
def AllGenuine (serde : JsonCodec) (s : Relay) : Prop :=
  s.Routed fun recipient message => s.Genuine serde recipient message.payload

/-- A step delivers genuine payloads only. -/
theorem Step.allGenuine
    (hstep : Step serde s a s') (hs : s.Wellformed) (h : s.AllGenuine serde) :
  s'.AllGenuine serde
  := by
  apply hstep.routed hs (h.mono fun _ _ => hstep.genuine)
  rintro c bytes conn recipient payload rfl hc hcheck
  apply hstep.genuine_of_accepted hc hcheck

/-- In every state reached from an empty queue, every payload queued for a user, or ever
put on a channel of a connection of a user, is genuine for that user; so is what is written to the
socket, since that was put on the channel (`putsInOrder_of_reaches`). -/
theorem routed_of_reaches
    (h₀ : s₀.Initial) (hempty : s₀.queuedMessages.rows = [])
    (h : TransitionSystem.Reaches (step serde) TransitionSystem.anyAction s₀ s) :
  (∀ row ∈ s.queuedMessages.rows, s.Genuine serde row.recipient row.message.payload)
  ∧ (∀ put ∈ s.puts, ∃ conn, s.connections[put.1]? = some conn
    ∧ s.Genuine serde conn.username put.2.payload)
  := by
  have h₀' : s₀.AllGenuine serde := by
    constructor <;> simp [hempty, h₀.puts, h₀.connections]
  have hgenuine : s.AllGenuine serde := by
    apply invariant_of_reaches (I := AllGenuine serde) _ h h₀.wellformed h₀'
    rintro t a t' - hstep ht hgenuine
    apply hstep.allGenuine ht hgenuine
  use hgenuine.rows, hgenuine.puts

/-- The message of `sampleRouted` on its way through the queue to the channel. -/
theorem routed_of_reaches_sample :
  ∃ s, after (queueSample ++ drainSample) = some s ∧ s.puts = [(1, sampleMessage)]
    ∧ (∀ row ∈ s.queuedMessages.rows, s.Genuine sampleCodec row.recipient row.message.payload)
    ∧ (∀ put ∈ s.puts, ∃ conn, s.connections[put.1]? = some conn
      ∧ s.Genuine sampleCodec conn.username put.2.payload)
  := by
  have hrun : (after (queueSample ++ drainSample)).isSome := by
    decide +kernel
  have hputs : ∀ t ∈ after (queueSample ++ drainSample), t.puts = [(1, sampleMessage)] := by
    decide +kernel
  obtain ⟨s, hs⟩ := Option.isSome_iff_exists.mp hrun
  use s, hs, hputs s hs
  apply routed_of_reaches initial_start rfl
  apply TransitionSystem.reaches_any_of_run hs

end Relay

end Phantasma
