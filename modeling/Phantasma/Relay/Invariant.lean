import Phantasma.Relay.Step

/-!
# The invariant of the relay

A step never takes back what a connection is and has done (`Relay.Step.later`).  In every
reachable state (`Relay.wellformed_of_reaches`) the entries of `active_clients`, and the
clones of them that the receiving tasks hold, lead to the channel of a connection of that
user which has registered; the tasks of a connection do not run before its queued messages
are delivered; and the rows such a delivery still holds are rows of its own user that no
other row of the table can be mistaken for.  `Relay.invariant_of_reaches` is the induction
rule for what steps preserve in such states.
-/

namespace Phantasma

/-! ### What a step keeps of a connection -/

/-- `conn.Later conn'`: the connection `conn` can have become `conn'`. -/
structure Connection.Later (conn conn' : Connection) : Prop where
  username : conn'.username = conn.username
  connectionId : conn'.connectionId = conn.connectionId
  registered : conn.phase ≠ .opened → conn'.phase ≠ .opened
  written : ∀ message ∈ conn.written, message ∈ conn'.written

theorem Connection.Later.refl (conn : Connection) :
  conn.Later conn
  where
  username := rfl
  connectionId := rfl
  registered := id
  written _ := id

theorem Connection.Later.trans
    {conn conn' conn'' : Connection} (h : conn.Later conn') (h' : conn'.Later conn'') :
  conn.Later conn''
  where
  username := h'.username.trans h.username
  connectionId := h'.connectionId.trans h.connectionId
  registered := h'.registered ∘ h.registered
  written message := h'.written message ∘ h.written message

/-- A step of a connection takes it to a later one. -/
theorem Connection.Step.later
    {conn conn' : Connection} {a : TaskAction} (h : conn.Step a conn') :
  conn.Later conn'
  := by
  cases h with
  | write =>
      constructor
      case written =>
        intro message hmessage
        apply List.mem_append_left _ hmessage
      all_goals simp
  | _ => constructor <;> simp [Connection.endSend, *]

namespace Relay

variable {serde : JsonCodec} {s s' s'' : Relay} {a : Action}

/-- `s.Along R s'`: every connection of `s` is in `s'`, as one it is related to by `R`. -/
def Along (R : Connection → Connection → Prop) (s s' : Relay) : Prop :=
  ∀ (d : ℕ) (conn : Connection), s.connections[d]? = some conn →
    ∃ conn', s'.connections[d]? = some conn' ∧ R conn conn'

/-- Along a transitive relation the steps of a run compose. -/
theorem along_trans
    {R : Connection → Connection → Prop}
    (htrans : ∀ conn conn' conn'', R conn conn' → R conn' conn'' → R conn conn'')
    (h : Along R s s') (h' : Along R s' s'') :
  Along R s s''
  := by
  intro d conn hd
  obtain ⟨conn', hd', hR⟩ := h d conn hd
  obtain ⟨conn'', hd'', hR'⟩ := h' d conn' hd'
  use conn'', hd'', htrans _ _ _ hR hR'

section Along

variable {R : Connection → Connection → Prop} (hrefl : ∀ conn, R conn conn)
include hrefl

theorem along_setConnection
    {c : ℕ} {conn conn' : Connection} (hc : s.connections[c]? = some conn)
    (hR : R conn conn') :
  Along R s (s.setConnection c conn')
  := by
  intro d x hd
  rw [getElem?_setConnection hc]
  split
  · subst c
    obtain rfl := Option.some.inj (hc.symm.trans hd)
    use conn'
  · use x, hd, hrefl x

theorem along_push
    (hpush : ∀ conn message, R conn (conn.push message)) (c : ℕ) (message : Message) :
  Along R s (s.push c message)
  := by
  intro d x hd
  rw [getElem?_push, hd]
  split
  · use x.push message, rfl, hpush x message
  · use x, rfl, hrefl x

theorem along_connect (username : String) :
  Along R s (s.connect username)
  := by
  intro d x hd
  use x
  constructor
  · apply (List.getElem?_append_left _).trans hd
    apply (List.getElem?_eq_some_iff.mp hd).1
  · apply hrefl

/-- A step takes every connection along `R`, when a step within a connection does, and
putting a message on its channel does, and moving `handle_socket` and the receiving task
to other points does. -/
theorem Step.along
    (htrans : ∀ conn conn' conn'', R conn conn' → R conn' conn'' → R conn conn'')
    (hpush : ∀ conn message, R conn (conn.push message))
    (hmove : ∀ conn phase task, (conn.phase ≠ .opened → phase ≠ .opened) →
      R conn { conn with phase := phase, receiveTask := task })
    (htask : ∀ c a' conn conn', a = .task c a' → s.connections[c]? = some conn →
      conn.Step a' conn' → R conn conn')
    (h : Step serde s a s') :
  Along R s s'
  := by
  cases h with
  | connect => apply along_connect hrefl
  | task hc hstep => apply along_setConnection hrefl hc (htask _ _ _ _ rfl hc hstep)
  | sendQueued hc | forward hc =>
      apply along_trans htrans _ (along_push hrefl hpush _ _)
      apply along_setConnection hrefl hc (hmove _ _ _ (by simp))
  | refuse =>
      intro d conn hd
      use conn, hd, hrefl conn
  | register hc | loadQueue hc | breakQueued hc | deleteQueued hc | accept hc | lookUp hc
  | fallBack hc | enqueue hc | cleanUp hc =>
      apply along_setConnection hrefl hc (hmove _ _ _ (by simp))

end Along

/-- A step takes every connection to a later one. -/
theorem Step.later (h : Step serde s a s') :
  Along Connection.Later s s'
  := by
  apply h.along Connection.Later.refl (fun _ _ _ => Connection.Later.trans)
  · intro conn message
    constructor <;> simp [Connection.push]
  · intro conn phase task hphase
    constructor
    case registered => apply hphase
    all_goals simp
  · intro c a' conn conn' _ _ hstep
    apply hstep.later

/-- No connection is forgotten. -/
theorem Step.length_le (h : Step serde s a s') :
  s.connections.length ≤ s'.connections.length
  := by
  by_contra hlt
  obtain ⟨conn', hconn', -⟩ := h.later _ _ (List.getElem?_eq_getElem (Nat.lt_of_not_le hlt))
  simp at hconn'

/-! ### Entries of the active clients -/

/-- The entry `client` under `username` was made by a connection of that user. -/
def Backed (s : Relay) (username : String) (client : ActiveClient) : Prop :=
  ∃ conn, s.connections[client.sender]? = some conn ∧ conn.username = username
    ∧ conn.connectionId = client.connectionId ∧ conn.phase ≠ .opened

theorem Backed.later
    {username : String} {client : ActiveClient} (h : s.Backed username client)
    (hlater : Along Connection.Later s s') :
  s'.Backed username client
  := by
  obtain ⟨conn, hc, husername, hid, hphase⟩ := h
  obtain ⟨conn', hc', hconn⟩ := hlater _ conn hc
  use conn', hc', hconn.username.trans husername, hconn.connectionId.trans hid
  apply hconn.registered hphase

/-! ### Connections and the table -/

end Relay

/-- What holds of a connection next to the table of queued messages: its tasks do not run
before the queued messages are delivered, the rows it has loaded are of its own user and
each is the only row of the table that can have its id, and the message of the row it is
deleting is on its channel. -/
structure Connection.Fits (table : QueuedMessages) (conn : Connection) : Prop where
  unspawned : conn.phase.hasSpawned = false →
    conn.sendTask = .unspawned ∧ conn.receiveTask = .unspawned
  loaded : ∀ row ∈ conn.phase.rows, row.recipient = conn.username ∧ row.id ≤ table.lastId
    ∧ ∀ row' ∈ table.rows, row'.id = row.id → row' = row
  sent : ∀ row rest, conn.phase = .deleting row rest → row.message ∈ conn.outbound

namespace Connection

variable {table : QueuedMessages} {conn conn' : Connection}

theorem fits_new (username : String) (connectionId : UInt64) :
  (Connection.new username connectionId).Fits table
  := by
  constructor <;> simp [new, Phase.rows]

/-- A connection whose tasks are spawned fits every table. -/
theorem fits_of_hasSpawned (hphase : conn.phase.hasSpawned) :
  conn.Fits table
  := by
  constructor
  · simp [hphase]
  all_goals
    cases h : conn.phase <;> simp_all [Phase.hasSpawned, Phase.rows]

/-- A connection one of whose tasks runs has spawned its tasks. -/
theorem Fits.hasSpawned
    (h : conn.Fits table) (htask : conn.sendTask ≠ .unspawned ∨ conn.receiveTask ≠ .unspawned) :
  conn.phase.hasSpawned
  := by
  by_contra hphase
  obtain ⟨hsend, hreceive⟩ := h.unspawned (Bool.eq_false_of_not_eq_true hphase)
  rcases htask with hne | hne
  · apply hne hsend
  · apply hne hreceive

/-- The channel of a connection is open until its tasks are spawned. -/
theorem Fits.isOpen (h : conn.Fits table) (hphase : conn.phase.hasSpawned = false) :
  conn.isOpen
  := by
  simp [Connection.isOpen, (h.unspawned hphase).1]

theorem Fits.queueMessage
    (h : conn.Fits table) (recipient : String) (message : Message) :
  conn.Fits (table.queueMessage recipient message)
  where
  unspawned := h.unspawned
  sent := h.sent
  loaded row hrow := by
    obtain ⟨hrecipient, hbound, honly⟩ := h.loaded row hrow
    and_intros
    · apply hrecipient
    · simp only [QueuedMessages.lastId_queueMessage]
      omega
    · intro row' hrow' hid
      rcases (QueuedMessages.mem_queueMessage ..).mp hrow' with hold | rfl
      · apply honly row' hold hid
      · simp only at hid
        omega

theorem Fits.deleteQueuedMessage (h : conn.Fits table) (id : ℕ) :
  conn.Fits (table.deleteQueuedMessage id)
  where
  unspawned := h.unspawned
  sent := h.sent
  loaded row hrow := by
    obtain ⟨hrecipient, hbound, honly⟩ := h.loaded row hrow
    use hrecipient, hbound
    intro row' hrow'
    apply honly row' ((QueuedMessages.mem_deleteQueuedMessage ..).mp hrow').1

theorem Fits.push (h : conn.Fits table) (message : Message) :
  (conn.push message).Fits table
  where
  unspawned := h.unspawned
  loaded := h.loaded
  sent row rest hphase := List.mem_append_left _ (h.sent row rest hphase)

/-- The rows selected for the user of a connection fit it. -/
theorem Fits.load
    (h : conn.Fits table) (hphase : conn.phase = .registered) :
  Fits table { conn with phase := .draining (table.queuedMessagesFor conn.username) }
  where
  unspawned _ := h.unspawned (by simp [hphase, Phase.hasSpawned])
  sent := by simp
  loaded row hrow := by
    obtain ⟨hmem, hrecipient⟩ := (QueuedMessages.mem_queuedMessagesFor ..).mp hrow
    use hrecipient, table.bounded row hmem
    intro row' hrow' hid
    apply table.eq_of_id_eq hrow' hmem hid

/-- The head of the loaded rows is put on the channel before it is deleted. -/
theorem Fits.sendQueued
    {row : QueuedMessage} {rest : List QueuedMessage} (h : conn.Fits table)
    (hphase : conn.phase = .draining (row :: rest)) :
  (Connection.push { conn with phase := .deleting row rest } row.message).Fits table
  where
  unspawned _ := h.unspawned (by simp [hphase, Phase.hasSpawned])
  sent := by simp [Connection.push]
  loaded row' hrow' := h.loaded row' (by rw [hphase]; exact hrow')

/-- A row is deleted from the rows of the connection along with the table. -/
theorem Fits.deleteQueued
    {row : QueuedMessage} {rest : List QueuedMessage} (h : conn.Fits table)
    (hphase : conn.phase = .deleting row rest) :
  Fits table { conn with phase := .draining rest }
  where
  unspawned _ := h.unspawned (by simp [hphase, Phase.hasSpawned])
  sent := by simp
  loaded row' hrow' := h.loaded row' (by rw [hphase]; exact List.mem_cons_of_mem _ hrow')

/-- A connection whose tasks are not spawned fits the table in every phase without
rows. -/
theorem Fits.setPhase
    {phase : Phase} (h : conn.Fits table) (hphase : conn.phase.hasSpawned = false)
    (hrows : phase.rows = []) :
  Fits table { conn with phase := phase }
  where
  unspawned _ := h.unspawned hphase
  loaded := by simp [hrows]
  sent row rest heq := by simp [show phase = _ from heq, Phase.rows] at hrows

/-- A step of a connection keeps it fit. -/
theorem Step.fits
    {a : TaskAction} (hstep : conn.Step a conn') (h : conn.Fits table) :
  conn'.Fits table
  := by
  cases hstep with
  | failLoad hphase | failDelete hphase =>
      apply h.setPhase _ rfl
      simp [hphase, Phase.hasSpawned]
  | ignoreFrame => apply h
  | spawnTasks | selectSend | selectReceive =>
      apply fits_of_hasSpawned
      rfl
  | takeOutbound hsend | write hsend | failWrite hsend =>
      apply fits_of_hasSpawned
      apply h.hasSpawned
      simp [hsend]
  | endReceive hreceive | failEnqueue hreceive =>
      apply fits_of_hasSpawned
      apply h.hasSpawned
      simp [hreceive]
  | dropSend haborted hawait | dropReceive haborted hawait =>
      apply fits_of_hasSpawned
      apply h.hasSpawned
      by_contra hunspawned
      simp_all [SendTask.isAwaiting, ReceiveTask.isAwaiting]

/-- A step of a connection does not look up a recipient. -/
theorem Step.routing
    {a : TaskAction} (hstep : conn.Step a conn') {recipient : String} {message : Message}
    {client : Option ActiveClient}
    (hreceive : conn'.receiveTask = .routing recipient message client) :
  conn.receiveTask = .routing recipient message client
  := by
  cases hstep <;> simp_all [endSend]

end Connection

namespace Relay

variable {serde : JsonCodec} {s s' : Relay} {a : Action}

/-! ### The invariant -/

/-- What holds of every connection of `s` at its position holds of every connection after
one of them was replaced, when it holds of the new one. -/
theorem forall_setConnection
    {P : ℕ → Connection → Prop} {c : ℕ} {conn conn' : Connection}
    (hc : s.connections[c]? = some conn)
    (hP : ∀ (d : ℕ) (x : Connection), s.connections[d]? = some x → P d x)
    (hconn : P c conn') :
  ∀ (d : ℕ) (x : Connection), (s.setConnection c conn').connections[d]? = some x → P d x
  := by
  intro d x hd
  rw [getElem?_setConnection hc] at hd
  split at hd
  · subst d
    obtain rfl := Option.some.inj hd
    apply hconn
  · apply hP d x hd

/-- What holds of every connection of `s` at its position and is kept when a message is put
on its channel holds of every connection after a message was put on a channel. -/
theorem forall_push
    {P : ℕ → Connection → Prop} (c : ℕ) (message : Message)
    (hP : ∀ (d : ℕ) (x : Connection), s.connections[d]? = some x → P d x)
    (hpush : ∀ d x, P d x → P d (x.push message)) :
  ∀ (d : ℕ) (x : Connection), (s.push c message).connections[d]? = some x → P d x
  := by
  intro d x hd
  rw [getElem?_push] at hd
  split at hd
  · obtain ⟨y, hy, rfl⟩ := Option.map_eq_some_iff.mp hd
    apply hpush d y (hP d y hy)
  · apply hP d x hd

/-- What holds of every connection of `s` at its position holds of every connection after
another one was opened, when it holds of the new one. -/
theorem forall_connect
    {P : ℕ → Connection → Prop} (username : String)
    (hP : ∀ (d : ℕ) (x : Connection), s.connections[d]? = some x → P d x)
    (hnew : P s.connections.length (.new username s.nextConnectionId)) :
  ∀ (d : ℕ) (x : Connection), (s.connect username).connections[d]? = some x → P d x
  := by
  intro d x hd
  simp only [connect, List.getElem?_append, List.getElem?_singleton] at hd
  split at hd
  · apply hP d x hd
  · obtain ⟨hzero, ⟨⟩⟩ := Option.ite_none_right_eq_some.mp hd
    obtain rfl : d = s.connections.length := by omega
    apply hnew

/-- Every entry is backed, every clone of an entry that a receiving task holds is backed,
and every connection fits the table. -/
structure Wellformed (s : Relay) : Prop where
  entry : ∀ (username : String) (client : ActiveClient),
    s.activeClients[username]? = some client → s.Backed username client
  routing : ∀ (c : ℕ) (conn : Connection), s.connections[c]? = some conn →
    ∀ recipient message client, conn.receiveTask = .routing recipient message (some client) →
      s.Backed recipient client
  fits : ∀ (c : ℕ) (conn : Connection), s.connections[c]? = some conn →
    conn.Fits s.queuedMessages

theorem Initial.wellformed (h : s.Initial) :
  s.Wellformed
  where
  entry := by simp [h.activeClients]
  routing := by simp [h.connections]
  fits := by simp [h.connections]

/-- After a step every entry is backed. -/
theorem Step.entry (hs : s.Wellformed) (h : Step serde s a s') :
  ∀ (username : String) (client : ActiveClient),
    s'.activeClients[username]? = some client → s'.Backed username client
  := by
  intro username client hclient
  have hold : s.activeClients[username]? = some client → s'.Backed username client :=
    fun hclient => (hs.entry username client hclient).later h.later
  cases h with
  | @register c conn hc hphase =>
      simp only [Relay.register, Std.ExtTreeMap.getElem?_insert] at hclient
      split at hclient
      · rename_i heq
        obtain rfl := Std.LawfulEqCmp.eq_of_compare heq
        obtain rfl := Option.some.inj hclient
        use { conn with phase := .registered }
        simp [Relay.register, getElem?_setConnection hc]
      · apply hold hclient
  | @cleanUp c conn hc hphase =>
      apply hold
      simp only [Relay.cleanUp] at hclient
      split at hclient
      · rw [Std.ExtTreeMap.getElem?_erase] at hclient
        split at hclient
        · cases hclient
        · apply hclient
      · apply hclient
  | _ => apply hold hclient

/-- After a step every clone of an entry is backed. -/
theorem Step.routing (hs : s.Wellformed) (h : Step serde s a s') :
  ∀ (c : ℕ) (conn : Connection), s'.connections[c]? = some conn →
    ∀ recipient message client, conn.receiveTask = .routing recipient message (some client) →
      s'.Backed recipient client
  := by
  have hold : ∀ (c : ℕ) (conn : Connection), s.connections[c]? = some conn →
      ∀ recipient message client, conn.receiveTask = .routing recipient message (some client) →
        s'.Backed recipient client := by
    intro c conn hc recipient message client hreceive
    apply (hs.routing c conn hc recipient message client hreceive).later h.later
  cases h with
  | connect =>
      apply forall_connect _ hold
      simp [Connection.new]
  | task hc hstep =>
      apply forall_setConnection hc hold
      intro recipient message client hreceive
      apply hold _ _ hc recipient message client
      apply hstep.routing hreceive
  | @lookUp c conn recipient message hc hreceive =>
      apply forall_setConnection hc hold
      intro _ _ client hrouting
      simp only [ReceiveTask.routing.injEq] at hrouting
      obtain ⟨rfl, -, hclient⟩ := hrouting
      apply (hs.entry recipient client hclient).later
      apply along_setConnection Connection.Later.refl hc
      constructor <;> simp
  | sendQueued hc =>
      apply forall_push
      · apply forall_setConnection hc hold
        apply hold _ _ hc
      · intro d x hx
        apply hx
  | forward hc =>
      apply forall_push
      · apply forall_setConnection hc hold
        simp
      · intro d x hx
        apply hx
  | refuse => apply hold
  | register hc | loadQueue hc | breakQueued hc | deleteQueued hc | cleanUp hc =>
      apply forall_setConnection hc hold
      apply hold _ _ hc
  | accept hc | fallBack hc | enqueue hc =>
      apply forall_setConnection hc hold
      simp

/-- After a step every connection fits the table. -/
theorem Step.fits (hs : s.Wellformed) (h : Step serde s a s') :
  ∀ (c : ℕ) (conn : Connection), s'.connections[c]? = some conn →
    conn.Fits s'.queuedMessages
  := by
  cases h with
  | connect =>
      apply forall_connect _ hs.fits
      apply Connection.fits_new
  | task hc hstep =>
      apply forall_setConnection hc hs.fits
      apply hstep.fits (hs.fits _ _ hc)
  | sendQueued hc hphase =>
      rw [push_setConnection hc]
      apply forall_setConnection hc hs.fits
      apply (hs.fits _ _ hc).sendQueued hphase
  | forward hc hreceive hopen =>
      apply forall_push (P := fun _ => Connection.Fits _)
      · apply forall_setConnection hc hs.fits
        apply Connection.fits_of_hasSpawned
        apply (hs.fits _ _ hc).hasSpawned
        simp [hreceive]
      · intro d x hx
        apply hx.push
  | loadQueue hc hphase =>
      apply forall_setConnection hc hs.fits
      apply (hs.fits _ _ hc).load hphase
  | deleteQueued hc hphase =>
      apply forall_setConnection (P := fun _ => Connection.Fits _) hc
      · intro d x hd
        apply (hs.fits d x hd).deleteQueuedMessage
      · apply ((hs.fits _ _ hc).deleteQueued hphase).deleteQueuedMessage
  | enqueue hc hreceive =>
      apply forall_setConnection (P := fun _ => Connection.Fits _) hc
      · intro d x hd
        apply (hs.fits d x hd).queueMessage
      · apply Connection.fits_of_hasSpawned
        apply (hs.fits _ _ hc).hasSpawned
        simp [hreceive]
  | refuse => apply hs.fits
  | accept hc hreceive | lookUp hc hreceive | fallBack hc hreceive =>
      apply forall_setConnection hc hs.fits
      apply Connection.fits_of_hasSpawned
      apply (hs.fits _ _ hc).hasSpawned
      simp [hreceive]
  | cleanUp hc =>
      apply forall_setConnection hc hs.fits
      apply Connection.fits_of_hasSpawned
      rfl
  | register hc hphase | breakQueued hc hphase =>
      apply forall_setConnection hc hs.fits
      apply (hs.fits _ _ hc).setPhase _ rfl
      simp [hphase, Phase.hasSpawned]

/-- A step keeps the invariant. -/
theorem Step.wellformed (hs : s.Wellformed) (h : Step serde s a s') :
  s'.Wellformed
  where
  entry := h.entry hs
  routing := h.routing hs
  fits := h.fits hs

/-- The invariant holds in every state that is reached from one in which it holds. -/
theorem wellformed_of_reaches
    {guard : Relay → Action → Prop} (h : TransitionSystem.Reaches (step serde) guard s s')
    (hs : s.Wellformed) :
  s'.Wellformed
  := by
  apply h.invariant _ hs
  intro t a t' _ hstep ht
  apply (step_of_step hstep).wellformed ht

/-- What the guarded steps preserve in well-formed states holds in every state that is
reached from a well-formed state in which it holds. -/
theorem invariant_of_reaches
    {guard : Relay → Action → Prop} {I : Relay → Prop}
    (hI : ∀ t a t', guard t a → Step serde t a t' → t.Wellformed → I t → I t')
    (h : TransitionSystem.Reaches (step serde) guard s s') (hs : s.Wellformed) (hs' : I s) :
  I s'
  := by
  have hboth : s'.Wellformed ∧ I s' := by
    apply h.invariant (I := fun t => t.Wellformed ∧ I t) _ (And.intro hs hs')
    rintro t a t' hguard hstep ⟨ht, ht'⟩
    have hstep' := step_of_step hstep
    apply And.intro (hstep'.wellformed ht) (hI t a t' hguard hstep' ht ht')
  apply hboth.2

end Relay

end Phantasma
