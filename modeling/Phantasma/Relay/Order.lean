import Phantasma.Base.Lines
import Phantasma.Relay.Routing

/-!
# The order of the messages of a sender

The messages that one connection accepts for one recipient reach a connection of the
recipient in two ways: through rows of the table, in the order of their ids, and live.
`Ledger` records what is accepted, and which messages are put live on a channel that has
still to be given a queued one.  This happens while a connection has its entry and has not
been sent its queued messages.  In every run, of two messages of one sender for one
recipient the one that was accepted first is put first on every channel that both are put
on, unless the other one has overtaken it in this way, and then it is put last
(`Relay.putsBefore_iff_of_reaches`).
-/

namespace Phantasma

/-- A payload that `handle_encrypted_payload` has accepted on the connection `sender`. -/
structure Acceptance where
  sender : ℕ
  recipient : String
  message : Message
deriving DecidableEq

/-- What has happened in a run, the oldest first: the payloads that were accepted, and the
live messages that were put on a channel while a row was still to be put on it. -/
structure Ledger where
  accepted : List Acceptance
  overtakings : List (Lines.Overtaking ℕ Message)
deriving DecidableEq

namespace Ledger

/-- Nothing has happened yet. -/
def empty : Ledger := ⟨[], []⟩

/-- The message `m` was accepted before `m'`, on one connection and for one recipient. -/
def Before (ledger : Ledger) (m m' : Message) : Prop :=
  ∃ x y, [x, y].Sublist ledger.accepted ∧ x.sender = y.sender ∧ x.recipient = y.recipient
    ∧ x.message = m ∧ y.message = m'

variable {ledger : Ledger} {x : Acceptance} {m m' : Message}

/-- When a payload is accepted, what was accepted before is before it. -/
theorem Before.of_append
    (h : ({ ledger with accepted := ledger.accepted ++ [x] } : Ledger).Before m m') :
  ledger.Before m m' ∨ m' = x.message
    ∧ ∃ w ∈ ledger.accepted, w.sender = x.sender ∧ w.message = m
  := by
  obtain ⟨w, z, hsub, hsender, hrecipient, hw, hz⟩ := h
  obtain ⟨front, back, hpair, hfront, hback⟩ := List.sublist_append_iff.mp hsub
  rcases List.sublist_singleton.mp hback with rfl | rfl
  · left
    rw [List.append_nil] at hpair
    use w, z, hpair ▸ hfront
  · right
    obtain ⟨rfl, ⟨⟩⟩ := List.append_inj' (show [w] ++ [z] = front ++ [x] from hpair) rfl
    use hz.symm, w, hfront.subset List.mem_cons_self, hsender, hw

/-- What is before a message was accepted before the last payload. -/
theorem Before.mem_of_append
    (h : ({ ledger with accepted := ledger.accepted ++ [x] } : Ledger).Before m m') :
  ∃ w ∈ ledger.accepted, w.message = m
  := by
  rcases h.of_append with ⟨w, z, hsub, -, -, hw, -⟩ | ⟨-, w, hw, -, heq⟩
  · use w, hsub.subset List.mem_cons_self, hw
  · use w, hw, heq

end Ledger

/-- The rows that `deliver_queued_messages` has still to put on the channel of the
connection.  Before it has loaded them, they are the rows of its user. -/
def Connection.awaiting (table : QueuedMessages) (conn : Connection) : List QueuedMessage :=
  match conn.phase with
  | .opened | .registered => table.queuedMessagesFor conn.username
  | .draining rows => rows
  | .deleting _ rest => rest
  | _ => []

theorem Connection.awaiting_deleteQueuedMessage
    (conn : Connection) (table : QueuedMessages) (id : ℕ) :
  (conn.awaiting (table.deleteQueuedMessage id)).Sublist (conn.awaiting table)
  := by
  unfold awaiting
  split
  · apply List.Sublist.filter
    apply List.filter_sublist
  · apply List.Sublist.filter
    apply List.filter_sublist
  all_goals apply List.Sublist.refl

/-- A message is queued; a connection of the recipient that has not loaded its rows awaits
it. -/
theorem Connection.awaiting_queueMessage
    (conn : Connection) (table : QueuedMessages) (recipient : String) (message : Message) :
  conn.awaiting (table.queueMessage recipient message) = conn.awaiting table
    ∨ conn.awaiting (table.queueMessage recipient message)
      = conn.awaiting table ++ [⟨table.lastId + 1, recipient, message⟩]
  := by
  unfold awaiting
  split
  · apply table.queuedMessagesFor_queueMessage
  · apply table.queuedMessagesFor_queueMessage
  all_goals
    left
    rfl

theorem Connection.mem_awaiting
    (conn : Connection) {table : QueuedMessages} {row : QueuedMessage}
    (h : row ∈ conn.awaiting table) :
  row ∈ table.rows ∨ row ∈ conn.phase.rows
  := by
  unfold awaiting at h
  split at h
  · left
    apply List.mem_of_mem_filter h
  · left
    apply List.mem_of_mem_filter h
  · right
    simp [*, Phase.rows]
  · right
    simp [*, Phase.rows]
  · cases h

/-- After a step of a connection no more is to be put on its channel, and it handles no other
message. -/
theorem Connection.Step.awaiting
    {conn conn' : Connection} {a : TaskAction} (hstep : conn.Step a conn')
    (table : QueuedMessages) :
  (conn'.awaiting table).Sublist (conn.awaiting table)
    ∧ ∀ handled, conn'.receiveTask.handled = some handled →
      conn.receiveTask.handled = some handled
  := by
  cases hstep <;> simp [Connection.awaiting, endSend, ReceiveTask.handled, *]

namespace Relay

variable {serde : JsonCodec} {s s' s₀ : Relay} {a : Action} {ledger : Ledger}

/-- The rows that are still to be put on the channel of the connection `d`. -/
def awaiting (s : Relay) (d : ℕ) : List QueuedMessage :=
  (s.connections[d]?.map fun conn => conn.awaiting s.queuedMessages).getD []

/-- The message that the connection `c` handles. -/
def hand (s : Relay) (c : ℕ) : Option Message :=
  s.connections[c]?.bind fun conn => conn.receiveTask.handled.map Prod.snd

/-- The payload that the connection `c` accepts in a frame. -/
def accepts (serde : JsonCodec) (s : Relay) (c : ℕ) (bytes : Bytes) : List Acceptance :=
  match s.connections[c]?.map fun conn => checkPayload serde conn.username bytes with
  | some (.ok (.accepted recipient payload)) => [⟨c, recipient, ⟨s.nextTag, payload⟩⟩]
  | _ => []

/-- What the message that the connection `c` puts on a channel overtakes there. -/
def overtakes (s : Relay) (c : ℕ) : List (Lines.Overtaking ℕ Message) :=
  match s.connections[c]?.map Connection.receiveTask with
  | some (.routing _ message (some client)) =>
      if s.isOpen client.sender then
        (s.awaiting client.sender).map fun row => ⟨client.sender, message, row.message⟩
      else []
  | _ => []

/-- The ledger after the step from `s` by `a`. -/
def recordOrder (serde : JsonCodec) (s : Relay) (a : Action) (_ : Relay) (ledger : Ledger) :
    Ledger :=
  match a with
  | .receive c bytes => { ledger with accepted := ledger.accepted ++ s.accepts serde c bytes }
  | .forward c => { ledger with overtakings := ledger.overtakings ++ s.overtakes c }
  | _ => ledger

/-- On the channel of `d`, `m` is put before `m'`. -/
def PutsBefore (s : Relay) (d : ℕ) (m m' : Message) : Prop :=
  ∀ i j : ℕ, s.puts[i]? = some (d, m) → s.puts[j]? = some (d, m') → i < j

/-! ### The lines -/

/-- The messages that are in the table. -/
def queue (s : Relay) : List Message :=
  s.queuedMessages.rows.map QueuedMessage.message

/-- The messages that were put on the channel of the connection `d`. -/
def putOn (puts : List (ℕ × Message)) (d : ℕ) : List Message :=
  (puts.filter fun put => put.1 = d).map Prod.snd

/-- The messages that were put on the channel of `d`, and those of the rows that are still to
be put on it. -/
def line (s : Relay) (d : ℕ) : List Message :=
  putOn s.puts d ++ (s.awaiting d).map QueuedMessage.message

theorem putOn_append_self (puts : List (ℕ × Message)) (d : ℕ) (m : Message) :
  putOn (puts ++ [(d, m)]) d = putOn puts d ++ [m]
  := by
  simp [putOn]

theorem putOn_append_of_ne (puts : List (ℕ × Message)) {c d : ℕ} (hne : d ≠ c) (m : Message) :
  putOn (puts ++ [(c, m)]) d = putOn puts d
  := by
  simp [putOn, hne.symm]

theorem mem_hand {c : ℕ} {m : Message} :
  m ∈ s.hand c ↔ ∃ conn recipient, s.connections[c]? = some conn
    ∧ conn.receiveTask.handled = some (recipient, m)
  := by
  simp [hand, Option.bind_eq_some_iff]

/-- What is read off every connection, after one of them was replaced. -/
theorem read_setConnection
    {β : Type*} (f : Option Connection → β) {c : ℕ} {conn : Connection}
    (hc : s.connections[c]? = some conn) (conn' : Connection) :
  (fun d : ℕ => f (s.setConnection c conn').connections[d]?)
    = Function.update (fun d : ℕ => f s.connections[d]?) c (f (some conn'))
  := by
  funext d
  rw [getElem?_setConnection hc, Function.update_apply]
  by_cases h : c = d
  · rw [if_pos h, if_pos h.symm]
  · rw [if_neg h, if_neg (Ne.symm h)]

/-- What is read off every connection, but not off its channel, after a message was put on a
channel. -/
theorem read_push
    {β : Type*} (f : Option Connection → β)
    (hf : ∀ (conn : Connection) m, f (some (conn.push m)) = f (some conn))
    (c : ℕ) (m : Message) :
  (fun d : ℕ => f (s.push c m).connections[d]?) = fun d : ℕ => f s.connections[d]?
  := by
  funext d
  rw [getElem?_push]
  split
  · cases s.connections[d]? with
    | none => rfl
    | some conn => apply hf
  · rfl

theorem hand_setConnection
    {c : ℕ} {conn : Connection} (hc : s.connections[c]? = some conn) (conn' : Connection) :
  (s.setConnection c conn').hand
    = Function.update s.hand c (conn'.receiveTask.handled.map Prod.snd)
  := read_setConnection
    (fun x => x.bind fun conn => conn.receiveTask.handled.map Prod.snd) hc conn'

theorem hand_push (c : ℕ) (m : Message) :
  (s.push c m).hand = s.hand
  := read_push (fun x => x.bind fun conn => conn.receiveTask.handled.map Prod.snd)
    (fun _ _ => rfl) c m

theorem awaiting_setConnection
    {c : ℕ} {conn : Connection} (hc : s.connections[c]? = some conn) (conn' : Connection) :
  (s.setConnection c conn').awaiting
    = Function.update s.awaiting c (conn'.awaiting s.queuedMessages)
  := read_setConnection
    (fun x => (x.map (Connection.awaiting s.queuedMessages)).getD []) hc conn'

theorem awaiting_push (c : ℕ) (m : Message) :
  (s.push c m).awaiting = s.awaiting
  := read_push (fun x => (x.map (Connection.awaiting s.queuedMessages)).getD [])
    (fun _ _ => rfl) c m

theorem awaiting_of_connection
    {c : ℕ} {conn : Connection} (hc : s.connections[c]? = some conn) :
  s.awaiting c = conn.awaiting s.queuedMessages
  := by
  rw [awaiting, hc]
  rfl

theorem awaiting_withTask
    {c : ℕ} {conn : Connection} (hc : s.connections[c]? = some conn) (task : ReceiveTask) :
  (s.setConnection c { conn with receiveTask := task }).awaiting = s.awaiting
  := by
  have hawait : Connection.awaiting s.queuedMessages { conn with receiveTask := task }
      = s.awaiting c := (awaiting_of_connection hc).symm
  rw [awaiting_setConnection hc, hawait, Function.update_eq_self]

theorem line_withTask
    {c : ℕ} {conn : Connection} (hc : s.connections[c]? = some conn) (task : ReceiveTask) :
  (s.setConnection c { conn with receiveTask := task }).line = s.line
  := by
  funext d
  rw [line, line, awaiting_withTask hc]
  rfl

/-- A line after one connection was replaced by one that awaits no more. -/
theorem line_setConnection
    {c : ℕ} {conn conn' : Connection} (hc : s.connections[c]? = some conn)
    (hawait : (conn'.awaiting s.queuedMessages).Sublist (conn.awaiting s.queuedMessages))
    (d : ℕ) :
  ((s.setConnection c conn').line d).Sublist (s.line d)
  := by
  rw [line, line, awaiting_setConnection hc]
  apply (List.Sublist.refl _).append
  by_cases h : d = c
  · subst d
    rw [Function.update_self, awaiting_of_connection hc]
    apply hawait.map
  · rw [Function.update_of_ne h]

/-! ### The invariant -/

/-- What is accepted has its tag and its sender, and the lines are in order. -/
structure Ordered (s : Relay) (ledger : Ledger) : Prop where
  given : ∀ x ∈ ledger.accepted, x.message.tag < s.nextTag
  distinct : ledger.accepted.Pairwise fun x y => x.message ≠ y.message
  own : ∀ c, ∀ m ∈ s.hand c, ∀ x ∈ ledger.accepted, x.message = m → x.sender = c
  overtakings : ∀ o ∈ ledger.overtakings, o.line < s.connections.length
    ∧ o.ahead.tag < s.nextTag ∧ o.behind.tag < s.nextTag
  inOrder : Lines.InOrder ledger.Before s.queue s.line s.hand ledger.overtakings

theorem Initial.ordered (h : s.Initial) :
  s.Ordered .empty
  := by
  have hline : ∀ d, s.line d = [] := by
    intro d
    simp [line, putOn, awaiting, h.puts, h.connections]
  have hhand : ∀ c, s.hand c = none := by
    intro c
    simp [hand, h.connections]
  constructor
  case inOrder =>
    constructor
    · simp [hhand]
    · simp [hline]
    · apply List.pairwise_map.mpr
      apply (List.pairwise_map.mp h.tags).imp
      intro row row' hne
      constructor
      · intro heq
        apply hne (congrArg Message.tag heq)
      · rintro ⟨x, y, hsub, -⟩
        cases hsub
  all_goals simp [Ledger.empty, hhand]

/-- A step that accepts and puts nothing keeps the order, when the lines, the queue and the
hands of the connections only lose messages. -/
theorem Ordered.mono
    (h : s.Ordered ledger) (hlength : s.connections.length ≤ s'.connections.length)
    (hnext : s'.nextTag = s.nextTag) (hqueue : s'.queue.Sublist s.queue)
    (hline : ∀ d, (s'.line d).Sublist (s.line d)
      ∨ (s'.line d).Sublist s.queue ∧ ∀ o ∈ ledger.overtakings, o.line ≠ d)
    (hhand : ∀ c, ∀ m ∈ s'.hand c, m ∈ s.hand c) :
  s'.Ordered ledger
  where
  given := by
    rw [hnext]
    apply h.given
  distinct := h.distinct
  own c m hm := h.own c m (hhand c m hm)
  overtakings o ho := by
    obtain ⟨hlt, htags⟩ := h.overtakings o ho
    rw [hnext]
    exact ⟨hlt.trans_le hlength, htags⟩
  inOrder := h.inOrder.mono hqueue hline hhand

/-- A step that replaces one connection by one that awaits no more and handles no other
message keeps the order. -/
theorem Ordered.setConnection
    (h : s.Ordered ledger) {c : ℕ} {conn conn' : Connection}
    (hc : s.connections[c]? = some conn)
    (htable : s'.queuedMessages = s.queuedMessages) (hputs : s'.puts = s.puts)
    (hnext : s'.nextTag = s.nextTag)
    (hconnections : s'.connections = (s.setConnection c conn').connections)
    (hawait : (conn'.awaiting s.queuedMessages).Sublist (conn.awaiting s.queuedMessages))
    (hhandled : ∀ handled, conn'.receiveTask.handled = some handled →
      conn.receiveTask.handled = some handled) :
  s'.Ordered ledger
  := by
  have hhand : s'.hand = (s.setConnection c conn').hand := by
    unfold hand
    rw [hconnections]
  have hline : s'.line = (s.setConnection c conn').line := by
    unfold line awaiting
    rw [hconnections, hputs, htable]
    rfl
  apply h.mono
  · rw [hconnections, Relay.setConnection, List.length_set]
  · apply hnext
  · rw [queue, htable, queue]
  · intro d
    left
    rw [hline]
    apply line_setConnection hc hawait
  · intro d m hm
    rw [hhand, hand_setConnection hc, Lines.mem_update] at hm
    rcases hm with ⟨rfl, hm⟩ | ⟨-, hm⟩
    · obtain ⟨handled, hmem, rfl⟩ := Option.mem_map.mp hm
      apply mem_hand.mpr ⟨conn, handled.1, hc, hhandled _ hmem⟩
    · apply hm

theorem getElem?_connect (username : String) (d : ℕ) :
  (s.connect username).connections[d]?
    = if d = s.connections.length then some (.new username s.nextConnectionId)
      else s.connections[d]?
  := by
  simp only [connect, List.getElem?_append, List.getElem?_singleton]
  split
  · rw [if_neg (by omega)]
  · by_cases hd : d = s.connections.length
    · rw [if_pos (by omega), if_pos hd]
    · rw [if_neg (by omega), if_neg hd, List.getElem?_eq_none (by omega)]

/-- Nothing is put on the channel of a connection that is not there. -/
theorem putOn_eq_nil (htags : s.TagsGiven) {d : ℕ} (hd : s.connections.length ≤ d) :
  putOn s.puts d = []
  := by
  simp only [putOn, List.map_eq_nil_iff, List.filter_eq_nil_iff, decide_eq_true_eq]
  rintro put hput rfl
  obtain ⟨conn, hc, -⟩ := htags.puts put hput
  rw [List.getElem?_eq_none hd] at hc
  cases hc

/-- A connection is opened; it awaits the rows of its user. -/
theorem ordered_connect
    (htags : s.TagsGiven) (h : s.Ordered ledger) (username : String) :
  (s.connect username).Ordered ledger
  := by
  apply h.mono
  · simp [connect]
  · rfl
  · apply List.Sublist.refl
  · intro d
    by_cases hd : d = s.connections.length
    · right
      subst d
      have hline : (s.connect username).line s.connections.length
          = (s.queuedMessages.queuedMessagesFor username).map QueuedMessage.message := by
        rw [line, awaiting, getElem?_connect, if_pos rfl]
        apply (congrArg (· ++ _) (putOn_eq_nil htags le_rfl)).trans
        rfl
      constructor
      · rw [hline]
        apply List.Sublist.map
        apply List.filter_sublist
      · intro o ho
        apply (h.overtakings o ho).1.ne
    · left
      rw [line, awaiting, getElem?_connect, if_neg hd]
      apply List.Sublist.refl
  · intro c m hm
    rw [hand, getElem?_connect] at hm
    split at hm
    · cases hm
    · apply hm

/-- The message of the next row is put on the channel, where it was awaited. -/
theorem ordered_sendQueued
    (h : s.Ordered ledger) {c : ℕ} {conn : Connection} {row : QueuedMessage}
    {rest : List QueuedMessage} (hc : s.connections[c]? = some conn)
    (hphase : conn.phase = .draining (row :: rest)) :
  Ordered ((s.setConnection c { conn with phase := .deleting row rest }).push c row.message)
    ledger
  := by
  apply h.mono
  · simp [push, Relay.setConnection]
  · rfl
  · apply List.Sublist.refl
  · intro d
    left
    simp only [line, awaiting_push, awaiting_setConnection hc]
    by_cases hd : d = c
    · subst d
      rw [Function.update_self, awaiting_of_connection hc]
      simp [push, Relay.setConnection, putOn_append_self, Connection.awaiting, hphase]
    · rw [Function.update_of_ne hd]
      simp [push, Relay.setConnection, putOn_append_of_ne _ hd]
  · intro d m hm
    rw [hand_push, hand_setConnection hc, Lines.mem_update] at hm
    rcases hm with ⟨rfl, hm⟩ | ⟨-, hm⟩
    · simpa [hand, hc] using hm
    · apply hm

/-- A row is deleted from the table. -/
theorem Ordered.deleteQueuedMessage (h : s.Ordered ledger) (id : ℕ) :
  Ordered { s with queuedMessages := s.queuedMessages.deleteQueuedMessage id } ledger
  := by
  apply h.mono
  · apply le_refl
  · rfl
  · apply List.Sublist.map
    apply List.filter_sublist
  · intro d
    left
    apply (List.Sublist.refl _).append
    apply List.Sublist.map
    simp only [awaiting]
    cases s.connections[d]? with
    | none => apply List.Sublist.refl
    | some conn => apply conn.awaiting_deleteQueuedMessage
  · intro c m hm
    apply hm

/-! ### A payload is accepted -/

theorem tag_lt_of_mem_hand (htags : s.TagsGiven) {c : ℕ} {m : Message} (hm : m ∈ s.hand c) :
  m.tag < s.nextTag
  := by
  obtain ⟨conn, recipient, hc, hhandled⟩ := mem_hand.mp hm
  apply (htags.carries c conn hc).handled recipient m hhandled

theorem tag_lt_of_mem_awaiting
    (htags : s.TagsGiven) {d : ℕ} {row : QueuedMessage} (hrow : row ∈ s.awaiting d) :
  row.message.tag < s.nextTag
  := by
  cases hd : s.connections[d]? with
  | none => simp [awaiting, hd] at hrow
  | some conn =>
      rw [awaiting_of_connection hd] at hrow
      rcases conn.mem_awaiting hrow with hmem | hmem
      · apply htags.rows row hmem
      · apply (htags.carries d conn hd).rows row hmem

theorem tag_lt_of_mem_line (htags : s.TagsGiven) {d : ℕ} {m : Message} (hm : m ∈ s.line d) :
  m.tag < s.nextTag
  := by
  rcases List.mem_append.mp hm with hput | hawait
  · obtain ⟨put, hmem, rfl⟩ := List.mem_map.mp hput
    obtain ⟨conn, -, hlt⟩ := htags.puts put (List.mem_of_mem_filter hmem)
    apply hlt
  · obtain ⟨row, hrow, rfl⟩ := List.mem_map.mp hawait
    apply tag_lt_of_mem_awaiting htags hrow

theorem ne_of_tag_lt {m m' : Message} (hlt : m.tag < s.nextTag) (hm' : m'.tag = s.nextTag) :
  m ≠ m'
  := by
  rintro rfl
  apply hlt.ne hm'

/-- An accepted payload with the next tag is new. -/
theorem Ordered.new
    (htags : s.TagsGiven) (h : s.Ordered ledger) {x : Acceptance}
    (hx : x.message.tag = s.nextTag) :
  Lines.New ({ ledger with accepted := ledger.accepted ++ [x] } : Ledger).Before s.queue s.line
    s.hand ledger.overtakings x.message
  where
  queue hmem := by
    obtain ⟨row, hrow, heq⟩ := List.mem_map.mp hmem
    apply ne_of_tag_lt (htags.rows row hrow) hx heq
  line d hmem := ne_of_tag_lt (tag_lt_of_mem_line htags hmem) hx rfl
  hand c hmem := ne_of_tag_lt (tag_lt_of_mem_hand htags hmem) hx rfl
  overtakings o ho := by
    obtain ⟨-, hahead, hbehind⟩ := h.overtakings o ho
    exact ⟨ne_of_tag_lt hahead hx, ne_of_tag_lt hbehind hx⟩
  newest p hbefore := by
    obtain ⟨w, hw, heq⟩ := hbefore.mem_of_append
    apply ne_of_tag_lt (h.given w hw) hx heq

/-- A connection that handles nothing accepts a payload. -/
theorem Ordered.accept
    (htags : s.TagsGiven) (h : s.Ordered ledger) {x : Acceptance}
    (hx : x.message.tag = s.nextTag) (hnext : s'.nextTag = s.nextTag + 1)
    (hlength : s'.connections.length = s.connections.length)
    (hqueue : s'.queue = s.queue) (hline : s'.line = s.line)
    (hhand : s'.hand = Function.update s.hand x.sender (some x.message)) :
  s'.Ordered { ledger with accepted := ledger.accepted ++ [x] }
  where
  given := by
    intro y hy
    rw [hnext]
    rcases List.mem_append.mp hy with hold | hlast
    · apply (h.given y hold).trans (Nat.lt_succ_self _)
    · rw [List.mem_singleton.mp hlast, hx]
      apply Nat.lt_succ_self
  distinct := by
    apply List.pairwise_append.mpr
    use h.distinct, List.pairwise_singleton _ x
    intro y hy z hz
    rw [List.mem_singleton.mp hz]
    apply ne_of_tag_lt (h.given y hy) hx
  own c m hm y hy heq := by
    rw [hhand] at hm
    rcases Lines.mem_update.mp hm with ⟨rfl, ⟨⟩⟩ | ⟨-, hold⟩
    · rcases List.mem_append.mp hy with hmem | hlast
      · apply absurd heq (ne_of_tag_lt (h.given y hmem) hx)
      · rw [List.mem_singleton.mp hlast]
    · rcases List.mem_append.mp hy with hmem | hlast
      · apply h.own c m hold y hmem heq
      · rw [List.mem_singleton.mp hlast] at heq
        apply absurd heq.symm (ne_of_tag_lt (tag_lt_of_mem_hand htags hold) hx)
  overtakings o ho := by
    obtain ⟨hlt, hahead, hbehind⟩ := h.overtakings o ho
    rw [hlength, hnext]
    exact ⟨hlt, hahead.trans (Nat.lt_succ_self _), hbehind.trans (Nat.lt_succ_self _)⟩
  inOrder := by
    rw [hqueue, hline, hhand]
    apply h.inOrder.take (h.new htags hx)
    · intro p q hbefore
      rcases hbefore.of_append with hold | ⟨rfl, -⟩
      · left
        apply hold
      · right
        rfl
    · intro e hne p hp hbefore
      rcases hbefore.of_append with ⟨w, z, hsub, -, -, -, hz⟩ | ⟨-, w, hw, hsender, hp'⟩
      · apply ne_of_tag_lt (h.given z (hsub.subset (by simp))) hx hz
      · apply hne
        rw [← hsender, h.own e p hp w hw hp']

/-! ### A message is put on a channel or queued -/

/-- Nothing is before the message, and it is in no place of the relay. -/
def IsNew (s : Relay) (ledger : Ledger) (message : Message) : Prop :=
  Lines.New ledger.Before s.queue s.line s.hand ledger.overtakings message

/-- A connection lets go of the message it handles, which is then new. -/
theorem Ordered.release
    (h : s.Ordered ledger) {c : ℕ} {conn : Connection} {recipient : String} {message : Message}
    (hc : s.connections[c]? = some conn)
    (hhandled : conn.receiveTask.handled = some (recipient, message)) :
  (s.setConnection c { conn with receiveTask := .waiting }).Ordered ledger
    ∧ (s.setConnection c { conn with receiveTask := .waiting }).IsNew ledger message
  := by
  constructor
  · refine h.setConnection hc rfl rfl rfl rfl (List.Sublist.refl _) ?_
    simp [ReceiveTask.handled]
  · rw [IsNew, line_withTask hc, hand_setConnection hc]
    apply h.inOrder.hand c message
    apply mem_hand.mpr ⟨conn, recipient, hc, hhandled⟩

/-- A new message is put on the channel of `d`, where it overtakes what is awaited. -/
theorem Ordered.push
    (h : s.Ordered ledger) {message : Message} (hnew : s.IsNew ledger message) {d : ℕ}
    (hd : d < s.connections.length) (hmessage : message.tag < s.nextTag)
    (hrows : ∀ row ∈ s.awaiting d, row.message.tag < s.nextTag) :
  (s.push d message).Ordered
    { ledger with
      overtakings := ledger.overtakings
        ++ (s.awaiting d).map fun row => ⟨d, message, row.message⟩ }
  where
  given := h.given
  distinct := h.distinct
  own := by
    rw [hand_push]
    apply h.own
  overtakings o ho := by
    rw [Relay.push, List.length_modify]
    rcases List.mem_append.mp ho with hold | hlast
    · apply h.overtakings o hold
    · obtain ⟨row, hrow, rfl⟩ := List.mem_map.mp hlast
      exact ⟨hd, hmessage, hrows row hrow⟩
  inOrder := by
    have hline : (s.push d message).line = Function.update s.line d
        (putOn s.puts d ++ message :: (s.awaiting d).map QueuedMessage.message) := by
      funext e
      rw [line, awaiting_push, Function.update_apply, Relay.push]
      split
      · subst e
        rw [putOn_append_self, List.append_assoc, List.singleton_append]
      · rename_i hne
        rw [putOn_append_of_ne _ hne, line]
    have hovertakings : ((s.awaiting d).map fun row =>
          (⟨d, message, row.message⟩ : Lines.Overtaking ℕ Message))
        = ((s.awaiting d).map QueuedMessage.message).map (Lines.Overtaking.mk d message) := by
      rw [List.map_map]
      rfl
    rw [hand_push, hline, hovertakings]
    apply h.inOrder.send hnew
    rfl

/-- A new message is queued. -/
theorem Ordered.queueMessage
    (h : s.Ordered ledger) {message : Message} (hnew : s.IsNew ledger message)
    (recipient : String) :
  Ordered { s with queuedMessages := s.queuedMessages.queueMessage recipient message } ledger
  where
  given := h.given
  distinct := h.distinct
  own := h.own
  overtakings := h.overtakings
  inOrder := by
    have hqueue : queue { s with
        queuedMessages := s.queuedMessages.queueMessage recipient message }
        = s.queue ++ [message] := by
      simp [queue, QueuedMessages.queueMessage]
    rw [hqueue]
    apply h.inOrder.enqueue hnew
    intro d
    simp only [line, awaiting]
    cases s.connections[d]? with
    | none => simp
    | some conn =>
        rcases conn.awaiting_queueMessage s.queuedMessages recipient message with heq | heq
        · left
          simp [heq]
        · right
          simp [heq]

/-- The message that a connection handles is put live on the channel of `d`. -/
theorem ordered_forward
    (htags : s.TagsGiven) (h : s.Ordered ledger) {c d : ℕ} {conn : Connection}
    {recipient : String} {message : Message} (hc : s.connections[c]? = some conn)
    (hhandled : conn.receiveTask.handled = some (recipient, message)) (hopen : s.isOpen d) :
  Ordered ((s.setConnection c { conn with receiveTask := .waiting }).push d message)
    { ledger with
      overtakings := ledger.overtakings
        ++ (s.awaiting d).map fun row => ⟨d, message, row.message⟩ }
  := by
  have hd : d < s.connections.length := by
    by_contra hlt
    simp [isOpen, List.getElem?_eq_none (Nat.le_of_not_lt hlt)] at hopen
  obtain ⟨hrelease, hnew⟩ := h.release hc hhandled
  rw [← awaiting_withTask hc .waiting]
  apply hrelease.push hnew
  · rw [Relay.setConnection, List.length_set]
    apply hd
  · apply (htags.carries c conn hc).handled recipient message hhandled
  · intro row hrow
    rw [awaiting_withTask hc] at hrow
    apply tag_lt_of_mem_awaiting htags hrow

/-! ### Every run keeps the order -/

theorem accepts_eq_nil
    {c : ℕ} {conn : Connection} {bytes : Bytes} (hc : s.connections[c]? = some conn)
    (hcheck : ∀ recipient payload,
      checkPayload serde conn.username bytes ≠ .ok (.accepted recipient payload)) :
  s.accepts serde c bytes = []
  := by
  unfold accepts
  split
  · rename_i recipient payload heq
    rw [hc] at heq
    apply absurd (Option.some.inj heq) (hcheck recipient payload)
  · rfl

theorem overtakes_eq_nil
    {c : ℕ} {conn : Connection} {recipient : String} {message : Message}
    {client : Option ActiveClient} (hc : s.connections[c]? = some conn)
    (hreceive : conn.receiveTask = .routing recipient message client)
    (hclosed : client.filter (fun client => s.isOpen client.sender) = none) :
  s.overtakes c = []
  := by
  cases client with
  | none => simp [overtakes, hc, hreceive]
  | some client => simp_all [overtakes]

/-- A step keeps the order, along with the ledger. -/
theorem Step.ordered
    (hstep : Step serde s a s') (htags : s.TagsGiven) (h : s.Ordered ledger) :
  s'.Ordered (recordOrder serde s a s' ledger)
  := by
  cases hstep with
  | connect => apply ordered_connect htags h
  | task hc hstep =>
      obtain ⟨hawait, hhandled⟩ := hstep.awaiting s.queuedMessages
      refine h.setConnection hc rfl rfl rfl rfl hawait hhandled
  | register hc hphase | loadQueue hc hphase | breakQueued hc hphase | cleanUp hc hphase =>
      refine h.setConnection hc rfl rfl rfl rfl ?_ ?_ <;> simp [Connection.awaiting, hphase]
  | lookUp hc hreceive =>
      refine h.setConnection hc rfl rfl rfl rfl (List.Sublist.refl _) ?_
      simp [hreceive, ReceiveTask.handled]
  | sendQueued hc hphase => apply ordered_sendQueued h hc hphase
  | @deleteQueued c conn row rest hc hphase =>
      have hset : (s.setConnection c { conn with phase := .draining rest }).Ordered ledger := by
        refine h.setConnection hc rfl rfl rfl rfl ?_ ?_ <;>
          simp [Connection.awaiting, hphase]
      apply hset.deleteQueuedMessage
  | @accept c conn bytes recipient payload hc hreceive hcheck =>
      have haccepts : s.accepts serde c bytes = [⟨c, recipient, ⟨s.nextTag, payload⟩⟩] := by
        simp [accepts, hc, hcheck]
      rw [recordOrder, haccepts]
      apply h.accept htags
      · rfl
      · rfl
      · apply List.length_set
      · rfl
      · apply line_withTask hc
      · apply hand_setConnection hc
  | refuse hc hreceive hcheck =>
      rw [recordOrder, accepts_eq_nil hc hcheck, List.append_nil]
      refine h.mono le_rfl rfl (List.Sublist.refl _) (fun d => ?_) (fun d m hm => hm)
      left
      apply List.Sublist.refl
  | @forward c conn recipient message client hc hreceive hopen =>
      have hovertakes : s.overtakes c = (s.awaiting client.sender).map fun row =>
          ⟨client.sender, message, row.message⟩ := by
        simp [overtakes, hc, hreceive, hopen]
      have hhandled : conn.receiveTask.handled = some (recipient, message) := by
        simp [hreceive, ReceiveTask.handled]
      rw [recordOrder, hovertakes]
      apply ordered_forward htags h hc hhandled hopen
  | fallBack hc hreceive hclosed =>
      rw [recordOrder, overtakes_eq_nil hc hreceive hclosed, List.append_nil]
      refine h.setConnection hc rfl rfl rfl rfl (List.Sublist.refl _) ?_
      simp [hreceive, ReceiveTask.handled]
  | @enqueue c conn recipient message hc hreceive =>
      have hhandled : conn.receiveTask.handled = some (recipient, message) := by
        simp [hreceive, ReceiveTask.handled]
      obtain ⟨hrelease, hnew⟩ := h.release hc hhandled
      apply hrelease.queueMessage hnew

/-- In every recorded run the order is kept. -/
theorem ordered_of_reaches
    (h₀ : s₀.Initial)
    (h : TransitionSystem.Reaches (TransitionSystem.recorded (step serde) (recordOrder serde))
      TransitionSystem.anyAction (s₀, .empty) (s, ledger)) :
  s.Ordered ledger
  := by
  have hall : s.Wellformed ∧ s.TagsGiven ∧ s.Ordered ledger := by
    apply h.invariant (I := fun t => t.1.Wellformed ∧ t.1.TagsGiven ∧ t.1.Ordered t.2) _
      ⟨h₀.wellformed, h₀.tagsGiven, h₀.ordered⟩
    rintro t a t' - hstep ⟨hs, htags, hordered⟩
    obtain ⟨hstep, hrecord⟩ := TransitionSystem.recorded_eq_some.mp hstep
    have hstep' := step_of_step hstep
    rw [hrecord]
    exact ⟨hstep'.wellformed hs, hstep'.tagsGiven hs htags, hstep'.ordered htags hordered⟩
  apply hall.2.2

/-- Two messages put on a channel are in that order on its line. -/
theorem pair_sublist_line
    {d i j : ℕ} {m m' : Message} (hij : i < j) (hi : s.puts[i]? = some (d, m))
    (hj : s.puts[j]? = some (d, m')) :
  [m, m'].Sublist (s.line d)
  := by
  have hputs : [m, m'].Sublist (putOn s.puts d) := by
    have hsub := ((Lines.pair_sublist hij hi hj).filter fun put => put.1 = d).map Prod.snd
    simpa [putOn] using hsub
  apply hputs.trans
  apply List.sublist_append_left

/-- In every run, of two messages that one connection has accepted for one recipient and
that are put on one channel, the first is put there first just when the second has not
overtaken it: when it was not put there live while the row of the first was still to be put
there.  They are written to the socket in the order in which they are put there
(`putsInOrder_of_reaches`). -/
theorem putsBefore_iff_of_reaches
    (h₀ : s₀.Initial)
    (h : TransitionSystem.Reaches (TransitionSystem.recorded (step serde) (recordOrder serde))
      TransitionSystem.anyAction (s₀, .empty) (s, ledger))
    {x y : Acceptance} (haccepted : [x, y].Sublist ledger.accepted)
    (hsender : x.sender = y.sender) (hrecipient : x.recipient = y.recipient) {d : ℕ}
    (hx : (d, x.message) ∈ s.puts) (hy : (d, y.message) ∈ s.puts) :
  s.PutsBefore d x.message y.message ↔ ⟨d, y.message, x.message⟩ ∉ ledger.overtakings
  := by
  have hordered := ordered_of_reaches h₀ h
  constructor
  · intro hbefore
    obtain ⟨i, hi⟩ := List.getElem?_of_mem hx
    obtain ⟨j, hj⟩ := List.getElem?_of_mem hy
    apply hordered.inOrder.not_overtakes (pair_sublist_line (hbefore i j hi hj) hi hj)
  · intro hnot i j hi hj
    by_contra hle
    rcases Nat.lt_or_eq_of_le (Nat.le_of_not_lt hle) with hlt | rfl
    · apply hnot
      apply hordered.inOrder.overtakes _ (pair_sublist_line hlt hj hi)
      use x, y, haccepted, hsender, hrecipient
    · have hne := List.pairwise_iff_forall_sublist.mp hordered.distinct haccepted
      apply hne
      simpa using hi.symm.trans hj

/-- A message is delivered from the queue, and the next one of its sender live after it. -/
theorem putsBefore_iff_of_reaches_sample :
  ∃ s ledger,
    TransitionSystem.run (TransitionSystem.recorded (step sampleCodec) (recordOrder sampleCodec))
        (start, .empty)
        (queueSample ++ drainSample ++ [.receive 0 sampleFrame, .lookUp 0, .forward 0])
      = some (s, ledger)
    ∧ s.puts.length = 2 ∧ s.PutsBefore 1 sampleMessage { sampleMessage with tag := 1 }
  := by
  let first : Acceptance := ⟨0, "bob", sampleMessage⟩
  let second : Acceptance := ⟨0, "bob", { sampleMessage with tag := 1 }⟩
  let result := TransitionSystem.run
    (TransitionSystem.recorded (step sampleCodec) (recordOrder sampleCodec)) (start, .empty)
    (queueSample ++ drainSample ++ [.receive 0 sampleFrame, .lookUp 0, .forward 0])
  have hrun : result.isSome := by
    decide +kernel
  have hsample : ∀ t ∈ result, t.2 = ⟨[first, second], []⟩
      ∧ t.1.puts = [(1, first.message), (1, second.message)] := by
    decide +kernel
  obtain ⟨⟨s, ledger⟩, ht⟩ := Option.isSome_iff_exists.mp hrun
  obtain ⟨rfl, hputs⟩ : ledger = ⟨[first, second], []⟩
      ∧ s.puts = [(1, first.message), (1, second.message)] := hsample _ ht
  have hreach := TransitionSystem.reaches_any_of_run ht
  use s, ⟨[first, second], []⟩, ht
  constructor
  · rw [hputs]
    rfl
  · apply (putsBefore_iff_of_reaches initial_start hreach (List.Sublist.refl [first, second]) rfl
      rfl (by simp [hputs]) (by simp [hputs])).mpr
    simp

/-- A message is queued, its recipient connects, and the next message of its sender is put
live on the channel before the first one is. -/
theorem not_putsBefore :
  ¬ ∀ (s : Relay) (ledger : Ledger),
    TransitionSystem.Reaches
      (TransitionSystem.recorded (step sampleCodec) (recordOrder sampleCodec))
      (fun _ a => dbSucceeds a) (start, .empty) (s, ledger) →
    ∀ x y : Acceptance, [x, y].Sublist ledger.accepted → x.sender = y.sender →
      x.recipient = y.recipient → ∀ d, (d, x.message) ∈ s.puts → (d, y.message) ∈ s.puts →
      s.PutsBefore d x.message y.message
  := by
  intro hbefore
  let first : Acceptance := ⟨0, "bob", sampleMessage⟩
  let second : Acceptance := ⟨0, "bob", { sampleMessage with tag := 1 }⟩
  let actions := queueSample ++ [.connect "bob", .register 1, .receive 0 sampleFrame,
    .lookUp 0, .forward 0, .loadQueue 1, .sendQueued 1]
  let result := TransitionSystem.run
    (TransitionSystem.recorded (step sampleCodec) (recordOrder sampleCodec)) (start, .empty)
    actions
  have hrun : result.isSome := by
    decide +kernel
  have hsample : ∀ t ∈ result, t.2.accepted = [first, second]
      ∧ t.1.puts = [(1, second.message), (1, first.message)] := by
    decide +kernel
  obtain ⟨⟨s, ledger⟩, ht⟩ := Option.isSome_iff_exists.mp hrun
  obtain ⟨haccepted, hputs⟩ : ledger.accepted = [first, second]
      ∧ s.puts = [(1, second.message), (1, first.message)] := hsample _ ht
  have hreach : TransitionSystem.Reaches
      (TransitionSystem.recorded (step sampleCodec) (recordOrder sampleCodec))
      (fun _ a => dbSucceeds a) (start, .empty) (s, ledger) := by
    apply TransitionSystem.reaches_of_run _ ht
    simp [actions, queueSample, comeOnline, dbSucceeds]
  have hlt : 1 < 0 := by
    apply hbefore s ledger hreach first second _ rfl rfl 1 _ _ 1 0
    · rw [hputs]
      rfl
    · rw [hputs]
      rfl
    · rw [haccepted]
    · simp [hputs]
    · simp [hputs]
  omega

end Relay

end Phantasma
