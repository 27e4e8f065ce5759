import Phantasma.Shared.Wire

/-!
# The queued messages

The table `queued_messages` of the directory database with its three statements:
`queueMessage` inserts a row, `queuedMessagesFor` selects the rows of a recipient in the
order of their ids, and `deleteQueuedMessage` deletes a row by its id.  The table carries
what `AUTOINCREMENT` ensures: the ids increase along the rows, and none is above the last
id given out.
-/

namespace Phantasma

/-- A payload the relay transports.  The tag is not part of the payload; it tells apart
two payloads that were accepted separately and have the same bytes. -/
structure Message where
  tag : ℕ
  payload : Bytes
deriving DecidableEq

/-- A row of `queued_messages`. -/
structure QueuedMessage where
  id : ℕ
  recipient : String
  message : Message
deriving DecidableEq

/-- The table `queued_messages`, with the last id that was given to a row. -/
structure QueuedMessages where
  rows : List QueuedMessage
  lastId : ℕ
  increasing : rows.Pairwise (fun row row' => row.id < row'.id)
  bounded : ∀ row ∈ rows, row.id ≤ lastId

namespace QueuedMessages

/-- The table without rows. -/
def empty : QueuedMessages where
  rows := []
  lastId := 0
  increasing := List.Pairwise.nil
  bounded := by simp

/-- `queue_message`: the row is given the id after the last one. -/
def queueMessage (table : QueuedMessages) (recipient : String) (message : Message) :
    QueuedMessages where
  rows := table.rows ++ [⟨table.lastId + 1, recipient, message⟩]
  lastId := table.lastId + 1
  increasing := by
    apply List.pairwise_append.mpr
    and_intros
    · apply table.increasing
    · apply List.pairwise_singleton
    · intro row hrow row' hrow'
      obtain rfl := List.mem_singleton.mp hrow'
      have := table.bounded row hrow
      simp only
      omega
  bounded := by
    intro row hrow
    rcases List.mem_append.mp hrow with hold | hnew
    · have := table.bounded row hold
      omega
    · obtain rfl := List.mem_singleton.mp hnew
      simp

/-- `queued_messages_for`: the rows of a recipient, in the order of their ids. -/
def queuedMessagesFor (table : QueuedMessages) (recipient : String) : List QueuedMessage :=
  table.rows.filter (fun row => row.recipient = recipient)

/-- `delete_queued_message`. -/
def deleteQueuedMessage (table : QueuedMessages) (id : ℕ) : QueuedMessages where
  rows := table.rows.filter (fun row => row.id ≠ id)
  lastId := table.lastId
  increasing := table.increasing.filter _
  bounded := by
    intro row hrow
    apply table.bounded row (List.mem_of_mem_filter hrow)

@[simp]
theorem mem_queueMessage
    (table : QueuedMessages) (recipient : String) (message : Message) (row : QueuedMessage) :
  row ∈ (table.queueMessage recipient message).rows
    ↔ row ∈ table.rows ∨ row = ⟨table.lastId + 1, recipient, message⟩
  := by
  simp [queueMessage]

@[simp]
theorem lastId_queueMessage
    (table : QueuedMessages) (recipient : String) (message : Message) :
  (table.queueMessage recipient message).lastId = table.lastId + 1
  := rfl

@[simp]
theorem mem_queuedMessagesFor
    (table : QueuedMessages) (recipient : String) (row : QueuedMessage) :
  row ∈ table.queuedMessagesFor recipient ↔ row ∈ table.rows ∧ row.recipient = recipient
  := by
  simp [queuedMessagesFor]

@[simp]
theorem mem_deleteQueuedMessage (table : QueuedMessages) (id : ℕ) (row : QueuedMessage) :
  row ∈ (table.deleteQueuedMessage id).rows ↔ row ∈ table.rows ∧ row.id ≠ id
  := by
  simp [deleteQueuedMessage]

/-- The row that is inserted comes last among the rows of its recipient. -/
theorem queuedMessagesFor_queueMessage
    (table : QueuedMessages) (recipient : String) (message : Message) (username : String) :
  (table.queueMessage recipient message).queuedMessagesFor username
      = table.queuedMessagesFor username
    ∨ (table.queueMessage recipient message).queuedMessagesFor username
      = table.queuedMessagesFor username ++ [⟨table.lastId + 1, recipient, message⟩]
  := by
  simp only [queuedMessagesFor, queueMessage, List.filter_append]
  by_cases h : recipient = username
  · right
    simp [h]
  · left
    simp [h]

/-- Two rows of the table with the same id are the same row. -/
theorem eq_of_id_eq
    (table : QueuedMessages) {row row' : QueuedMessage} (hrow : row ∈ table.rows)
    (hrow' : row' ∈ table.rows) (hid : row.id = row'.id) :
  row = row'
  := by
  have hinj : Set.InjOn QueuedMessage.id {r | r ∈ table.rows} := by
    apply List.inj_on_of_nodup_map
    apply List.pairwise_map.mpr
    apply table.increasing.imp
    intro r r' hlt
    omega
  apply hinj hrow hrow' hid

end QueuedMessages

end Phantasma
