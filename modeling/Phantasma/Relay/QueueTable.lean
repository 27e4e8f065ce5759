import Phantasma.Relay.Entries
import Phantasma.Relay.Queue

/-!
# The table of queued messages

`queue_message`, `queued_messages_for` and `delete_queued_message` as statements on the table
`queued_messages`, with the ids that `AUTOINCREMENT` gives out.  `Stores` connects the database
with what the rest of the relay takes it for, the `Directory` and the `QueuedMessages`: whatever
functions of `directory.rs` are called, in any order, cut off anywhere and with runs of
`prepare_database` in between, they answer what the directory and the queue answer
(`answers_eq`).
-/

namespace Phantasma.Sqlite

open Restart

/-! ### The statements -/

/-- The database, with the last id that was given to a row of `queued_messages` as
`sqlite_sequence` has it, or zero. -/
structure RelayDatabase extends Database where
  sequence : ℤ

/-- A function that calls it. -/
abbrev RelayRun := Program (Metered RelayDatabase) SqlError

/-- `QueuedMessage`. -/
structure QueuedMessage where
  id : ℤ
  payload : Bytes
deriving DecidableEq

/-- The id of a row. -/
def idOf (t : SqlTable) (row : List Cell) : ℤ :=
  match t.cell "id" row with
  | some (.integer n) => n
  | _ => 0

/-- The id that a new row is given: one after all that were ever given out, as long as it is an
integer of 64 bits. -/
def RelayDatabase.nextId (db : RelayDatabase) (t : SqlTable) : Option ℤ :=
  let last := (t.rows.map (idOf t)).foldl max db.sequence
  if last + 1 < 2 ^ 63 then some (last + 1) else none

/-- The `INSERT` of `queue_message`, at the time `now`. -/
def RelayDatabase.insertQueuedMessage (recipient : String) (payload : Bytes) (now : String)
    (db : RelayDatabase) : Option RelayDatabase := do
  let t ← db.tables "queued_messages"
  let id ← db.nextId t
  let t' ← t.insert (ColumnDefinition.fill now) "id" (.integer id)
    [("recipient", .text recipient), ("payload", .blob payload)]
  return ⟨db.setTable "queued_messages" t', id⟩

/-- `queue_message`. -/
def queueMessage (recipient : String) (payload : Bytes) (now : String) : RelayRun Unit :=
  execute .failed (RelayDatabase.insertQueuedMessage recipient payload now)

/-- The `SELECT` of `queued_messages_for`. -/
def Database.selectQueuedMessages (recipient : String) (db : Database) :
    Option (List (List (Option Cell))) := do
  let t ← db.tables "queued_messages"
  if ∀ name ∈ ["id", "payload", "recipient"], name ∈ t.names then
    let rows := t.rows.filter fun row => t.cell "recipient" row = some (.text recipient)
    let ordered := rows.mergeSort fun row row' => idOf t row ≤ idOf t row'
    some (ordered.map fun row => ["id", "payload"].map fun name => t.cell name row)
  else none

/-- `row.get`, at a number. -/
def getInteger : Option Cell → Except SqlError ℤ
  | some (.integer n) => .ok n
  | _ => .error .panicked

/-- `row.get`, at bytes. -/
def getBytes : Option Cell → Except SqlError Bytes
  | some (.blob bytes) => .ok bytes
  | some (.text s) => .ok (s.toList.flatMap String.utf8EncodeChar)
  | _ => .error .panicked

/-- The queued message of a row that is selected. -/
def messageOfRow (row : List (Option Cell)) : Except SqlError QueuedMessage := do
  let [id, payload] := row | throw .panicked
  return ⟨← getInteger id, ← getBytes payload⟩

/-- `queued_messages_for`. -/
def queuedMessagesFor (recipient : String) : DatabaseRun (List QueuedMessage) := do
  let rows ← fetch .failed (Database.selectQueuedMessages recipient)
  Program.ofExcept (rows.mapM messageOfRow)

/-- The `DELETE` of `delete_queued_message`. -/
def Database.deleteRow (id : ℤ) (db : Database) : Option Database := do
  let t ← db.tables "queued_messages"
  if "id" ∈ t.names then
    some (db.setTable "queued_messages"
      (t.filterRows fun row => t.cell "id" row ≠ some (.integer id)))
  else none

/-- `delete_queued_message`. -/
def deleteQueuedMessage (id : ℤ) : DatabaseRun Unit :=
  execute .failed (Database.deleteRow id)

/-! ### Calls one after another -/

/-- A function that gives out no ids. -/
def onDatabase {α : Type} : DatabaseRun α → RelayRun α :=
  Program.zoom (fun metered => ⟨metered.store.toDatabase, metered.left⟩)
    fun inner metered => ⟨⟨inner.store, metered.store.sequence⟩, inner.left⟩

/-- A call of a function of `directory.rs`. -/
inductive Call where
  | prepareDatabase
  | registerPublicKey (registration : PublicKeyRegistration) (now : String)
  | lookupPublicKey (username : String)
  | queueMessage (recipient : String) (payload : Bytes) (now : String)
  | queuedMessagesFor (recipient : String)
  | deleteQueuedMessage (id : ℤ)

/-- What a call returns. -/
inductive Reply where
  | done
  | registered (entry : PublicKeyEntry)
  | found (entry : Option PublicKeyEntry)
  | queued (messages : List QueuedMessage)

/-- The call is made. -/
def Call.run : Call → RelayRun Reply
  | .prepareDatabase => do
      onDatabase Sqlite.prepareDatabase
      return .done
  | .registerPublicKey registration now => do
      let entry ← onDatabase (Sqlite.registerPublicKey registration now)
      return .registered entry
  | .lookupPublicKey username => do
      let entry ← onDatabase (Sqlite.lookupPublicKey username)
      return .found entry
  | .queueMessage recipient payload now => do
      Sqlite.queueMessage recipient payload now
      return .done
  | .queuedMessagesFor recipient => do
      let messages ← onDatabase (Sqlite.queuedMessagesFor recipient)
      return .queued messages
  | .deleteQueuedMessage id => do
      onDatabase (Sqlite.deleteQueuedMessage id)
      return .done

/-- What calls return, one after another, each with the number of statements that the database
executes for it, and the database that they leave. -/
def RelayDatabase.answers :
    List (Call × ℕ) → RelayDatabase → List (Except SqlError Reply) × RelayDatabase
  | [], db => ([], db)
  | (call, left) :: calls, db =>
      let (answer, metered) := call.run.outcome ⟨db, left⟩
      let (rest, last) := answers calls metered.store
      (answer :: rest, last)

/-! ### What the calls are for -/

/-- The statements that a call needs.  In a database that is prepared, `prepare_database` finds
everything done, with five statements. -/
def Call.statements : Call → ℕ
  | .prepareDatabase => 5
  | _ => 1

/-- What the relay takes the database for. -/
structure Contents where
  directory : Directory
  queuedMessages : QueuedMessages

namespace Contents

/-- What a call is to return, and the contents after it.  A message is tagged with its id. -/
def answer (contents : Contents) : Call → Except SqlError Reply × Contents
  | .prepareDatabase => (.ok .done, contents)
  | .registerPublicKey registration _ =>
      (.ok (.registered registration.entry),
        { contents with directory := contents.directory.registerPublicKey registration })
  | .lookupPublicKey username =>
      (.ok (.found (contents.directory.lookupPublicKey username)), contents)
  | .queueMessage recipient payload _ =>
      let id := contents.queuedMessages.lastId + 1
      if id < 2 ^ 63 then
        (.ok .done, { contents with
          queuedMessages := contents.queuedMessages.queueMessage recipient ⟨id, payload⟩ })
      else (.error .failed, contents)
  | .queuedMessagesFor recipient =>
      (.ok (.queued ((contents.queuedMessages.queuedMessagesFor recipient).map
        fun row => ⟨row.id, row.message.payload⟩)), contents)
  | .deleteQueuedMessage id =>
      (.ok .done, if id < 0 then contents else { contents with
        queuedMessages := contents.queuedMessages.deleteQueuedMessage id.toNat })

/-- A call that is cut off changes nothing. -/
def answerWithin (contents : Contents) (call : Call) (left : ℕ) :
    Except SqlError Reply × Contents :=
  if left < call.statements then (.error .failed, contents) else contents.answer call

/-- What calls are to return, one after another, and the contents after them. -/
def answers : List (Call × ℕ) → Contents → List (Except SqlError Reply) × Contents
  | [], contents => ([], contents)
  | (call, left) :: calls, contents =>
      let (answer, next) := contents.answerWithin call left
      let (rest, last) := answers calls next
      (answer :: rest, last)

end Contents

/-! ### The table and the queue -/

/-- A row of the table is the queued message. -/
structure IsRow (t : SqlTable) (row : List Cell) (queued : Phantasma.QueuedMessage) : Prop where
  id : t.cell "id" row = some (.integer queued.id)
  recipient : t.cell "recipient" row = some (.text queued.recipient)
  payload : t.cell "payload" row = some (.blob queued.message.payload)

/-- `HoldsQueue db queue`: `queued_messages` is as `prepare_database` creates it, and has the
rows of the queue. -/
def HoldsQueue (db : Database) (queue : QueuedMessages) : Prop :=
  ∃ t, db.tables "queued_messages" = some t ∧ t.key = some "id"
    ∧ t.columns = queuedMessagesTable.columns ∧ List.Forall₂ (IsRow t) t.rows queue.rows

/-- `Stores db contents`: the database is prepared and has the contents. -/
structure Stores (db : RelayDatabase) (contents : Contents) : Prop where
  directory : Represents db.toDatabase contents.directory
  queue : HoldsQueue db.toDatabase contents.queuedMessages
  sequence : db.sequence = contents.queuedMessages.lastId
  index : db.HasIndex "queued_messages_recipient_id" recipientIndex

theorem IsRow.idOf
    {t : SqlTable} {row : List Cell} {queued : Phantasma.QueuedMessage} (h : IsRow t row queued) :
  idOf t row = queued.id
  := by
  rw [Sqlite.idOf, h.id]

/-- The rows keep what they are when the columns stay. -/
theorem IsRow.of_columns
    {t t' : SqlTable} {row : List Cell} {queued : Phantasma.QueuedMessage} (h : IsRow t row queued)
    (hcolumns : t'.columns = t.columns) :
  IsRow t' row queued
  := by
  have hcell : ∀ name, t'.cell name row = t.cell name row := by
    intro name
    rw [Table.cell, Table.names, hcolumns, Table.cell, Table.names]
  constructor
  · rw [hcell, h.id]
  · rw [hcell, h.recipient]
  · rw [hcell, h.payload]

theorem foldl_max_eq {ids : List ℤ} {last : ℤ} (h : ∀ id ∈ ids, id ≤ last) :
  ids.foldl max last = last
  := by
  induction ids with
  | nil => rfl
  | cons id ids ih =>
      rw [List.forall_mem_cons] at h
      rw [List.foldl_cons, max_eq_left h.1, ih h.2]

/-- No row has an id that was not given out. -/
theorem idOf_le_of_forall₂
    {t : SqlTable} {rows : List (List Cell)} {queued : List Phantasma.QueuedMessage} {last : ℕ}
    (h : List.Forall₂ (IsRow t) rows queued) (hbounded : ∀ row ∈ queued, row.id ≤ last) :
  ∀ row ∈ rows, idOf t row ≤ last
  := by
  induction h with
  | nil => simp
  | @cons row queued rows later hrow _ ih =>
      rw [List.forall_mem_cons] at hbounded ⊢
      use Int.le_trans (le_of_eq hrow.idOf) (Int.ofNat_le.mpr hbounded.1), ih hbounded.2

/-- The id of the next row is one after the last id of the queue. -/
theorem HoldsQueue.nextId
    {db : RelayDatabase} {queue : QueuedMessages} {t : SqlTable}
    (h : List.Forall₂ (IsRow t) t.rows queue.rows) (hsequence : db.sequence = queue.lastId) :
  db.nextId t = if queue.lastId + 1 < 2 ^ 63 then some (queue.lastId + 1 : ℤ) else none
  := by
  have hlast : (t.rows.map (idOf t)).foldl max db.sequence = queue.lastId := by
    rw [hsequence]
    apply foldl_max_eq
    rw [List.forall_mem_map]
    apply idOf_le_of_forall₂ h queue.bounded
  have hfull : (queue.lastId + 1 : ℤ) < 2 ^ 63 ↔ queue.lastId + 1 < 2 ^ 63 := by
    omega
  simp only [RelayDatabase.nextId, hlast, hfull]

/-- The statement of `queue_message` gives the row the next id, while there is one. -/
theorem HoldsQueue.insertQueuedMessage
    {db : RelayDatabase} {queue : QueuedMessages} (h : HoldsQueue db.toDatabase queue)
    (hsequence : db.sequence = queue.lastId) (recipient : String) (message : Message)
    (now : String) :
  ∃ t', db.insertQueuedMessage recipient message.payload now
      = (if queue.lastId + 1 < 2 ^ 63 then
          some ⟨db.setTable "queued_messages" t', queue.lastId + 1⟩ else none)
    ∧ HoldsQueue (db.setTable "queued_messages" t') (queue.queueMessage recipient message)
  := by
  obtain ⟨t, ht, hkey, hcolumns, hrows⟩ := h
  have hids := idOf_le_of_forall₂ hrows queue.bounded
  have hnew : t.find "id" (.integer (queue.lastId + 1)) = none := by
    rw [Table.find, List.find?_eq_none]
    intro row hrow
    have hle := hids row hrow
    rw [decide_eq_true_eq]
    intro hcell
    rw [idOf, hcell] at hle
    dsimp only at hle
    omega
  have hnames : t.names = queuedMessagesTable.names := congrArg (List.map Prod.fst) hcolumns
  have hread : ∀ name ∈ ["id", "recipient", "payload"], name ∈ t.names := by
    rw [hnames]
    decide
  have hassigned : ∀ name ∈ [("recipient", Cell.text recipient),
      ("payload", .blob message.payload)].map Prod.fst, name ∈ t.names := by
    intro name hname
    apply hread name (List.mem_cons_of_mem _ hname)
  have hfill : ∀ column ∈ t.columns,
      (([("id", .integer (queue.lastId + 1)), ("recipient", .text recipient),
        ("payload", .blob message.payload)].lookup column.1).or (column.2.fill now)).isSome := by
    rw [hcolumns]
    simp only [queuedMessagesTable, Table.empty, List.forall_mem_cons]
    refine ⟨rfl, rfl, rfl, rfl, ?_⟩
    rintro _ ⟨⟩
  obtain ⟨t', row, hinsert, hcolumns', hkey', hrows', hcells⟩ :=
    Table.exists_insert hkey hnew hassigned hfill
  use t'
  constructor
  · rw [RelayDatabase.insertQueuedMessage, ht, Option.bind_eq_bind, Option.bind_some,
      HoldsQueue.nextId hrows hsequence]
    split
    · simp only [Option.bind_eq_bind, Option.bind_some, hinsert]
      rfl
    · rfl
  · use t', Database.tables_setTable_self .., hkey'.trans hkey, hcolumns'.trans hcolumns
    rw [hrows', QueuedMessages.queueMessage]
    apply List.rel_append (hrows.imp fun _ _ hrow => hrow.of_columns hcolumns')
    apply List.Forall₂.cons _ List.Forall₂.nil
    simp only [List.forall_mem_cons] at hread
    exact ⟨hcells _ hread.1 _ rfl, hcells _ hread.2.1 _ rfl, hcells _ hread.2.2.1 _ rfl⟩

/-- The columns that are read are there. -/
theorem HoldsQueue.names
    {t : SqlTable} (hcolumns : t.columns = queuedMessagesTable.columns) :
  ∀ name ∈ ["id", "payload", "recipient"], name ∈ t.names
  := by
  have hnames : t.names = queuedMessagesTable.names := congrArg (List.map Prod.fst) hcolumns
  rw [hnames]
  decide

/-- The statement of `queued_messages_for` selects the rows of the recipient, in the order of the
queue. -/
theorem HoldsQueue.selectQueuedMessages
    {db : Database} {queue : QueuedMessages} (h : HoldsQueue db queue) (recipient : String) :
  db.selectQueuedMessages recipient = some ((queue.queuedMessagesFor recipient).map fun row =>
    [some (.integer row.id), some (.blob row.message.payload)])
  := by
  obtain ⟨t, ht, -, hcolumns, hrows⟩ := h
  have hselected : List.Forall₂ (IsRow t)
      (t.rows.filter fun row => t.cell "recipient" row = some (.text recipient))
      (queue.queuedMessagesFor recipient) := by
    apply List.rel_filter _ hrows
    intro row queued hrow
    dsimp only
    rw [hrow.recipient, decide_eq_true_eq, decide_eq_true_eq, Option.some.injEq, Cell.text.injEq]
  have hordered : (queue.queuedMessagesFor recipient).Pairwise fun row row' => row.id < row'.id :=
    queue.increasing.filter _
  rw [Database.selectQueuedMessages, ht, Option.bind_eq_bind, Option.bind_some,
    if_pos (HoldsQueue.names hcolumns)]
  dsimp only
  generalize t.rows.filter _ = rows at hselected ⊢
  generalize queue.queuedMessagesFor recipient = queued at hselected hordered ⊢
  have hids : rows.map (idOf t) = queued.map fun row => (row.id : ℤ) := by
    apply List.forall₂_eq_eq_eq ▸ List.rel_map _ hselected
    intro row queued hrow
    apply hrow.idOf
  have hsorted : rows.Pairwise fun row row' => decide (idOf t row ≤ idOf t row') := by
    simp only [decide_eq_true_eq]
    apply List.pairwise_map.mp
    rw [hids, List.pairwise_map]
    apply hordered.imp
    intro row row' hlt
    omega
  rw [List.mergeSort_of_pairwise hsorted]
  congr 1
  apply List.forall₂_eq_eq_eq ▸ List.rel_map _ hselected
  intro row queued hrow
  dsimp only
  rw [List.map_cons, List.map_cons, List.map_nil, hrow.id, hrow.payload]

/-- The statement of `delete_queued_message` deletes the row with the id. -/
theorem HoldsQueue.deleteRow
    {db : Database} {queue : QueuedMessages} (h : HoldsQueue db queue) (id : ℤ) :
  ∃ t', db.deleteRow id = some (db.setTable "queued_messages" t')
    ∧ HoldsQueue (db.setTable "queued_messages" t')
      (if id < 0 then queue else queue.deleteQueuedMessage id.toNat)
  := by
  obtain ⟨t, ht, hkey, hcolumns, hrows⟩ := h
  use t.filterRows fun row => t.cell "id" row ≠ some (.integer id)
  constructor
  · rw [Database.deleteRow, ht, Option.bind_eq_bind, Option.bind_some,
      if_pos (HoldsQueue.names hcolumns "id" (by decide))]
  · use t.filterRows fun row => t.cell "id" row ≠ some (.integer id),
      Database.tables_setTable_self .., hkey, hcolumns
    have hqueue : (if id < 0 then queue else queue.deleteQueuedMessage id.toNat).rows
        = queue.rows.filter fun row => (row.id : ℤ) ≠ id := by
      split
      · symm
        apply List.filter_eq_self.mpr
        intro row _
        rw [decide_eq_true_eq]
        omega
      · apply List.filter_congr
        intro row _
        apply decide_eq_decide.mpr
        omega
    have hkept : List.Forall₂ (IsRow t)
        (t.rows.filter fun row => t.cell "id" row ≠ some (.integer id))
        (queue.rows.filter fun row => (row.id : ℤ) ≠ id) := by
      apply List.rel_filter _ hrows
      intro row queued hrow
      dsimp only
      rw [hrow.id, decide_eq_true_eq, decide_eq_true_eq, ne_eq, Option.some.injEq,
        Cell.integer.injEq]
    rw [hqueue]
    exact hkept.imp fun _ _ hrow => hrow.of_columns rfl

/-! ### The calls -/

/-- The database is prepared. -/
structure Prepared (db : Database) : Prop where
  publicKeys : (db.tables "public_keys").isSome
  identity : db.HasColumn "identity_public_key"
  encryption : db.HasColumn "encryption_public_key"
  queuedMessages : (db.tables "queued_messages").isSome
  index : db.HasIndex "queued_messages_recipient_id" recipientIndex

/-- A column that is there is found with one statement. -/
theorem outcome_addColumnIfMissing
    {db : Database} {columnName : String} (h : db.HasColumn columnName)
    (definition : ColumnDefinition) (left : ℕ) :
  (addColumnIfMissing columnName definition).outcome ⟨db, left + 1⟩ = (.ok (), ⟨db, left⟩)
  := by
  obtain ⟨t, ht, hname⟩ := h
  have hinfo : Database.tableInfo "public_keys" db = some t.names := by
    rw [Database.tableInfo, ht]
    rfl
  have hany : t.names.any (· = columnName) := by
    rw [List.any_eq_true]
    use columnName, hname
    rw [decide_eq_true_eq]
  rw [addColumnIfMissing, Program.outcome_bind, outcome_fetch_succ hinfo]
  dsimp only
  rw [if_pos hany, Program.outcome_pure]

theorem outcome_addColumnIfMissing_zero
    (db : Database) (columnName : String) (definition : ColumnDefinition) :
  (addColumnIfMissing columnName definition).outcome ⟨db, 0⟩ = (.error .failed, ⟨db, 0⟩)
  := by
  rw [addColumnIfMissing, Program.outcome_bind, outcome_fetch_zero]

/-- In a database that is prepared, `prepare_database` changes nothing, and needs five
statements. -/
theorem Prepared.outcome {db : Database} (h : Prepared db) (left : ℕ) :
  prepareDatabase.outcome ⟨db, left⟩
    = if left < 5 then (.error .failed, ⟨db, 0⟩) else (.ok (), ⟨db, left - 5⟩)
  := by
  have hpublic := (achieves_createTableIfNotExists "public_keys" publicKeysTable).again db
    h.publicKeys
  have hqueued := (achieves_createTableIfNotExists "queued_messages" queuedMessagesTable).again db
    h.queuedMessages
  have hindex := (achieves_createIndexIfNotExists "queued_messages_recipient_id"
    recipientIndex).again db h.index
  rcases left with _ | _ | _ | _ | _ | left
  all_goals
    simp [prepareDatabase, Program.outcome_bind, outcome_execute_zero,
      outcome_execute_succ hpublic, outcome_execute_succ hqueued, outcome_execute_succ hindex,
      outcome_addColumnIfMissing h.identity, outcome_addColumnIfMissing h.encryption,
      outcome_addColumnIfMissing_zero]

theorem Represents.of_tables
    {db db' : Database} {directory : Directory} (h : Represents db directory)
    (heq : db'.tables "public_keys" = db.tables "public_keys") :
  Represents db' directory
  := by
  obtain ⟨t, ht, hrest⟩ := h
  exact ⟨t, heq.trans ht, hrest⟩

theorem HoldsQueue.of_tables
    {db db' : Database} {queue : QueuedMessages} (h : HoldsQueue db queue)
    (heq : db'.tables "queued_messages" = db.tables "queued_messages") :
  HoldsQueue db' queue
  := by
  obtain ⟨t, ht, hrest⟩ := h
  exact ⟨t, heq.trans ht, hrest⟩

/-- The index stays when a table gets other rows. -/
theorem hasIndex_setTable
    {db : Database} {name : String} {index : Index} (h : db.HasIndex name index)
    {tableName : String} (hne : name ≠ tableName) (t : SqlTable) :
  (db.setTable tableName t).HasIndex name index
  where
  present := h.present
  table := by
    by_cases heq : index.table = tableName
    · rw [heq, Database.tables_setTable_self]
      rfl
    · rw [Database.tables_setTable_of_ne db heq]
      apply h.table
  free := by
    rw [Database.tables_setTable_of_ne db hne]
    apply h.free

theorem Stores.prepared {db : RelayDatabase} {contents : Contents} (h : Stores db contents) :
  Prepared db.toDatabase
  := by
  obtain ⟨t, ht, -, hnames, -⟩ := h.directory
  obtain ⟨t', ht', -⟩ := h.queue
  constructor
  · apply Option.isSome_of_eq_some ht
  · exact ⟨t, ht, (hnames _).mpr (by decide)⟩
  · exact ⟨t, ht, (hnames _).mpr (by decide)⟩
  · apply Option.isSome_of_eq_some ht'
  · apply h.index

/-- Other rows in the table of queued messages. -/
theorem Stores.setQueue
    {db : RelayDatabase} {contents : Contents} (h : Stores db contents) {t : SqlTable}
    {queue : QueuedMessages} (hqueue : HoldsQueue (db.setTable "queued_messages" t) queue)
    {sequence : ℤ} (hsequence : sequence = queue.lastId) :
  Stores ⟨db.setTable "queued_messages" t, sequence⟩ { contents with queuedMessages := queue }
  where
  directory := h.directory.of_tables (Database.tables_setTable_of_ne _ (by decide) t)
  queue := hqueue
  sequence := hsequence
  index := hasIndex_setTable h.index (by decide) t

/-- A registration changes the table of keys only. -/
theorem tables_upsertPublicKey
    {db db' : Database} {registration : PublicKeyRegistration} {now : String}
    (h : db.upsertPublicKey registration now = some db') :
  ∃ t, db' = db.setTable "public_keys" t
  := by
  obtain ⟨_, -, h⟩ := Option.bind_eq_some_iff.mp h
  obtain ⟨t, -, ⟨⟩⟩ := Option.bind_eq_some_iff.mp h
  use t

theorem outcome_onDatabase {α : Type} (x : DatabaseRun α) (db : RelayDatabase) (left : ℕ) :
  (onDatabase x).outcome ⟨db, left⟩
    = ((x.outcome ⟨db.toDatabase, left⟩).1,
      ⟨⟨(x.outcome ⟨db.toDatabase, left⟩).2.store, db.sequence⟩,
        (x.outcome ⟨db.toDatabase, left⟩).2.left⟩)
  := by
  rw [onDatabase, Program.outcome_zoom]

/-- What is selected for queued messages is read as what they are. -/
theorem mapM_messageOfRow (queued : List Phantasma.QueuedMessage) :
  (queued.map fun row => [some (.integer row.id), some (.blob row.message.payload)]).mapM
      messageOfRow
    = .ok (queued.map fun row => ⟨row.id, row.message.payload⟩)
  := by
  induction queued with
  | nil => rfl
  | cons row queued ih =>
      rw [List.map_cons, List.mapM_cons, ih]
      rfl

/-- A registration in the table of keys. -/
theorem Stores.setKeys
    {db : RelayDatabase} {contents : Contents} (h : Stores db contents) {t : SqlTable}
    {directory : Directory} (hdirectory : Represents (db.setTable "public_keys" t) directory) :
  Stores ⟨db.setTable "public_keys" t, db.sequence⟩ { contents with directory := directory }
  where
  directory := hdirectory
  queue := h.queue.of_tables (Database.tables_setTable_of_ne _ (by decide) t)
  sequence := h.sequence
  index := hasIndex_setTable h.index (by decide) t

/-- A call that fails changes nothing. -/
theorem outcome_run_zero (call : Call) (db : RelayDatabase) :
  call.run.outcome ⟨db, 0⟩ = (.error .failed, ⟨db, 0⟩)
  := by
  cases call <;> rfl

/-- A call that is not cut off does what it is to do. -/
theorem Stores.run_succ
    {db : RelayDatabase} {contents : Contents} (h : Stores db contents) {call : Call}
    (hcall : call.statements = 1) (left : ℕ) :
  (call.run.outcome ⟨db, left + 1⟩).1 = (contents.answer call).1
    ∧ Stores (call.run.outcome ⟨db, left + 1⟩).2.store (contents.answer call).2
  := by
  cases call with
  | prepareDatabase => cases hcall
  | registerPublicKey registration now =>
      obtain ⟨db', hupsert, hdb'⟩ := h.directory.upsertPublicKey registration now
      obtain ⟨t, rfl⟩ := tables_upsertPublicKey hupsert
      rw [Call.run, Program.outcome_bind, outcome_onDatabase, Sqlite.registerPublicKey,
        Program.outcome_bind, outcome_execute_succ hupsert]
      exact ⟨rfl, h.setKeys hdb'⟩
  | lookupPublicKey username =>
      rw [Call.run, Program.outcome_bind, outcome_onDatabase, Sqlite.lookupPublicKey,
        Program.outcome_bind, outcome_fetch_succ (h.directory.selectPublicKey username),
        Contents.answer]
      cases contents.directory.lookupPublicKey username with
      | none => exact ⟨rfl, h⟩
      | some entry => exact ⟨rfl, h⟩
  | queueMessage recipient payload now =>
      obtain ⟨t, hinsert, hqueue⟩ := h.queue.insertQueuedMessage h.sequence recipient
        ⟨contents.queuedMessages.lastId + 1, payload⟩ now
      rw [Call.run, Program.outcome_bind, Sqlite.queueMessage, Contents.answer]
      by_cases hfull : contents.queuedMessages.lastId + 1 < 2 ^ 63
      · rw [if_pos hfull] at hinsert
        rw [outcome_execute_succ hinsert, if_pos hfull]
        exact ⟨rfl, h.setQueue hqueue rfl⟩
      · rw [if_neg hfull] at hinsert
        rw [outcome_execute_none hinsert, if_neg hfull]
        exact ⟨rfl, h⟩
  | queuedMessagesFor recipient =>
      rw [Call.run, Program.outcome_bind, outcome_onDatabase, Sqlite.queuedMessagesFor,
        Program.outcome_bind, outcome_fetch_succ (h.queue.selectQueuedMessages recipient)]
      dsimp only
      rw [Program.outcome_ofExcept, mapM_messageOfRow]
      exact ⟨rfl, h⟩
  | deleteQueuedMessage id =>
      obtain ⟨t, hdelete, hqueue⟩ := h.queue.deleteRow id
      rw [Call.run, Program.outcome_bind, outcome_onDatabase, Sqlite.deleteQueuedMessage,
        outcome_execute_succ hdelete, Contents.answer]
      use rfl
      split at hqueue
      · rename_i hneg
        rw [if_pos hneg]
        exact h.setQueue hqueue h.sequence
      · rename_i hpos
        rw [if_neg hpos]
        exact h.setQueue hqueue h.sequence

/-- A call does what it is to do, wherever it is cut off. -/
theorem Stores.run
    {db : RelayDatabase} {contents : Contents} (h : Stores db contents) (call : Call) (left : ℕ) :
  (call.run.outcome ⟨db, left⟩).1 = (contents.answerWithin call left).1
    ∧ Stores (call.run.outcome ⟨db, left⟩).2.store (contents.answerWithin call left).2
  := by
  rw [Contents.answerWithin]
  by_cases hcall : call.statements = 1
  · rw [hcall]
    cases left with
    | zero =>
        rw [outcome_run_zero, if_pos Nat.one_pos]
        exact ⟨rfl, h⟩
    | succ left =>
        rw [if_neg (by omega)]
        apply h.run_succ hcall
  · cases call with
    | prepareDatabase =>
        rw [Call.run, Program.outcome_bind, outcome_onDatabase, h.prepared.outcome, Call.statements]
        by_cases hcut : left < 5
        · rw [if_pos hcut, if_pos hcut]
          exact ⟨rfl, h⟩
        · rw [if_neg hcut, if_neg hcut]
          exact ⟨rfl, h⟩
    | _ => exact absurd rfl hcall

/-- Whatever functions are called on a prepared database, in any order and with any of them cut
off, each returns what it does on the contents, the directory and the queue, and leaves a
database with these contents. -/
theorem answers_eq
    {db : RelayDatabase} {contents : Contents} (h : Stores db contents)
    (calls : List (Call × ℕ)) :
  (db.answers calls).1 = (contents.answers calls).1
    ∧ Stores (db.answers calls).2 (contents.answers calls).2
  := by
  induction calls generalizing db contents with
  | nil => exact ⟨rfl, h⟩
  | cons first calls ih =>
      obtain ⟨call, left⟩ := first
      obtain ⟨hanswer, hstores⟩ := h.run call left
      obtain ⟨hanswers, hlast⟩ := ih hstores
      rw [RelayDatabase.answers, Contents.answers]
      constructor
      · dsimp only
        rw [hanswer, hanswers]
      · apply hlast

/-- A new database. -/
def newDatabase : Database where
  tables _ := none
  indexes _ := none

/-- The database that a relay has after its first start. -/
def preparedDatabase : RelayDatabase where
  toDatabase := (prepareDatabase.outcome ⟨newDatabase, 5⟩).2.store
  sequence := 0

/-- It has no contents. -/
theorem stores_preparedDatabase :
  Stores preparedDatabase ⟨.empty, .empty⟩
  where
  directory := represents_prepareDatabase rfl rfl (Nat.le_refl 5)
  queue := ⟨queuedMessagesTable, rfl, rfl, rfl, List.Forall₂.nil⟩
  sequence := rfl
  index := ⟨rfl, rfl, rfl⟩

/-- Two messages are queued, with a start of the relay in between that is cut off; the first one
is delivered and deleted. -/
theorem answers_eq_sample :
  (preparedDatabase.answers
      [(.queueMessage "bob" [1] "now", 1), (.prepareDatabase, 3),
        (.queueMessage "bob" [2] "now", 1), (.queuedMessagesFor "bob", 1),
        (.deleteQueuedMessage 1, 1), (.queuedMessagesFor "bob", 1)]).1
    = [.ok .done, .error .failed, .ok .done, .ok (.queued [⟨1, [1]⟩, ⟨2, [2]⟩]), .ok .done,
      .ok (.queued [⟨2, [2]⟩])]
  := (answers_eq stores_preparedDatabase _).1

end Phantasma.Sqlite
