import Mathlib.Logic.Function.Basic
import Phantasma.Base.Restart
import Phantasma.Base.Table
import Phantasma.Relay.Directory

/-!
# The schema of the directory database

A database of tables and indexes, the statements by which `directory.rs` creates and changes
its schema, and `prepare_database`, a program that calls one statement after another and is
cut off by the first that fails.  `migrationSteps` are the five steps it takes
(`performs_prepareDatabase`); what they find done they leave as it is, so a run that was cut
off is made up for by the next (`prepareDatabase_restartable`).
-/

namespace Phantasma.Sqlite

open Restart

/-- A value of a column. -/
inductive Cell where
  | null
  | integer (n : ℤ)
  | real (bits : UInt64)
  | text (s : String)
  | blob (bytes : Bytes)
deriving DecidableEq

/-- The `DEFAULT` of a column: none, a text, or the time of the statement. -/
inductive ColumnDefault where
  | unset
  | text (s : String)
  | now
deriving DecidableEq

/-- What a column is defined as. -/
structure ColumnDefinition where
  type : String
  notNull : Bool
  default : ColumnDefault
  autoincrement : Bool
deriving DecidableEq

/-- The cell of the column in a row that is inserted at the time `now` without it. -/
def ColumnDefinition.fill (now : String) (definition : ColumnDefinition) : Option Cell :=
  match definition.default with
  | .text s => some (.text s)
  | .now => some (.text now)
  | .unset => if definition.notNull then none else some .null

/-- The cell of the column in the rows that are there when it is added.  It must not depend on
the time. -/
def ColumnDefinition.constant (definition : ColumnDefinition) : Option Cell :=
  match definition.default with
  | .text s => some (.text s)
  | .now => none
  | .unset => if definition.notNull then none else some .null

/-- A table of SQLite, with the names of its columns as they are spelled. -/
abbrev SqlTable := Table String ColumnDefinition Cell

/-- What an index is on. -/
structure Index where
  table : String
  columns : List String

/-- The tables and the indexes under their names. -/
structure Database where
  tables : String → Option SqlTable
  indexes : String → Option Index

/-- How a call ends that does not return: with an error, or in a panic. -/
inductive SqlError where
  | failed
  | panicked
deriving DecidableEq

/-! ### Statements -/

namespace Database

/-- The database with the table in place of the one of that name. -/
def setTable (db : Database) (name : String) (t : SqlTable) : Database where
  tables := Function.update db.tables name (some t)
  indexes := db.indexes

/-- `CREATE TABLE IF NOT EXISTS`.  A table cannot have the name of an index. -/
def createTableIfNotExists (name : String) (t : SqlTable) (db : Database) : Option Database :=
  if (db.tables name).isSome then some db
  else if (db.indexes name).isSome then none
  else some (db.setTable name t)

/-- `PRAGMA table_info`: the names of the columns, none if there is no such table. -/
def tableInfo (name : String) (db : Database) : Option (List String) :=
  some (((db.tables name).map Table.names).getD [])

/-- `ALTER TABLE .. ADD COLUMN`. -/
def alterTableAddColumn (name columnName : String) (definition : ColumnDefinition)
    (db : Database) : Option Database := do
  let t ← db.tables name
  let cell ← definition.constant
  if hnew : columnName ∈ t.names then none
  else some (db.setTable name (t.addColumn columnName definition cell hnew))

/-- `CREATE INDEX IF NOT EXISTS`.  The table must be there even if the index is. -/
def createIndexIfNotExists (name : String) (index : Index) (db : Database) : Option Database := do
  let t ← db.tables index.table
  if (db.tables name).isSome then none
  else if (db.indexes name).isSome then some db
  else if ∀ column ∈ index.columns, column ∈ t.names then
    some { db with indexes := Function.update db.indexes name (some index) }
  else none

end Database

/-! ### The two tables -/

/-- `TEXT NOT NULL`, with the given default. -/
def textNotNull (default : ColumnDefault) : ColumnDefinition where
  type := "TEXT"
  notNull := true
  default := default
  autoincrement := false

/-- The table that `prepare_database` creates as `public_keys`. -/
def publicKeysTable : SqlTable :=
  .empty
    [("username", textNotNull .unset), ("identity_public_key", textNotNull (.text "")),
      ("encryption_public_key", textNotNull (.text "")), ("updated_at", textNotNull .now)]
    (some "username") (by decide) (by decide)

/-- The table that `prepare_database` creates as `queued_messages`. -/
def queuedMessagesTable : SqlTable :=
  .empty
    [("id", { type := "INTEGER", notNull := false, default := .unset, autoincrement := true }),
      ("recipient", textNotNull .unset),
      ("payload", { type := "BLOB", notNull := true, default := .unset, autoincrement := false }),
      ("created_at", textNotNull .now)]
    (some "id") (by decide) (by decide)

/-- The index that `prepare_database` creates as `queued_messages_recipient_id`. -/
def recipientIndex : Index where
  table := "queued_messages"
  columns := ["recipient", "id"]

/-! ### Preparing the database -/

/-- A function that calls the database. -/
abbrev DatabaseRun := Program (Metered Database) SqlError

/-- `add_column_if_missing`. -/
def addColumnIfMissing (columnName : String) (columnDefinition : ColumnDefinition) :
    DatabaseRun Unit := do
  let columns ← fetch .failed (Database.tableInfo "public_keys")
  if columns.any (· = columnName) then
    pure ()
  else
    execute .failed (Database.alterTableAddColumn "public_keys" columnName columnDefinition)

/-- `prepare_database`. -/
def prepareDatabase : DatabaseRun Unit := do
  execute .failed (Database.createTableIfNotExists "public_keys" publicKeysTable)
  addColumnIfMissing "identity_public_key" (textNotNull (.text ""))
  addColumnIfMissing "encryption_public_key" (textNotNull (.text ""))
  execute .failed (Database.createTableIfNotExists "queued_messages" queuedMessagesTable)
  execute .failed (Database.createIndexIfNotExists "queued_messages_recipient_id" recipientIndex)

/-! ### What a statement keeps -/

namespace Database

/-- `Keeps db db'`: nothing that is in `db` has gone from `db'`. -/
structure Keeps (db db' : Database) : Prop where
  tables : ∀ name t, db.tables name = some t → ∃ t', db'.tables name = some t' ∧ t.Keeps t'
  indexes : ∀ name index, db.indexes name = some index → db'.indexes name = some index

theorem Keeps.refl (db : Database) :
  Keeps db db
  where
  tables _ t ht := ⟨t, ht, Table.Keeps.refl t⟩
  indexes _ _ hindex := hindex

theorem Keeps.trans {db db' db'' : Database} (h : Keeps db db') (h' : Keeps db' db'') :
  Keeps db db''
  where
  tables name t ht := by
    obtain ⟨t', ht', hkeeps⟩ := h.tables name t ht
    obtain ⟨t'', ht'', hkeeps'⟩ := h'.tables name t' ht'
    exact ⟨t'', ht'', hkeeps.trans hkeeps'⟩
  indexes name index hindex := h'.indexes name index (h.indexes name index hindex)

@[simp]
theorem tables_setTable_self (db : Database) (name : String) (t : SqlTable) :
  (db.setTable name t).tables name = some t
  := Function.update_self ..

theorem tables_setTable_of_ne (db : Database) {name name' : String} (hne : name' ≠ name)
    (t : SqlTable) :
  (db.setTable name t).tables name' = db.tables name'
  := Function.update_of_ne hne ..

theorem keeps_setTable
    {db : Database} {name : String} {t : SqlTable}
    (h : ∀ t₀, db.tables name = some t₀ → t₀.Keeps t) :
  Keeps db (db.setTable name t)
  where
  tables name' t' ht' := by
    by_cases hname : name' = name
    · subst hname
      exact ⟨t, tables_setTable_self db name' t, h t' ht'⟩
    · use t'
      rw [tables_setTable_of_ne db hname]
      exact ⟨ht', Table.Keeps.refl t'⟩
  indexes _ _ hindex := hindex

theorem keeps_createTableIfNotExists
    {name : String} {t : SqlTable} {db db' : Database}
    (h : db.createTableIfNotExists name t = some db') :
  Keeps db db'
  := by
  rw [createTableIfNotExists] at h
  split at h
  · cases h
    apply Keeps.refl
  · rename_i hnone
    obtain ⟨-, ⟨⟩⟩ := Option.ite_none_left_eq_some.mp h
    apply keeps_setTable
    intro t₀ ht₀
    rw [ht₀] at hnone
    exact absurd rfl hnone

/-- A column is added to the table that is there, with its default in every row. -/
theorem alterTableAddColumn_eq_some
    {name columnName : String} {definition : ColumnDefinition} {db db' : Database} :
  db.alterTableAddColumn name columnName definition = some db'
    ↔ ∃ t, db.tables name = some t ∧ ∃ cell, definition.constant = some cell
      ∧ ∃ hnew : columnName ∉ t.names,
        db' = db.setTable name (t.addColumn columnName definition cell hnew)
  := by
  simp only [alterTableAddColumn, Option.bind_eq_bind, Option.bind_eq_some_iff,
    Option.dite_none_left_eq_some, Option.some.injEq, @eq_comm _ db']

theorem keeps_alterTableAddColumn
    {name columnName : String} {definition : ColumnDefinition} {db db' : Database}
    (h : db.alterTableAddColumn name columnName definition = some db') :
  Keeps db db'
  := by
  obtain ⟨t, ht, cell, -, hnew, rfl⟩ := alterTableAddColumn_eq_some.mp h
  apply keeps_setTable
  intro t₀ ht₀
  rw [ht] at ht₀
  cases ht₀
  apply Table.keeps_addColumn

theorem keeps_createIndexIfNotExists
    {name : String} {index : Index} {db db' : Database}
    (h : db.createIndexIfNotExists name index = some db') :
  Keeps db db'
  := by
  obtain ⟨t, -, h⟩ := Option.bind_eq_some_iff.mp h
  obtain ⟨-, h⟩ := Option.ite_none_left_eq_some.mp h
  split at h
  · cases h
    apply Keeps.refl
  · rename_i hnone
    obtain ⟨-, ⟨⟩⟩ := Option.ite_none_right_eq_some.mp h
    constructor
    · intro name' t' ht'
      exact ⟨t', ht', Table.Keeps.refl t'⟩
    · intro name' index' hindex'
      dsimp only
      rw [Function.update_of_ne]
      · apply hindex'
      · rintro rfl
        rw [hindex'] at hnone
        exact hnone rfl

end Database

/-! ### The steps of the migration -/

/-- The step of `add_column_if_missing`. -/
def addColumnStep (columnName : String) (columnDefinition : ColumnDefinition) (db : Database) :
    Option Database :=
  (db.tableInfo "public_keys").bind fun columns =>
    if columns.any (· = columnName) then some db
    else db.alterTableAddColumn "public_keys" columnName columnDefinition

/-- The steps of `prepare_database` on `public_keys`. -/
def publicKeysSteps : List (Database → Option Database) :=
  [Database.createTableIfNotExists "public_keys" publicKeysTable,
    addColumnStep "identity_public_key" (textNotNull (.text "")),
    addColumnStep "encryption_public_key" (textNotNull (.text ""))]

/-- The steps of `prepare_database` on `queued_messages`. -/
def queuedMessagesSteps : List (Database → Option Database) :=
  [Database.createTableIfNotExists "queued_messages" queuedMessagesTable,
    Database.createIndexIfNotExists "queued_messages_recipient_id" recipientIndex]

/-- The steps of `prepare_database`. -/
def migrationSteps : List (Database → Option Database) :=
  publicKeysSteps ++ queuedMessagesSteps

theorem performs_addColumnIfMissing (columnName : String) (definition : ColumnDefinition) :
  Performs (addColumnIfMissing columnName definition) [addColumnStep columnName definition] 2
  := by
  have hnext : ∀ columns : List String, Performs
      (if columns.any (· = columnName) then pure ()
        else execute .failed
          (Database.alterTableAddColumn "public_keys" columnName definition) : DatabaseRun Unit)
      [fun db => if columns.any (· = columnName) then some db
        else db.alterTableAddColumn "public_keys" columnName definition] 1 := by
    intro columns
    cases columns.any (· = columnName)
    · apply performs_execute
    · apply performs_pure.mono (Nat.zero_le 1)
  exact performs_fetch .failed (Database.tableInfo "public_keys") hnext

/-- The part of `prepare_database` on `public_keys`. -/
def preparePublicKeys : DatabaseRun Unit := do
  execute .failed (Database.createTableIfNotExists "public_keys" publicKeysTable)
  addColumnIfMissing "identity_public_key" (textNotNull (.text ""))
  addColumnIfMissing "encryption_public_key" (textNotNull (.text ""))

/-- The part of `prepare_database` on `queued_messages`. -/
def prepareQueuedMessages : DatabaseRun Unit := do
  execute .failed (Database.createTableIfNotExists "queued_messages" queuedMessagesTable)
  execute .failed (Database.createIndexIfNotExists "queued_messages_recipient_id" recipientIndex)

theorem prepareDatabase_eq :
  prepareDatabase = preparePublicKeys >>= fun _ => prepareQueuedMessages
  := by
  simp only [prepareDatabase, preparePublicKeys, prepareQueuedMessages, bind_assoc]

theorem performs_preparePublicKeys :
  Performs preparePublicKeys publicKeysSteps 5
  := by
  have hidentity :=
    (performs_addColumnIfMissing "identity_public_key" (textNotNull (.text ""))).bind
      (performs_addColumnIfMissing "encryption_public_key" (textNotNull (.text "")))
  exact (performs_execute SqlError.failed
    (Database.createTableIfNotExists "public_keys" publicKeysTable)).bind hidentity

theorem performs_prepareQueuedMessages :
  Performs prepareQueuedMessages queuedMessagesSteps 2
  := by
  have hindex := performs_execute SqlError.failed
    (Database.createIndexIfNotExists "queued_messages_recipient_id" recipientIndex)
  exact (performs_execute SqlError.failed
    (Database.createTableIfNotExists "queued_messages" queuedMessagesTable)).bind hindex

/-- `prepare_database` takes its steps, with at most seven statements. -/
theorem performs_prepareDatabase :
  Performs prepareDatabase migrationSteps 7
  := by
  rw [prepareDatabase_eq]
  exact performs_preparePublicKeys.bind performs_prepareQueuedMessages

/-- The table `public_keys` is there and has the column. -/
def Database.HasColumn (columnName : String) (db : Database) : Prop :=
  ∃ t, db.tables "public_keys" = some t ∧ columnName ∈ t.names

/-- A step finds the column there, or adds it. -/
theorem addColumnStep_eq_some
    {columnName : String} {definition : ColumnDefinition} {db db' : Database} :
  addColumnStep columnName definition db = some db'
    ↔ db.HasColumn columnName ∧ db' = db
      ∨ db.alterTableAddColumn "public_keys" columnName definition = some db'
  := by
  rw [addColumnStep, Database.tableInfo, Option.bind_some]
  cases ht : db.tables "public_keys" with
  | none => simp [Database.HasColumn, Database.alterTableAddColumn, ht]
  | some t =>
      have hany : t.names.any (· = columnName) = decide (columnName ∈ t.names) := by
        rw [Bool.eq_iff_iff, List.any_eq_true, decide_eq_true_iff]
        simp only [decide_eq_true_eq, exists_eq_right]
      rw [Option.map_some, Option.getD_some, hany, Database.HasColumn]
      by_cases hname : columnName ∈ t.names
      · have halter : db.alterTableAddColumn "public_keys" columnName definition ≠ some db' := by
          rw [ne_eq, Database.alterTableAddColumn_eq_some]
          rintro ⟨t', ht', cell, -, hnew, -⟩
          rw [ht] at ht'
          cases ht'
          exact hnew hname
        simp [ht, hname, halter, eq_comm]
      · simp [ht, hname]

/-- Every step keeps what is there. -/
theorem keeps_of_mem_migrationSteps
    {step : Database → Option Database} (hstep : step ∈ migrationSteps) {db db' : Database}
    (h : step db = some db') :
  db.Keeps db'
  := by
  have hcolumn : ∀ {columnName definition}, addColumnStep columnName definition db = some db' →
      db.Keeps db' := by
    intro columnName definition h
    rcases addColumnStep_eq_some.mp h with ⟨-, rfl⟩ | h
    · apply Database.Keeps.refl
    · apply Database.keeps_alterTableAddColumn h
  simp only [migrationSteps, publicKeysSteps, queuedMessagesSteps, List.cons_append,
    List.nil_append, List.mem_cons, List.not_mem_nil, or_false] at hstep
  rcases hstep with rfl | rfl | rfl | rfl | rfl
  · apply Database.keeps_createTableIfNotExists h
  · apply hcolumn h
  · apply hcolumn h
  · apply Database.keeps_createTableIfNotExists h
  · apply Database.keeps_createIndexIfNotExists h

/-- The steps on `queued_messages` leave `public_keys`. -/
theorem publicKeys_of_mem_queuedMessagesSteps
    {step : Database → Option Database} (hstep : step ∈ queuedMessagesSteps) {db db' : Database}
    (h : step db = some db') :
  db'.tables "public_keys" = db.tables "public_keys"
  := by
  simp only [queuedMessagesSteps, List.mem_cons, List.not_mem_nil, or_false] at hstep
  rcases hstep with rfl | rfl
  · rw [Database.createTableIfNotExists] at h
    split at h
    · cases h
      rfl
    · obtain ⟨-, ⟨⟩⟩ := Option.ite_none_left_eq_some.mp h
      apply Database.tables_setTable_of_ne db (by decide)
  · obtain ⟨t, -, h⟩ := Option.bind_eq_some_iff.mp h
    obtain ⟨-, h⟩ := Option.ite_none_left_eq_some.mp h
    split at h
    · cases h
      rfl
    · obtain ⟨-, ⟨⟩⟩ := Option.ite_none_right_eq_some.mp h
      rfl

/-- What statements that keep what is there cannot undo is kept. -/
theorem stepKeeps_of_keeps
    {P : Database → Prop} (hP : ∀ db db', db.Keeps db' → P db → P db')
    {step : Database → Option Database} (hstep : step ∈ migrationSteps) :
  StepKeeps P step
  := by
  intro db db' h
  apply hP db db' (keeps_of_mem_migrationSteps hstep h)

theorem achieves_createTableIfNotExists (name : String) (t : SqlTable) :
  Achieves (Database.createTableIfNotExists name t) fun db => (db.tables name).isSome
  where
  done db db' h := by
    rw [Database.createTableIfNotExists] at h
    split at h
    · rename_i hsome
      cases h
      apply hsome
    · obtain ⟨-, ⟨⟩⟩ := Option.ite_none_left_eq_some.mp h
      rw [Database.tables_setTable_self]
      rfl
  again db hsome := if_pos hsome

theorem achieves_addColumnStep (columnName : String) (definition : ColumnDefinition) :
  Achieves (addColumnStep columnName definition) (Database.HasColumn columnName)
  where
  done db db' h := by
    rcases addColumnStep_eq_some.mp h with ⟨hcolumn, rfl⟩ | h
    · apply hcolumn
    · obtain ⟨t, -, cell, -, hnew, rfl⟩ := Database.alterTableAddColumn_eq_some.mp h
      use t.addColumn columnName definition cell hnew
      rw [Database.tables_setTable_self, Table.names_addColumn]
      simp
  again db hcolumn := addColumnStep_eq_some.mpr (Or.inl ⟨hcolumn, rfl⟩)

/-- The index is there, and could be created. -/
structure Database.HasIndex (name : String) (index : Index) (db : Database) : Prop where
  present : (db.indexes name).isSome
  table : (db.tables index.table).isSome
  free : db.tables name = none

theorem achieves_createIndexIfNotExists (name : String) (index : Index) :
  Achieves (Database.createIndexIfNotExists name index) (Database.HasIndex name index)
  where
  done db db' h := by
    obtain ⟨t, ht, h⟩ := Option.bind_eq_some_iff.mp h
    obtain ⟨hfree, h⟩ := Option.ite_none_left_eq_some.mp h
    rw [Option.not_isSome_iff_eq_none] at hfree
    split at h
    · rename_i hindex
      cases h
      exact ⟨hindex, Option.isSome_of_eq_some ht, hfree⟩
    · obtain ⟨-, ⟨⟩⟩ := Option.ite_none_right_eq_some.mp h
      constructor
      · dsimp only
        rw [Function.update_self]
        rfl
      · exact Option.isSome_of_eq_some ht
      · apply hfree
  again db h := by
    obtain ⟨t, ht⟩ := Option.isSome_iff_exists.mp h.table
    rw [Database.createIndexIfNotExists, ht, Option.bind_eq_bind, Option.bind_some, h.free]
    rw [if_neg (by simp), if_pos h.present]

/-- Each step of the migration achieves something that the later ones keep. -/
theorem restartable_migrationSteps :
  Restartable migrationSteps
  := by
  have htable : ∀ name db db', Database.Keeps db db' → (db.tables name).isSome →
      (db'.tables name).isSome := by
    intro name db db' hkeeps hsome
    obtain ⟨t, ht⟩ := Option.isSome_iff_exists.mp hsome
    obtain ⟨t', ht', -⟩ := hkeeps.tables name t ht
    exact Option.isSome_of_eq_some ht'
  have hcolumn : ∀ columnName db db', Database.Keeps db db' → db.HasColumn columnName →
      db'.HasColumn columnName := by
    rintro columnName db db' hkeeps ⟨t, ht, hname⟩
    obtain ⟨t', ht', hkeeps'⟩ := hkeeps.tables "public_keys" t ht
    exact ⟨t', ht', hkeeps'.names hname⟩
  have hlater : ∀ P : Database → Prop, (∀ db db', db.Keeps db' → P db → P db') →
      ∀ n, ∀ later ∈ migrationSteps.drop n, StepKeeps P later := by
    intro P hP n later hmem
    apply stepKeeps_of_keeps hP (List.mem_of_mem_drop hmem)
  apply Restartable.cons _ (achieves_createTableIfNotExists _ _) (hlater _ (htable _) 1)
  apply Restartable.cons _ (achieves_addColumnStep _ _) (hlater _ (hcolumn _) 2)
  apply Restartable.cons _ (achieves_addColumnStep _ _) (hlater _ (hcolumn _) 3)
  apply Restartable.cons _ (achieves_createTableIfNotExists _ _) (hlater _ (htable _) 4)
  apply Restartable.cons _ (achieves_createIndexIfNotExists _ _) _ Restartable.nil
  intro later hmem
  cases hmem

/-! ### What the migration adds -/

/-- `Filled t t'`: `t'` keeps `t`, and has the empty text in its other columns. -/
structure Filled (t t' : SqlTable) : Prop where
  keeps : t.Keeps t'
  empty : ∀ row ∈ t'.rows, ∀ name ∈ t'.names, name ∉ t.names → t'.cell name row = some (.text "")

theorem Filled.refl (t : SqlTable) :
  Filled t t
  where
  keeps := Table.Keeps.refl t
  empty _ _ _ hname hnew := absurd hname hnew

theorem Filled.trans {t t' t'' : SqlTable} (h : Filled t t') (h' : Filled t' t'') :
  Filled t t''
  where
  keeps := h.keeps.trans h'.keeps
  empty row hrow name hname hnew := by
    by_cases hname' : name ∈ t'.names
    · obtain ⟨row', hrow', hcells⟩ := h'.keeps.exists_row hrow
      rw [hcells name hname', h.empty row' hrow' name hname' hnew]
    · apply h'.empty row hrow name hname hname'

theorem filled_addColumn
    {t : SqlTable} {columnName : String} (definition : ColumnDefinition)
    (hnew : columnName ∉ t.names) :
  Filled t (t.addColumn columnName definition (.text "") hnew)
  where
  keeps := Table.keeps_addColumn
  empty row hrow name hname hnot := by
    rw [Table.names_addColumn, List.mem_append, or_iff_right hnot, List.mem_singleton] at hname
    subst hname
    obtain ⟨row', hrow', rfl⟩ := List.mem_map.mp hrow
    apply Table.cell_addColumn_self hnew hrow'

/-- A column of texts that is missing is added, and filled with empty texts. -/
theorem exists_addColumnStep
    {db : Database} {t : SqlTable} (ht : db.tables "public_keys" = some t) (columnName : String) :
  ∃ db' t', addColumnStep columnName (textNotNull (.text "")) db = some db'
    ∧ db'.tables "public_keys" = some t' ∧ Filled t t' ∧ columnName ∈ t'.names
  := by
  by_cases hname : columnName ∈ t.names
  · use db, t, addColumnStep_eq_some.mpr (Or.inl ⟨⟨t, ht, hname⟩, rfl⟩), ht, Filled.refl t, hname
  · use
      db.setTable "public_keys" (t.addColumn columnName (textNotNull (.text "")) (.text "") hname),
      t.addColumn columnName (textNotNull (.text "")) (.text "") hname
    rw [addColumnStep_eq_some, Database.alterTableAddColumn_eq_some]
    constructor
    · right
      exact ⟨t, ht, .text "", rfl, hname, rfl⟩
    · rw [Database.tables_setTable_self, Table.names_addColumn]
      exact ⟨rfl, filled_addColumn _ hname, by simp⟩

/-- On a table that is there, the steps add the columns of keys that are missing. -/
theorem exists_publicKeysSteps
    {db : Database} {t : SqlTable} (ht : db.tables "public_keys" = some t) :
  ∃ db' t', runSteps publicKeysSteps db = some db' ∧ db'.tables "public_keys" = some t'
    ∧ Filled t t' ∧ "identity_public_key" ∈ t'.names ∧ "encryption_public_key" ∈ t'.names
  := by
  obtain ⟨db₁, t₁, hstep₁, ht₁, hfilled₁, hidentity⟩ :=
    exists_addColumnStep ht "identity_public_key"
  obtain ⟨db₂, t₂, hstep₂, ht₂, hfilled₂, hencryption⟩ :=
    exists_addColumnStep ht₁ "encryption_public_key"
  have hcreate : db.createTableIfNotExists "public_keys" publicKeysTable = some db :=
    if_pos (Option.isSome_of_eq_some ht)
  use db₂, t₂
  constructor
  · rw [publicKeysSteps, runSteps, hcreate, Option.bind_some, runSteps, hstep₁, Option.bind_some,
      runSteps, hstep₂]
    rfl
  · exact ⟨ht₂, hfilled₁.trans hfilled₂, hfilled₂.keeps.names hidentity, hencryption⟩

/-- What the steps on `public_keys` make of the table is what `prepare_database` does, whatever
becomes of `queued_messages`. -/
theorem publicKeys_of_runSteps
    {db db' : Database} (hsteps : runSteps publicKeysSteps db = some db') {left : ℕ}
    (hleft : 5 ≤ left) :
  (prepareDatabase.outcome ⟨db, left⟩).2.store.tables "public_keys" = db'.tables "public_keys"
  := by
  obtain ⟨hok, -⟩ :=
    performs_preparePublicKeys.succeeds ⟨db, left⟩ hleft (Option.isSome_of_eq_some hsteps)
  have hcomplete := performs_preparePublicKeys.complete ⟨db, left⟩ hok
  rw [hsteps, Option.some.injEq] at hcomplete
  rw [prepareDatabase_eq, Program.outcome_bind]
  rcases hrun : preparePublicKeys.outcome ⟨db, left⟩ with ⟨_ | ⟨⟩, metered⟩
  · rw [hrun] at hok
    cases hok
  · rw [hrun] at hcomplete
    subst hcomplete
    have hkeeps : ∀ step ∈ queuedMessagesSteps, StepKeeps
        (fun db => db.tables "public_keys" = metered.store.tables "public_keys") step := by
      intro step hstep db db' h ht
      rw [publicKeys_of_mem_queuedMessagesSteps hstep h, ht]
    exact (performs_prepareQueuedMessages.stopped metered).keeps hkeeps rfl

/-! ### Interrupted migrations -/

/-- `RunLeaves db db'`: a run of `prepare_database` from `db` leaves `db'`, whether it is
complete or cut off after some number of statements. -/
def RunLeaves (db db' : Database) : Prop :=
  ∃ left, (prepareDatabase.outcome ⟨db, left⟩).2.store = db'

/-- Whatever number of runs came before it, and wherever they were cut off, a run of
`prepare_database` that is complete ends in the database in which one uninterrupted run does;
nothing has gone from the database, and another run changes nothing. -/
theorem prepareDatabase_restartable
    {db db' : Database} (hruns : Relation.ReflTransGen RunLeaves db db') {left : ℕ}
    {final : Metered Database}
    (hcomplete : prepareDatabase.outcome ⟨db', left⟩ = (.ok (), final)) :
  (∀ left', 7 ≤ left' → (prepareDatabase.outcome ⟨db, left'⟩).1 = .ok ()
      ∧ (prepareDatabase.outcome ⟨db, left'⟩).2.store = final.store)
    ∧ db.Keeps final.store
    ∧ ∀ left', (prepareDatabase.outcome ⟨final.store, left'⟩).2.store = final.store
  := by
  have hperforms := performs_prepareDatabase
  have hstopped : Relation.ReflTransGen (Stopped migrationSteps) db db' := by
    apply Relation.ReflTransGen.mono _ _ _ hruns
    rintro db db' ⟨left, rfl⟩
    apply hperforms.stopped ⟨db, left⟩
  have hrun : runSteps migrationSteps db' = some final.store := by
    have hsteps := hperforms.complete ⟨db', left⟩
    rw [hcomplete] at hsteps
    apply hsteps rfl
  rw [runSteps_of_stopped_many restartable_migrationSteps hstopped] at hrun
  constructor
  · intro left' hleft'
    obtain ⟨hok, -⟩ :=
      hperforms.succeeds ⟨db, left'⟩ hleft' (Option.isSome_of_eq_some hrun)
    have hsteps := hperforms.complete ⟨db, left'⟩ hok
    rw [hrun] at hsteps
    exact ⟨hok, (Option.some.inj hsteps).symm⟩
  constructor
  · apply (stopped_of_runSteps hrun).related Database.Keeps.refl
    · intro _ _ _ h h'
      apply h.trans h'
    · intro step hstep db db' h
      apply keeps_of_mem_migrationSteps hstep h
  · intro left'
    have hfixed := runSteps_of_runSteps restartable_migrationSteps hrun
    apply eq_of_stopped restartable_migrationSteps hfixed (hperforms.stopped ⟨final.store, left'⟩)

/-- A table from before the columns of keys, with one row. -/
def oldTable : SqlTable where
  columns := [("username", textNotNull .unset), ("updated_at", textNotNull .now)]
  key := some "username"
  rows := [[.text "alice", .text "2024-05-01T10:00:00.000Z"]]
  nodup := by decide
  rectangular := by decide
  key_mem := by decide
  distinct := by decide

/-- The database with this table. -/
def oldDatabase : Database where
  tables name := if name = "public_keys" then some oldTable else none
  indexes _ := none

/-- The database after a run that was cut off once the first column was added. -/
def halfMigrated : Database :=
  (prepareDatabase.outcome ⟨oldDatabase, 3⟩).2.store

/-- The database after a complete run from there. -/
def migrated : Database :=
  (prepareDatabase.outcome ⟨halfMigrated, 7⟩).2.store

/-- The run that was cut off makes no difference. -/
theorem prepareDatabase_restartable_sample :
  (∀ left', 7 ≤ left' → (prepareDatabase.outcome ⟨oldDatabase, left'⟩).1 = .ok ()
      ∧ (prepareDatabase.outcome ⟨oldDatabase, left'⟩).2.store = migrated)
    ∧ oldDatabase.Keeps migrated
    ∧ ∀ left', (prepareDatabase.outcome ⟨migrated, left'⟩).2.store = migrated
  := by
  have hruns : Relation.ReflTransGen RunLeaves oldDatabase halfMigrated :=
    Relation.ReflTransGen.single ⟨3, rfl⟩
  have hcomplete : prepareDatabase.outcome ⟨halfMigrated, 7⟩
      = (.ok (), (prepareDatabase.outcome ⟨halfMigrated, 7⟩).2) := by
    apply Prod.ext
    · rfl
    · rfl
  exact prepareDatabase_restartable hruns hcomplete

end Phantasma.Sqlite
