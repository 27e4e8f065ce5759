import Phantasma.Base.TransitionSystem
import Phantasma.Relay.Schema
import Phantasma.Shared.JsonText

/-!
# The entries of the directory

`register_public_key` and `lookup_public_key` as statements on the table `public_keys`, the
handlers over them, and what the handlers do in any order with runs of `prepare_database`.
`entries_wellFormed_iff` says for which tables every entry that is handed out is well formed:
the migration fills the keys of the rows it finds with empty texts.

`Represents` connects the table with the abstract `Directory`: on a table that has all
columns the statements do what the directory does.
-/

namespace Phantasma.Sqlite

open Restart TransitionSystem

/-! ### The statements -/

/-- The `INSERT .. ON CONFLICT` of `register_public_key`, at the time `now`. -/
def Database.upsertPublicKey (registration : PublicKeyRegistration) (now : String)
    (db : Database) : Option Database := do
  let t ← db.tables "public_keys"
  let t' ← t.upsert (ColumnDefinition.fill now) "username" (.text registration.username)
    [("identity_public_key", .text registration.identityPublicKey),
      ("encryption_public_key", .text registration.encryptionPublicKey),
      ("updated_at", .text now)]
  return db.setTable "public_keys" t'

/-- `register_public_key` of the directory. -/
def registerPublicKey (registration : PublicKeyRegistration) (now : String) :
    DatabaseRun PublicKeyEntry := do
  execute .failed (Database.upsertPublicKey registration now)
  return registration.entry

/-- The columns that `lookup_public_key` selects. -/
def selectedColumns : List String :=
  ["username", "identity_public_key", "encryption_public_key"]

/-- The `SELECT` of `lookup_public_key`, and its row if there is one. -/
def Database.selectPublicKey (username : String) (db : Database) :
    Option (Option (List (Option Cell))) := do
  let t ← db.tables "public_keys"
  if ∀ name ∈ selectedColumns, name ∈ t.names then
    some ((t.find "username" (.text username)).map fun row =>
      selectedColumns.map fun name => t.cell name row)
  else none

/-- `row.get`, at a string. -/
def getString : Option Cell → Except SqlError String
  | some (.text s) => .ok s
  | _ => .error .panicked

/-- The entry of the row that is selected. -/
def entryOfRow (row : List (Option Cell)) : Except SqlError PublicKeyEntry := do
  let [username, identityPublicKey, encryptionPublicKey] := row | throw .panicked
  return ⟨← getString username, ← getString identityPublicKey, ← getString encryptionPublicKey⟩

/-- `lookup_public_key` of the directory. -/
def lookupPublicKey (username : String) : DatabaseRun (Option PublicKeyEntry) := do
  let row ← fetch .failed (Database.selectPublicKey username)
  match row with
  | some row => do
      let entry ← Program.ofExcept (entryOfRow row)
      return some entry
  | none => return none

/-! ### The handlers -/

/-- How a handler ends that does not answer with an entry: with a status and a text, or in a
panic. -/
inductive Failure where
  | answer (status : ℕ) (text : String)
  | panicked
deriving DecidableEq

/-- `internal_error`, for an error of the database. -/
def Failure.ofSqlError : SqlError → Failure
  | .failed => .answer internalError.1 internalError.2
  | .panicked => .panicked

/-- A handler. -/
abbrev Handler := Program (Metered Database) Failure

/-- The extractor `Json<PublicKeyRegistration>`, for a body that is declared to be JSON or is
not.  Its rejections have the texts of the framework. -/
def extractRegistration (serde : JsonCodec) (framework : ℕ → String) (isJson : Bool)
    (body : Bytes) : Except Failure PublicKeyRegistration := do
  if !isJson then
    throw (.answer 415 (framework 415))
  match serde.fromSlice body with
  | none => throw (.answer 400 (framework 400))
  | some value =>
      match PublicKeyRegistration.ofJson value with
      | none => throw (.answer 422 (framework 422))
      | some registration => return registration

/-- The handler `register_public_key`. -/
def postUsers (serde : JsonCodec) (framework : ℕ → String) (isJson : Bool) (body : Bytes)
    (now : String) : Handler PublicKeyEntry := do
  let registration ← Program.ofExcept (extractRegistration serde framework isJson body)
  Program.ofExcept ((validateRegistration registration).mapError fun (status, text) =>
    .answer status.code text)
  Program.mapError .ofSqlError (registerPublicKey registration now)

/-- The handler `lookup_public_key`. -/
def getPublicKey (username : String) : Handler PublicKeyEntry := do
  if !isValidUsername username then
    throw (.answer 400 "username must use only letters, numbers, '.', '-', or '_'")
  let entry ← Program.mapError .ofSqlError (lookupPublicKey username)
  match entry with
  | some entry => return entry
  | none => throw (.answer 404 "public key not found")

/-! ### What happens to a database -/

/-- A run of `prepare_database` or a request, with the number of statements that the database
executes for it. -/
inductive Operation where
  | prepareDatabase (left : ℕ)
  | postUsers (isJson : Bool) (body : Bytes) (now : String) (left : ℕ)
  | getPublicKey (username : String) (left : ℕ)

/-- The database after an operation. -/
def Operation.after (serde : JsonCodec) (framework : ℕ → String) (db : Database) :
    Operation → Database
  | .prepareDatabase left => (Sqlite.prepareDatabase.outcome ⟨db, left⟩).2.store
  | .postUsers isJson body now left =>
      ((Sqlite.postUsers serde framework isJson body now).outcome ⟨db, left⟩).2.store
  | .getPublicKey username left => ((Sqlite.getPublicKey username).outcome ⟨db, left⟩).2.store

/-- Operations as a transition system. -/
def operate (serde : JsonCodec) (framework : ℕ → String) (db : Database)
    (operation : Operation) : Option Database :=
  some (operation.after serde framework db)

/-! ### What the handlers do -/

/-- A registration changes the table when it is valid and its statement succeeds. -/
theorem store_postUsers
    (serde : JsonCodec) (framework : ℕ → String) (isJson : Bool) (body : Bytes) (now : String)
    (metered : Metered Database) :
  ((postUsers serde framework isJson body now).outcome metered).2.store = metered.store
    ∨ ∃ registration, validateRegistration registration = .ok ()
      ∧ metered.store.upsertPublicKey registration now
        = some ((postUsers serde framework isJson body now).outcome metered).2.store
  := by
  rw [postUsers, Program.outcome_bind, Program.outcome_ofExcept]
  cases extractRegistration serde framework isJson body with
  | error err =>
      left
      rfl
  | ok registration =>
      dsimp only
      rw [Program.outcome_bind, Program.outcome_ofExcept]
      cases hvalid : validateRegistration registration with
      | error err =>
          left
          rfl
      | ok _ =>
          dsimp only [Except.mapError]
          rw [Program.outcome_mapError, registerPublicKey, Program.outcome_bind]
          rcases execute_cases SqlError.failed (Database.upsertPublicKey registration now) metered
            with ⟨hrun, -⟩ | ⟨left, store, -, hstep, hrun⟩
          · left
            rw [hrun]
          · right
            use registration, hvalid
            rw [hrun, hstep]
            rfl

/-- A row is an entry when it consists of texts. -/
theorem entryOfRow_eq_ok {row : List (Option Cell)} {entry : PublicKeyEntry} :
  entryOfRow row = .ok entry
    ↔ row = [some (.text entry.username), some (.text entry.identityPublicKey),
      some (.text entry.encryptionPublicKey)]
  := by
  have hstring : ∀ {cell s}, getString cell = .ok s ↔ cell = some (.text s) := by
    intro cell s
    unfold getString
    split
    · simp
    · rename_i hnot
      constructor
      · intro h
        cases h
      · intro h
        exact absurd h (hnot s)
  constructor
  · intro h
    unfold entryOfRow at h
    split at h
    · obtain ⟨u, hu, h⟩ := bind_eq_ok.mp h
      obtain ⟨i, hi, h⟩ := bind_eq_ok.mp h
      obtain ⟨e, he, ⟨⟩⟩ := bind_eq_ok.mp h
      rw [hstring.mp hu, hstring.mp hi, hstring.mp he]
    · cases h
  · rintro rfl
    rfl

/-- A lookup fails, or reads the row that is selected; it leaves the database. -/
theorem lookupPublicKey_cases (username : String) (metered : Metered Database) :
  (lookupPublicKey username).outcome metered = (.error .failed, metered)
      ∧ (metered.left = 0 ∨ metered.store.selectPublicKey username = none)
    ∨ ∃ left row, metered.left = left + 1
      ∧ metered.store.selectPublicKey username = some row
      ∧ (lookupPublicKey username).outcome metered
        = (row.elim (.ok none) fun row => (entryOfRow row).map some, ⟨metered.store, left⟩)
  := by
  rw [lookupPublicKey, Program.outcome_bind]
  rcases fetch_cases SqlError.failed (Database.selectPublicKey username) metered with
    ⟨hrun, hfails⟩ | ⟨left, row, hleft, hselect, hrun⟩
  · left
    rw [hrun]
    exact ⟨rfl, hfails⟩
  · right
    use left, row, hleft, hselect
    rw [hrun]
    cases row with
    | none => rfl
    | some row =>
        dsimp only
        rw [Program.outcome_bind, Program.outcome_ofExcept, Option.elim_some]
        cases entryOfRow row <;> rfl

/-- What is found is selected, on a table that has the columns. -/
theorem selectPublicKey_of_find
    {db : Database} {t : SqlTable} (ht : db.tables "public_keys" = some t)
    (hnames : ∀ name ∈ selectedColumns, name ∈ t.names) {username : String} {row : List Cell}
    (hrow : t.find "username" (.text username) = some row) :
  db.selectPublicKey username = some (some (selectedColumns.map fun name => t.cell name row))
  := by
  rw [Database.selectPublicKey, ht, Option.bind_eq_bind, Option.bind_some, if_pos hnames, hrow]
  rfl

/-- A lookup hands out what is selected, when it consists of texts. -/
theorem getPublicKey_eq_ok
    {username : String} {metered : Metered Database} {entry : PublicKeyEntry} :
  ((getPublicKey username).outcome metered).1 = .ok entry
    ↔ isValidUsername username ∧ 0 < metered.left
      ∧ metered.store.selectPublicKey username = some (some [some (.text entry.username),
        some (.text entry.identityPublicKey), some (.text entry.encryptionPublicKey)])
  := by
  rw [getPublicKey]
  cases isValidUsername username with
  | false =>
      simp only [Bool.not_false, if_true, Bool.false_eq_true, false_and, iff_false]
      intro h
      cases h
  | true =>
      simp only [Bool.not_true, Bool.false_eq_true, if_false, true_and]
      rw [Program.outcome_bind, Program.outcome_mapError]
      rcases lookupPublicKey_cases username metered with
        ⟨hrun, hfails⟩ | ⟨left, row, hleft, hselect, hrun⟩
      · rw [hrun]
        constructor
        · intro h
          cases h
        · rintro ⟨hpos, hselect⟩
          rcases hfails with hzero | hnone
          · omega
          · rw [hnone] at hselect
            cases hselect
      · rw [hrun, hleft, hselect, and_iff_right left.succ_pos, Option.some.injEq]
        cases row with
        | none =>
            constructor
            · intro h
              cases h
            · intro h
              cases h
        | some row =>
            rw [Option.some.injEq, ← entryOfRow_eq_ok, Option.elim_some]
            cases entryOfRow row with
            | error err =>
                constructor
                · intro h
                  cases h
                · intro h
                  cases h
            | ok entry' =>
                change (.ok entry' : Except Failure PublicKeyEntry) = .ok entry ↔ _
                rw [Except.ok.injEq, Except.ok.injEq]

theorem store_getPublicKey (username : String) (metered : Metered Database) :
  ((getPublicKey username).outcome metered).2.store = metered.store
  := by
  rw [getPublicKey]
  cases isValidUsername username with
  | false => rfl
  | true =>
      simp only [Bool.not_true, Bool.false_eq_true, if_false]
      rw [Program.outcome_bind, Program.outcome_mapError]
      rcases lookupPublicKey_cases username metered with
        ⟨hrun, -⟩ | ⟨left, row, -, -, hrun⟩
      · rw [hrun]
        rfl
      · rw [hrun]
        cases row with
        | none => rfl
        | some row =>
            rw [Option.elim_some]
            cases entryOfRow row <;> rfl

/-! ### The table and the directory -/

/-- The cells that a lookup selects for an entry. -/
def cellsOf (entry : PublicKeyEntry) : List (Option Cell) :=
  [some (.text entry.username), some (.text entry.identityPublicKey),
    some (.text entry.encryptionPublicKey)]

/-- `Represents db directory`: `public_keys` has the key and the columns that
`prepare_database` gives it, and the rows of the directory. -/
def Represents (db : Database) (directory : Directory) : Prop :=
  ∃ t, db.tables "public_keys" = some t ∧ t.key = some "username"
    ∧ (∀ name, name ∈ t.names ↔ name ∈ publicKeysTable.names)
    ∧ ∀ username, (t.find "username" (.text username)).map
        (fun row => selectedColumns.map fun name => t.cell name row)
      = (directory.lookupPublicKey username).map cellsOf

/-- A database that is prepared for the first time has the empty directory. -/
theorem represents_prepareDatabase
    {db : Database} (htable : db.tables "public_keys" = none)
    (hindex : db.indexes "public_keys" = none) {left : ℕ} (hleft : 5 ≤ left) :
  Represents (prepareDatabase.outcome ⟨db, left⟩).2.store .empty
  := by
  have hcreate : db.createTableIfNotExists "public_keys" publicKeysTable
      = some (db.setTable "public_keys" publicKeysTable) := by
    rw [Database.createTableIfNotExists, htable, hindex]
    rfl
  have hcolumn : ∀ columnName ∈ publicKeysTable.names, ∀ definition,
      addColumnStep columnName definition (db.setTable "public_keys" publicKeysTable)
        = some (db.setTable "public_keys" publicKeysTable) := by
    intro columnName hname definition
    apply (achieves_addColumnStep columnName definition).again
    exact ⟨publicKeysTable, Database.tables_setTable_self .., hname⟩
  have hsteps : runSteps publicKeysSteps db = some (db.setTable "public_keys" publicKeysTable) := by
    rw [publicKeysSteps, runSteps, hcreate, Option.bind_some, runSteps, hcolumn _ (by decide),
      Option.bind_some, runSteps, hcolumn _ (by decide)]
    rfl
  use publicKeysTable
  rw [publicKeys_of_runSteps hsteps hleft, Database.tables_setTable_self]
  use rfl, rfl, fun _ => Iff.rfl
  intro username
  rw [Directory.lookupPublicKey_empty]
  rfl

/-- The statement of a registration can be executed on a table with the columns of
`prepare_database`. -/
theorem exists_upsert
    {t : Table String ColumnDefinition Cell} (hkey : t.key = some "username")
    (hnames : ∀ name, name ∈ t.names ↔ name ∈ publicKeysTable.names)
    (registration : PublicKeyRegistration) (now : String) :
  ∃ t', t.upsert (ColumnDefinition.fill now) "username" (.text registration.username)
    [("identity_public_key", .text registration.identityPublicKey),
      ("encryption_public_key", .text registration.encryptionPublicKey),
      ("updated_at", .text now)] = some t'
  := by
  apply Option.isSome_iff_exists.mp
  apply Table.isSome_upsert hkey
  · simp
  · have hassigned : ∀ name ∈ ["identity_public_key", "encryption_public_key", "updated_at"],
        name ∈ publicKeysTable.names := by
      decide
    intro name hname
    apply (hnames name).mpr (hassigned name hname)
  · intro column hcolumn
    have hname := (hnames column.1).mp (List.mem_map_of_mem hcolumn)
    rw [Option.isSome_or, Bool.or_eq_true]
    left
    simp only [publicKeysTable, Table.empty, Table.names, List.map_cons, List.map_nil,
      List.mem_cons, List.not_mem_nil, or_false] at hname
    rcases hname with h | h | h | h
    all_goals
      rw [h]
      rfl

/-- The statement of a registration does what the directory does. -/
theorem Represents.upsertPublicKey
    {db : Database} {directory : Directory} (h : Represents db directory)
    (registration : PublicKeyRegistration) (now : String) :
  ∃ db', db.upsertPublicKey registration now = some db'
    ∧ Represents db' (directory.registerPublicKey registration)
  := by
  obtain ⟨t, ht, hkey, hnames, hrows⟩ := h
  obtain ⟨t', ht'⟩ := exists_upsert hkey hnames registration now
  have hupserts := Table.upserts_of_upsert ht'
  have hnames' : t'.names = t.names := congrArg (List.map Prod.fst) hupserts.columns_eq
  use db.setTable "public_keys" t'
  constructor
  · rw [Database.upsertPublicKey, ht, Option.bind_eq_bind, Option.bind_some, ht']
    rfl
  use t', Database.tables_setTable_self .., hupserts.key_eq.trans hkey
  rw [hnames']
  use hnames
  intro username
  rw [Directory.lookupPublicKey_registerPublicKey]
  by_cases heq : registration.username = username
  · subst heq
    obtain ⟨row, hrow, hassigned⟩ := hupserts.assigned
    rw [if_pos rfl, hrow, Option.map_some, Option.map_some, selectedColumns, List.map_cons,
      List.map_cons, List.map_cons, List.map_nil, (Table.mem_of_find hrow).2,
      hassigned _ _ rfl, hassigned _ _ rfl]
    rfl
  · have hne : Cell.text username ≠ .text registration.username := by
      rw [ne_eq, Cell.text.injEq]
      exact Ne.symm heq
    have hcell : ∀ name row, t'.cell name row = t.cell name row := by
      intro name row
      rw [Table.cell, hnames', Table.cell]
    rw [if_neg heq, hupserts.others _ hne]
    simp only [hcell]
    apply hrows

/-- The `SELECT` finds what the directory has. -/
theorem Represents.selectPublicKey
    {db : Database} {directory : Directory} (h : Represents db directory) (username : String) :
  db.selectPublicKey username = some ((directory.lookupPublicKey username).map cellsOf)
  := by
  obtain ⟨t, ht, -, hnames, hrows⟩ := h
  have hselected : ∀ name ∈ selectedColumns, name ∈ t.names := by
    intro name hname
    apply (hnames name).mpr
    revert hname
    revert name
    decide
  rw [Database.selectPublicKey, ht, Option.bind_eq_bind, Option.bind_some, if_pos hselected, hrows]

/-- A handler's error as `Directory` has it. -/
def Failure.ofAnswer (err : ℕ × String) : Failure :=
  .answer err.1 err.2

/-- A registration that is read from the body does what the handler over the directory does. -/
theorem Represents.postUsers
    {db : Database} {directory : Directory} (h : Represents db directory) {serde : JsonCodec}
    {framework : ℕ → String} {isJson : Bool} {body : Bytes} {now : String}
    {registration : PublicKeyRegistration}
    (hextract : extractRegistration serde framework isJson body = .ok registration) (left : ℕ) :
  ((postUsers serde framework isJson body now).outcome ⟨db, left⟩).1
      = (handleRegistration directory (decide (0 < left)) registration).1.mapError .ofAnswer
    ∧ Represents ((postUsers serde framework isJson body now).outcome ⟨db, left⟩).2.store
      (handleRegistration directory (decide (0 < left)) registration).2
  := by
  rw [Sqlite.postUsers, Program.outcome_bind, Program.outcome_ofExcept, hextract]
  dsimp only
  rw [Program.outcome_bind, Program.outcome_ofExcept, handleRegistration]
  cases hvalid : validateRegistration registration with
  | error err => exact ⟨rfl, h⟩
  | ok _ =>
      dsimp only [Except.mapError]
      obtain ⟨db', hupsert, hdb'⟩ := h.upsertPublicKey registration now
      rw [Program.outcome_mapError, registerPublicKey, Program.outcome_bind]
      rcases execute_cases SqlError.failed (Database.upsertPublicKey registration now) ⟨db, left⟩
        with ⟨hrun, hzero | hnone⟩ | ⟨left', store, hleft, hstep, hrun⟩
      · dsimp only at hzero
        subst hzero
        rw [hrun]
        exact ⟨rfl, h⟩
      · rw [hupsert] at hnone
        cases hnone
      · dsimp only at hleft hstep
        subst hleft
        rw [hupsert] at hstep
        cases hstep
        rw [hrun]
        exact ⟨rfl, hdb'⟩

/-- A lookup answers what the handler over the directory does. -/
theorem Represents.getPublicKey
    {db : Database} {directory : Directory} (h : Represents db directory) (username : String)
    (left : ℕ) :
  ((getPublicKey username).outcome ⟨db, left⟩).1
    = (handleLookup directory (decide (0 < left)) username).mapError .ofAnswer
  := by
  rw [Sqlite.getPublicKey, handleLookup]
  cases isValidUsername username with
  | false => rfl
  | true =>
      simp only [Bool.not_true, Bool.false_eq_true, if_false]
      rw [Program.outcome_bind, Program.outcome_mapError]
      rcases lookupPublicKey_cases username ⟨db, left⟩ with
        ⟨hrun, hzero | hnone⟩ | ⟨left', row, hleft, hselect, hrun⟩
      · dsimp only at hzero
        subst hzero
        rw [hrun]
        rfl
      · rw [h.selectPublicKey] at hnone
        cases hnone
      · dsimp only at hleft hselect
        subst hleft
        rw [h.selectPublicKey] at hselect
        cases hselect
        rw [hrun]
        cases directory.lookupPublicKey username with
        | none => rfl
        | some entry => rfl

/-! ### Well-formed entries -/

/-- The entry has a valid username and two valid keys. -/
structure WellFormed (entry : PublicKeyEntry) : Prop where
  username : isValidUsername entry.username
  identityPublicKey : isValidEd25519PublicKeyText entry.identityPublicKey
  encryptionPublicKey : isValidX25519PublicKeyText entry.encryptionPublicKey

/-- What is assumed of a table before the start: it has the column of the usernames, which
are valid, and in the columns of keys that it has, the keys are valid. -/
structure Validated (t : SqlTable) : Prop where
  hasUsername : "username" ∈ t.names
  username : ∀ row ∈ t.rows, ∃ s, t.cell "username" row = some (.text s) ∧ isValidUsername s
  identityPublicKey : ∀ row ∈ t.rows, ∀ cell ∈ t.cell "identity_public_key" row,
    ∃ s, cell = .text s ∧ isValidEd25519PublicKeyText s
  encryptionPublicKey : ∀ row ∈ t.rows, ∀ cell ∈ t.cell "encryption_public_key" row,
    ∃ s, cell = .text s ∧ isValidX25519PublicKeyText s

/-- The table has no rows, or both columns of keys. -/
def HasKeys (t : SqlTable) : Prop :=
  t.rows = [] ∨ "identity_public_key" ∈ t.names ∧ "encryption_public_key" ∈ t.names

/-- The row has two valid keys. -/
def HasValidKeys (t : SqlTable) (row : List Cell) : Prop :=
  ∃ i e, t.cell "identity_public_key" row = some (.text i)
    ∧ t.cell "encryption_public_key" row = some (.text e)
    ∧ isValidEd25519PublicKeyText i ∧ isValidX25519PublicKeyText e

/-- Every row that a lookup can find has valid keys. -/
def KeysValid (db : Database) : Prop :=
  ∀ t, db.tables "public_keys" = some t → "username" ∈ t.names
    ∧ ∀ username row, t.find "username" (.text username) = some row → HasValidKeys t row

/-- A row with valid keys has them when the table keeps its cells. -/
theorem HasValidKeys.of_cells
    {t t' : SqlTable} {row row' : List Cell} (h : HasValidKeys t row) (hrow : row ∈ t.rows)
    (hcells : ∀ name ∈ t.names, t'.cell name row' = t.cell name row) :
  HasValidKeys t' row'
  := by
  obtain ⟨i, e, hi, he, hvalid⟩ := h
  have hname : ∀ {name cell}, t.cell name row = some cell → name ∈ t.names := by
    intro name cell hcell
    exact (t.isSome_cell hrow name).mp (Option.isSome_of_eq_some hcell)
  use i, e
  rw [hcells _ (hname hi), hcells _ (hname he)]
  exact ⟨hi, he, hvalid⟩

/-- What the lookup hands out is well formed. -/
theorem KeysValid.wellFormed
    {metered : Metered Database} (hkeys : KeysValid metered.store) {username : String}
    {entry : PublicKeyEntry} (h : ((getPublicKey username).outcome metered).1 = .ok entry) :
  WellFormed entry
  := by
  obtain ⟨hvalid, -, hselect⟩ := getPublicKey_eq_ok.mp h
  obtain ⟨t, ht, hselect⟩ := Option.bind_eq_some_iff.mp hselect
  obtain ⟨-, hselect⟩ := Option.ite_none_right_eq_some.mp hselect
  obtain ⟨row, hrow, hcells⟩ := Option.map_eq_some_iff.mp (Option.some.inj hselect)
  obtain ⟨i, e, hi, he, hivalid, hevalid⟩ := (hkeys t ht).2 username row hrow
  simp only [selectedColumns, List.map_cons, List.map_nil, List.cons.injEq, and_true,
    (Table.mem_of_find hrow).2, hi, he, Option.some.injEq, Cell.text.injEq] at hcells
  obtain ⟨hu, rfl, rfl⟩ := hcells
  exact ⟨hu ▸ hvalid, hivalid, hevalid⟩

/-! ### Operations keep the keys valid -/

/-- A table that a step of the migration makes has the usernames, and no rows. -/
theorem eq_publicKeysTable_of_mem_migrationSteps
    {step : Database → Option Database} (hstep : step ∈ migrationSteps) {db db' : Database}
    (h : step db = some db') (hnone : db.tables "public_keys" = none) {t : SqlTable}
    (ht : db'.tables "public_keys" = some t) :
  t = publicKeysTable
  := by
  have hcolumn : ∀ {columnName definition}, addColumnStep columnName definition db = some db' →
      t = publicKeysTable := by
    intro columnName definition h
    rcases addColumnStep_eq_some.mp h with ⟨⟨t', ht', -⟩, -⟩ | h
    · rw [hnone] at ht'
      cases ht'
    · obtain ⟨t', ht', -⟩ := Database.alterTableAddColumn_eq_some.mp h
      rw [hnone] at ht'
      cases ht'
  rcases List.mem_append.mp hstep with hstep | hstep
  · simp only [publicKeysSteps, List.mem_cons, List.not_mem_nil, or_false] at hstep
    rcases hstep with rfl | rfl | rfl
    · rw [Database.createTableIfNotExists, hnone] at h
      obtain ⟨-, ⟨⟩⟩ := Option.ite_none_left_eq_some.mp h
      rw [Database.tables_setTable_self] at ht
      cases ht
      rfl
    · apply hcolumn h
    · apply hcolumn h
  · rw [publicKeys_of_mem_queuedMessagesSteps hstep h, hnone] at ht
    cases ht

theorem keysValid_of_mem_migrationSteps
    {step : Database → Option Database} (hstep : step ∈ migrationSteps) :
  StepKeeps KeysValid step
  := by
  intro db db' h hkeys t' ht'
  cases ht : db.tables "public_keys" with
  | none =>
      rw [eq_publicKeysTable_of_mem_migrationSteps hstep h ht ht']
      constructor
      · decide
      · intro username row hrow
        cases hrow
  | some t =>
      obtain ⟨t'', ht'', hkeeps⟩ := (keeps_of_mem_migrationSteps hstep h).tables _ t ht
      rw [ht'] at ht''
      cases ht''
      obtain ⟨hname, hvalid⟩ := hkeys t ht
      use hkeeps.names hname
      intro username row' hrow'
      have hfind := hkeeps.find hname (.text username)
      rw [hrow'] at hfind
      cases hrow : t.find "username" (.text username) with
      | none =>
          rw [hrow] at hfind
          cases hfind
      | some row =>
          rw [hrow] at hfind
          cases hfind with
          | some hcells =>
              exact (hvalid username row hrow).of_cells (Table.mem_of_find hrow).1 hcells

/-- A valid registration keeps the keys valid. -/
theorem KeysValid.upsertPublicKey
    {db db' : Database} (hkeys : KeysValid db) {registration : PublicKeyRegistration}
    (hvalid : validateRegistration registration = .ok ()) {now : String}
    (h : db.upsertPublicKey registration now = some db') :
  KeysValid db'
  := by
  obtain ⟨t, ht, h⟩ := Option.bind_eq_some_iff.mp h
  obtain ⟨t', ht', ⟨⟩⟩ := Option.bind_eq_some_iff.mp h
  have hupserts := Table.upserts_of_upsert ht'
  obtain ⟨-, hidentity, hencryption⟩ := validateRegistration_eq_ok.mp hvalid
  have hnames : t'.names = t.names := congrArg (List.map Prod.fst) hupserts.columns_eq
  obtain ⟨hname, hrows⟩ := hkeys t ht
  intro t'' ht''
  rw [Database.tables_setTable_self] at ht''
  cases ht''
  rw [hnames]
  use hname
  intro username row hrow
  by_cases heq : username = registration.username
  · subst heq
    obtain ⟨row', hrow', hassigned⟩ := hupserts.assigned
    rw [hrow] at hrow'
    cases hrow'
    use registration.identityPublicKey, registration.encryptionPublicKey
    exact ⟨hassigned _ _ rfl, hassigned _ _ rfl, hidentity, hencryption⟩
  · have hne : Cell.text username ≠ .text registration.username := by
      rw [ne_eq, Cell.text.injEq]
      apply heq
    rw [hupserts.others _ hne] at hrow
    apply (hrows username row hrow).of_cells (Table.mem_of_find hrow).1
    intro name _
    rw [Table.cell, hnames, Table.cell]

/-- Every operation keeps the keys valid. -/
theorem KeysValid.after
    {serde : JsonCodec} {framework : ℕ → String} {db : Database} (hkeys : KeysValid db)
    (operation : Operation) :
  KeysValid (operation.after serde framework db)
  := by
  cases operation with
  | prepareDatabase left =>
      have hstopped := performs_prepareDatabase.stopped ⟨db, left⟩
      apply hstopped.keeps _ hkeys
      intro step hstep
      apply keysValid_of_mem_migrationSteps hstep
  | postUsers isJson body now left =>
      rcases store_postUsers serde framework isJson body now ⟨db, left⟩ with
        hsame | ⟨registration, hvalid, hupsert⟩
      · rw [Operation.after, hsame]
        apply hkeys
      · apply hkeys.upsertPublicKey hvalid hupsert
  | getPublicKey username left =>
      rw [Operation.after, store_getPublicKey]
      apply hkeys

/-- A table with both columns of keys has only valid ones, so do rows that are not there. -/
theorem keysValid_of_hasKeys
    {db : Database} (hdb : ∀ t, db.tables "public_keys" = some t → Validated t ∧ HasKeys t) :
  KeysValid db
  := by
  intro t ht
  obtain ⟨hvalid, hkeys⟩ := hdb t ht
  use hvalid.hasUsername
  intro username row hrow
  obtain ⟨hmem, -⟩ := Table.mem_of_find hrow
  rcases hkeys with hnone | ⟨hidentity, hencryption⟩
  · rw [hnone] at hmem
    cases hmem
  · obtain ⟨ci, hi⟩ := Option.isSome_iff_exists.mp ((t.isSome_cell hmem _).mpr hidentity)
    obtain ⟨ce, he⟩ := Option.isSome_iff_exists.mp ((t.isSome_cell hmem _).mpr hencryption)
    obtain ⟨i, rfl, hivalid⟩ := hvalid.identityPublicKey row hmem ci hi
    obtain ⟨e, rfl, hevalid⟩ := hvalid.encryptionPublicKey row hmem ce he
    exact ⟨i, e, hi, he, hivalid, hevalid⟩

/-! ### The rows that the migration fills up -/

/-- After the migration a column has the text it had, or the empty one. -/
theorem exists_text_of_filled
    {t t' : SqlTable} (hfilled : Filled t t') {row row' : List Cell} (hrow : row ∈ t.rows)
    (hrow' : row' ∈ t'.rows) (hcells : ∀ name ∈ t.names, t'.cell name row' = t.cell name row)
    {name : String} (hname : name ∈ t'.names)
    (htext : ∀ cell ∈ t.cell name row, ∃ s, cell = .text s) :
  ∃ s, t'.cell name row' = some (.text s) ∧ (name ∉ t.names → s = "")
  := by
  by_cases hold : name ∈ t.names
  · obtain ⟨cell, hcell⟩ := Option.isSome_iff_exists.mp ((t.isSome_cell hrow name).mpr hold)
    obtain ⟨s, rfl⟩ := htext cell hcell
    use s
    rw [hcells name hold]
    exact ⟨hcell, fun hnew => absurd hold hnew⟩
  · use ""
    exact ⟨hfilled.empty row' hrow' name hname hold, fun _ => rfl⟩

/-- The empty text is no key. -/
theorem not_wellFormed_of_empty
    {entry : PublicKeyEntry}
    (h : entry.identityPublicKey = "" ∨ entry.encryptionPublicKey = "") :
  ¬ WellFormed entry
  := by
  have hempty : isValidPublicKeyText "" = false := by
    decide
  rintro ⟨-, hidentity, hencryption⟩
  rcases h with h | h
  · rw [h, isValidEd25519PublicKeyText, hempty] at hidentity
    cases hidentity
  · rw [h, isValidX25519PublicKeyText, hempty] at hencryption
    cases hencryption

/-- A row without one of the keys is handed out with the empty text, once the database is
prepared. -/
theorem exists_not_wellFormed
    {db : Database} {t : SqlTable} (ht : db.tables "public_keys" = some t)
    (hvalid : Validated t) (hkeys : ¬ HasKeys t) (serde : JsonCodec) (framework : ℕ → String) :
  ∃ username entry, ((getPublicKey username).outcome
      ⟨(Operation.prepareDatabase 5).after serde framework db, 1⟩).1 = .ok entry
    ∧ ¬ WellFormed entry
  := by
  obtain ⟨db', t', hsteps, ht', hfilled, hidentity, hencryption⟩ := exists_publicKeysSteps ht
  rw [← publicKeys_of_runSteps hsteps (Nat.le_refl 5)] at ht'
  obtain ⟨hrows, hmissing⟩ := not_or.mp hkeys
  obtain ⟨row, hrow⟩ := List.exists_mem_of_ne_nil _ hrows
  obtain ⟨username, husername, hname⟩ := hvalid.username row hrow
  have hsome : (t.find "username" (.text username)).isSome := by
    rw [Table.find, List.find?_isSome]
    exact ⟨row, hrow, decide_eq_true husername⟩
  obtain ⟨found, hfound⟩ := Option.isSome_iff_exists.mp hsome
  obtain ⟨hmem, hcell⟩ := Table.mem_of_find hfound
  have hfind := hfilled.keeps.find hvalid.hasUsername (.text username)
  rw [hfound] at hfind
  cases hfound' : t'.find "username" (.text username) with
  | none =>
      rw [hfound'] at hfind
      cases hfind
  | some found' =>
      rw [hfound'] at hfind
      cases hfind with
      | some hcells =>
          obtain ⟨hmem', hcell'⟩ := Table.mem_of_find hfound'
          obtain ⟨i, hi, hi'⟩ := exists_text_of_filled hfilled hmem hmem' hcells hidentity
            fun cell hcell => (hvalid.identityPublicKey found hmem cell hcell).imp fun _ h => h.1
          obtain ⟨e, he, he'⟩ := exists_text_of_filled hfilled hmem hmem' hcells hencryption
            fun cell hcell => (hvalid.encryptionPublicKey found hmem cell hcell).imp fun _ h => h.1
          use username, ⟨username, i, e⟩
          constructor
          · rw [getPublicKey_eq_ok]
            use hname, Nat.one_pos
            rw [Operation.after, selectPublicKey_of_find ht' _ hfound']
            · rw [selectedColumns, List.map_cons, List.map_cons, List.map_cons, List.map_nil,
                hcell', hi, he]
            · simp only [selectedColumns, List.forall_mem_cons, List.not_mem_nil, false_implies,
                implies_true, and_true]
              exact ⟨hfilled.keeps.names hvalid.hasUsername, hidentity, hencryption⟩
          · apply not_wellFormed_of_empty
            rcases not_and_or.mp hmissing with hnot | hnot
            · left
              apply hi' hnot
            · right
              apply he' hnot

/-- From a table of valid usernames and keys, every entry that is handed out after any
operations is well formed just when the table has no rows or both columns of keys. -/
theorem entries_wellFormed_iff
    (serde : JsonCodec) (framework : ℕ → String) {db : Database}
    (hdb : ∀ t, db.tables "public_keys" = some t → Validated t) :
  (∀ db', Reaches (operate serde framework) anyAction db db' →
      ∀ username left entry, ((getPublicKey username).outcome ⟨db', left⟩).1 = .ok entry →
        WellFormed entry)
    ↔ ∀ t, db.tables "public_keys" = some t → HasKeys t
  := by
  constructor
  · intro h t ht
    by_contra hkeys
    obtain ⟨username, entry, hentry, hnot⟩ :=
      exists_not_wellFormed ht (hdb t ht) hkeys serde framework
    apply hnot (h _ _ username 1 entry hentry)
    apply Relation.ReflTransGen.single
    exact ⟨.prepareDatabase 5, trivial, rfl⟩
  · intro hkeys db' hreaches username left entry hentry
    have hvalid : KeysValid db' := by
      apply hreaches.invariant (I := KeysValid)
      · rintro db operation db' - ⟨⟩ hvalid
        apply hvalid.after
      · apply keysValid_of_hasKeys
        intro t ht
        exact ⟨hdb t ht, hkeys t ht⟩
    have hstore : KeysValid (⟨db', left⟩ : Metered Database).store := hvalid
    apply hstore.wellFormed hentry

/-- The key of the tests. -/
def sampleKey : String := "AAAAAAAAAAAAAAAAAAAAAAAAAAAAAAAAAAAAAAAAAAA"

/-- A table with both columns of keys and one row. -/
def currentTable : SqlTable where
  columns := publicKeysTable.columns
  key := some "username"
  rows := [[.text "alice", .text sampleKey, .text sampleKey, .text "2026-05-01T10:00:00.000Z"]]
  nodup := publicKeysTable.nodup
  rectangular := by decide
  key_mem := by decide
  distinct := by decide

/-- The database with this table. -/
def currentDatabase : Database where
  tables name := if name = "public_keys" then some currentTable else none
  indexes _ := none

/-- The entries of a table with both columns stay well formed. -/
theorem entries_wellFormed_iff_sample :
  (∀ db', Reaches (operate .compact fun _ => "") anyAction currentDatabase db' →
      ∀ username left entry, ((getPublicKey username).outcome ⟨db', left⟩).1 = .ok entry →
        WellFormed entry)
    ↔ ∀ t, currentDatabase.tables "public_keys" = some t → HasKeys t
  := by
  have hname : isValidUsername "alice" := by
    decide +kernel
  have hkey : isValidPublicKeyText sampleKey := by
    decide +kernel
  have hvalid : Validated currentTable := by
    constructor
    · decide
    · intro row hrow
      obtain rfl := List.mem_singleton.mp hrow
      exact ⟨"alice", rfl, hname⟩
    · rintro row hrow cell hcell
      obtain rfl := List.mem_singleton.mp hrow
      cases hcell
      exact ⟨sampleKey, rfl, hkey⟩
    · rintro row hrow cell hcell
      obtain rfl := List.mem_singleton.mp hrow
      cases hcell
      exact ⟨sampleKey, rfl, hkey⟩
  apply entries_wellFormed_iff
  rintro t ⟨⟩
  apply hvalid

/-- The table from before the columns of keys is valid as far as it goes, and its row is handed
out with empty texts for keys. -/
theorem not_entries_wellFormed :
  (∀ t, oldDatabase.tables "public_keys" = some t → Validated t)
    ∧ ¬ ∀ db', Reaches (operate .compact fun _ => "") anyAction oldDatabase db' →
      ∀ username left entry, ((getPublicKey username).outcome ⟨db', left⟩).1 = .ok entry →
        WellFormed entry
  := by
  have hname : isValidUsername "alice" := by
    decide +kernel
  have hvalid : Validated oldTable := by
    constructor
    · decide
    · intro row hrow
      obtain rfl := List.mem_singleton.mp hrow
      exact ⟨"alice", rfl, hname⟩
    · rintro row hrow cell hcell
      obtain rfl := List.mem_singleton.mp hrow
      cases hcell
    · rintro row hrow cell hcell
      obtain rfl := List.mem_singleton.mp hrow
      cases hcell
  constructor
  · rintro t ⟨⟩
    apply hvalid
  · intro h
    have hentry : ((getPublicKey "alice").outcome ⟨migrated, 1⟩).1 = .ok ⟨"alice", "", ""⟩ := by
      rw [getPublicKey_eq_ok]
      exact ⟨hname, Nat.one_pos, rfl⟩
    apply not_wellFormed_of_empty (Or.inl rfl) (h migrated _ "alice" 1 _ hentry)
    apply Relation.ReflTransGen.tail (b := halfMigrated)
    · apply Relation.ReflTransGen.single
      exact ⟨.prepareDatabase 3, trivial, rfl⟩
    · exact ⟨.prepareDatabase 7, trivial, rfl⟩

end Phantasma.Sqlite
