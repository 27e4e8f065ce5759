import Phantasma.Client.Endpoints
import Phantasma.Client.Loop
import Phantasma.Client.Separation

/-!
# The start of the client

`main` loads the identity and the contact book of the user, registers the keys of the identity
at the relay and connects to it; then it takes turns.  Between two sessions a machine has the
two files only.  `loaded` says what a start leaves in them, whatever the file system makes
of its calls: an identity that was loaded is the one that the file holds, an identity that the
file holds stays, and no contact comes into the file of the contact book.
-/

namespace Phantasma

/-! ### The first part of `main` -/

def PublicKeyRegistration.toJson (registration : PublicKeyRegistration) : Json :=
  .obj [("username", .str registration.username),
    ("identity_public_key", .str registration.identityPublicKey),
    ("encryption_public_key", .str registration.encryptionPublicKey)]

/-- `register_public_key` of the client, where `answer` is the answer to the request it
makes. -/
def registerPublicKey (endpoints : ServerEndpoints) (answer : Option HttpResponse) :
    Except Error Unit := do
  let url := endpoints.registerUrl
  let response ← orError (.text s!"failed to register public key at {url}") answer
  let _ ← ensureSuccess response
  return ()

/-- What the client registers. -/
def LoadedIdentity.registration (identity : LoadedIdentity) (name : String) :
    PublicKeyRegistration where
  username := name
  identityPublicKey := identity.identityPublicKey
  encryptionPublicKey := identity.encryptionPublicKey

/-- The identity file of a user, and the client with the file of the contact book. -/
structure Machine where
  identityFile : Option Bytes
  client : Client

namespace Machine

/-- A function on the identity file. -/
def onIdentityFile {α : Type} : FileRun α → Program Machine Error α :=
  Program.zoom identityFile fun file machine => { machine with identityFile := file }

/-- A function on the file of the contact book. -/
def onContactsFile {α : Type} : FileRun α → Program Machine Error α :=
  Program.zoom (fun machine => machine.client.file) fun file machine =>
    { machine with client := { machine.client with file := file } }

/-- A function of the client. -/
def onClient {α : Type} : Run α → Program Machine Error α :=
  Program.zoom client fun client machine => { machine with client := client }

end Machine

section

variable (fs : FileSystem) (store : IdentityStore) (name : String)

/-- The part of `main` in front of the registration.  The calls to the file system go as
`attempt` says for the identity and as `opening` says for the contact book. -/
def loadUser (attempt opening : Attempt) : Program Machine Error LoadedIdentity := do
  let identity ← Machine.onIdentityFile (loadOrCreateOn fs store attempt name)
  let contacts ← Machine.onContactsFile (ContactBook.loadOrCreateIn store opening name)
  Machine.onClient (modify fun client => { client with contacts := contacts })
  Machine.onClient (println
    (if identity.wasCreated then s!"created identity at {identity.path}"
      else s!"loaded identity from {identity.path}"))
  return identity

end

/-- The part of `main` from the registration to the loop, where `answer` is the answer to the
registration and `failures` are the errors of the attempts to connect before the one that
succeeds. -/
def joinRelay (endpoints : ServerEndpoints) (name : String) (answer : Option HttpResponse)
    (failures : List String) : Run Unit := do
  Program.ofExcept (registerPublicKey endpoints answer)
  println s!"registered public key for {name}"
  printLines (connectLines failures)
  println s!"username: {name}"
  printHelp

/-! ### The identity file -/

section

variable {fs : FileSystem} {store : IdentityStore} {attempt : Attempt} {username path : String}
    {text : Bytes} {file file' : Option Bytes} {stored : StoredIdentity}
    {identity : LoadedIdentity}

/-- A write that succeeds leaves what was to be written. -/
theorem write_succeeds {outcome : WriteOutcome} {json : Bytes} :
  (outcome.write json file).1 = true ↔ outcome = .complete
  := by
  cases outcome <;> simp [WriteOutcome.write]

/-- An upgrade that succeeds leaves the upgraded identity in the file. -/
theorem holds_of_upgradeLegacyIdentity
    (hstore : store.WritesFiles) {value : Json}
    (h : (upgradeLegacyIdentity store attempt path value).outcome file = (.ok stored, file')) :
  Holds store path file' (.current stored)
  := by
  simp only [upgradeLegacyIdentity, Program.ofExcept_bind_eq_ok_iff, toWire_eq_ok] at h
  obtain ⟨legacy, -, ⟨⟩, hkeys, json, hjson, h⟩ := h
  have hvalid := validateStoredIdentity_upgraded attempt hkeys
  obtain ⟨json', hjson', hholds⟩ := holds_of_valid hstore.inverts hstore.text hvalid
  obtain rfl := Option.some.inj (hjson.symm.trans hjson')
  obtain ⟨_, _, hwrite, h⟩ := Program.bind_eq_ok_iff.mp h
  rw [outcome_writeOrError] at hwrite
  cases h
  by_cases hcomplete : attempt.write = .complete
  · rw [hcomplete] at hwrite
    cases hwrite
    apply hholds
  · rw [if_neg (mt write_succeeds.mp hcomplete)] at hwrite
    cases hwrite

/-- A load that succeeds leaves the identity that it returns in the file. -/
theorem holds_of_loadIdentityFile
    (hstore : store.WritesFiles)
    (h : (loadIdentityFile store attempt path).outcome file = (.ok stored, file')) :
  Holds store path file' (.current stored)
  := by
  obtain ⟨text, _, hread, h⟩ := Program.bind_eq_ok_iff.mp h
  simp only [readToString, Program.outcome_bind, Program.outcome_get, Program.outcome_ofExcept,
    Prod.mk.injEq, orError_eq_ok, Option.filter_eq_some_iff, Bool.and_eq_true] at hread
  obtain ⟨⟨rfl, -, hutf8⟩, rfl⟩ := hread
  obtain ⟨value, hvalue, h⟩ := Program.ofExcept_bind_eq_ok_iff.mp h
  rw [orError_eq_ok] at hvalue
  split at h
  · rename_i hkey
    simp only [Program.ofExcept_bind_eq_ok_iff, orError_eq_ok] at h
    obtain ⟨stored', hstored, _, hvalid, h⟩ := h
    cases h
    apply Holds.current hutf8 hvalue hkey hstored hvalid
  · obtain ⟨stored', file'', hupgrade, h⟩ := Program.bind_eq_ok_iff.mp h
    obtain ⟨_, -, h⟩ := Program.ofExcept_bind_eq_ok_iff.mp h
    cases h
    apply holds_of_upgradeLegacyIdentity hstore hupgrade

/-- An identity that is created is in the file when it could be written. -/
theorem holds_of_created
    (hstore : store.WritesFiles) {json : Bytes}
    (hjson : store.pretty.toVec (attempt.created store).toJson = some json) :
  Holds store path (some json) (.current (attempt.created store))
  := by
  obtain ⟨json', hjson', hholds⟩ :=
    holds_of_valid hstore.inverts hstore.text (validateStoredIdentity_created attempt)
  obtain rfl := Option.some.inj (hjson.symm.trans hjson')
  apply hholds

/-- A write that succeeds leaves the file as one that is complete does. -/
theorem file_of_writeOrError
    {err : Error} {json : Bytes} {write : Option Bytes → Bool × Option Bytes}
    (hwrite : ∀ file, (write file).1 = true → (write file).2 = some json)
    (h : (writeOrError err write).outcome file = (.ok (), file')) :
  file' = some json
  := by
  rw [outcome_writeOrError] at h
  by_cases hsucceeds : (write file).1 = true
  · rw [if_pos hsucceeds] at h
    cases h
    apply hwrite file hsucceeds
  · rw [if_neg hsucceeds] at h
    cases h

theorem file_of_write {outcome : WriteOutcome} {json : Bytes} (file : Option Bytes)
    (h : (outcome.write json file).1 = true) :
  (outcome.write json file).2 = some json
  := by
  rw [write_succeeds.mp h]
  rfl

theorem file_of_writeSecretFile {outcome : WriteOutcome} {json : Bytes} (file : Option Bytes)
    (h : (writeSecretFile outcome json file).1 = true) :
  (writeSecretFile outcome json file).2 = some json
  := by
  cases file with
  | some text => cases h
  | none => apply file_of_write none h

/-- The identity that a call returns is the one that the file then holds, whatever went wrong
before. -/
theorem holds_of_loadOrCreateIn
    (hstore : store.WritesFiles)
    (h : (loadOrCreateIn store attempt username).outcome file = (.ok identity, file')) :
  isValidUsername username
    ∧ ∃ stored, Holds store (store.path username) file' (.current stored) ∧ identity.IsOf stored
  := by
  cases hname : isValidUsername username with
  | false =>
      simp only [loadOrCreateIn, hname, Bool.not_false, if_true] at h
      cases h
  | true =>
      use rfl
      cases hsees : attempt.seesFile && file.isSome with
      | true =>
          rw [Bool.and_eq_true, Option.isSome_iff_exists] at hsees
          obtain ⟨hsees, text, rfl⟩ := hsees
          rw [outcome_loadOrCreateIn_of_seesFile hname hsees] at h
          obtain ⟨stored, _, hload, h⟩ := Program.bind_eq_ok_iff.mp h
          obtain ⟨key, hkey, h⟩ := Program.ofExcept_bind_eq_ok_iff.mp h
          cases h
          exact ⟨stored, holds_of_loadIdentityFile hstore hload, rfl, rfl,
            decodeKey_eq_ok.mp hkey⟩
      | false =>
          rw [outcome_loadOrCreateIn_of_unseen hname hsees] at h
          cases hcreates : attempt.createsDir with
          | false =>
              rw [hcreates] at h
              cases h
          | true =>
              simp only [hcreates, Bool.not_true, Bool.false_eq_true, if_false] at h
              obtain ⟨json, hjson, h⟩ := Program.ofExcept_bind_eq_ok_iff.mp h
              obtain ⟨_, _, hwrite, h⟩ := Program.bind_eq_ok_iff.mp h
              cases h
              obtain rfl := file_of_writeOrError file_of_writeSecretFile hwrite
              exact ⟨attempt.created store, holds_of_created hstore (toWire_eq_ok.mp hjson), rfl,
                rfl, Base64.decode_encode _⟩

/-- That holds on every system. -/
theorem holds_of_loadOrCreateOn
    (hstore : store.WritesFiles)
    (h : (loadOrCreateOn fs store attempt username).outcome file = (.ok identity, file')) :
  isValidUsername username
    ∧ ∃ stored, Holds store (store.path username) file' (.current stored) ∧ identity.IsOf stored
  := by
  rw [loadOrCreateOn] at h
  split at h
  · simp only [loadOrCreateElsewhere, Program.outcome_bind, Program.outcome_get] at h
    split at h
    · apply holds_of_loadOrCreateIn hstore h
    · rename_i hother
      simp only [Bool.or_eq_true, Bool.not_eq_true', Bool.not_eq_false, not_or] at hother
      use hother.1
      cases hcreates : attempt.createsDir with
      | false =>
          rw [hcreates] at h
          cases h
      | true =>
          simp only [hcreates, Bool.not_true, Bool.false_eq_true, if_false] at h
          obtain ⟨json, hjson, h⟩ := Program.ofExcept_bind_eq_ok_iff.mp h
          obtain ⟨_, _, hwrite, h⟩ := Program.bind_eq_ok_iff.mp h
          cases h
          obtain rfl := file_of_writeOrError file_of_write hwrite
          exact ⟨attempt.created store, holds_of_created hstore (toWire_eq_ok.mp hjson), rfl,
            rfl, Base64.decode_encode _⟩
  · apply holds_of_loadOrCreateIn hstore h

/-- A current identity stays in its file, whatever comes of a call; where the system is not
Unix, the file has to be seen. -/
theorem file_of_current
    (hsees : fs.windows → attempt.seesFile)
    (hholds : Holds store (store.path username) file (.current stored)) :
  ((loadOrCreateOn fs store attempt username).outcome file).2 = file
  := by
  cases hname : isValidUsername username with
  | true =>
      apply outcome_loadOrCreateOn_of_rewriteOn_eq_none hname hholds
      rw [Attempt.rewriteOn, if_neg]
      · rfl
      · simp only [Attempt.overwrites, Bool.and_eq_true, Bool.not_eq_true', not_and]
        rintro ⟨hwindows, hunseen⟩
        exact absurd (hunseen.symm.trans (hsees hwindows)) Bool.false_ne_true
  | false =>
      rw [loadOrCreateOn]
      split
      all_goals
        simp only [loadOrCreateElsewhere, loadOrCreateIn, hname, Bool.not_false, Bool.true_or,
          if_true, Program.outcome_bind, Program.outcome_get]
        rfl

end

/-! ### The file of the contact book -/

section

variable {store : IdentityStore} {username : String} {book book' : ContactBook}
    {file : Option Bytes}

/-- A book that is found in a file after a save was there before, or is the one that was to be
saved, wherever the write stopped. -/
theorem ContactBook.savedIn_save
    (hstore : store.WritesFiles) {write : WriteOutcome}
    (h : SavedIn store book' (book.save store.pretty write file).2) :
  SavedIn store book' file ∨ book'.contacts = book.contacts
  := by
  have hwhole : ∀ json, store.pretty.toVec book.toJson = some json →
      SavedIn store book' (some json) → book'.contacts = book.contacts := by
    rintro json hjson ⟨text, value, ⟨⟩, -, hvalue, hbook⟩
    obtain ⟨json', hjson', hread⟩ := hstore.inverts _ book.plain_toJson
    obtain rfl := Option.some.inj (hjson.symm.trans hjson')
    obtain rfl := Option.some.inj (hvalue.symm.trans hread)
    apply Option.some.inj (hbook.symm.trans (storedOfJson_toJson book))
  unfold ContactBook.save at h
  split at h
  · apply Or.inl h
  · apply Or.inl h
  · rename_i json written hjson
    right
    rcases lt_or_ge written json.length with hlt | hle
    · obtain ⟨text, value, ⟨⟩, -, hvalue, -⟩ := h
      rw [hstore.whole _ json book.plain_toJson hjson written hlt] at hvalue
      cases hvalue
    · rw [List.take_of_length_le hle] at h
      apply hwhole json hjson h
  · rename_i json hjson
    apply Or.inr (hwhole json hjson h)

/-- A book that is found in a file after the book of the user was opened was there before, or
is empty. -/
theorem ContactBook.savedIn_loadOrCreateIn
    (hstore : store.WritesFiles) {opening : Attempt}
    (h : SavedIn store book' ((ContactBook.loadOrCreateIn store opening username).outcome file).2) :
  SavedIn store book' file ∨ book'.contacts = ∅
  := by
  cases hname : isValidUsername username with
  | false =>
      simp only [loadOrCreateIn, hname, Bool.not_false, if_true] at h
      apply Or.inl h
  | true =>
      cases hsees : opening.seesFile && file.isSome with
      | true =>
          rw [outcome_loadOrCreateIn_of_sees hname hsees, outcome_loadFile] at h
          apply Or.inl h
      | false =>
          cases hcreates : opening.createsDir with
          | false =>
              simp only [loadOrCreateIn, hname, Bool.not_true, Bool.false_eq_true, if_false,
                Program.outcome_bind, Program.outcome_get, hsees, hcreates, Bool.not_false,
                if_true] at h
              apply Or.inl h
          | true =>
              rw [outcome_loadOrCreateIn_of_unseen hname hsees hcreates] at h
              apply savedIn_save hstore h

end

/-! ### A whole start -/

/-- `Loaded store name machine result machine'`: what the first part of `main` does to the two
files of the user, when it ends with `result`. -/
structure Loaded (store : IdentityStore) (name : String) (machine : Machine)
    (result : Except Error LoadedIdentity) (machine' : Machine) : Prop where
  identity : ∀ identity, result = .ok identity → isValidUsername name
    ∧ ∃ stored, Holds store (store.path name) machine'.identityFile (.current stored)
      ∧ identity.IsOf stored
  current : ∀ stored, Holds store (store.path name) machine.identityFile (.current stored) →
    machine'.identityFile = machine.identityFile
  saved : ∀ book, ContactBook.SavedIn store book machine'.client.file →
    ContactBook.SavedIn store book machine.client.file ∨ book.contacts = ∅
  contacts : machine'.client.contacts = machine.client.contacts
    ∨ ContactBook.SavedIn store machine'.client.contacts machine'.client.file
  prints : OnlyPrints machine.client machine'.client

/-- A start leaves the files as `Loaded` says, whatever the file system makes of its calls. -/
theorem loaded
    {fs : FileSystem} {store : IdentityStore} {name : String} {attempt opening : Attempt}
    (hstore : store.WritesFiles) (hsees : fs.windows → attempt.seesFile)
    {machine machine' : Machine} {result : Except Error LoadedIdentity}
    (h : (loadUser fs store name attempt opening).outcome machine = (result, machine')) :
  Loaded store name machine result machine'
  := by
  have hcurrent : ∀ stored, Holds store (store.path name) machine.identityFile (.current stored) →
      ((loadOrCreateOn fs store attempt name).outcome machine.identityFile).2
        = machine.identityFile := by
    intro stored hholds
    apply file_of_current hsees hholds
  rw [loadUser, Program.outcome_bind, Machine.onIdentityFile, Program.outcome_zoom] at h
  rcases hidentity : (loadOrCreateOn fs store attempt name).outcome machine.identityFile
    with ⟨err | identity, file⟩ <;> rw [hidentity] at h hcurrent
  · cases h
    constructor
    · rintro identity ⟨⟩
    · apply hcurrent
    · intro book hbook
      apply Or.inl hbook
    · apply Or.inl rfl
    · apply OnlyPrints.refl
  · simp only [Program.outcome_bind, Machine.onContactsFile, Program.outcome_zoom] at h
    rcases hbook : (ContactBook.loadOrCreateIn store opening name).outcome machine.client.file
      with ⟨err | book, file'⟩ <;> rw [hbook] at h
    · cases h
      constructor
      · rintro identity ⟨⟩
      · apply hcurrent
      · intro book hsaved
        apply ContactBook.savedIn_loadOrCreateIn hstore
        rw [hbook]
        apply hsaved
      · apply Or.inl rfl
      · apply OnlyPrints.refl
    · cases h
      constructor
      · rintro _ ⟨⟩
        apply holds_of_loadOrCreateOn hstore hidentity
      · apply hcurrent
      · intro book hsaved
        apply ContactBook.savedIn_loadOrCreateIn hstore
        rw [hbook]
        apply hsaved
      · obtain ⟨-, -, hsaved⟩ := ContactBook.savedIn_of_open hstore hbook
        apply Or.inr hsaved
      · apply OnlyPrints.record (OnlyPrints.refl machine.client)

/-! ### Starts on working storage -/

section

variable {store : IdentityStore} {name : String} {attempt opening : Attempt}
    {file : Option Bytes}

/-- A contact book is opened where there is none or a saved one, and is then saved. -/
theorem exists_openContacts
    (hstore : store.WritesFiles) (hname : isValidUsername name)
    (hfile : file = none ∨ ∃ book, ContactBook.SavedIn store book file)
    (hworks : opening.Works) :
  ∃ book file', (ContactBook.loadOrCreateIn store opening name).outcome file = (.ok book, file')
    ∧ ContactBook.SavedIn store book file'
  := by
  have hopen : ∃ book file', (ContactBook.loadOrCreateIn store opening name).outcome file
      = (.ok book, file') := by
    rcases hfile with rfl | ⟨book, hsaved⟩
    · rw [ContactBook.outcome_loadOrCreateIn_of_unseen hname (Bool.and_false _)
        hworks.createsDir]
      obtain ⟨json, hjson, -⟩ :=
        hstore.inverts _ (ContactBook.mk ∅ (store.contactsPath name)).plain_toJson
      simp only [ContactBook.save, hjson, hworks.write]
      exact ⟨_, _, rfl⟩
    · have hsaved' : ContactBook.SavedIn store ⟨book.contacts, store.contactsPath name⟩ file :=
        hsaved
      exact ⟨_, _, ContactBook.outcome_loadOrCreateIn_of_savedIn hname rfl hsaved' hworks⟩
  obtain ⟨book, file', hopen⟩ := hopen
  obtain ⟨-, -, hsaved⟩ := ContactBook.savedIn_of_open hstore hopen
  use book, file', hopen

/-- A start on working storage loads the identity, and leaves files from which the next start
can load. -/
theorem exists_loadUser
    (fs : FileSystem) (hstore : store.WritesFiles) (hname : isValidUsername name)
    {machine : Machine} {content : IdentityFile}
    (hholds : Holds store (store.path name) machine.identityFile content)
    (hfile : machine.client.file = none
      ∨ ∃ book, ContactBook.SavedIn store book machine.client.file)
    (hattempt : attempt.Works) (hopening : opening.Works) :
  ∃ identity machine' stored book,
    (loadUser fs store name attempt opening).outcome machine = (.ok identity, machine')
      ∧ Holds store (store.path name) machine'.identityFile (.current stored)
      ∧ ContactBook.SavedIn store book machine'.client.file
  := by
  have hloads : Loads fs store name content machine.identityFile :=
    loads_of_holds hstore hname hholds
  obtain ⟨identity, stored, identityFile, hidentity, hstored, -, -⟩ := hloads attempt hattempt
  obtain ⟨book, file, hcontacts, hsaved⟩ := exists_openContacts hstore hname hfile hopening
  simp only [loadUser, Program.outcome_bind, Machine.onIdentityFile, Machine.onContactsFile,
    Program.outcome_zoom, hidentity, hcontacts]
  exact ⟨_, _, _, _, rfl, hstored, hsaved⟩

end

theorem OnlyPrints.printed
    {client client' : Client} (h : OnlyPrints client client') (texts : List String) :
  OnlyPrints client (client'.printed texts)
  := by
  obtain ⟨before, hbefore⟩ := h
  use before ++ texts
  rw [Client.printed, hbefore, List.map_append, List.append_assoc]

/-- From the registration to the loop the client only prints, and it gets there when its
registration has succeeded. -/
theorem joined
    {endpoints : ServerEndpoints} {name : String} {answer : Option HttpResponse}
    {failures : List String} {client client' : Client} {result : Except Error Unit}
    (h : (joinRelay endpoints name answer failures).outcome client = (result, client')) :
  client'.contacts = client.contacts ∧ client'.file = client.file ∧ OnlyPrints client client'
    ∧ result = registerPublicKey endpoints answer
  := by
  rw [joinRelay, Program.outcome_bind, Program.outcome_ofExcept] at h
  cases hregister : registerPublicKey endpoints answer with
  | error err =>
      rw [hregister] at h
      cases h
      exact ⟨rfl, rfl, OnlyPrints.refl client, rfl⟩
  | ok _ =>
      rw [hregister] at h
      cases h
      refine ⟨rfl, rfl, ?_, rfl⟩
      apply OnlyPrints.printed
      apply OnlyPrints.record
      apply OnlyPrints.printed
      apply OnlyPrints.record
      apply OnlyPrints.refl

end Phantasma
