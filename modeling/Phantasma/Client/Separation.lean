import Phantasma.Base.FileSystem
import Phantasma.Client.ContactFile

/-!
# The files of two users

A user of the client works with two files below the root, that of the identity and that of
the contact book, and the names of both come from the username.  `keepsApart_iff` says for
which usernames what one user does is seen by another one: the validator of usernames lets
names through that differ in their case only.
-/

namespace Phantasma

/-! ### What a user does -/

section

variable (fs : FileSystem) (store : IdentityStore) (attempt : Attempt) (username : String)

/-- `load_or_create_in` of `identity.rs`, on the disk. -/
def loadIdentity : Program Disk Error LoadedIdentity :=
  fs.onFile (store.path username).toList (loadOrCreateOn fs store attempt username)

/-- `load_or_create_in` of `contacts.rs`, on the disk. -/
def loadContacts : Program Disk Error ContactBook :=
  fs.onFile (store.contactsPath username).toList
    (ContactBook.loadOrCreateIn store attempt username)

end

/-- The disk, the contact book that the user has open, and the paths of the files that were
used. -/
structure Desk where
  disk : Disk
  book : Option ContactBook
  used : List String

/-- A call that is made for a user. -/
inductive FileCall where
  | loadIdentity (attempt : Attempt)
  | loadContacts (attempt : Attempt)
  /-- `add`, for the book that is open. -/
  | add (entry : PublicKeyEntry) (write : WriteOutcome)

section

variable (fs : FileSystem) (store : IdentityStore) (username : String)

/-- What a call does. -/
def FileCall.run (desk : Desk) : FileCall → Desk
  | loadIdentity attempt =>
      { desk with
        disk := ((Phantasma.loadIdentity fs store attempt username).outcome desk.disk).2
        used := desk.used ++ [store.path username] }
  | loadContacts attempt =>
      let (result, disk) := (Phantasma.loadContacts fs store attempt username).outcome desk.disk
      { disk := disk
        book := result.toOption.or desk.book
        used := desk.used ++ [store.contactsPath username] }
  | add entry write =>
      match desk.book with
      | none => desk
      | some book =>
          let key := fs.key book.path.toList
          let (_, book', file) := book.add store.pretty write (desk.disk key) entry
          { disk := Function.update desk.disk key file
            book := some book'
            used := desk.used ++ [book.path] }

/-- The desk after a sequence of calls for the user, who starts on the disk with no book
open. -/
def deskAfter (disk : Disk) (calls : List FileCall) : Desk :=
  calls.foldl (FileCall.run fs store username) ⟨disk, none, []⟩

end

/-- The calls that are made for `user` do not change what `other` loads afterwards, and the files
they use lie directly in the two directories. -/
structure KeepsApart (fs : FileSystem) (store : IdentityStore) (user other : String) :
    Prop where
  identity : ∀ disk calls attempt,
    ((loadIdentity fs store attempt other).outcome (deskAfter fs store user disk calls).disk).1
      = ((loadIdentity fs store attempt other).outcome disk).1
  contacts : ∀ disk calls attempt,
    ((loadContacts fs store attempt other).outcome (deskAfter fs store user disk calls).disk).1
      = ((loadContacts fs store attempt other).outcome disk).1
  files : ∀ disk calls, ∀ path ∈ (deskAfter fs store user disk calls).used,
    fs.LiesIn path.toList (joinPath store.root "identities").toList
      ∨ fs.LiesIn path.toList (joinPath store.root "contacts").toList

/-! ### The paths of a user -/

section

variable {fs : FileSystem} {store : IdentityStore} {username user other : String}

/-- A name that is joined to a directory lies in it. -/
theorem resolve_joinPath {dir name : String} (h : FileSystem.Plain name.toList) :
  fs.resolve (joinPath dir name).toList = fs.resolve dir.toList ++ [name.toList]
  := by
  by_cases hempty : dir = ""
  · subst hempty
    have hjoin : (joinPath "" name).toList = name.toList := by
      simp [joinPath]
    rw [hjoin, FileSystem.resolve_of_plain h]
    rfl
  · have hdir : dir.toList ≠ [] := by
      rwa [ne_eq, String.toList_eq_nil_iff]
    by_cases hslash : dir.toList.getLast? = some '/'
    · obtain ⟨before, hbefore⟩ := List.getLast?_eq_some_iff.mp hslash
      have hjoin : (joinPath dir name).toList = before ++ '/' :: name.toList := by
        simp [joinPath, hbefore]
      rw [hjoin, FileSystem.resolve_slash h, hbefore]
    · have hjoin : (joinPath dir name).toList = dir.toList ++ '/' :: name.toList := by
        simp [joinPath, hslash, hempty, toString]
      rw [hjoin, FileSystem.resolve_slash h, FileSystem.resolve_append_slash hdir]

theorem toList_fileName (username : String) :
  (s!"{username}.json").toList = username.toList ++ ".json".toList
  := by
  simp [toString]

/-- The name of a file of a user is plain. -/
theorem plain_fileName (hname : isValidUsername username) :
  FileSystem.Plain (s!"{username}.json").toList
  := by
  rw [isValidUsername, Bool.and_eq_true, List.all_eq_true] at hname
  rw [toList_fileName]
  constructor
  · intro ch hch
    rcases List.mem_append.mp hch with huser | hjson
    · have hchar := hname.2 ch huser
      and_intros
      all_goals
        rintro rfl
        revert hchar
        decide
    · have hchars : ch = '.' ∨ ch = 'j' ∨ ch = 's' ∨ ch = 'o' ∨ ch = 'n' := by
        simpa using hjson
      rcases hchars with rfl | rfl | rfl | rfl | rfl
      all_goals decide
  · and_intros
    all_goals
      intro h
      have hlength := congrArg List.length h
      simp at hlength

theorem plain_identities :
  FileSystem.Plain "identities".toList
  := by
  constructor
  · simp
  · decide

theorem plain_contacts :
  FileSystem.Plain "contacts".toList
  := by
  constructor
  · simp
  · decide

/-- The identity file lies directly in its directory, -/
theorem resolve_path (fs : FileSystem) (store : IdentityStore) (hname : isValidUsername username) :
  fs.resolve (store.path username).toList
    = fs.resolve (joinPath store.root "identities").toList ++ [(s!"{username}.json").toList]
  := resolve_joinPath (plain_fileName hname)

/-- and so does the file of the contact book. -/
theorem resolve_contactsPath
    (fs : FileSystem) (store : IdentityStore) (hname : isValidUsername username) :
  fs.resolve (store.contactsPath username).toList
    = fs.resolve (joinPath store.root "contacts").toList ++ [(s!"{username}.json").toList]
  := resolve_joinPath (plain_fileName hname)

/-- The key of a file in a directory below the root. -/
def fileKey (fs : FileSystem) (store : IdentityStore) (dir username : String) :
    List (List Char) :=
  fs.key store.root.toList
    ++ [fs.fold dir.toList, fs.fold username.toList ++ fs.fold ".json".toList]

theorem key_path (fs : FileSystem) (store : IdentityStore) (hname : isValidUsername username) :
  fs.key (store.path username).toList = fileKey fs store "identities" username
  := by
  rw [FileSystem.key, resolve_path fs store hname, resolve_joinPath plain_identities,
    toList_fileName, fileKey, ← FileSystem.fold_append, FileSystem.key]
  simp only [List.map_append, List.map_cons, List.map_nil, List.append_assoc, List.cons_append,
    List.nil_append]

theorem key_contactsPath
    (fs : FileSystem) (store : IdentityStore) (hname : isValidUsername username) :
  fs.key (store.contactsPath username).toList = fileKey fs store "contacts" username
  := by
  rw [FileSystem.key, resolve_contactsPath fs store hname, resolve_joinPath plain_contacts,
    toList_fileName, fileKey, ← FileSystem.fold_append, FileSystem.key]
  simp only [List.map_append, List.map_cons, List.map_nil, List.append_assoc, List.cons_append,
    List.nil_append]

/-- Two files below the root are one just when their directories and their users are. -/
theorem fileKey_eq_iff {dir dir' : String} :
  fileKey fs store dir user = fileKey fs store dir' other
    ↔ fs.fold dir.toList = fs.fold dir'.toList ∧ fs.fold user.toList = fs.fold other.toList
  := by
  simp only [fileKey, List.append_cancel_left_eq, List.cons.injEq, and_true,
    List.append_cancel_right_eq]

/-! ### What a user's calls reach -/

/-- `Confined fs store user disk desk`: from the disk `disk` on, only the two files of `user`
were used. -/
structure Confined (fs : FileSystem) (store : IdentityStore) (user : String) (disk : Disk)
    (desk : Desk) : Prop where
  book : ∀ book, desk.book = some book → book.path = store.contactsPath user
  used : ∀ path ∈ desk.used, path = store.path user ∨ path = store.contactsPath user
  same : ∀ place, place ≠ fs.key (store.path user).toList →
    place ≠ fs.key (store.contactsPath user).toList → desk.disk place = disk place

/-- A call reaches the files of its user only. -/
theorem confined_run
    {disk : Disk} {desk : Desk} (h : Confined fs store user disk desk) (call : FileCall) :
  Confined fs store user disk (call.run fs store user desk)
  := by
  cases call with
  | loadIdentity attempt =>
      constructor
      · apply h.book
      · intro path hpath
        rcases List.mem_append.mp hpath with hpath | hpath
        · apply h.used path hpath
        · exact Or.inl (List.mem_singleton.mp hpath)
      · intro place hidentity hcontacts
        rw [← h.same place hidentity hcontacts]
        apply FileSystem.outcome_onFile_of_ne _ hidentity
  | loadContacts attempt =>
      rw [FileCall.run]
      rcases hload : (loadContacts fs store attempt user).outcome desk.disk with ⟨result, disk'⟩
      constructor
      · intro book hbook
        cases result with
        | error err => apply h.book book hbook
        | ok loaded =>
            cases hbook
            rw [loadContacts, FileSystem.outcome_onFile, Prod.mk.injEq] at hload
            exact (ContactBook.open_cases (Prod.ext hload.1 rfl)).2.1
      · intro path hpath
        rcases List.mem_append.mp hpath with hpath | hpath
        · apply h.used path hpath
        · exact Or.inr (List.mem_singleton.mp hpath)
      · intro place hidentity hcontacts
        have hframe : ((loadContacts fs store attempt user).outcome desk.disk).2 place
            = desk.disk place := FileSystem.outcome_onFile_of_ne _ hcontacts
        rw [← h.same place hidentity hcontacts, ← hframe, hload]
  | add entry write =>
      rw [FileCall.run]
      cases hopen : desk.book with
      | none => exact h
      | some book =>
          have hpath := h.book book hopen
          constructor
          · rintro _ ⟨⟩
            apply hpath
          · intro path hused
            rcases List.mem_append.mp hused with hused | hused
            · apply h.used path hused
            · right
              rw [List.mem_singleton.mp hused, hpath]
          · intro place hidentity hcontacts
            rw [← h.same place hidentity hcontacts]
            apply Function.update_of_ne
            rwa [hpath]

/-- All calls of a user reach the files of that user only. -/
theorem confined_deskAfter (disk : Disk) (calls : List FileCall) :
  Confined fs store user disk (deskAfter fs store user disk calls)
  := by
  have hrun : ∀ desk, Confined fs store user disk desk →
      Confined fs store user disk (calls.foldl (FileCall.run fs store user) desk) := by
    induction calls with
    | nil =>
        intro desk h
        apply h
    | cons call calls ih =>
        intro desk h
        apply ih _ (confined_run h call)
  apply hrun
  constructor
  · rintro _ ⟨⟩
  · intro path hpath
    cases hpath
  · intro _ _ _
    rfl

theorem disk_deskAfter_loadIdentity (disk : Disk) (attempt : Attempt) :
  (deskAfter fs store user disk [.loadIdentity attempt]).disk
    = ((loadIdentity fs store attempt user).outcome disk).2
  := by
  rw [deskAfter, List.foldl_cons, List.foldl_nil, FileCall.run]

/-- A file of a user with another name is not reached. -/
theorem disk_deskAfter
    (huser : isValidUsername user) (hne : fs.fold user.toList ≠ fs.fold other.toList)
    (dir : String) (disk : Disk) (calls : List FileCall) :
  (deskAfter fs store user disk calls).disk (fileKey fs store dir other)
    = disk (fileKey fs store dir other)
  := by
  apply (confined_deskAfter disk calls).same
  · rw [key_path fs store huser, ne_eq, fileKey_eq_iff]
    rintro ⟨-, heq⟩
    apply hne heq.symm
  · rw [key_contactsPath fs store huser, ne_eq, fileKey_eq_iff]
    rintro ⟨-, heq⟩
    apply hne heq.symm

/-- Users whose names are not the same for the file system are kept apart. -/
theorem keepsApart_of_ne
    (huser : isValidUsername user) (hother : isValidUsername other)
    (hne : fs.fold user.toList ≠ fs.fold other.toList) :
  KeepsApart fs store user other
  where
  identity disk calls attempt := by
    rw [loadIdentity, FileSystem.outcome_onFile, FileSystem.outcome_onFile,
      key_path fs store hother, disk_deskAfter huser hne]
  contacts disk calls attempt := by
    rw [loadContacts, FileSystem.outcome_onFile, FileSystem.outcome_onFile,
      key_contactsPath fs store hother, disk_deskAfter huser hne]
  files disk calls path hpath := by
    rcases (confined_deskAfter disk calls).used path hpath with rfl | rfl
    · exact Or.inl ⟨_, resolve_path fs store huser⟩
    · exact Or.inr ⟨_, resolve_contactsPath fs store huser⟩

/-! ### Users of one name -/

/-- An identity that is loaded from a file was not created, -/
theorem wasCreated_of_seesFile
    {attempt : Attempt} (hname : isValidUsername username) (hsees : attempt.seesFile)
    {text : Bytes} {identity : LoadedIdentity}
    (hload : ((loadOrCreateIn store attempt username).outcome (some text)).1 = .ok identity) :
  identity.wasCreated = false
  := by
  rw [outcome_loadOrCreateIn_of_seesFile hname hsees, Program.outcome_bind] at hload
  rcases hfile : (loadIdentityFile store attempt (store.path username)).outcome (some text)
    with ⟨_ | stored, file⟩
  · rw [hfile] at hload
    cases hload
  · simp only [hfile, Program.outcome_bind, Program.outcome_ofExcept] at hload
    cases hkey : decodeKey stored.encryptionSecretKey "encryption secret key" with
    | error err =>
        rw [hkey] at hload
        cases hload
    | ok key =>
        rw [hkey] at hload
        cases hload
        rfl

/-- and where there is no file, one is created. -/
theorem exists_created
    (attempt : Attempt) (hname : isValidUsername username) (hcreates : attempt.createsDir)
    (hwrite : attempt.write = .complete) {json : Bytes}
    (hjson : store.pretty.toVec (attempt.created store).toJson = some json) :
  ∃ identity : LoadedIdentity, identity.wasCreated = true
    ∧ (loadOrCreateIn store attempt username).outcome none = (.ok identity, some json)
  := by
  rw [outcome_loadOrCreateIn_of_unseen hname (Bool.and_false _)]
  simp only [hcreates, Bool.not_true, Bool.false_eq_true, if_false, Program.outcome_bind, toWire,
    hjson, Program.outcome_ofExcept, outcome_writeOrError, Option.isSome_none, writeSecretFile,
    hwrite, WriteOutcome.write, if_true, Program.outcome_pure]
  exact ⟨_, rfl, rfl⟩

/-- When their names are the same for the file system, the identity that is created for one
user is loaded for the other. -/
theorem not_keepsApart_of_eq
    (fs : FileSystem) (hstore : store.WritesFiles) (huser : isValidUsername user)
    (hother : isValidUsername other) (heq : fs.fold user.toList = fs.fold other.toList) :
  ¬ KeepsApart fs store user other
  := by
  intro hkeeps
  let attempt : Attempt := ⟨true, true, true, .complete, .zero 32, .zero 32⟩
  obtain ⟨json, hjson, -⟩ := hstore.inverts _ (attempt.created store).plain_toJson
  have hsame := hkeeps.identity (fun _ => none) [.loadIdentity attempt] attempt
  have hkey : fileKey fs store "identities" other = fileKey fs store "identities" user :=
    fileKey_eq_iff.mpr ⟨rfl, heq.symm⟩
  obtain ⟨_, -, hfirst⟩ := exists_created attempt huser rfl rfl hjson
  obtain ⟨identity, hcreated, hfresh⟩ := exists_created attempt hother rfl rfl hjson
  have hdisk : (deskAfter fs store user (fun _ => none) [.loadIdentity attempt]).disk
      (fileKey fs store "identities" user) = some json := by
    rw [disk_deskAfter_loadIdentity, loadIdentity, FileSystem.outcome_onFile,
      key_path fs store huser, outcome_loadOrCreateOn_none attempt huser, hfirst]
    simp only [Function.update_self]
  rw [loadIdentity, FileSystem.outcome_onFile, FileSystem.outcome_onFile,
    key_path fs store hother, hkey, hdisk, outcome_loadOrCreateOn_of_seesFile rfl,
    outcome_loadOrCreateOn_none attempt hother, hfresh] at hsame
  have hloaded := wasCreated_of_seesFile hother rfl hsame
  rw [hcreated] at hloaded
  cases hloaded

/-- What is done for one user is not seen by another one, just when the file system compares
names exactly, or the usernames differ in more than the case of letters. -/
theorem keepsApart_iff
    (fs : FileSystem) (hstore : store.WritesFiles) (huser : isValidUsername user)
    (hother : isValidUsername other) (hne : user ≠ other) :
  KeepsApart fs store user other
    ↔ (fs.ignoresCase → user.toList.map Char.toLower ≠ other.toList.map Char.toLower)
  := by
  have hfold : fs.fold user.toList ≠ fs.fold other.toList
      ↔ (fs.ignoresCase → user.toList.map Char.toLower ≠ other.toList.map Char.toLower) := by
    rw [FileSystem.fold, FileSystem.fold]
    cases fs.ignoresCase with
    | false =>
        simp only [Bool.false_eq_true, if_false, false_implies, iff_true, ne_eq,
          String.toList_inj]
        apply hne
    | true => simp only [if_true, true_implies]
  rw [← hfold]
  constructor
  · intro hkeeps heq
    apply not_keepsApart_of_eq fs hstore huser hother heq hkeeps
  · intro hdiffer
    apply keepsApart_of_ne huser hother hdiffer

end

/-- A file system that ignores case. -/
def sampleFileSystem : FileSystem := ⟨false, true, []⟩

/-- Two users whose names differ in a letter. -/
theorem keepsApart_iff_sample :
  KeepsApart sampleFileSystem sampleStore "alice" "bob"
  := by
  have halice : isValidUsername "alice" := by decide +kernel
  have hbob : isValidUsername "bob" := by decide +kernel
  apply (keepsApart_iff sampleFileSystem sampleStore_writesFiles halice hbob (by decide)).mpr
  intro _
  decide

/-- Two users whose names differ in the case of a letter. -/
theorem not_keepsApart :
  ¬ ∀ (fs : FileSystem) (store : IdentityStore) (user other : String),
    store.WritesFiles → isValidUsername user → isValidUsername other → user ≠ other →
      KeepsApart fs store user other
  := by
  intro hkeeps
  have hlower : isValidUsername "alice" := by decide +kernel
  have hupper : isValidUsername "Alice" := by decide +kernel
  apply not_keepsApart_of_eq sampleFileSystem sampleStore_writesFiles hlower hupper rfl
  apply hkeeps sampleFileSystem sampleStore "alice" "Alice" sampleStore_writesFiles hlower hupper
  decide

end Phantasma
