import Phantasma.Client.Recovery

/-!
# The file of the contact book

`load_or_create_in` of `contacts.rs`, which reads the book back that `save` has written, and
sequences of `add`.  `add` changes the book before it saves it, and `save` truncates the file
before it writes it; `addsAgree_iff` says for which ends of the writes the book in memory and
the file stay the same all the same.
-/

namespace Phantasma

/-- The path of the contact book of `username`. -/
def IdentityStore.contactsPath (store : IdentityStore) (username : String) : String :=
  joinPath (joinPath store.root "contacts") s!"{username}.json"

namespace ContactBook

/-! ### Reading the book back -/

/-- The members of a `BTreeMap` of entries.  Of two members of one name the last is kept. -/
def entriesOfJson (value : Json) : Option (Std.ExtTreeMap String PublicKeyEntry) :=
  match value with
  | .obj members => do
      let entries ← members.mapM fun m => (PublicKeyEntry.ofJson m.2).map fun entry => (m.1, entry)
      return Std.ExtTreeMap.ofList entries
  | _ => none

/-- `StoredContacts`, as it is read. -/
def storedOfJson (value : Json) : Option (Std.ExtTreeMap String PublicKeyEntry) := do
  let [contacts] ← value.structMembers ["contacts"] | none
  entriesOfJson contacts

/-- The map of the pairs of a map. -/
theorem ofList_toList (contacts : Std.ExtTreeMap String PublicKeyEntry) :
  Std.ExtTreeMap.ofList contacts.toList = contacts
  := by
  apply Std.ExtTreeMap.ext_getElem?
  intro name
  cases hentry : contacts[name]? with
  | some entry =>
      have hmem : (name, entry) ∈ contacts.toList :=
        Std.ExtTreeMap.mem_toList_iff_getElem?_eq_some.mpr hentry
      exact Std.ExtTreeMap.getElem?_ofList_of_mem Std.ReflCmp.compare_self
        Std.ExtTreeMap.distinct_keys_toList hmem
  | none =>
      apply Std.ExtTreeMap.getElem?_ofList_of_contains_eq_false
      rw [Bool.eq_false_iff, ne_eq, List.contains_iff_mem, List.mem_map]
      rintro ⟨⟨name', entry⟩, hmem, rfl⟩
      rw [Std.ExtTreeMap.mem_toList_iff_getElem?_eq_some.mp hmem] at hentry
      cases hentry

/-- A list of named entries is read back. -/
theorem mapM_entries (entries : List (String × PublicKeyEntry)) :
  (entries.map fun (name, entry) => (name, entry.toJson)).mapM
      (fun m => (PublicKeyEntry.ofJson m.2).map fun entry => (m.1, entry))
    = some entries
  := by
  induction entries with
  | nil => rfl
  | cons head entries ih =>
      rw [List.map_cons, List.mapM_cons, ih]
      rfl

/-- What is written for a book is read back. -/
theorem storedOfJson_toJson (book : ContactBook) :
  storedOfJson book.toJson = some book.contacts
  := by
  have hentries : entriesOfJson
      (.obj (book.contacts.toList.map fun (name, entry) => (name, entry.toJson)))
      = some book.contacts := by
    rw [entriesOfJson, mapM_entries, Option.bind_eq_bind, Option.bind_some, ofList_toList]
    rfl
  rw [← hentries]
  rfl

theorem plainMembers_entries (entries : List (String × PublicKeyEntry)) :
  Json.plainMembers (entries.map fun (name, entry) => (name, entry.toJson))
  := by
  induction entries with
  | nil => rfl
  | cons head entries ih =>
      rw [List.map_cons, Json.plainMembers, Bool.and_eq_true]
      exact ⟨head.2.plain_toJson, ih⟩

theorem plain_toJson (book : ContactBook) :
  book.toJson.plain
  := by
  have hnames : (book.contacts.toList.map Prod.fst).Nodup := by
    apply List.pairwise_map.mpr
    apply Std.ExtTreeMap.distinct_keys_toList.imp
    intro _ _ hne heq
    rw [heq] at hne
    exact hne Std.ReflCmp.compare_self
  simp only [toJson, Json.plain, Json.plainMembers, Bool.and_true, Bool.and_eq_true,
    decide_eq_true_eq, List.map_cons, List.map_nil, List.nodup_singleton, true_and,
    List.map_map, plainMembers_entries]
  apply hnames

/-! ### Opening the book -/

section

variable (store : IdentityStore) (attempt : Attempt)

/-- The part of `load_or_create_in` that reads the file. -/
def loadFile (path : String) : FileRun ContactBook := do
  let text ← readToString attempt path
  let value ← Program.ofExcept
    (orError (.text s!"failed to parse {path}") (store.serde.fromSlice text))
  let contacts ← Program.ofExcept
    (orError (.text s!"failed to parse {path}") (storedOfJson value))
  return ⟨contacts, path⟩

/-- `load_or_create_in`. -/
def loadOrCreateIn (ownerUsername : String) : FileRun ContactBook := do
  if !isValidUsername ownerUsername then
    throw (.text "username must use only letters, numbers, '.', '-', or '_'")
  let contactsDir := joinPath store.root "contacts"
  let path := store.contactsPath ownerUsername
  if attempt.seesFile && (← MonadState.get).isSome then
    loadFile store attempt path
  else
    if !attempt.createsDir then
      throw (.text s!"failed to create {contactsDir}")
    let contactBook : ContactBook := ⟨∅, path⟩
    let (result, file) := contactBook.save store.pretty attempt.write (← MonadState.get)
    modify fun _ => file
    Program.ofExcept result
    return contactBook

end

/-- `SavedIn store book file`: the file holds the book. -/
def SavedIn (store : IdentityStore) (book : ContactBook) (file : Option Bytes) : Prop :=
  ∃ text value, file = some text ∧ (Utf8.decode text).isSome
    ∧ store.serde.fromSlice text = some value ∧ storedOfJson value = some book.contacts

section

variable {store : IdentityStore} {attempt : Attempt} {username path : String}
    {book : ContactBook} {file file' : Option Bytes} {json : Bytes}

/-- What is written for a book holds it. -/
theorem savedIn_of_toVec
    (hstore : store.WritesFiles) (hjson : store.pretty.toVec book.toJson = some json) :
  SavedIn store book (some json)
  := by
  obtain ⟨json', hwrite, hread⟩ := hstore.inverts _ book.plain_toJson
  obtain rfl := Option.some.inj (hjson.symm.trans hwrite)
  exact ⟨json, book.toJson, rfl, hstore.text _ _ hjson, hread, storedOfJson_toJson book⟩

/-- Reading the file leaves it. -/
theorem outcome_loadFile (file : Option Bytes) :
  (loadFile store attempt path).outcome file
    = (do
        let text ← orError (.text s!"failed to read {path}")
          (file.filter fun bytes => attempt.reads && (Utf8.decode bytes).isSome)
        let value ← orError (.text s!"failed to parse {path}") (store.serde.fromSlice text)
        let contacts ← orError (.text s!"failed to parse {path}") (storedOfJson value)
        return ⟨contacts, path⟩, file)
  := by
  simp only [loadFile, readToString, Program.outcome_bind, Program.outcome_get,
    Program.outcome_ofExcept]
  cases file.filter fun bytes => attempt.reads && (Utf8.decode bytes).isSome with
  | none => rfl
  | some text =>
      simp only [orError, ok_bind]
      cases store.serde.fromSlice text with
      | none => rfl
      | some value =>
          simp only [ok_bind]
          cases storedOfJson value <;> rfl

/-- A book is read from a file that holds it, and from no other. -/
theorem loadFile_eq_ok :
  (loadFile store attempt path).outcome file = (.ok book, file')
    ↔ attempt.reads ∧ SavedIn store book file ∧ book.path = path ∧ file' = file
  := by
  rw [outcome_loadFile, Prod.mk.injEq]
  simp only [bind_eq_ok, orError_eq_ok, Option.filter_eq_some_iff, Bool.and_eq_true, pure,
    Except.pure, Except.ok.injEq, SavedIn]
  constructor
  · rintro ⟨⟨text, ⟨rfl, hreads, htext⟩, value, hvalue, contacts, hcontacts, rfl⟩, rfl⟩
    exact ⟨hreads, ⟨text, value, rfl, htext, hvalue, hcontacts⟩, rfl, rfl⟩
  · rintro ⟨hreads, ⟨text, value, rfl, htext, hvalue, hcontacts⟩, rfl, rfl⟩
    exact ⟨⟨text, ⟨rfl, hreads, htext⟩, value, hvalue, book.contacts, hcontacts, rfl⟩, rfl⟩

/-- A file that is seen is loaded. -/
theorem outcome_loadOrCreateIn_of_sees
    (hname : isValidUsername username) (hsees : (attempt.seesFile && file.isSome) = true) :
  (loadOrCreateIn store attempt username).outcome file
    = (loadFile store attempt (store.contactsPath username)).outcome file
  := by
  simp only [loadOrCreateIn, hname, Bool.not_true, Bool.false_eq_true, if_false,
    Program.outcome_bind, Program.outcome_get, hsees, if_true]

/-- If there is none to be seen, an empty book is saved. -/
theorem outcome_loadOrCreateIn_of_unseen
    (hname : isValidUsername username) (hsees : (attempt.seesFile && file.isSome) = false)
    (hcreates : attempt.createsDir) :
  (loadOrCreateIn store attempt username).outcome file
    = (((ContactBook.mk ∅ (store.contactsPath username)).save store.pretty attempt.write file).1.map
        fun _ => ⟨∅, store.contactsPath username⟩,
      ((ContactBook.mk ∅ (store.contactsPath username)).save store.pretty attempt.write file).2)
  := by
  simp only [loadOrCreateIn, hname, Bool.not_true, Bool.false_eq_true, if_false,
    Program.outcome_bind, Program.outcome_get, hsees, hcreates, Program.outcome_modify,
    Program.outcome_ofExcept]
  rcases (ContactBook.mk ∅ (store.contactsPath username)).save store.pretty attempt.write file
    with ⟨_ | _, _⟩ <;> rfl

/-- On working storage the book that is saved is loaded. -/
theorem outcome_loadOrCreateIn_of_savedIn
    (hname : isValidUsername username) (hpath : book.path = store.contactsPath username)
    (hsaved : SavedIn store book file) (hworks : attempt.Works) :
  (loadOrCreateIn store attempt username).outcome file = (.ok book, file)
  := by
  have hsome : file.isSome := by
    obtain ⟨text, -, rfl, -⟩ := hsaved
    rfl
  have hsees : (attempt.seesFile && file.isSome) = true := by
    rw [hworks.seesFile, hsome]
    rfl
  rw [outcome_loadOrCreateIn_of_sees hname hsees, loadFile_eq_ok]
  exact ⟨hworks.reads, hsaved, hpath, rfl⟩

/-- A save that succeeds has saved the book. -/
theorem savedIn_of_save
    (hstore : store.WritesFiles) {write : WriteOutcome}
    (h : book.save store.pretty write file = (.ok (), file')) :
  SavedIn store book file'
  := by
  unfold save at h
  split at h
  · cases h
  · cases h
  · cases h
  · rename_i hjson
    cases h
    apply savedIn_of_toVec hstore hjson

/-- A book that was opened was loaded, or it is empty and was saved. -/
theorem open_cases
    {opening : Attempt}
    (hopen : (loadOrCreateIn store opening username).outcome file = (.ok book, file')) :
  isValidUsername username ∧ book.path = store.contactsPath username
    ∧ ((loadFile store opening (store.contactsPath username)).outcome file = (.ok book, file')
      ∨ book.save store.pretty opening.write file = (.ok (), file'))
  := by
  cases hname : isValidUsername username with
  | false =>
      simp only [loadOrCreateIn, hname, Bool.not_false, if_true] at hopen
      cases hopen
  | true =>
      use rfl
      cases hsees : opening.seesFile && file.isSome with
      | true =>
          rw [outcome_loadOrCreateIn_of_sees hname hsees] at hopen
          obtain ⟨-, -, hpath, -⟩ := loadFile_eq_ok.mp hopen
          exact ⟨hpath, Or.inl hopen⟩
      | false =>
          cases hcreates : opening.createsDir with
          | false =>
              simp only [loadOrCreateIn, hname, Bool.not_true, Bool.false_eq_true, if_false,
                Program.outcome_bind, Program.outcome_get, hsees, hcreates, Bool.not_false,
                if_true] at hopen
              cases hopen
          | true =>
              rw [outcome_loadOrCreateIn_of_unseen hname hsees hcreates] at hopen
              rcases hsave : (ContactBook.mk ∅ (store.contactsPath username)).save store.pretty
                opening.write file with ⟨_ | ⟨⟩, file''⟩
              · rw [hsave] at hopen
                cases hopen
              · rw [hsave] at hopen
                cases hopen
                exact ⟨rfl, Or.inr hsave⟩

/-- A book that was opened is saved. -/
theorem savedIn_of_open
    (hstore : store.WritesFiles) {opening : Attempt}
    (hopen : (loadOrCreateIn store opening username).outcome file = (.ok book, file')) :
  isValidUsername username ∧ book.path = store.contactsPath username ∧ SavedIn store book file'
  := by
  obtain ⟨hname, hpath, hload | hsave⟩ := open_cases hopen
  · obtain ⟨-, hsaved, -, rfl⟩ := loadFile_eq_ok.mp hload
    exact ⟨hname, hpath, hsaved⟩
  · exact ⟨hname, hpath, savedIn_of_save hstore hsave⟩

end

/-! ### Adding entries -/

/-- If the `add` succeeds, the book has the entry under its username and is what a reload gives; if
it fails, the book and what a reload gives are as they were. -/
structure AddAgrees (store : IdentityStore) (username : String) (book : ContactBook)
    (file : Option Bytes) (entry : PublicKeyEntry) (write : WriteOutcome) : Prop where
  succeeds : (book.add store.pretty write file entry).1 = .ok () →
    (∀ name, (book.add store.pretty write file entry).2.1.get name
      = if entry.username = name then some entry else book.get name)
    ∧ ∀ later : Attempt, later.Works →
      ((loadOrCreateIn store later username).outcome
        (book.add store.pretty write file entry).2.2).1
        = .ok (book.add store.pretty write file entry).2.1
  fails : ∀ err, (book.add store.pretty write file entry).1 = .error err →
    (book.add store.pretty write file entry).2.1 = book
    ∧ ∀ later : Attempt, later.Works →
      ((loadOrCreateIn store later username).outcome
        (book.add store.pretty write file entry).2.2).1
        = ((loadOrCreateIn store later username).outcome file).1

/-- The write is complete, or the entry is in the book already and the write fails before the
file is opened or after its last byte. -/
def AddSafe (pretty : JsonCodec) (book : ContactBook) (entry : PublicKeyEntry)
    (write : WriteOutcome) : Prop :=
  write = .complete ∨ book.get entry.username = some entry
    ∧ ∀ json written, pretty.toVec book.toJson = some json → write = .stopped written →
      json.length ≤ written

/-- Every one of the calls of `add`, one after another, leaves the book and what a reload gives in
agreement. -/
def AddsAgree (store : IdentityStore) (username : String) :
    List (PublicKeyEntry × WriteOutcome) → ContactBook → Option Bytes → Prop
  | [], _, _ => True
  | (entry, write) :: adds, book, file =>
      AddAgrees store username book file entry write
        ∧ AddsAgree store username adds (book.add store.pretty write file entry).2.1
          (book.add store.pretty write file entry).2.2

/-- Every one of the calls is safe in the book it finds. -/
def AddsSafe (pretty : JsonCodec) : List (PublicKeyEntry × WriteOutcome) → ContactBook → Prop
  | [], _ => True
  | (entry, write) :: adds, book =>
      AddSafe pretty book entry write ∧ AddsSafe pretty adds (book.insert entry)

section

variable {store : IdentityStore} {username : String} {book : ContactBook} {file : Option Bytes}
    {entry : PublicKeyEntry} {write : WriteOutcome}

/-- A call that finds the entry in the book leaves the book as it is. -/
theorem insert_eq_self_iff (book : ContactBook) (entry : PublicKeyEntry) :
  book.insert entry = book ↔ book.get entry.username = some entry
  := by
  constructor
  · intro h
    rw [← h]
    apply get_insert_self
  · intro h
    obtain ⟨contacts, path⟩ := book
    rw [insert, mk.injEq, and_iff_left rfl]
    apply Std.ExtTreeMap.ext_getElem?
    intro name
    rw [Std.ExtTreeMap.getElem?_insert]
    split
    · rename_i heq
      rw [Std.LawfulEqCmp.compare_eq_iff_eq] at heq
      rw [← heq]
      exact h.symm
    · rfl

/-- No book is loaded from a part of the text of one. -/
theorem not_loads_take
    (hstore : store.WritesFiles) (hname : isValidUsername username) {json : Bytes}
    (hjson : store.pretty.toVec book.toJson = some json) {written : ℕ} (hlt : written < json.length)
    {later : Attempt} (hworks : later.Works) (book' : ContactBook) :
  ((loadOrCreateIn store later username).outcome (some (json.take written))).1 ≠ .ok book'
  := by
  intro hload
  have hsees : (later.seesFile && (some (json.take written)).isSome) = true := by
    rw [hworks.seesFile]
    rfl
  rw [outcome_loadOrCreateIn_of_sees hname hsees] at hload
  obtain ⟨-, ⟨text, value, ⟨⟩, -, hvalue, -⟩, -⟩ :=
    loadFile_eq_ok.mp (Prod.ext hload rfl)
  rw [hstore.whole _ json book.plain_toJson hjson written hlt] at hvalue
  cases hvalue

/-- A call whose write is complete saves the book with the entry. -/
theorem add_complete
    (hstore : store.WritesFiles) (book : ContactBook) (file : Option Bytes)
    (entry : PublicKeyEntry) :
  (book.add store.pretty .complete file entry).1 = .ok ()
    ∧ SavedIn store (book.insert entry) (book.add store.pretty .complete file entry).2.2
  := by
  obtain ⟨json, hjson, -⟩ := hstore.inverts _ (book.insert entry).plain_toJson
  have hsave : (book.insert entry).save store.pretty .complete file = (.ok (), some json) := by
    simp only [save, hjson]
  rw [add, hsave]
  exact ⟨rfl, savedIn_of_save hstore hsave⟩

/-- A call whose write does not open the file. -/
theorem add_notOpened
    (file : Option Bytes) {json : Bytes}
    (hjson : store.pretty.toVec (book.insert entry).toJson = some json) :
  book.add store.pretty .notOpened file entry
    = (.error (.text s!"failed to write {book.path}"), book.insert entry, file)
  := by
  simp only [add, save, hjson]
  rfl

/-- A call whose write stops. -/
theorem add_stopped
    (written : ℕ) (file : Option Bytes) {json : Bytes}
    (hjson : store.pretty.toVec (book.insert entry).toJson = some json) :
  book.add store.pretty (.stopped written) file entry
    = (.error (.text s!"failed to write {book.path}"), book.insert entry,
      some (json.take written))
  := by
  simp only [add, save, hjson]
  rfl

/-- The book and its file agree after every call whose write is complete. -/
theorem addAgrees_complete
    (hstore : store.WritesFiles) (hname : isValidUsername username)
    (hpath : book.path = store.contactsPath username) (file : Option Bytes) :
  AddAgrees store username book file entry .complete
  := by
  obtain ⟨hok, hsaved⟩ := add_complete hstore book file entry
  constructor
  · intro _
    use book.get_insert entry
    intro later hworks
    rw [outcome_loadOrCreateIn_of_savedIn hname _ hsaved hworks]
    · rfl
    · apply hpath
  · intro err herr
    rw [hok] at herr
    cases herr

/-- The book and its file agree after a failed call just when the book already has the entry and a
reload gives what it gave. -/
theorem addAgrees_iff_of_error
    {err : Error} {file' : Option Bytes}
    (hadd : book.add store.pretty write file entry = (.error err, book.insert entry, file')) :
  AddAgrees store username book file entry write
    ↔ book.get entry.username = some entry ∧ ∀ later : Attempt, later.Works →
      ((loadOrCreateIn store later username).outcome file').1
        = ((loadOrCreateIn store later username).outcome file).1
  := by
  rw [← insert_eq_self_iff]
  constructor
  · intro hagrees
    have hfails := hagrees.fails err (congrArg Prod.fst hadd)
    rw [hadd] at hfails
    apply hfails
  · intro hsame
    constructor
    · intro hok
      rw [hadd] at hok
      cases hok
    · intro _ _
      rw [hadd]
      apply hsame

/-- A write that was stopped leaves a file that a reload reads as before just when it was
stopped after the last byte. -/
theorem reloads_take_iff
    (hstore : store.WritesFiles) (hname : isValidUsername username)
    (hpath : book.path = store.contactsPath username) (hsaved : SavedIn store book file)
    {json : Bytes} (hjson : store.pretty.toVec book.toJson = some json) (written : ℕ) :
  (∀ later : Attempt, later.Works →
      ((loadOrCreateIn store later username).outcome (some (json.take written))).1
        = ((loadOrCreateIn store later username).outcome file).1)
    ↔ json.length ≤ written
  := by
  have hloads : ∀ later : Attempt, later.Works →
      ((loadOrCreateIn store later username).outcome file).1 = .ok book := by
    intro later hworks
    rw [outcome_loadOrCreateIn_of_savedIn hname hpath hsaved hworks]
  constructor
  · intro hreload
    by_contra hlt
    have hworks : Attempt.Works ⟨true, true, true, .complete, .zero 32, .zero 32⟩ :=
      ⟨rfl, rfl, rfl, rfl⟩
    apply not_loads_take hstore hname hjson (not_le.mp hlt) hworks book
    rw [← hloads _ hworks]
    apply hreload _ hworks
  · intro hwhole later hworks
    rw [hloads later hworks, List.take_of_length_le hwhole,
      outcome_loadOrCreateIn_of_savedIn hname hpath (savedIn_of_toVec hstore hjson) hworks]

/-- A saved book and its file agree after a call when the call is safe, and only then. -/
theorem addAgrees_iff
    (hstore : store.WritesFiles) (hname : isValidUsername username)
    (hpath : book.path = store.contactsPath username) (hsaved : SavedIn store book file) :
  AddAgrees store username book file entry write ↔ AddSafe store.pretty book entry write
  := by
  obtain ⟨json, hjson, -⟩ := hstore.inverts _ (book.insert entry).plain_toJson
  cases write with
  | complete =>
      apply iff_of_true
      · apply addAgrees_complete hstore hname hpath
      · exact Or.inl rfl
  | notOpened =>
      rw [addAgrees_iff_of_error (add_notOpened file hjson)]
      simp [AddSafe]
  | stopped written =>
      rw [addAgrees_iff_of_error (add_stopped written file hjson), AddSafe]
      simp only [reduceCtorEq, false_or]
      apply and_congr_right
      intro hget
      rw [(insert_eq_self_iff book entry).mpr hget] at hjson
      rw [reloads_take_iff hstore hname hpath hsaved hjson]
      constructor
      · rintro hwhole json' _ hjson' ⟨⟩
        obtain rfl := Option.some.inj (hjson.symm.trans hjson')
        apply hwhole
      · intro hwhole
        apply hwhole json written hjson rfl

/-- After a safe call the book is saved. -/
theorem savedIn_add
    (hstore : store.WritesFiles) (hsaved : SavedIn store book file)
    (hsafe : AddSafe store.pretty book entry write) :
  SavedIn store (book.add store.pretty write file entry).2.1
    (book.add store.pretty write file entry).2.2
  := by
  obtain ⟨json, hjson, -⟩ := hstore.inverts _ (book.insert entry).plain_toJson
  rcases hsafe with rfl | ⟨hget, hle⟩
  · apply (add_complete hstore book file entry).2
  · have hsame := (insert_eq_self_iff book entry).mpr hget
    cases write with
    | complete => exact (add_complete hstore book file entry).2
    | notOpened =>
        rw [add_notOpened file hjson, hsame]
        exact hsaved
    | stopped written =>
        rw [add_stopped written file hjson, hsame]
        rw [hsame] at hjson
        dsimp only
        rw [List.take_of_length_le (hle json written hjson rfl)]
        apply savedIn_of_toVec hstore hjson

/-- The book in memory and its file stay the same through any calls of `add`, failed ones
included, just when every call is safe in the book it finds. -/
theorem addsAgree_iff
    (hstore : store.WritesFiles) {opening : Attempt} {start : Option Bytes}
    (hopen : (loadOrCreateIn store opening username).outcome start = (.ok book, file))
    (adds : List (PublicKeyEntry × WriteOutcome)) :
  AddsAgree store username adds book file ↔ AddsSafe store.pretty adds book
  := by
  obtain ⟨hname, hpath, hsaved⟩ := savedIn_of_open hstore hopen
  clear hopen
  induction adds generalizing book file with
  | nil => exact Iff.rfl
  | cons head adds ih =>
      obtain ⟨entry, write⟩ := head
      have hfirst : AddAgrees store username book file entry write
          ↔ AddSafe store.pretty book entry write := addAgrees_iff hstore hname hpath hsaved
      rw [AddsAgree, AddsSafe, hfirst]
      apply and_congr_right
      intro hsafe
      apply ih
      · apply hpath
      · apply savedIn_add hstore hsaved hsafe

end

/-! ### Samples -/

/-- The book that is opened when there is no file. -/
def sampleBook : ContactBook := ⟨∅, sampleStore.contactsPath "alice"⟩

def sampleEntry : PublicKeyEntry := ⟨"bob", zeroText, zeroText⟩

theorem outcome_open_sample :
  (loadOrCreateIn sampleStore (sampleAttempt .complete) "alice").outcome none
    = (.ok sampleBook, some sampleBook.toJson.compactBytes)
  := by
  have hname : isValidUsername "alice" := by decide +kernel
  rw [outcome_loadOrCreateIn_of_unseen hname rfl rfl]
  rfl

theorem get_sampleBook (name : String) :
  sampleBook.get name = none
  := Std.ExtTreeMap.getElem?_empty

/-- An entry is added, and then once more when the file cannot be opened. -/
theorem addsAgree_iff_sample :
  AddsAgree sampleStore "alice" [(sampleEntry, .complete), (sampleEntry, .notOpened)] sampleBook
    (some sampleBook.toJson.compactBytes)
  := by
  apply (addsAgree_iff sampleStore_writesFiles outcome_open_sample _).mpr
  refine ⟨Or.inl rfl, Or.inr ⟨?_, ?_⟩, trivial⟩
  · apply get_insert_self
  · rintro _ _ - ⟨⟩

/-- A write that stops after the file was truncated leaves the entry in the book and no book in
the file. -/
theorem not_addsAgree :
  ¬ ∀ (store : IdentityStore) (opening : Attempt) (username : String) (start file : Option Bytes)
      (book : ContactBook) (adds : List (PublicKeyEntry × WriteOutcome)),
    store.WritesFiles →
    (loadOrCreateIn store opening username).outcome start = (.ok book, file) →
      AddsAgree store username adds book file
  := by
  intro hagree
  have hagrees := hagree sampleStore (sampleAttempt .complete) "alice" none _ sampleBook
    [(sampleEntry, .stopped 0)] sampleStore_writesFiles outcome_open_sample
  obtain ⟨hname, hpath, hsaved⟩ := savedIn_of_open sampleStore_writesFiles outcome_open_sample
  rcases (addAgrees_iff sampleStore_writesFiles hname hpath hsaved).mp hagrees.1 with h | ⟨hget, -⟩
  · cases h
  · rw [get_sampleBook] at hget
    cases hget

end ContactBook

end Phantasma
