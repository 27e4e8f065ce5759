import Phantasma.Deployment.System

/-!
# The keys of the users agree

The keys of a user are in many places: in the identity file, in the session, in what was sent
to the relay, in the directory, and in the contact books of the others, in memory and in the
files.  `changes` says once what a step can do to these places, and `Agrees` is the invariant
that follows: every entry that some place has for a user was sent for that user, and what was
sent is what the identity file holds.  Hence all places have the entry of the identity file
(`entry_of_has`), which a file of the current format keeps (`holdsIdentity_of_reaches`).
-/

namespace Phantasma.Deployment

open TransitionSystem

variable {User MessageKey : Type} {d : Deployment User MessageKey} {s s' : State User}

/-! ### What a step can do -/

/-- The identity file of a user holds the identity. -/
def HoldsIdentity (d : Deployment User MessageKey) (s : State User) (u : User)
    (stored : StoredIdentity) : Prop :=
  Holds (d.store u) ((d.store u).path (d.name u)) (s.terminals u).identityFile (.current stored)

/-- The book is the one in the file of a user's contact book. -/
def SavedBook (d : Deployment User MessageKey) (s : State User) (u : User)
    (book : ContactBook) : Prop :=
  ContactBook.SavedIn (d.store u) book (s.terminals u).client.file

/-- A user's client knows the entry for the name: it has the contact, in memory or in the file,
or the directory has the entry. -/
inductive Knows (d : Deployment User MessageKey) (s : State User) (u : User) (name : String)
    (entry : PublicKeyEntry) : Prop where
  | memory (h : (s.terminals u).client.contacts.get name = some entry)
  | file {book} (hsaved : d.SavedBook s u book) (h : book.get name = some entry)
  | directory (h : s.directory.lookupPublicKey name = some entry)

/-- The session of a user has the identity that is in the file, and its registration was
sent. -/
structure InSession (d : Deployment User MessageKey) (s : State User) (u : User)
    (identity : LoadedIdentity) : Prop where
  valid : isValidUsername (d.name u)
  stored : ∃ stored, d.HoldsIdentity s u stored ∧ identity.IsOf stored
  sent : identity.registration (d.name u) ∈ s.requests

/-- What a step does to the terminal of a user. -/
structure TerminalChanges (d : Deployment User MessageKey) (s s' : State User) (u : User) :
    Prop where
  file : ∀ stored, d.HoldsIdentity s u stored → d.HoldsIdentity s' u stored
  session : ∀ identity, (s'.terminals u).progress.identity = some identity →
    (s.terminals u).progress.identity = some identity ∨ d.InSession s' u identity
  running : ∀ identity, (s'.terminals u).progress = .running identity →
    (s.terminals u).progress = .running identity
      ∨ s'.directory.lookupPublicKey (d.name u) = some (identity.registration (d.name u)).entry
  memory : ∀ name entry, (s'.terminals u).client.contacts.get name = some entry →
    d.Knows s u name entry
  saved : ∀ book, d.SavedBook s' u book → ∀ name entry, book.get name = some entry →
    d.Knows s u name entry
  before : (s.terminals u).client.events <+: (s'.terminals u).client.events
  encrypted : ∀ recipient body publicKey encrypted,
    .encrypted recipient body publicKey encrypted ∈ (s'.terminals u).client.events →
      .encrypted recipient body publicKey encrypted ∈ (s.terminals u).client.events
        ∨ ∃ identity nonce entry, (s.terminals u).progress = .running identity
          ∧ d.Knows s u recipient entry ∧ entry.encryptionPublicKey = publicKey
          ∧ encryptMessage d.primitives d.serde nonce (d.name u) recipient body
            identity.encryptionSecretKey identity.encryptionPublicKey publicKey = .ok encrypted
  frame : ∀ bytes, .frame bytes ∈ (s'.terminals u).client.events →
    .frame bytes ∈ (s.terminals u).client.events
      ∨ ∃ recipient body publicKey encrypted,
        .encrypted recipient body publicKey encrypted ∈ (s'.terminals u).client.events
          ∧ RoutedEncryptedMessage.toWireBytes d.serde ⟨d.name u, recipient, encrypted⟩
            = .ok bytes

/-- What a step does. -/
structure Changes (d : Deployment User MessageKey) (s s' : State User) : Prop where
  requests : ∀ registration ∈ s.requests, registration ∈ s'.requests
  sent : ∀ registration ∈ s'.requests, registration ∈ s.requests
    ∨ ∃ u identity, registration = LoadedIdentity.registration identity (d.name u)
      ∧ d.InSession s' u identity
  directory : ∀ u entry, s'.directory.lookupPublicKey (d.name u) = some entry →
    s.directory.lookupPublicKey (d.name u) = some entry
      ∨ ∃ registration ∈ s.requests, registration.username = d.name u
        ∧ registration.entry = entry
  registered : ∀ u, (s.directory.lookupPublicKey (d.name u)).isSome →
    (s'.directory.lookupPublicKey (d.name u)).isSome
  terminals : ∀ u, d.TerminalChanges s s' u

/-- A terminal that is left alone. -/
theorem TerminalChanges.of_eq {u : User} (h : s'.terminals u = s.terminals u) :
  d.TerminalChanges s s' u
  where
  file stored hholds := by
    rwa [HoldsIdentity, h]
  session identity hidentity := by
    rw [h] at hidentity
    apply Or.inl hidentity
  running identity hrunning := by
    rw [h] at hrunning
    apply Or.inl hrunning
  memory name entry hget := by
    rw [h] at hget
    apply Knows.memory hget
  saved book hsaved name entry hget := by
    rw [SavedBook, h] at hsaved
    apply Knows.file hsaved hget
  before := by
    rw [h]
  encrypted recipient body publicKey encrypted hmem := by
    rw [h] at hmem
    apply Or.inl hmem
  frame bytes hmem := by
    rw [h] at hmem
    apply Or.inl hmem

variable [DecidableEq User]

@[simp]
theorem terminals_setTerminal_self (s : State User) (u : User) (terminal : Terminal) :
  (s.setTerminal u terminal).terminals u = terminal
  := by
  simp [State.setTerminal]

theorem terminals_setTerminal_of_ne (s : State User) {u v : User} (terminal : Terminal)
    (h : v ≠ u) :
  (s.setTerminal u terminal).terminals v = s.terminals v
  := by
  simp [State.setTerminal, h]

/-- Every terminal is changed as it may be when one is, and the others are left alone. -/
theorem terminalChanges_of_update
    {u : User} (hu : d.TerminalChanges s s' u)
    (h : ∀ v, v ≠ u → s'.terminals v = s.terminals v) (v : User) :
  d.TerminalChanges s s' v
  := by
  by_cases heq : v = u
  · rw [heq]
    apply hu
  · apply TerminalChanges.of_eq (h v heq)

/-- A step that changes one terminal and nothing else. -/
theorem changes_of_terminal
    {u : User} (hu : d.TerminalChanges s s' u)
    (hothers : ∀ v, v ≠ u → s'.terminals v = s.terminals v)
    (hdirectory : s'.directory = s.directory) (hrequests : s'.requests = s.requests) :
  d.Changes s s'
  where
  requests registration hmem := by
    rwa [hrequests]
  sent registration hmem := by
    rw [hrequests] at hmem
    apply Or.inl hmem
  directory v entry hget := by
    rw [hdirectory] at hget
    apply Or.inl hget
  registered v hget := by
    rwa [hdirectory]
  terminals := terminalChanges_of_update hu hothers

/-! ### Starting -/

omit [DecidableEq User] in
/-- What a start leaves in the contact book and its file was known before. -/
theorem knows_of_loaded
    {u : User} {machine : Machine} {result : Except Error LoadedIdentity}
    (h : Loaded (d.store u) (d.name u) (s.terminals u).toMachine result machine)
    {book : ContactBook} (hsaved : ContactBook.SavedIn (d.store u) book machine.client.file)
    {name : String} {entry : PublicKeyEntry} (hget : book.get name = some entry) :
  d.Knows s u name entry
  := by
  rcases h.saved book hsaved with hsaved | hempty
  · apply Knows.file hsaved hget
  · rw [ContactBook.get, hempty, Std.ExtTreeMap.getElem?_empty] at hget
    cases hget

omit [DecidableEq User] in
/-- A terminal after the start of its client. -/
theorem terminalChanges_of_loaded
    {u : User} {machine : Machine} {progress : Progress} {result : Except Error LoadedIdentity}
    (h : Loaded (d.store u) (d.name u) (s.terminals u).toMachine result machine)
    (hterminal : s'.terminals u = ⟨machine, progress⟩)
    (hrunning : ∀ identity, progress ≠ .running identity)
    (hsession : ∀ identity, progress.identity = some identity → d.InSession s' u identity) :
  d.TerminalChanges s s' u
  where
  file stored hholds := by
    rw [HoldsIdentity, hterminal, h.current stored hholds]
    apply hholds
  session identity hidentity := by
    rw [hterminal] at hidentity
    apply Or.inr (hsession identity hidentity)
  running identity hrun := by
    rw [hterminal] at hrun
    apply absurd hrun (hrunning identity)
  memory name entry hget := by
    rw [hterminal] at hget
    rcases h.contacts with hsame | hsaved
    · rw [hsame] at hget
      apply Knows.memory hget
    · apply knows_of_loaded h hsaved hget
  saved book hsaved name entry hget := by
    rw [SavedBook, hterminal] at hsaved
    apply knows_of_loaded h hsaved hget
  before := by
    obtain ⟨texts, htexts⟩ := h.prints
    rw [hterminal, htexts]
    apply List.prefix_append
  encrypted recipient body publicKey encrypted hmem := by
    rw [hterminal] at hmem
    apply Or.inl (h.prints.mem hmem (by simp))
  frame bytes hmem := by
    rw [hterminal] at hmem
    apply Or.inl (h.prints.mem hmem (by simp))

/-- A start changes the terminal of its user, and sends the registration of the identity that
is loaded. -/
theorem changes_start
    (s : State User) {u : User} {attempt opening : Attempt}
    (hsees : (d.fs u).windows → attempt.seesFile) :
  d.Changes s (d.start s u attempt opening)
  := by
  rw [start]
  rcases hload : (loadUser (d.fs u) (d.store u) (d.name u) attempt opening).outcome
    (s.terminals u).toMachine with ⟨err | identity, machine⟩
  · have hloaded := loaded (d.writesFiles u) hsees hload
    apply changes_of_terminal (u := u)
    · apply terminalChanges_of_loaded hloaded (terminals_setTerminal_self s u _)
      · rintro _ ⟨⟩
      · rintro _ ⟨⟩
    · intro v hne
      apply terminals_setTerminal_of_ne s _ hne
    · rfl
    · rfl
  · have hloaded := loaded (d.writesFiles u) hsees hload
    obtain ⟨hvalid, stored, hholds, hisOf⟩ := hloaded.identity identity rfl
    have hterminal : ((s.setTerminal u ⟨machine, .registering identity⟩).send
        (identity.registration (d.name u))).terminals u = ⟨machine, .registering identity⟩ :=
      terminals_setTerminal_self s u _
    have hsession : d.InSession ((s.setTerminal u ⟨machine, .registering identity⟩).send
        (identity.registration (d.name u))) u identity := by
      use hvalid
      · use stored
        rw [HoldsIdentity, hterminal]
        exact ⟨hholds, hisOf⟩
      · apply List.mem_append_right _ (List.mem_singleton.mpr rfl)
    constructor
    · intro registration hmem
      apply List.mem_append_left _ hmem
    · intro registration hmem
      rcases List.mem_append.mp hmem with hmem | hmem
      · apply Or.inl hmem
      · exact Or.inr ⟨u, identity, List.mem_singleton.mp hmem, hsession⟩
    · intro v entry hget
      apply Or.inl hget
    · intro v hget
      apply hget
    · apply terminalChanges_of_update
      · apply terminalChanges_of_loaded hloaded hterminal
        · rintro _ ⟨⟩
        · rintro _ ⟨⟩
          apply hsession
      · intro v hne
        apply terminals_setTerminal_of_ne s _ hne

/-! ### Registering -/

/-- A request leaves what is looked up, or it is found. -/
theorem lookupPublicKey_take (directory : Directory) (request : RegistrationRequest)
    (name : String) :
  (directory.take request).lookupPublicKey name = directory.lookupPublicKey name
    ∨ request.registration.username = name
      ∧ (directory.take request).lookupPublicKey name = some request.registration.entry
  := by
  rw [take_eq]
  split
  · rw [Directory.lookupPublicKey_registerPublicKey]
    split
    · rename_i heq
      apply Or.inr ⟨heq, rfl⟩
    · apply Or.inl rfl
  · apply Or.inl rfl

omit [DecidableEq User] in
/-- A request that arrives changes the directory as it may, when it was sent or is for another
name. -/
theorem directory_of_take
    {request : RegistrationRequest}
    (hrequest : request.registration ∈ s.requests
      ∨ ∀ u, d.name u ≠ request.registration.username)
    (hdirectory : s'.directory = s.directory.take request) (u : User) :
  (∀ entry, s'.directory.lookupPublicKey (d.name u) = some entry →
      s.directory.lookupPublicKey (d.name u) = some entry
        ∨ ∃ registration ∈ s.requests, registration.username = d.name u
          ∧ registration.entry = entry)
    ∧ ((s.directory.lookupPublicKey (d.name u)).isSome →
      (s'.directory.lookupPublicKey (d.name u)).isSome)
  := by
  rw [hdirectory]
  rcases lookupPublicKey_take s.directory request (d.name u) with hsame | ⟨hname, hfound⟩
  · rw [hsame]
    exact ⟨fun _ hget => Or.inl hget, id⟩
  · rw [hfound]
    constructor
    · rintro entry ⟨⟩
      rcases hrequest with hmem | hother
      · exact Or.inr ⟨_, hmem, hname, rfl⟩
      · apply absurd hname.symm (hother u)
    · intro _
      rfl

omit [DecidableEq User] in
/-- A request that arrives and is not answered. -/
theorem changes_take
    {request : RegistrationRequest}
    (hrequest : request.registration ∈ s.requests
      ∨ ∀ u, d.name u ≠ request.registration.username) :
  d.Changes s { s with directory := s.directory.take request }
  where
  requests _ hmem := hmem
  sent _ hmem := Or.inl hmem
  directory u := (directory_of_take hrequest rfl u).1
  registered u := (directory_of_take hrequest rfl u).2
  terminals _ := TerminalChanges.of_eq rfl

omit [DecidableEq User] in
/-- A terminal whose client has only printed. -/
theorem terminalChanges_of_onlyPrints
    {u : User} {client : Client} {progress : Progress}
    (hcontacts : client.contacts = (s.terminals u).client.contacts)
    (hfile : client.file = (s.terminals u).client.file)
    (hprints : OnlyPrints (s.terminals u).client client)
    (hterminal : s'.terminals u
      = ⟨{ (s.terminals u).toMachine with client := client }, progress⟩)
    (hsession : ∀ identity, progress.identity = some identity →
      (s.terminals u).progress.identity = some identity)
    (hrunning : ∀ identity, progress = .running identity →
      (s.terminals u).progress = .running identity
        ∨ s'.directory.lookupPublicKey (d.name u)
          = some (identity.registration (d.name u)).entry) :
  d.TerminalChanges s s' u
  where
  file stored hholds := by
    rw [HoldsIdentity, hterminal]
    apply hholds
  session identity hidentity := by
    rw [hterminal] at hidentity
    apply Or.inl (hsession identity hidentity)
  running identity hrun := by
    rw [hterminal] at hrun
    apply hrunning identity hrun
  memory name entry hget := by
    rw [hterminal] at hget
    dsimp only at hget
    rw [hcontacts] at hget
    apply Knows.memory hget
  saved book hsaved name entry hget := by
    rw [SavedBook, hterminal] at hsaved
    dsimp only at hsaved
    rw [hfile] at hsaved
    apply Knows.file hsaved hget
  before := by
    obtain ⟨texts, htexts⟩ := hprints
    rw [hterminal, htexts]
    apply List.prefix_append
  encrypted recipient body publicKey encrypted hmem := by
    rw [hterminal] at hmem
    apply Or.inl (hprints.mem hmem (by simp))
  frame bytes hmem := by
    rw [hterminal] at hmem
    apply Or.inl (hprints.mem hmem (by simp))

omit [DecidableEq User] in
/-- The directory after a registration has arrived, and what it has when the client is told
that the registration is accepted. -/
theorem register_directory
    (s : State User) (u : User) (registration : PublicKeyRegistration) (succeeds : Bool) :
  (d.net.register d.serde (d.endpoints u) s.directory succeeds registration).2
      = s.directory.take ⟨registration, succeeds⟩
    ∧ (registerPublicKey (d.endpoints u)
        (d.net.register d.serde (d.endpoints u) s.directory succeeds registration).1 = .ok () →
      (s.directory.take ⟨registration, succeeds⟩).lookupPublicKey registration.username
        = some registration.entry)
  := by
  have hregister := clientRegister_eq d.inverts (d.address u) s.directory succeeds registration
  constructor
  · apply congrArg Prod.snd hregister
  · intro hok
    obtain ⟨hvalid, hsucceeds⟩ := (clientRegister_eq_ok d.inverts (d.address u)).mp hok
    rw [take_eq, RegistrationRequest.isAccepted, hvalid, hsucceeds]
    simp only [Except.toOption, Option.isSome_some, Bool.and_self, if_true,
      Directory.lookupPublicKey_registerPublicKey]

/-- A registration that arrives changes the directory and the terminal of its user. -/
theorem changes_register
    {u : User} {identity : LoadedIdentity} (hsent : identity.registration (d.name u) ∈ s.requests)
    (hprogress : (s.terminals u).progress = .registering identity) (succeeds lost : Bool)
    (failures : List String) :
  d.Changes s (d.register s u identity succeeds lost failures)
  := by
  obtain ⟨hdirectory, hfound⟩ :=
    register_directory (d := d) s u (identity.registration (d.name u)) succeeds
  rw [register]
  rcases hregister : d.net.register d.serde (d.endpoints u) s.directory succeeds
    (identity.registration (d.name u)) with ⟨answer, directory⟩
  rw [hregister] at hdirectory hfound
  rcases hjoin : (joinRelay (d.endpoints u) (d.name u) (if lost then none else answer)
    failures).outcome (s.terminals u).client with ⟨result, client⟩
  obtain ⟨hcontacts, hfile, hprints, hresult⟩ := joined hjoin
  dsimp only at hdirectory hfound ⊢
  rw [hjoin]
  constructor
  · intro registration hmem
    apply hmem
  · intro registration hmem
    apply Or.inl hmem
  · intro v
    apply (directory_of_take (Or.inl hsent) hdirectory v).1
  · intro v
    apply (directory_of_take (Or.inl hsent) hdirectory v).2
  · apply terminalChanges_of_update
    · apply terminalChanges_of_onlyPrints hcontacts hfile hprints
      · apply terminals_setTerminal_self s u
      · intro identity' hidentity
        cases result with
        | error err => cases hidentity
        | ok _ =>
            cases hidentity
            rw [hprogress]
            rfl
      · intro identity' hrunning
        cases result with
        | error err => cases hrunning
        | ok _ =>
            cases hrunning
            right
            cases lost with
            | true => cases hresult
            | false =>
                rw [hdirectory]
                apply hfound hresult.symm
    · intro v hne
      apply terminals_setTerminal_of_ne s _ hne

/-! ### Turns -/

omit [DecidableEq User] in
/-- What a turn looks up is in the directory. -/
theorem lookupPublicKey_of_answered
    {u : User} {identity : LoadedIdentity} {input : Input} {succeeds lost : Bool}
    {username : String} {outside : Outside} {entry : PublicKeyEntry}
    (hlookup : (input.answered (d.setup u identity)
      (d.lookup s.directory u succeeds lost)).lookup (d.setup u identity)
        = some (username, outside))
    (hanswer : lookupPublicKey d.serde (d.endpoints u) outside.answer username
      = .ok (some entry)) :
  s.directory.lookupPublicKey username = some entry
  := by
  rw [lookup_answered, Option.map_eq_some_iff] at hlookup
  obtain ⟨⟨username', outside'⟩, -, heq⟩ := hlookup
  obtain ⟨rfl, rfl⟩ := Prod.mk.inj heq
  rw [lookup] at hanswer
  cases lost with
  | true =>
      rw [lookupPublicKey] at hanswer
      split at hanswer <;> cases hanswer
  | false => apply lookupPublicKey_of_clientLookup d.inverts (d.address u) hanswer

omit [DecidableEq User] in
/-- What the contact book has with an entry of the directory added was known. -/
theorem knows_of_insert
    {u : User} {username name : String} {entry entry' : PublicKeyEntry}
    (hfound : s.directory.lookupPublicKey username = some entry)
    (hget : ((s.terminals u).client.contacts.insert entry).get name = some entry') :
  d.Knows s u name entry'
  := by
  rw [ContactBook.get_insert] at hget
  split at hget
  · rename_i hname
    obtain rfl := Option.some.inj hget
    obtain ⟨row, -, hentry⟩ := Option.map_eq_some_iff.mp hfound
    have husername : entry.username = username := by
      rw [← hentry]
    apply Knows.directory
    rw [← hname, husername]
    apply hfound
  · apply Knows.memory hget

omit [DecidableEq User] in
/-- A terminal whose client has acted on what it was answered. -/
theorem terminalChanges_of_acts
    {u : User} {identity : LoadedIdentity} {client : Client} {progress : Progress}
    {username : String} {outside : Outside}
    (hanswers : ∀ entry, lookupPublicKey d.serde (d.endpoints u) outside.answer username
      = .ok (some entry) → s.directory.lookupPublicKey username = some entry)
    (hacts : Acts (d.setup u identity) outside username (s.terminals u).client client)
    (hprogress : (s.terminals u).progress = .running identity)
    (hterminal : s'.terminals u
      = ⟨{ (s.terminals u).toMachine with client := client }, progress⟩)
    (hoff : progress = .running identity ∨ progress = .off) :
  d.TerminalChanges s s' u
  where
  file stored hholds := by
    rw [HoldsIdentity, hterminal]
    apply hholds
  session identity' hidentity := by
    rw [hterminal] at hidentity
    rcases hoff with rfl | rfl
    · rw [hprogress]
      apply Or.inl hidentity
    · cases hidentity
  running identity' hrunning := by
    rw [hterminal] at hrunning
    rcases hoff with rfl | rfl
    · rw [hprogress]
      apply Or.inl hrunning
    · cases hrunning
  memory name entry hget := by
    rw [hterminal] at hget
    rcases hacts.learns with ⟨hcontacts, -⟩ | ⟨found, hfound, hcontacts, -⟩
    · dsimp only at hget
      rw [hcontacts] at hget
      apply Knows.memory hget
    · dsimp only at hget
      rw [hcontacts] at hget
      apply knows_of_insert (hanswers found hfound) hget
  saved book hsaved name entry hget := by
    rw [SavedBook, hterminal] at hsaved
    dsimp only at hsaved
    rcases hacts.learns with ⟨-, hfile⟩ | ⟨found, hfound, -, hfile⟩
    · rw [hfile] at hsaved
      apply Knows.file hsaved hget
    · rw [hfile] at hsaved
      rcases ContactBook.savedIn_save (d.writesFiles u) hsaved with hsaved | hcontacts
      · apply Knows.file hsaved hget
      · rw [ContactBook.get, hcontacts] at hget
        apply knows_of_insert (hanswers found hfound) hget
  before := by
    rw [hterminal]
    apply hacts.before
  encrypted recipient body publicKey encrypted hmem := by
    rw [hterminal] at hmem
    rcases hacts.encrypted _ _ _ _ hmem with hold | ⟨rfl, ⟨entry, hentry, hkey⟩, hencrypt⟩
    · apply Or.inl hold
    · right
      refine ⟨identity, outside.nonce, entry, hprogress, ?_, hkey, hencrypt⟩
      rcases hentry with hget | ⟨-, hfound⟩
      · apply Knows.memory hget
      · apply Knows.directory (hanswers entry hfound)
  frame bytes hmem := by
    rw [hterminal] at hmem ⊢
    apply hacts.frame bytes hmem

/-- A turn changes the terminal of its user. -/
theorem changes_takeTurn
    {u : User} {identity : LoadedIdentity}
    (hprogress : (s.terminals u).progress = .running identity) (input : Input)
    (succeeds lost : Bool) :
  d.Changes s (d.takeTurn s u identity input succeeds lost)
  := by
  rw [takeTurn]
  rcases hturn : (turn (d.setup u identity) d.library (input.answered (d.setup u identity)
    (d.lookup s.directory u succeeds lost))).outcome (s.terminals u).client with ⟨result, client⟩
  have hturned := turned (d.setup u identity) d.library (input.answered (d.setup u identity)
    (d.lookup s.directory u succeeds lost)) (s.terminals u).client
  have hoff : Progress.afterTurn identity result = .running identity
      ∨ Progress.afterTurn identity result = .off := by
    unfold Progress.afterTurn
    split
    · apply Or.inl rfl
    · apply Or.inr rfl
  rw [hturn] at hturned
  apply changes_of_terminal (u := u)
  · rcases hturned with ⟨username, outside, hlookup, hacts⟩ | ⟨hcontacts, hfile, hprints⟩
    · apply terminalChanges_of_acts _ hacts hprogress (terminals_setTerminal_self s u _) hoff
      intro entry hanswer
      apply lookupPublicKey_of_answered hlookup hanswer
    · apply terminalChanges_of_onlyPrints hcontacts hfile hprints
        (terminals_setTerminal_self s u _)
      · intro identity' hidentity
        rw [hprogress]
        rcases hoff with heq | heq <;> rw [heq] at hidentity
        · apply hidentity
        · cases hidentity
      · intro identity' hrunning
        rw [hprogress]
        rcases hoff with heq | heq <;> rw [heq] at hrunning
        · apply Or.inl hrunning
        · cases hrunning
  · intro v hne
    apply terminals_setTerminal_of_ne s _ hne
  · rfl
  · rfl

theorem changes_quit (s : State User) (u : User) :
  d.Changes s (s.setTerminal u { s.terminals u with progress := .off })
  := by
  apply changes_of_terminal (u := u)
  · apply terminalChanges_of_onlyPrints rfl rfl (OnlyPrints.refl _)
      (terminals_setTerminal_self s u _)
    · rintro _ ⟨⟩
    · rintro _ ⟨⟩
  · intro v hne
    apply terminals_setTerminal_of_ne s _ hne
  · rfl
  · rfl

/-! ### The invariant -/

omit [DecidableEq User] in
/-- The entry was sent to the relay for a user. -/
def Sent (d : Deployment User MessageKey) (s : State User) (u : User) (entry : PublicKeyEntry) :
    Prop :=
  ∃ registration ∈ s.requests, registration.username = d.name u ∧ registration.entry = entry

omit [DecidableEq User] in
/-- What was sent is what the identity file of a user holds, a session has the identity of the
file, and every entry for a user was sent. -/
structure Agrees (d : Deployment User MessageKey) (s : State User) : Prop where
  sent : ∀ registration ∈ s.requests, ∃ u identity,
    registration = LoadedIdentity.registration identity (d.name u) ∧ d.InSession s u identity
  session : ∀ u identity, (s.terminals u).progress.identity = some identity →
    d.InSession s u identity
  running : ∀ u identity, (s.terminals u).progress = .running identity →
    (s.directory.lookupPublicKey (d.name u)).isSome
  knows : ∀ u v entry, d.Knows s v (d.name u) entry → d.Sent s u entry

/-- A step does what `Changes` says. -/
theorem changes_of_step
    {action : Action User} (hs : d.Agrees s) (hguard : d.guard s action)
    (hstep : d.step s action = some s') :
  d.Changes s s'
  := by
  cases action with
  | start u attempt opening =>
      rw [step] at hstep
      split at hstep
      · cases hstep
        apply changes_start s hguard
      · cases hstep
  | register u succeeds lost failures =>
      rw [step] at hstep
      split at hstep
      · rename_i identity hprogress
        cases hstep
        apply changes_register _ hprogress
        apply (hs.session u identity (by rw [hprogress]; rfl)).sent
      · cases hstep
  | arrive registration succeeds =>
      obtain ⟨hmem, ⟨⟩⟩ := Option.ite_none_right_eq_some.mp hstep
      apply changes_take (Or.inl hmem)
  | turn u input succeeds lost =>
      rw [step] at hstep
      split at hstep
      · rename_i identity hprogress
        cases hstep
        apply changes_takeTurn hprogress
      · cases hstep
  | quit u =>
      cases hstep
      apply changes_quit
  | registerOther registration succeeds =>
      cases hstep
      apply changes_take
      apply Or.inr hguard

omit [DecidableEq User] in
theorem InSession.of_changes
    {u : User} {identity : LoadedIdentity} (h : d.InSession s u identity)
    (hchanges : d.Changes s s') :
  d.InSession s' u identity
  := by
  obtain ⟨hvalid, ⟨stored, hholds, hisOf⟩, hsent⟩ := h
  exact ⟨hvalid, ⟨stored, (hchanges.terminals u).file stored hholds, hisOf⟩,
    hchanges.requests _ hsent⟩

omit [DecidableEq User] in
theorem Sent.of_changes
    {u : User} {entry : PublicKeyEntry} (h : d.Sent s u entry) (hchanges : d.Changes s s') :
  d.Sent s' u entry
  := by
  obtain ⟨registration, hmem, hname, hentry⟩ := h
  exact ⟨registration, hchanges.requests _ hmem, hname, hentry⟩

omit [DecidableEq User] in
/-- What a client knows after a step, one of the clients knew before, or it was sent. -/
theorem knows_of_changes
    {u v : User} {entry : PublicKeyEntry} (hchanges : d.Changes s s')
    (h : d.Knows s' v (d.name u) entry) :
  (∃ w, d.Knows s w (d.name u) entry) ∨ d.Sent s u entry
  := by
  cases h with
  | memory hget => exact Or.inl ⟨v, (hchanges.terminals v).memory _ _ hget⟩
  | file hsaved hget => exact Or.inl ⟨v, (hchanges.terminals v).saved _ hsaved _ _ hget⟩
  | directory hget =>
      rcases hchanges.directory u entry hget with hold | hsent
      · exact Or.inl ⟨v, Knows.directory hold⟩
      · apply Or.inr hsent

omit [DecidableEq User] in
/-- A step preserves the invariant. -/
theorem Agrees.of_changes (hs : d.Agrees s) (hchanges : d.Changes s s') :
  d.Agrees s'
  where
  sent registration hmem := by
    rcases hchanges.sent registration hmem with hold | ⟨u, identity, rfl, hsession⟩
    · obtain ⟨u, identity, rfl, hsession⟩ := hs.sent registration hold
      exact ⟨u, identity, rfl, hsession.of_changes hchanges⟩
    · exact ⟨u, identity, rfl, hsession⟩
  session u identity hidentity := by
    rcases (hchanges.terminals u).session identity hidentity with hold | hnew
    · apply (hs.session u identity hold).of_changes hchanges
    · apply hnew
  running u identity hrunning := by
    rcases (hchanges.terminals u).running identity hrunning with hold | hnew
    · apply hchanges.registered u (hs.running u identity hold)
    · rw [hnew]
      rfl
  knows u v entry hknows := by
    rcases knows_of_changes hchanges hknows with ⟨w, hold⟩ | hsent
    · apply (hs.knows u w entry hold).of_changes hchanges
    · apply hsent.of_changes hchanges

omit [DecidableEq User] in
theorem agrees_of_initial (hs : d.Initial s) :
  d.Agrees s
  where
  sent registration hmem := by
    rw [hs.requests] at hmem
    cases hmem
  session u identity hidentity := by
    rw [hs.progress] at hidentity
    cases hidentity
  running u identity hrunning := by
    rw [hs.progress] at hrunning
    cases hrunning
  knows u v entry hknows := by
    exfalso
    cases hknows with
    | memory hget =>
        rw [hs.contacts] at hget
        cases hget
    | file hsaved hget =>
        rw [hs.saved u v _ hsaved] at hget
        cases hget
    | directory hget =>
        rw [hs.directory] at hget
        cases hget

/-- The invariant holds in every run. -/
theorem agrees_of_reaches (hs : d.Agrees s) (h : Reaches d.step d.guard s s') :
  d.Agrees s'
  := by
  apply h.invariant _ hs
  intro s action s' hguard hstep hs
  apply hs.of_changes (changes_of_step hs hguard hstep)

/-! ### One entry for a user -/

omit [DecidableEq User] in
/-- `Has d s u entry`: some place has the entry for the user. -/
inductive Has (d : Deployment User MessageKey) (s : State User) (u : User)
    (entry : PublicKeyEntry) : Prop where
  /-- The directory, or the contact book of a user, in memory or in the file. -/
  | known {v} (h : d.Knows s v (d.name u) entry)
  /-- The user's own session. -/
  | session {identity} (h : (s.terminals u).progress.identity = some identity)
      (hentry : (LoadedIdentity.registration identity (d.name u)).entry = entry)
  /-- A registration that was sent to the relay. -/
  | sent (h : d.Sent s u entry)
  /-- The user's identity file, in the current format. -/
  | file {stored} (h : d.HoldsIdentity s u stored)
      (hentry : entry = ⟨d.name u, stored.identityPublicKey, stored.encryptionPublicKey⟩)

omit [DecidableEq User] in
/-- What was sent for a user has the keys of the identity file. -/
theorem entry_of_sent
    {u : User} {entry : PublicKeyEntry} (hs : d.Agrees s) (h : d.Sent s u entry) :
  ∃ stored, d.HoldsIdentity s u stored
    ∧ entry = ⟨d.name u, stored.identityPublicKey, stored.encryptionPublicKey⟩
  := by
  obtain ⟨registration, hmem, hname, rfl⟩ := h
  obtain ⟨v, identity, rfl, -, ⟨stored, hholds, hisOf⟩, -⟩ := hs.sent registration hmem
  obtain rfl := d.name_injective hname
  use stored, hholds
  rw [PublicKeyRegistration.entry, LoadedIdentity.registration, hisOf.identityPublicKey,
    hisOf.encryptionPublicKey]

omit [DecidableEq User] in
/-- Whatever has an entry for a user, the identity file has it. -/
theorem entry_of_has
    {u : User} {entry : PublicKeyEntry} (hs : d.Agrees s) (h : d.Has s u entry) :
  ∃ stored, d.HoldsIdentity s u stored
    ∧ entry = ⟨d.name u, stored.identityPublicKey, stored.encryptionPublicKey⟩
  := by
  cases h with
  | known hknows => apply entry_of_sent hs (hs.knows u _ entry hknows)
  | session hidentity hentry =>
      apply entry_of_sent hs
      exact ⟨_, (hs.session u _ hidentity).sent, rfl, hentry⟩
  | sent hsent => apply entry_of_sent hs hsent
  | file hholds hentry => exact ⟨_, hholds, hentry⟩

omit [DecidableEq User] in
theorem sent_unique
    {u : User} {entry entry' : PublicKeyEntry} (hs : d.Agrees s) (h : d.Sent s u entry)
    (h' : d.Sent s u entry') :
  entry = entry'
  := by
  obtain ⟨stored, hholds, rfl⟩ := entry_of_sent hs h
  obtain ⟨stored', hholds', rfl⟩ := entry_of_sent hs h'
  rw [holds_unique hholds hholds']

/-- An identity file of the current format keeps its identity. -/
theorem holdsIdentity_of_reaches
    {u : User} {stored : StoredIdentity} (hs : d.Agrees s) (hholds : d.HoldsIdentity s u stored)
    (h : Reaches d.step d.guard s s') :
  d.HoldsIdentity s' u stored
  := by
  have hboth : d.Agrees s' ∧ d.HoldsIdentity s' u stored := by
    apply h.invariant (I := fun s => d.Agrees s ∧ d.HoldsIdentity s u stored) _ ⟨hs, hholds⟩
    rintro s action s' hguard hstep ⟨hs, hholds⟩
    have hchanges := changes_of_step hs hguard hstep
    exact ⟨hs.of_changes hchanges, (hchanges.terminals u).file stored hholds⟩
  apply hboth.2

end Phantasma.Deployment
