import Phantasma.Client.KeyText
import Phantasma.Deployment.Delivery

/-!
# Users reach one another

Two users whose files can be loaded can be brought to take turns both, whatever was going on
before (`exists_running_running`); and then a command of the one to the other is written to the
socket, whether the other is a saved contact or has to be looked up first (`exists_speaks`).
-/

namespace Phantasma.Deployment

open TransitionSystem

variable {User MessageKey : Type} {d : Deployment User MessageKey} {s s' : State User} {u v : User}

/-- The name of the user is a valid one, and the files of the user are there and valid, or not there
yet. -/
structure Usable (d : Deployment User MessageKey) (s : State User) (u : User) : Prop where
  valid : isValidUsername (d.name u)
  identity : ∃ content,
    Holds (d.store u) ((d.store u).path (d.name u)) (s.terminals u).identityFile content
  contacts : (s.terminals u).client.file = none ∨ ∃ book, d.SavedBook s u book

/-! ### Starting -/

/-- The text of a key has the shape of one. -/
theorem isValidPublicKeyText_encodeKey (key : Key) :
  isValidPublicKeyText (encodeKey key)
  := (isValidPublicKeyText_iff _).mpr ((exists_encodeKey_iff _).mp ⟨key, rfl⟩).1

/-- What an identity file holds is valid. -/
theorem valid_of_holds
    {store : IdentityStore} {path : String} {file : Option Bytes} {stored : StoredIdentity}
    (h : Holds store path file (.current stored)) :
  validateStoredIdentity store path stored = .ok ()
  := by
  obtain - | ⟨-, -, -, -, hvalid⟩ := h
  apply hvalid

/-- The relay takes the registration of a session. -/
theorem validateRegistration_of_inSession
    {identity : LoadedIdentity} (h : d.InSession s u identity) :
  validateRegistration (identity.registration (d.name u)) = .ok ()
  := by
  obtain ⟨stored, hholds, hisOf⟩ := h.stored
  obtain ⟨key, -, hencryption⟩ := exists_secretKey hholds
  obtain ⟨hkeys, -⟩ := validateStoredIdentity_eq_ok.mp (valid_of_holds hholds)
  obtain ⟨secretKey, -, hidentity⟩ := checkIdentityKeys_eq_ok.mp hkeys
  apply validateRegistration_eq_ok.mpr
  use h.valid
  constructor
  · rw [LoadedIdentity.registration, hisOf.identityPublicKey, ← Base64.encode_of_decode hidentity]
    apply isValidPublicKeyText_encodeKey
  · rw [LoadedIdentity.registration, hisOf.encryptionPublicKey, hencryption]
    apply isValidPublicKeyText_encodeKey

variable [DecidableEq User]

/-- What working storage does in a start. -/
def workingAttempt : Attempt := ⟨true, true, true, .complete, .zero 32, .zero 32⟩

theorem workingAttempt_works :
  workingAttempt.Works
  := ⟨rfl, rfl, rfl, rfl⟩

/-- `Follows d s u s'`: the steps from `s` to `s'` are those of the client of `u`; they leave
its files usable and the other terminals as they are, and show no message. -/
structure Follows (d : Deployment User MessageKey) (s : State User) (u : User) (s' : State User) :
    Prop where
  reaches : Reaches d.step d.guard s s'
  usable : d.Usable s' u
  displayed : (s'.terminals u).client.displayed = (s.terminals u).client.displayed
  others : ∀ v, v ≠ u → s'.terminals v = s.terminals v

theorem Follows.trans
    {s'' : State User} (h : d.Follows s u s') (h' : d.Follows s' u s'') :
  d.Follows s u s''
  where
  reaches := Relation.ReflTransGen.trans h.reaches h'.reaches
  usable := h'.usable
  displayed := h'.displayed.trans h.displayed
  others v hne := (h'.others v hne).trans (h.others v hne)

theorem follows_quit (hu : d.Usable s u) :
  d.Follows s u (s.setTerminal u { s.terminals u with progress := .off })
  where
  reaches := Relation.ReflTransGen.single ⟨.quit u, trivial, rfl⟩
  usable := by
    use hu.valid
    · rw [terminals_setTerminal_self]
      apply hu.identity
    · simp only [SavedBook, terminals_setTerminal_self]
      apply hu.contacts
  displayed := by
    rw [terminals_setTerminal_self]
  others v hne := terminals_setTerminal_of_ne s _ hne

/-- A start on working storage sends a registration. -/
theorem follows_start (hu : d.Usable s u) (hoff : (s.terminals u).progress = .off) :
  ∃ s' identity, d.step s (.start u workingAttempt workingAttempt) = some s'
    ∧ d.Follows s u s' ∧ (s'.terminals u).progress = .registering identity
  := by
  obtain ⟨content, hholds⟩ := hu.identity
  obtain ⟨identity, machine, stored, book, hload, hstored, hsaved⟩ := exists_loadUser (d.fs u)
    (d.writesFiles u) hu.valid hholds hu.contacts workingAttempt_works workingAttempt_works
  have hloaded := loaded (d.writesFiles u) (fun _ => rfl) hload
  have hstep : d.step s (.start u workingAttempt workingAttempt)
      = some ((s.setTerminal u ⟨machine, .registering identity⟩).send
        (identity.registration (d.name u))) := by
    rw [step, hoff]
    dsimp only
    rw [start, hload]
  have hterminal : ((s.setTerminal u ⟨machine, .registering identity⟩).send
      (identity.registration (d.name u))).terminals u = ⟨machine, .registering identity⟩ :=
    terminals_setTerminal_self s u _
  use (s.setTerminal u ⟨machine, .registering identity⟩).send (identity.registration (d.name u)),
    identity, hstep
  constructor
  · constructor
    · apply Relation.ReflTransGen.single
      exact ⟨.start u workingAttempt workingAttempt, fun _ => rfl, hstep⟩
    · use hu.valid
      · use .current stored
        rw [hterminal]
        apply hstored
      · right
        use book
        rw [SavedBook, hterminal]
        apply hsaved
    · rw [hterminal]
      apply hloaded.prints.displayed_eq
    · intro v hne
      apply terminals_setTerminal_of_ne s _ hne
  · rw [hterminal]

/-- The registration is accepted, and the client takes its turns. -/
theorem follows_register
    (hs : d.Agrees s) (hu : d.Usable s u) {identity : LoadedIdentity}
    (hprogress : (s.terminals u).progress = .registering identity) :
  ∃ s', d.step s (.register u true false []) = some s'
    ∧ d.Follows s u s' ∧ (s'.terminals u).progress = .running identity
  := by
  have hsession := hs.session u identity (by rw [hprogress]; rfl)
  have haccepted : registerPublicKey (d.endpoints u) (d.net.register d.serde (d.endpoints u)
      s.directory true (identity.registration (d.name u))).1 = .ok () :=
    (clientRegister_eq_ok d.inverts (d.address u)).mpr
      ⟨validateRegistration_of_inSession hsession, rfl⟩
  rcases hregister : d.net.register d.serde (d.endpoints u) s.directory true
    (identity.registration (d.name u)) with ⟨answer, directory⟩
  rcases hjoin : (joinRelay (d.endpoints u) (d.name u) answer []).outcome
    (s.terminals u).client with ⟨result, client⟩
  obtain ⟨-, hfile, hprints, hresult⟩ := joined hjoin
  rw [hregister] at haccepted
  rw [haccepted] at hresult
  subst hresult
  have hstep : d.step s (.register u true false [])
      = some { s.setTerminal u
          ⟨{ (s.terminals u).toMachine with client := client }, .running identity⟩ with
        directory := directory } := by
    rw [step, hprogress]
    simp only [register, hregister, Bool.false_eq_true, if_false, hjoin]
    rfl
  have hreach : Reaches d.step d.guard s { s.setTerminal u
      ⟨{ (s.terminals u).toMachine with client := client }, .running identity⟩ with
        directory := directory } :=
    Relation.ReflTransGen.single ⟨.register u true false [], trivial, hstep⟩
  refine ⟨_, hstep, ⟨hreach, ?_, ?_, ?_⟩, ?_⟩
  · use hu.valid
    · simp only [terminals_setTerminal_self]
      apply hu.identity
    · simp only [SavedBook, terminals_setTerminal_self, hfile]
      apply hu.contacts
  · simp only [terminals_setTerminal_self]
    apply hprints.displayed_eq
  · intro v hne
    apply terminals_setTerminal_of_ne s _ hne
  · simp only [terminals_setTerminal_self]

/-- Whatever its client was doing, a user whose files are usable can be brought to take
turns. -/
theorem exists_running (hs : d.Agrees s) (hu : d.Usable s u) :
  ∃ s' identity, d.Follows s u s' ∧ (s'.terminals u).progress = .running identity
  := by
  have hquit := follows_quit hu
  have hoff : ((s.setTerminal u { s.terminals u with progress := .off }).terminals u).progress
      = .off := by
    rw [terminals_setTerminal_self]
  obtain ⟨s', identity, -, hstart, hprogress⟩ := follows_start hquit.usable hoff
  have hs' := agrees_of_reaches hs (hquit.trans hstart).reaches
  obtain ⟨s'', -, hregister, hrunning⟩ := follows_register hs' hstart.usable hprogress
  use s'', identity, (hquit.trans hstart).trans hregister

/-! ### Sending -/

omit [DecidableEq User] in
/-- The entry of a recipient is found. -/
theorem exists_recipientEntry
    (identity : LoadedIdentity) (client : Client) {username : String} {entry : PublicKeyEntry}
    {outside : Outside} (hwrite : outside.write = .complete)
    (hanswer : lookupPublicKey d.serde (d.endpoints u) outside.answer username
      = .ok (some entry)) :
  ∃ client' found, (recipientEntry (d.setup u identity) outside username).outcome client
      = (.ok (some found), client')
    ∧ (client.contacts.get username = some found ∨ found = entry)
  := by
  cases hsaved : client.contacts.get username with
  | some found => exact ⟨client, found, recipientEntry_of_saved hsaved, Or.inl rfl⟩
  | none =>
      obtain ⟨client', hlook⟩ := exists_lookUpAndAdd identity client hwrite hanswer
      use client', entry
      rw [recipientEntry_of_unsaved hsaved]
      exact ⟨hlook, Or.inr rfl⟩

omit [DecidableEq User] in
/-- A message under the key that was sent for a user can be encrypted. -/
theorem exists_encryptMessage
    {identity : LoadedIdentity} (hs : d.Agrees s) (hsession : d.InSession s u identity)
    {entry : PublicKeyEntry} (hsent : d.Sent s v entry) (nonce : Nonce) (recipient body : String) :
  ∃ encrypted, encryptMessage d.primitives d.serde nonce (d.name u) recipient body
    identity.encryptionSecretKey identity.encryptionPublicKey entry.encryptionPublicKey
    = .ok encrypted
  := by
  obtain ⟨stored, hholds, rfl⟩ := entry_of_sent hs hsent
  obtain ⟨key, -, hpublic⟩ := exists_secretKey hholds
  have hkey : Base64.decode stored.encryptionPublicKey
      = some (d.primitives.x25519Base key).bytes := by
    rw [hpublic, d.x25519Base_store]
    apply Base64.decode_encode
  obtain ⟨box, _, hnonce, hseals, -, -⟩ := exists_seals d.agreeing d.inverts
    identity.encryptionSecretKey key nonce ⟨d.name u, recipient, body⟩
  use box.envelope identity.encryptionPublicKey
  apply encryptMessage_eq_ok.mpr
  exact ⟨_, _, box, decodeFixedKey_eq_ok_iff.mpr (decode_encryptionPublicKey hsession),
    decodeFixedKey_eq_ok_iff.mpr hkey, hseals, hnonce, rfl⟩

/-- What comes from outside in a turn in which nothing fails. -/
def workingOutside : Outside := ⟨none, .zero 24, .complete, true⟩

/-- `Speaks d s u v typed body s' frame`: the client of `u` takes the line `typed`, with which the
message `body` to `v` is encrypted and its frame is given to the socket. -/
structure Speaks (d : Deployment User MessageKey) (s : State User) (u v : User)
    (typed body : String) (s' : State User) (frame : Bytes) : Prop where
  step : d.step s (.turn u (.line typed workingOutside) true false) = some s'
  progress : (s'.terminals u).progress = (s.terminals u).progress
  others : ∀ w, w ≠ u → s'.terminals w = s.terminals w
  displayed : (s'.terminals u).client.displayed = (s.terminals u).client.displayed
  encrypted : ∃ publicKey encrypted,
    .encrypted (d.name v) body publicKey encrypted ∈ (s'.terminals u).client.events
      ∧ RoutedEncryptedMessage.toWireBytes d.serde ⟨d.name u, d.name v, encrypted⟩ = .ok frame
  frames : (s'.terminals u).client.frames = (s.terminals u).client.frames ++ [frame]

/-- A turn whose command is a message that is sent. -/
theorem takeTurn_of_sendMessage
    {identity : LoadedIdentity} {typed rest recipient body : String} {client : Client}
    (hcommand : parseCommand typed = .send rest) (hparse : parseSend rest = some (recipient, body))
    (hsend : (sendMessage (d.setup u identity) { workingOutside with
      answer := d.lookup s.directory u true false recipient } rest).outcome
        (s.terminals u).client = (.ok (), client)) :
  d.takeTurn s u identity (.line typed workingOutside) true false
    = s.setTerminal u ⟨{ (s.terminals u).toMachine with client := client }, .running identity⟩
  := by
  have hcontact : (Command.send rest).contact = some recipient := by
    rw [Command.contact, hparse]
    rfl
  rw [takeTurn, Input.answered, hcommand, hcontact, Option.bind_some, turn, hcommand, runCommand,
    Program.outcome_bind, outcome_reporting, hsend]
  rfl

omit [DecidableEq User] in
/-- The frame of a message to a user is made, when the entry that is found for the user was
sent. -/
theorem exists_routedFrame
    {identity : LoadedIdentity} (hs : d.Agrees s) (hsession : d.InSession s u identity)
    {entry : PublicKeyEntry} (hsent : d.Sent s v entry) (nonce : Nonce) (body : String) :
  ∃ encrypted frame,
    RoutedEncryptedMessage.toWireBytes d.serde ⟨d.name u, d.name v, encrypted⟩ = .ok frame
      ∧ ∀ client, (routedFrame (d.setup u identity) nonce (d.name v) body
          entry.encryptionPublicKey).outcome client
        = (.ok frame, client.record
          (.encrypted (d.name v) body entry.encryptionPublicKey encrypted))
  := by
  obtain ⟨encrypted, hencrypt⟩ := exists_encryptMessage hs hsession hsent nonce (d.name v) body
  obtain ⟨frame, hbytes, -⟩ := fromWire_toWire d.inverts
    (RoutedEncryptedMessage.plain_toJson ⟨d.name u, d.name v, encrypted⟩)
    (RoutedEncryptedMessage.ofJson_toJson _)
  exact ⟨encrypted, frame, hbytes, outcome_routedFrame hencrypt hbytes⟩

/-- The relay accepts the frame, and its payload is a message that was written. -/
theorem Speaks.exists_payload
    {typed body : String} {frame : Bytes} (h : d.Speaks s u v typed body s' frame)
    (hs' : d.Agrees s') (hwritten : d.Written s') :
  ∃ payload publicKey encrypted, d.Wrote s' u (d.name v) body publicKey encrypted
    ∧ checkPayload d.serde (d.name u) frame = .ok (.accepted (d.name v) payload)
    ∧ d.serde.fromSlice payload = some encrypted.toJson
  := by
  obtain ⟨publicKey, encrypted, hencrypted, hbytes⟩ := h.encrypted
  have hwrote := hwritten.encrypted u _ _ _ _ hencrypted
  obtain ⟨payload, hcheck, hpayload⟩ := checkPayload_of_wrote hs' hwrote hbytes
  use payload, publicKey, encrypted, hwrote, hcheck, hpayload

/-- A command to a registered user is written to the socket. -/
theorem exists_speaks
    (hs : d.Agrees s) {identity identity' : LoadedIdentity}
    (hu : (s.terminals u).progress = .running identity)
    (hv : (s.terminals v).progress = .running identity') (hlookup : d.CanBeLookedUp v)
    {typed rest body : String} (hcommand : parseCommand typed = .send rest)
    (hparse : parseSend rest = some (d.name v, body)) :
  ∃ s' frame, d.Speaks s u v typed body s' frame
  := by
  have husession := hs.session u identity (by rw [hu]; rfl)
  have hvsession := hs.session v identity' (by rw [hv]; rfl)
  obtain ⟨entry, hentry⟩ := Option.isSome_iff_exists.mp (hs.running v identity' hv)
  have hanswer := lookup_of_registered hvsession hentry hlookup u
  let outside := { workingOutside with answer := d.lookup s.directory u true false (d.name v) }
  have hwrite : outside.write = .complete := rfl
  obtain ⟨client, found, hfind, hfound⟩ :=
    exists_recipientEntry identity (s.terminals u).client hwrite hanswer
  have hsent : d.Sent s v found := by
    rcases hfound with hsaved | rfl
    · apply hs.knows v u found (.memory hsaved)
    · apply hs.knows v u found (.directory hentry)
  obtain ⟨encrypted, frame, hbytes, hframe⟩ :=
    exists_routedFrame hs husession hsent outside.nonce body
  have hsend := sendMessage_of_entry hparse hfind (hframe client) rfl
  have hprints := onlyPrints_recipientEntry hfind
  use d.takeTurn s u identity (.line typed workingOutside) true false, frame
  have hturn := takeTurn_of_sendMessage hcommand hparse hsend
  constructor
  case step => rw [step, hu]
  case progress => rw [hturn, terminals_setTerminal_self, hu]
  case others =>
    intro w hne
    rw [hturn]
    apply terminals_setTerminal_of_ne s _ hne
  case displayed =>
    rw [hturn, terminals_setTerminal_self, ← hprints.displayed_eq]
    simp [Event.message?]
  case encrypted =>
    use found.encryptionPublicKey, encrypted
    rw [hturn, terminals_setTerminal_self]
    exact ⟨by simp, hbytes⟩
  case frames =>
    rw [hturn, terminals_setTerminal_self, ← hprints.frames_eq]
    simp [Event.frame?]

/-! ### Both at once -/

omit [DecidableEq User] in
theorem Usable.of_eq (h : d.Usable s u) (heq : s'.terminals u = s.terminals u) :
  d.Usable s' u
  := by
  use h.valid
  · rw [heq]
    apply h.identity
  · simp only [SavedBook, heq]
    apply h.contacts

/-- Two users whose files are usable can be brought to take turns both. -/
theorem exists_running_running (hs : d.Agrees s) (hu : d.Usable s u) (hv : d.Usable s v) :
  ∃ s' identity identity', Reaches d.step d.guard s s'
    ∧ (s'.terminals u).progress = .running identity
    ∧ (s'.terminals v).progress = .running identity'
    ∧ (s'.terminals v).client.displayed = (s.terminals v).client.displayed
  := by
  obtain ⟨s₁, identity, hfollows, hrunning⟩ := exists_running hs hu
  by_cases hne : v = u
  · subst hne
    use s₁, identity, identity, hfollows.reaches, hrunning, hrunning, hfollows.displayed
  · have heq := hfollows.others v hne
    obtain ⟨s₂, identity', hfollows', hrunning'⟩ :=
      exists_running (agrees_of_reaches hs hfollows.reaches) (hv.of_eq heq)
    use s₂, identity, identity', Relation.ReflTransGen.trans hfollows.reaches hfollows'.reaches
    constructor
    · rw [hfollows'.others u (Ne.symm hne), hrunning]
    · rw [hfollows'.displayed, heq]
      exact ⟨hrunning', rfl⟩

end Phantasma.Deployment
