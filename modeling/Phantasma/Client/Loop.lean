import Phantasma.Client.Pinning

/-!
# The loop of the client

`main` takes turns: it waits for a line of the user or a frame of the relay and handles it.
A call that sends or receives a message is caught when it fails, and the failure is
printed; a call that adds a contact is not, and its failure ends the session.
`session_iff` says that nothing else does, apart from `/quit` and the end of the input.
-/

namespace Phantasma

/-! ### Lines of the user -/

/-- What a line of the user asks for. -/
inductive Command where
  | nothing
  | quit
  | help
  | contacts
  | add (username : String)
  | send (rest : String)
  | unknown
deriving DecidableEq

/-- The command on a line. -/
def parseCommand (line : String) : Command :=
  let command := trim line.toList
  if command.isEmpty then .nothing
  else if command = "/quit".toList then .quit
  else if command = "/help".toList then .help
  else if command = "/contacts".toList then .contacts
  else
    match stripPrefix "/add " command with
    | some username => .add (String.ofList (trim username))
    | none =>
        match stripPrefix "/send " command with
        | some rest => .send (String.ofList rest)
        | none =>
            match stripPrefix "/to " command with
            | some rest => .send (String.ofList rest)
            | none =>
                match stripPrefix "/lookup " command with
                | some username => .add (String.ofList (trim username))
                | none => .unknown

/-! ### Turns -/

/-- What `select!` brings: a line of the user, or what the socket gives.  When the
connection is lost, `failures` are the errors of the attempts to connect again before the
one that succeeds. -/
inductive Input where
  | line (text : String) (outside : Outside)
  | endOfInput
  /-- The input cannot be read, or is not UTF-8. -/
  | unreadable (err : Error)
  | binary (bytes : Bytes) (outside : Outside)
  | text (text : String)
  /-- A close frame, or the end of the stream. -/
  | closed (failures : List String)
  /-- A ping, a pong or a raw frame. -/
  | control
  | failed (err : String) (failures : List String)

/-- The text of an error, where `library` has those of the libraries. -/
def Error.display (library : Error → String) : Error → String
  | .text message => message
  | err => library err

/-- The client after it has printed lines of text. -/
def Client.printed (client : Client) (texts : List String) : Client :=
  { client with events := client.events ++ texts.map .line }

/-- Lines of text are printed. -/
def printLines (texts : List String) : Run Unit :=
  modify fun client => client.printed texts

/-- `print_help`. -/
def printHelp : Run Unit :=
  printLines ["commands:",
    "  /add <username>             add or refresh a contact",
    "  /contacts                   list saved contacts",
    "  /send <username> <message>  send an encrypted message",
    "  /quit                       exit"]

/-- `print_contacts`. -/
def printContacts : Run Unit := do
  let names := (← get).contacts.names
  if names.isEmpty then
    println "no contacts yet"
  else
    printLines names

/-- The lines of `connect_with_retry`. -/
def connectLines (failures : List String) : List String :=
  failures.map (fun err => s!"connection failed: {err}. retrying in 2 seconds.")
    ++ ["connected to server"]

/-- A call whose failure is printed. -/
def reporting (report : Error → String) (call : Run Unit) : Run Unit :=
  tryCatch call fun err => println (report err)

section

variable {MessageKey : Type} (setup : Setup MessageKey) (library : Error → String)

/-- What is printed when `send_message` fails. -/
def sendReport (err : Error) : String :=
  "send failed: " ++ err.display library

/-- What is printed when `receive_message` fails. -/
def receiveReport (err : Error) : String :=
  "received message could not be opened: " ++ err.display library

/-- The branch of the loop for a command; the result is whether the loop goes on. -/
def runCommand (outside : Outside) : Command → Run Bool
  | .nothing => return true
  | .quit => return false
  | .help => do
      printHelp
      return true
  | .contacts => do
      printContacts
      return true
  | .add username => do
      addContact setup outside username
      return true
  | .send rest => do
      reporting (sendReport library) (sendMessage setup outside rest)
      return true
  | .unknown => do
      println "unknown command. type /help."
      return true

/-- A turn of the loop; the result is whether the loop goes on. -/
def turn : Input → Run Bool
  | .line text outside => runCommand setup library outside (parseCommand text)
  | .endOfInput => return false
  | .unreadable err => throw err
  | .binary bytes outside => do
      reporting (receiveReport library) (receiveMessage setup outside bytes)
      return true
  | .text text => do
      println s!"received unexpected plaintext frame with {text.utf8ByteSize} characters"
      return true
  | .closed failures => do
      printLines ("connection lost. reconnecting." :: connectLines failures)
      return true
  | .control => return true
  | .failed err failures => do
      printLines (s!"connection error: {err}. reconnecting." :: connectLines failures)
      return true

/-- The turns that the loop takes for a sequence of inputs, each with the client before
it. -/
def turns (client : Client) : List Input → List (Client × Input)
  | [] => []
  | input :: inputs =>
      (client, input) ::
        match (turn setup library input).outcome client with
        | (.ok true, client') => turns client' inputs
        | _ => []

/-! ### What a session is to keep -/

/-- The input is the user's wish to end the session. -/
def Input.EndsSession : Input → Prop
  | .line typed _ => parseCommand typed = .quit
  | .endOfInput => True
  | _ => False

/-- The input is not an error of the standard input. -/
def Input.IsReadable : Input → Prop
  | .unreadable _ => False
  | _ => True

/-- `Fails setup library client input left lines`: something fails in the turn, `left` is the
client that the failing call leaves, and `lines` are what reports the failure. -/
inductive Fails (client : Client) : Input → Client → List String → Prop where
  | send {text outside rest err left} (hcommand : parseCommand text = .send rest)
      (hsend : (sendMessage setup outside rest).outcome client = (.error err, left)) :
      Fails client (.line text outside) left [sendReport library err]
  | receive {bytes outside err left}
      (hreceive : (receiveMessage setup outside bytes).outcome client = (.error err, left)) :
      Fails client (.binary bytes outside) left [receiveReport library err]
  | closed {failures} :
      Fails client (.closed failures) client
        ("connection lost. reconnecting." :: connectLines failures)
  | failed {err failures} :
      Fails client (.failed err failures) client
        (s!"connection error: {err}. reconnecting." :: connectLines failures)

/-- The contact book `book'` is `book` with entries added. -/
def ContactBook.Grown (book book' : ContactBook) : Prop :=
  ∃ entries : List PublicKeyEntry, book' = entries.foldl ContactBook.insert book

/-- In each turn of the session, the loop ends only where the user wishes it, every failure
is reported and the loop goes on, and the contact book is there with all that was added. -/
structure GoesOn (client : Client) (inputs : List Input) : Prop where
  ends : ∀ client' input, (client', input) ∈ turns setup library client inputs →
    ((turn setup library input).outcome client').1 ≠ .ok true → input.EndsSession
  reports : ∀ client' input, (client', input) ∈ turns setup library client inputs →
    ∀ left lines, Fails setup library client' input left lines →
      (turn setup library input).outcome client' = (.ok true, left.printed lines)
  keeps : ∀ client' input, (client', input) ∈ turns setup library client inputs →
    client.contacts.Grown client'.contacts

/-- The lookup of a contact that the user adds fails, or the entry that it brings cannot be
saved. -/
def FailsToAdd (client : Client) : Input → Prop
  | .line text outside =>
      ∃ username, parseCommand text = .add username ∧ username ≠ "" ∧
        match lookupPublicKey setup.serde setup.endpoints outside.answer username with
        | .error _ => True
        | .ok none => False
        | .ok (some entry) =>
            ∃ err, (client.contacts.add setup.pretty outside.write client.file entry).1 = .error err
  | _ => False

end

/-! ### One turn -/

section

variable {MessageKey : Type} {setup : Setup MessageKey} {library : Error → String}
    {client client' : Client} {input : Input}

theorem outcome_reporting (report : Error → String) (call : Run Unit) (client : Client) :
  (reporting report call).outcome client = match call.outcome client with
    | (.ok (), client') => (.ok (), client')
    | (.error err, client') => (.ok (), client'.record (.line (report err)))
  := by
  rw [reporting, Program.outcome_tryCatch]
  rcases call.outcome client with ⟨_ | _, _⟩ <;> rfl

theorem outcome_printContacts (client : Client) :
  printContacts.outcome client
    = (.ok (), client.printed
      (if client.contacts.names.isEmpty then ["no contacts yet"] else client.contacts.names))
  := by
  simp only [printContacts, Program.outcome_bind, Program.outcome_get]
  split <;> rfl

/-- A lookup fails, or the entry that it brings cannot be saved. -/
theorem lookUpAndAdd_eq_error {outside : Outside} {username : String} :
  (∃ err, ((lookUpAndAdd setup outside username).outcome client).1 = .error err)
    ↔ match lookupPublicKey setup.serde setup.endpoints outside.answer username with
      | .error _ => True
      | .ok none => False
      | .ok (some entry) =>
          ∃ err, (client.contacts.add setup.pretty outside.write client.file entry).1 = .error err
  := by
  rw [lookUpAndAdd, Program.outcome_bind, Program.outcome_ofExcept]
  rcases lookupPublicKey setup.serde setup.endpoints outside.answer username
    with err | _ | entry
  · apply iff_of_true ⟨err, rfl⟩ trivial
  · apply iff_of_false
    · rintro ⟨err, ⟨⟩⟩
    · exact id
  · simp only [Program.outcome_bind, outcome_addEntry]
    rcases (client.contacts.add setup.pretty outside.write client.file entry).1 with err | _
    · apply iff_of_true ⟨err, rfl⟩ ⟨err, rfl⟩
    · apply iff_of_false
      · rintro ⟨err, ⟨⟩⟩
      · rintro ⟨err, ⟨⟩⟩

theorem outcome_addContact_of_empty {outside : Outside} {username : String} (h : username = "") :
  ((addContact setup outside username).outcome client).1 = .ok ()
    ∧ ((addContact setup outside username).outcome client).2.contacts = client.contacts
  := by
  subst h
  exact ⟨rfl, rfl⟩

/-- A contact is added as it is looked up. -/
theorem outcome_addContact_of_ne {outside : Outside} {username : String} (hne : username ≠ "") :
  ((∃ err, ((addContact setup outside username).outcome client).1 = .error err)
      ↔ ∃ err, ((lookUpAndAdd setup outside username).outcome client).1 = .error err)
    ∧ ((addContact setup outside username).outcome client).2.contacts
      = ((lookUpAndAdd setup outside username).outcome client).2.contacts
  := by
  have hempty : username.isEmpty = false := by
    simpa using hne
  rw [addContact, hempty]
  simp only [Bool.false_eq_true, if_false, Program.outcome_bind]
  rcases (lookUpAndAdd setup outside username).outcome client with ⟨err | _ | entry, left⟩
  · refine ⟨?_, rfl⟩
    apply iff_of_true ⟨err, rfl⟩ ⟨err, rfl⟩
  · refine ⟨?_, rfl⟩
    apply iff_of_false
    · rintro ⟨err, ⟨⟩⟩
    · rintro ⟨err, ⟨⟩⟩
  · refine ⟨?_, rfl⟩
    apply iff_of_false
    · rintro ⟨err, ⟨⟩⟩
    · rintro ⟨err, ⟨⟩⟩

/-- A failure that the loop catches is reported, and the loop goes on. -/
theorem outcome_turn_of_fails
    {left : Client} {lines : List String} (h : Fails setup library client input left lines) :
  (turn setup library input).outcome client = (.ok true, left.printed lines)
  := by
  cases h with
  | send hcommand hsend =>
      simp only [turn, hcommand, runCommand, Program.outcome_bind, outcome_reporting, hsend]
      rfl
  | receive hreceive =>
      simp only [turn, Program.outcome_bind, outcome_reporting, hreceive]
      rfl
  | closed => rfl
  | failed => rfl

/-- A failure to add a contact ends the loop, and the user does not wish it. -/
theorem outcome_turn_of_failsToAdd
    (library : Error → String) (h : FailsToAdd setup client input) :
  ((turn setup library input).outcome client).1 ≠ .ok true ∧ ¬ input.EndsSession
  := by
  cases input with
  | line text outside =>
      obtain ⟨username, hcommand, hne, hfails⟩ := h
      rw [← lookUpAndAdd_eq_error, ← (outcome_addContact_of_ne hne).1] at hfails
      obtain ⟨err, hfails⟩ := hfails
      constructor
      · rw [turn, hcommand, runCommand, Program.outcome_bind]
        rcases hadd : (addContact setup outside username).outcome client with ⟨result, left⟩
        rw [hadd] at hfails
        cases hfails
        rintro ⟨⟩
      · rw [Input.EndsSession, hcommand]
        rintro ⟨⟩
  | _ => cases h

/-- Nothing else ends the loop, apart from the user. -/
theorem endsSession_of_outcome_turn
    (hreadable : input.IsReadable) (hadd : ¬ FailsToAdd setup client input)
    (h : ((turn setup library input).outcome client).1 ≠ .ok true) :
  input.EndsSession
  := by
  cases input with
  | line text outside =>
      rw [turn] at h
      cases hcommand : parseCommand text with
      | quit => apply hcommand
      | add username =>
          exfalso
          rw [hcommand, runCommand, Program.outcome_bind] at h
          rcases hcall : (addContact setup outside username).outcome client
            with ⟨err | _, left⟩ <;> rw [hcall] at h
          · by_cases hne : username = ""
            · have hok : ((addContact setup outside username).outcome client).1 = .ok () :=
                (outcome_addContact_of_empty hne).1
              rw [hcall] at hok
              cases hok
            · apply hadd ⟨username, hcommand, hne, _⟩
              rw [← lookUpAndAdd_eq_error, ← (outcome_addContact_of_ne hne).1, hcall]
              use err
          · apply h rfl
      | send rest =>
          exfalso
          apply h
          rw [hcommand, runCommand, Program.outcome_bind, outcome_reporting]
          rcases (sendMessage setup outside rest).outcome client with ⟨_ | _, _⟩ <;> rfl
      | contacts =>
          exfalso
          apply h
          rw [hcommand, runCommand, Program.outcome_bind, outcome_printContacts]
          rfl
      | nothing | help | unknown =>
          rw [hcommand] at h
          apply absurd rfl h
  | endOfInput => trivial
  | unreadable err => cases hreadable
  | binary bytes outside =>
      exfalso
      apply h
      rw [turn, Program.outcome_bind, outcome_reporting]
      rcases (receiveMessage setup outside bytes).outcome client with ⟨_ | _, _⟩ <;> rfl
  | _ => apply absurd rfl h

theorem ContactBook.Grown.refl (book : ContactBook) :
  book.Grown book
  := ⟨[], rfl⟩

theorem ContactBook.Grown.learn
    {book book' : ContactBook} (h : book.Grown book') (entry : Option PublicKeyEntry) :
  book.Grown (book'.learn entry)
  := by
  obtain ⟨entries, rfl⟩ := h
  cases entry with
  | none =>
      use entries
      rfl
  | some entry =>
      use entries ++ [entry]
      rw [List.foldl_append]
      rfl

/-- A turn adds at most one entry to the contact book. -/
theorem contacts_turn
    (setup : Setup MessageKey) (library : Error → String) (input : Input) (client : Client) :
  ∃ entry, ((turn setup library input).outcome client).2.contacts = client.contacts.learn entry
  := by
  have hkept : ∃ entry, client.contacts = client.contacts.learn entry := ⟨none, rfl⟩
  cases input with
  | line text outside =>
      rw [turn]
      cases parseCommand text with
      | add username =>
          have hcontacts : ∃ entry, ((addContact setup outside username).outcome client).2.contacts
              = client.contacts.learn entry := by
            by_cases hne : username = ""
            · rw [(outcome_addContact_of_empty hne).2]
              apply hkept
            · rw [(outcome_addContact_of_ne hne).2, contacts_lookUpAndAdd]
              exact ⟨_, rfl⟩
          rw [runCommand, Program.outcome_bind]
          rcases hcall : (addContact setup outside username).outcome client
            with ⟨_ | _, left⟩ <;> rw [hcall] at hcontacts <;> apply hcontacts
      | send rest =>
          have hcontacts : ∃ entry, ((sendMessage setup outside rest).outcome client).2.contacts
              = client.contacts.learn entry := ⟨_, contacts_sendMessage rest client⟩
          rw [runCommand, Program.outcome_bind, outcome_reporting]
          rcases hcall : (sendMessage setup outside rest).outcome client
            with ⟨_ | _, left⟩ <;> rw [hcall] at hcontacts <;> apply hcontacts
      | contacts =>
          rw [runCommand, Program.outcome_bind, outcome_printContacts]
          apply hkept
      | _ => apply hkept
  | binary bytes outside =>
      have hcontacts : ∃ entry, ((receiveMessage setup outside bytes).outcome client).2.contacts
          = client.contacts.learn entry := ⟨_, contacts_receiveMessage bytes client⟩
      rw [turn, Program.outcome_bind, outcome_reporting]
      rcases hcall : (receiveMessage setup outside bytes).outcome client
        with ⟨_ | _, left⟩ <;> rw [hcall] at hcontacts <;> apply hcontacts
  | _ => apply hkept

/-! ### A whole session -/

/-- The contact book of every turn is the one of the start with entries added. -/
theorem grown_of_mem_turns
    {start : ContactBook} {inputs : List Input} (hstart : start.Grown client.contacts)
    (h : (client', input) ∈ turns setup library client inputs) :
  start.Grown client'.contacts
  := by
  induction inputs generalizing client with
  | nil => cases h
  | cons first inputs ih =>
      rcases List.mem_cons.mp h with heq | hrest
      · cases heq
        apply hstart
      · obtain ⟨entry, hcontacts⟩ := contacts_turn setup library first client
        split at hrest
        · rename_i heq
          apply ih _ hrest
          rw [heq] at hcontacts
          rw [hcontacts]
          apply hstart.learn
        · cases hrest

theorem mem_of_mem_turns
    {inputs : List Input} (h : (client', input) ∈ turns setup library client inputs) :
  input ∈ inputs
  := by
  induction inputs generalizing client with
  | nil => cases h
  | cons first inputs ih =>
      rcases List.mem_cons.mp h with heq | hrest
      · cases heq
        apply List.mem_cons_self
      · split at hrest
        · apply List.mem_cons_of_mem _ (ih hrest)
        · cases hrest

/-- A session ends only where the user wishes it, and keeps the contact book and reports
what fails, just when no contact fails to be added. -/
theorem session_iff
    (setup : Setup MessageKey) (library : Error → String) (client : Client) (inputs : List Input)
    (hreadable : ∀ input ∈ inputs, input.IsReadable) :
  GoesOn setup library client inputs
    ↔ ∀ client' input, (client', input) ∈ turns setup library client inputs →
      ¬ FailsToAdd setup client' input
  := by
  constructor
  · intro hgoesOn client' input hturn hadd
    obtain ⟨hends, hquit⟩ := outcome_turn_of_failsToAdd library hadd
    apply hquit
    apply hgoesOn.ends client' input hturn hends
  · intro hadd
    constructor
    · intro client' input hturn
      apply endsSession_of_outcome_turn (hreadable input (mem_of_mem_turns hturn))
      apply hadd client' input hturn
    · intro client' input hturn left lines hfails
      apply outcome_turn_of_fails hfails
    · intro client' input hturn
      apply grown_of_mem_turns (.refl _) hturn

end

/-! ### Sample sessions -/

/-- What comes from outside when no request is answered. -/
def unanswered : Outside := ⟨none, .zero 24, .complete, true⟩

/-- A session in which the connection is lost goes on until the user ends it. -/
theorem session_iff_sample :
  GoesOn aliceSetup (fun _ => "") aliceClient
    [.closed ["connection refused"], .line "/quit" unanswered]
  := by
  have hquit : parseCommand "/quit" = .quit := by decide +kernel
  have hinputs (property : Input → Prop) (hclosed : property (.closed ["connection refused"]))
      (hline : property (.line "/quit" unanswered)) :
      ∀ input ∈ [.closed ["connection refused"], .line "/quit" unanswered], property input := by
    simp only [List.forall_mem_cons, List.not_mem_nil, false_imp_iff, implies_true, and_true]
    exact ⟨hclosed, hline⟩
  apply (session_iff aliceSetup _ aliceClient _ (hinputs _ trivial trivial)).mpr
  intro client input hturn
  apply hinputs (fun input => ¬ FailsToAdd aliceSetup client input) _ _ input
    (mem_of_mem_turns hturn)
  · exact id
  · rintro ⟨username, hadd, -⟩
    rw [hquit] at hadd
    cases hadd

/-- A session ends when the user adds a contact and the lookup is not answered. -/
theorem not_session :
  ¬ ∀ (setup : Setup (Key × Bytes)) (library : Error → String) (client : Client)
      (inputs : List Input),
    (∀ input ∈ inputs, input.IsReadable) → GoesOn setup library client inputs
  := by
  intro hgoesOn
  have hcommand : parseCommand "/add bob" = .add "bob" := by decide +kernel
  have hlookup : (lookupPublicKey aliceSetup.serde aliceSetup.endpoints unanswered.answer
      "bob").toOption.isNone := by
    decide +kernel
  have hadd : FailsToAdd aliceSetup aliceClient (.line "/add bob" unanswered) := by
    use "bob", hcommand, by decide
    rcases hresult : lookupPublicKey aliceSetup.serde aliceSetup.endpoints unanswered.answer "bob"
      with err | entry
    · trivial
    · rw [hresult] at hlookup
      cases hlookup
  obtain ⟨hends, hquit⟩ := outcome_turn_of_failsToAdd (fun _ => "") hadd
  apply hquit
  apply (hgoesOn aliceSetup (fun _ => "") aliceClient [.line "/add bob" unanswered] _).ends
    aliceClient _ List.mem_cons_self hends
  simp [Input.IsReadable]

end Phantasma
