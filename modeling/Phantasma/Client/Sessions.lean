import Phantasma.Client.Commands

/-!
# What a session sends and displays

A turn of the loop that does more than print does it in one call, of `send_message` or of
`receive_message` (`prints_turn`), and that call gives the socket at most one frame, or displays
at most one message.  So what a session sends is one by one what was typed
(`frames_runLoop`), and what it displays is one by one what was received
(`displayed_runLoop`), each in the order of the inputs.
-/

namespace Phantasma

/-- The frame that is given to the socket. -/
def Event.frame? : Event → Option Bytes
  | frame bytes => some bytes
  | _ => none

/-- The sender and the body of the message that is displayed. -/
def Event.message? : Event → Option (String × String)
  | message sender body => some (sender, body)
  | _ => none

/-- The recipient, the body and the envelope of the message that is encrypted. -/
def Event.encrypted? : Event → Option (String × String × EncryptedChatMessage)
  | encrypted recipient body _ envelope => some (recipient, body, envelope)
  | _ => none

namespace Client

/-- The things of one kind that the client has done, the oldest first. -/
def done {Kind : Type} (kind : Event → Option Kind) (client : Client) : List Kind :=
  client.events.filterMap kind

/-- The frames that the client has given to the socket. -/
def frames (client : Client) : List Bytes :=
  client.done Event.frame?

/-- The messages that the client has displayed, each with its sender. -/
def displayed (client : Client) : List (String × String) :=
  client.done Event.message?

/-- The messages that the client has encrypted, each with its recipient and its envelope. -/
def encryptions (client : Client) : List (String × String × EncryptedChatMessage) :=
  client.done Event.encrypted?

end Client

section

variable {MessageKey : Type} (setup : Setup MessageKey) (library : Error → String)

/-- The client when the session is over, or when the inputs are. -/
def runLoop (client : Client) : List Input → Client
  | [] => client
  | input :: inputs =>
      match (turn setup library input).outcome client with
      | (.ok true, client') => runLoop client' inputs
      | (_, client') => client'

/-- In the turn, `frame` is the routed envelope of the message that is typed on the line: its
body is encrypted to the recipient that it names, under the key of the saved contact or of the
entry that is looked up. -/
def Conveys (frame : Bytes) : Client × Input → Prop
  | (client, .line typed outside) => ∃ recipient body publicKey encrypted,
      (Request.message recipient body).IsTyped typed
        ∧ Writes setup outside client recipient body publicKey encrypted
        ∧ RoutedEncryptedMessage.toWireBytes setup.serde ⟨setup.name, recipient, encrypted⟩
          = .ok frame
  | _ => False

/-- In the turn, the frame that is received opens as the message to this client, and its
envelope has the key of the saved contact or of the entry that is looked up. -/
def Shows (message : String × String) : Client × Input → Prop
  | (client, .binary bytes outside) => ∃ encrypted entry,
      openFrame setup bytes = .ok (encrypted, ⟨message.1, setup.name, message.2⟩)
        ∧ FindsEntry setup outside message.1 client entry
        ∧ entry.encryptionPublicKey = encrypted.senderEncryptionPublicKey
  | _ => False

end

section

variable {MessageKey : Type} {setup : Setup MessageKey} {library : Error → String}
    {outside : Outside} {client client' : Client} {input : Input}
    {Kind : Type} {kind : Event → Option Kind}

/-! ### Printing -/

theorem done_record (client : Client) (event : Event) :
  (client.record event).done kind = client.done kind ++ (kind event).toList
  := by
  rw [Client.done, Client.events_record, List.filterMap_append]
  cases hkind : kind event with
  | none =>
      rw [List.filterMap_cons_none hkind]
      rfl
  | some thing =>
      rw [List.filterMap_cons_some hkind]
      rfl

/-- Nothing is done where only lines of text are printed. -/
theorem OnlyPrints.done_eq
    (h : OnlyPrints client client') (hline : ∀ text, kind (.line text) = none) :
  client'.done kind = client.done kind
  := by
  obtain ⟨texts, htexts⟩ := h
  rw [Client.done, htexts, List.filterMap_append, Client.done, List.append_right_eq_self,
    List.filterMap_eq_nil_iff]
  intro event hevent
  obtain ⟨text, -, rfl⟩ := List.mem_map.mp hevent
  apply hline

theorem OnlyPrints.frames_eq (h : OnlyPrints client client') :
  client'.frames = client.frames
  := h.done_eq fun _ => rfl

theorem OnlyPrints.displayed_eq (h : OnlyPrints client client') :
  client'.displayed = client.displayed
  := h.done_eq fun _ => rfl

theorem OnlyPrints.encryptions_eq (h : OnlyPrints client client') :
  client'.encryptions = client.encryptions
  := h.done_eq fun _ => rfl

@[simp]
theorem frames_record (client : Client) (event : Event) :
  (client.record event).frames = client.frames ++ event.frame?.toList
  := done_record client event

@[simp]
theorem displayed_record (client : Client) (event : Event) :
  (client.record event).displayed = client.displayed ++ event.message?.toList
  := done_record client event

@[simp]
theorem encryptions_record (client : Client) (event : Event) :
  (client.record event).encryptions = client.encryptions ++ event.encrypted?.toList
  := done_record client event

/-! ### One call -/

/-- A call of `send_message` gives the socket no frame, or that of the message that its
argument names, which it has encrypted. -/
theorem frames_sendMessage (rest : String) (client : Client) :
  ((sendMessage setup outside rest).outcome client).2.frames = client.frames
    ∨ ∃ recipient body publicKey encrypted frame,
      parseSend rest = some (recipient, body)
        ∧ Writes setup outside client recipient body publicKey encrypted
        ∧ RoutedEncryptedMessage.toWireBytes setup.serde ⟨setup.name, recipient, encrypted⟩
          = .ok frame
        ∧ ((sendMessage setup outside rest).outcome client).2.frames = client.frames ++ [frame]
        ∧ ((sendMessage setup outside rest).outcome client).2.encryptions
          = client.encryptions ++ [(recipient, body, encrypted)]
  := by
  rcases hsend : (sendMessage setup outside rest).outcome client with ⟨result, client'⟩
  cases sends hsend with
  | usage => simp [Event.frame?]
  | lookupFailed hparse hentry | unencrypted hparse hentry =>
      apply Or.inl (onlyPrints_recipientEntry hentry).frames_eq
  | noKey hparse hentry | unsent hparse hentry =>
      simp [Event.frame?, (onlyPrints_recipientEntry hentry).frames_eq]
  | sent hparse hentry hencrypt hbytes =>
      right
      refine ⟨_, _, _, _, _, hparse,
        ⟨⟨_, findsEntry_of_recipientEntry hentry, rfl⟩, hencrypt⟩, hbytes, ?_, ?_⟩
      · simp [Event.frame?, (onlyPrints_recipientEntry hentry).frames_eq]
      · simp [Event.encrypted?, (onlyPrints_recipientEntry hentry).encryptions_eq]

theorem frames_receiveMessage (bytes : Bytes) (client : Client) :
  ((receiveMessage setup outside bytes).outcome client).2.frames = client.frames
  := by
  rcases hreceive : (receiveMessage setup outside bytes).outcome client with ⟨result, client'⟩
  cases receives hreceive with
  | unopened | notAddressed => rfl
  | unknownSender hopen hto hentry | keyChanged hopen hto hentry =>
      apply (onlyPrints_findOrAddSender hentry).frames_eq
  | displayed hopen hto hentry =>
      simp [Event.frame?, (onlyPrints_findOrAddSender hentry).frames_eq]

theorem displayed_sendMessage (rest : String) (client : Client) :
  ((sendMessage setup outside rest).outcome client).2.displayed = client.displayed
  := by
  rcases hsend : (sendMessage setup outside rest).outcome client with ⟨result, client'⟩
  cases sends hsend with
  | usage => simp [Event.message?]
  | lookupFailed hparse hentry | unencrypted hparse hentry =>
      apply (onlyPrints_recipientEntry hentry).displayed_eq
  | noKey hparse hentry | unsent hparse hentry | sent hparse hentry =>
      simp [Event.message?, (onlyPrints_recipientEntry hentry).displayed_eq]

/-- The entry of the sender is the one of the saved contact, or it was looked up. -/
theorem findsEntry_of_findOrAddSender
    {sender : String} {entry : PublicKeyEntry}
    (h : (findOrAddSender setup outside sender).outcome client = (.ok entry, client')) :
  FindsEntry setup outside sender client entry
  := by
  cases hget : client.contacts.get sender with
  | some saved =>
      rw [findOrAddSender_of_saved hget] at h
      cases h
      apply Or.inl hget
  | none =>
      simp only [findOrAddSender, Program.outcome_bind, Program.outcome_get, hget] at h
      rcases hlook : (lookUpAndAdd setup outside sender).outcome client
        with ⟨err | _ | found, client''⟩ <;> rw [hlook] at h <;> cases h
      cases looks hlook with
      | added hanswer => exact Or.inr ⟨hget, hanswer⟩

/-- A call of `receive_message` displays nothing, or the message that the frame opens as. -/
theorem displayed_receiveMessage (bytes : Bytes) (client : Client) :
  ((receiveMessage setup outside bytes).outcome client).2.displayed = client.displayed
    ∨ ∃ message, Shows setup message (client, .binary bytes outside)
      ∧ ((receiveMessage setup outside bytes).outcome client).2.displayed
        = client.displayed ++ [message]
  := by
  rcases hreceive : (receiveMessage setup outside bytes).outcome client with ⟨result, client'⟩
  cases receives hreceive with
  | unopened | notAddressed => exact Or.inl rfl
  | unknownSender hopen hto hentry | keyChanged hopen hto hentry =>
      apply Or.inl (onlyPrints_findOrAddSender hentry).displayed_eq
  | displayed hopen hto hentry hkey =>
      rename_i encrypted chatMessage entry client''
      right
      use (chatMessage.from, chatMessage.body)
      refine ⟨⟨encrypted, entry, ?_, findsEntry_of_findOrAddSender hentry, hkey⟩, ?_⟩
      · rw [hopen, ← hto]
      · simp [Event.message?, (onlyPrints_findOrAddSender hentry).displayed_eq]

/-! ### One turn -/

/-- A call that is reported only prints after that. -/
theorem onlyPrints_reporting (report : Error → String) (call : Run Unit) (client : Client) :
  OnlyPrints (call.outcome client).2 ((reporting report call).outcome client).2
  := by
  rw [outcome_reporting]
  rcases call.outcome client with ⟨err | _, client'⟩
  · apply (OnlyPrints.refl client').record
  · apply OnlyPrints.refl

/-- A turn only prints, unless it is one for a line with a message, or for a frame, and then it
only prints after the call. -/
theorem prints_turn
    (setup : Setup MessageKey) (library : Error → String) (client : Client) (input : Input) :
  OnlyPrints client ((turn setup library input).outcome client).2
    ∨ (∃ typed outside rest, input = .line typed outside ∧ parseCommand typed = .send rest
      ∧ OnlyPrints ((sendMessage setup outside rest).outcome client).2
        ((turn setup library input).outcome client).2)
    ∨ ∃ bytes outside, input = .binary bytes outside
      ∧ OnlyPrints ((receiveMessage setup outside bytes).outcome client).2
        ((turn setup library input).outcome client).2
  := by
  rcases turned setup library input client with ⟨username, outside, hlookup, -⟩ | ⟨-, -, hprints⟩
  · cases input with
    | line typed outside =>
        cases hcommand : parseCommand typed with
        | add username =>
            left
            rw [turn, hcommand, runCommand, Program.outcome_bind]
            rcases hadd : (addContact setup outside username).outcome client with ⟨_ | _, client'⟩
            all_goals
              apply onlyPrints_addContact hadd
        | send rest =>
            right
            left
            use typed, outside, rest, rfl, hcommand
            have hprints := onlyPrints_reporting (sendReport library)
              (sendMessage setup outside rest) client
            rw [turn, hcommand, runCommand, Program.outcome_bind]
            rcases hcall : (reporting (sendReport library)
              (sendMessage setup outside rest)).outcome client with ⟨_ | _, _⟩
                <;> rw [hcall] at hprints <;> apply hprints
        | _ =>
            rw [Input.lookup, hcommand] at hlookup
            cases hlookup
    | binary bytes outside =>
        right
        right
        use bytes, outside, rfl
        have hprints := onlyPrints_reporting (receiveReport library)
          (receiveMessage setup outside bytes) client
        rw [turn, Program.outcome_bind]
        rcases hcall : (reporting (receiveReport library)
          (receiveMessage setup outside bytes)).outcome client with ⟨_ | _, _⟩
            <;> rw [hcall] at hprints <;> apply hprints
    | _ => cases hlookup
  · apply Or.inl hprints

/-- A turn gives the socket no frame, or that of a message that is typed, which it has
encrypted. -/
theorem frames_turn
    (setup : Setup MessageKey) (library : Error → String) (client : Client) (input : Input) :
  ((turn setup library input).outcome client).2.frames = client.frames
    ∨ ∃ typed outside recipient body publicKey encrypted frame, input = .line typed outside
      ∧ (Request.message recipient body).IsTyped typed
      ∧ Writes setup outside client recipient body publicKey encrypted
      ∧ RoutedEncryptedMessage.toWireBytes setup.serde ⟨setup.name, recipient, encrypted⟩
        = .ok frame
      ∧ ((turn setup library input).outcome client).2.frames = client.frames ++ [frame]
      ∧ ((turn setup library input).outcome client).2.encryptions
        = client.encryptions ++ [(recipient, body, encrypted)]
  := by
  rcases prints_turn setup library client input with hprints
    | ⟨typed, outside, rest, rfl, hcommand, hprints⟩ | ⟨bytes, outside, rfl, hprints⟩
  · apply Or.inl hprints.frames_eq
  · rw [hprints.frames_eq, hprints.encryptions_eq]
    rcases frames_sendMessage rest client with hnothing
      | ⟨recipient, body, publicKey, encrypted, frame, hparse, hwrites, hbytes, hframe, hnew⟩
    · apply Or.inl hnothing
    · right
      exact ⟨typed, outside, recipient, body, publicKey, encrypted, frame, rfl,
        isTyped_of_send hcommand hparse, hwrites, hbytes, hframe, hnew⟩
  · rw [hprints.frames_eq]
    apply Or.inl (frames_receiveMessage bytes client)

/-- A turn displays nothing, or the message of the frame that is received. -/
theorem displayed_turn
    (setup : Setup MessageKey) (library : Error → String) (client : Client) (input : Input) :
  ((turn setup library input).outcome client).2.displayed = client.displayed
    ∨ ∃ message, Shows setup message (client, input)
      ∧ ((turn setup library input).outcome client).2.displayed = client.displayed ++ [message]
  := by
  rcases prints_turn setup library client input with hprints
    | ⟨typed, outside, rest, rfl, hcommand, hprints⟩ | ⟨bytes, outside, rfl, hprints⟩
  · apply Or.inl hprints.displayed_eq
  · rw [hprints.displayed_eq]
    apply Or.inl (displayed_sendMessage rest client)
  · rw [hprints.displayed_eq]
    apply displayed_receiveMessage

/-! ### A whole session -/

/-- When each turn does at most one thing of a kind, one that is made in the turn, what is done
in a session comes from some of its turns, one thing from each. -/
theorem done_runLoop
    {Made : Kind → Client × Input → Prop}
    (hmakes : ∀ client input,
      ((turn setup library input).outcome client).2.done kind = client.done kind
        ∨ ∃ thing, Made thing (client, input)
          ∧ ((turn setup library input).outcome client).2.done kind
            = client.done kind ++ [thing])
    (client : Client) (inputs : List Input) :
  ∃ making things, making.Sublist (turns setup library client inputs)
    ∧ (runLoop setup library client inputs).done kind = client.done kind ++ things
    ∧ List.Forall₂ Made things making
  := by
  induction inputs generalizing client with
  | nil => exact ⟨[], [], .refl _, (List.append_nil _).symm, .nil⟩
  | cons input inputs ih =>
      have hrest : ∃ making things,
          ((client, input) :: making).Sublist (turns setup library client (input :: inputs))
            ∧ (runLoop setup library client (input :: inputs)).done kind
              = ((turn setup library input).outcome client).2.done kind ++ things
            ∧ List.Forall₂ Made things making := by
        rw [turns, runLoop]
        rcases (turn setup library input).outcome client with ⟨_ | _ | _, client'⟩
        · exact ⟨[], [], .refl _, (List.append_nil _).symm, .nil⟩
        · exact ⟨[], [], .refl _, (List.append_nil _).symm, .nil⟩
        · obtain ⟨making, things, hmaking, hafter, hmade⟩ := ih client'
          exact ⟨making, things, hmaking.cons_cons _, hafter, hmade⟩
      obtain ⟨making, things, hmaking, hafter, hmade⟩ := hrest
      rcases hmakes client input with hnothing | ⟨thing, hthing, hdone⟩
      · use making, things, (List.sublist_cons_self _ _).trans hmaking
        rw [hafter, hnothing]
        exact ⟨rfl, hmade⟩
      · use (client, input) :: making, thing :: things, hmaking
        rw [hafter, hdone, List.append_assoc]
        exact ⟨rfl, .cons hthing hmade⟩

/-- The frames that a client gives to the socket in a session are those of messages that are
typed, each typed line giving at most one, in the order of the lines. -/
theorem frames_runLoop
    (setup : Setup MessageKey) (library : Error → String) (client : Client) (inputs : List Input) :
  ∃ sending frames, sending.Sublist (turns setup library client inputs)
    ∧ (runLoop setup library client inputs).frames = client.frames ++ frames
    ∧ List.Forall₂ (Conveys setup) frames sending
  := by
  apply done_runLoop
  intro client input
  rcases frames_turn setup library client input with hnothing
    | ⟨typed, outside, recipient, body, publicKey, encrypted, frame, rfl, htyped, hwrites, hbytes,
      hframe, -⟩
  · apply Or.inl hnothing
  · right
    exact ⟨frame, ⟨recipient, body, publicKey, encrypted, htyped, hwrites, hbytes⟩, hframe⟩

/-- The messages that a client displays in a session are those of frames that are received,
each frame giving at most one, in the order of the frames. -/
theorem displayed_runLoop
    (setup : Setup MessageKey) (library : Error → String) (client : Client) (inputs : List Input) :
  ∃ showing messages, showing.Sublist (turns setup library client inputs)
    ∧ (runLoop setup library client inputs).displayed = client.displayed ++ messages
    ∧ List.Forall₂ (Shows setup) messages showing
  := done_runLoop (displayed_turn setup library) client inputs

end

end Phantasma
