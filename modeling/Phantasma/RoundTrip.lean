import Phantasma.Client.Calls
import Phantasma.Client.SmallOrder
import Phantasma.Relay.Routing
import Phantasma.Web.Page

/-!
# Messages between the two clients

A message can be sent and received with the command-line client or with the browser
client.  Whichever the sender and the recipient use, what one of them encrypts is what
the relay accepts, encodes again and delivers, and what the other one displays
(`roundTrip`).

Both clients make the same envelope of a sealed message (`frame_of_seals`), and both
display the message of an envelope whose box opens (`displayed_receive`); the codecs and
the relay stand between.
-/

namespace Phantasma

open TransitionSystem

variable {MessageKey : Type}

/-- What the two clients assume of the primitives: the two holders of a pair of keys agree
on a shared secret that is not zero, a key can be derived from it, and what is sealed
under a key is opened with it. -/
structure Primitives.Agreeing (P : Primitives MessageKey) : Prop where
  x25519_comm : ∀ a b, P.x25519 a (P.x25519Base b) = P.x25519 b (P.x25519Base a)
  x25519_ne_zero : ∀ a b, P.x25519 a (P.x25519Base b) ≠ .zero 32
  hkdf : ∀ secret info, ∃ key, P.hkdf keyDerivationSalt secret info = some key
  encrypt : ∀ key nonce data text, ∃ ciphertext,
    P.encrypt key nonce data text = some ciphertext
      ∧ P.decrypt key nonce data ciphertext = some text

/-! ### Devices -/

/-- A user at one of the two clients: the command-line client with what it was started with
and its contact book, or the page of the browser client. -/
inductive Device where
  | cli (pretty : JsonCodec) (endpoints : ServerEndpoints) (name : String) (identity : Identity)
      (client : Client)
  | web (page : Web.Page)

namespace Device

variable (P : Primitives MessageKey) (serde js : JsonCodec)

/-- The username. -/
def name : Device → String
  | cli _ _ name _ _ => name
  | web page => page.username

/-- The text of the user's encryption key. -/
def publicKey : Device → String
  | cli _ _ _ identity _ => identity.encryptionPublicKey
  | web page => page.identity.encryptionPublicKey

/-- The bytes of the user's secret encryption key. -/
def secretKey : Device → Bytes
  | cli _ _ _ identity _ => identity.encryptionSecretKey.bytes
  | web page => page.identity.encryptionSecretKey

/-- The user's secret key is `key`, and the text of the encryption key is derived from
it. -/
structure HasKey (device : Device) (key : Key) : Prop where
  secretKey : device.secretKey = key.bytes
  publicKey : Base64.decode device.publicKey = some (P.x25519Base key).bytes

/-- The user has saved the contact `name` with the key text `publicKey`. -/
def Holds (name publicKey : String) : Device → Prop
  | cli _ _ _ _ client => ∃ entry, client.contacts.get name = some entry
      ∧ entry.encryptionPublicKey = publicKey
  | web page => page.Holds name publicKey

/-- The JSON library that the client uses. -/
def codec : Device → JsonCodec
  | cli .. => serde
  | web _ => js

/-- The frame that the client makes of a message for the socket. -/
def frame (nonce : Nonce) (recipient body recipientPublicKey : String) : Device → Option Bytes
  | cli pretty endpoints name identity client =>
      let setup := ⟨P, serde, pretty, endpoints, name, identity⟩
      ((routedFrame setup nonce recipient body recipientPublicKey).outcome client).1.toOption
  | web page =>
      (Web.routedFrame P js nonce page.identity page.username recipient body
        (.ofString recipientPublicKey)).toOption

/-- The user after the client has received a frame. -/
def receive (outside : Outside) (outside' : Web.Outside) (bytes : Bytes) : Device → Device
  | cli pretty endpoints name identity client =>
      let setup := ⟨P, serde, pretty, endpoints, name, identity⟩
      cli pretty endpoints name identity ((receiveMessage setup outside bytes).outcome client).2
  | web page => web ((Web.receiveEncryptedBytes P js outside' bytes).outcome page).2

/-- The messages that the client has displayed, each with its sender. -/
def displayed : Device → List (String × String)
  | cli _ _ _ _ client => client.events.filterMap fun
      | .message sender body => some (sender, body)
      | _ => none
  | web page => page.messages

end Device

/-! ### Sealing and opening -/

section

variable {P : Primitives MessageKey} {serde js : JsonCodec} {a b : Key}

/-- A message to the holder of another key can be sealed, and the box opens to the text of
the message. -/
theorem exists_seals
    (hP : P.Agreeing) {writer reader : JsonCodec} (hcodec : writer.Inverts reader) (a b : Key)
    (nonce : Nonce) (message : PlaintextChatMessage) :
  ∃ box plaintext, box.nonce = nonce
    ∧ Seals P writer (P.x25519 a (P.x25519Base b)) (P.x25519Base a) (P.x25519Base b) message box
    ∧ P.decrypt box.key box.nonce box.associatedData box.ciphertext = some plaintext
    ∧ reader.fromSlice plaintext = some message.toJson
  := by
  obtain ⟨plaintext, hwrite, hread⟩ := hcodec _ message.plain_toJson
  obtain ⟨key, hkey⟩ := hP.hkdf (P.x25519 a (P.x25519Base b))
    (associatedData (P.x25519Base a) (P.x25519Base b))
  obtain ⟨ciphertext, hencrypt, hdecrypt⟩ := hP.encrypt key nonce
    (associatedData (P.x25519Base a) (P.x25519Base b)) plaintext
  use ⟨key, nonce, associatedData (P.x25519Base a) (P.x25519Base b), ciphertext⟩, plaintext, rfl
  exact ⟨⟨hkey, rfl, plaintext, toWire_eq_ok.mpr hwrite, hencrypt⟩, hdecrypt, hread⟩

/-- Both clients make a frame of the envelope of a sealed message, routed to the
recipient. -/
theorem frame_of_seals
    (hP : P.Agreeing) {sender : Device} {recipient body recipientText : String}
    (ha : sender.HasKey P a) (hb : Base64.decode recipientText = some (P.x25519Base b).bytes)
    {box : Sealed MessageKey}
    (hseals : Seals P (sender.codec serde js) (P.x25519 a (P.x25519Base b)) (P.x25519Base a)
      (P.x25519Base b) ⟨sender.name, recipient, body⟩ box) :
  sender.frame P serde js box.nonce recipient body recipientText
    = (sender.codec serde js).toVec (RoutedEncryptedMessage.toJson
      ⟨sender.name, recipient, box.envelope sender.publicKey⟩)
  := by
  cases sender with
  | cli pretty endpoints name identity client =>
      have hsecret := FixedBytes.ext_bytes ha.secretKey
      have hencrypt : encryptMessage P serde box.nonce name recipient body
          identity.encryptionSecretKey identity.encryptionPublicKey recipientText
          = .ok (box.envelope identity.encryptionPublicKey) := by
        rw [hsecret]
        apply encryptMessage_eq_ok.mpr
        exact ⟨_, _, box, decodeFixedKey_eq_ok_iff.mpr ha.publicKey,
          decodeFixedKey_eq_ok_iff.mpr hb, hseals, rfl, rfl⟩
      simp only [Device.frame, routedFrame, Program.outcome_bind, Program.outcome_ofExcept]
      rw [hencrypt]
      apply toOption_toWire
  | web page =>
      have hencrypt : Web.encryptMessage P js box.nonce page.identity page.username recipient body
          (.ofString recipientText) = .ok (box.envelope page.identity.encryptionPublicKey).toJson :=
        Web.encryptMessage_of_seals ha.secretKey ha.publicKey hb (hP.x25519_ne_zero a b) hseals
      simp only [Device.frame, Web.routedFrame]
      rw [hencrypt, ok_bind]
      apply Web.toOption_orException

/-- A frame with the envelope of a box that the recipient's key opens is opened by the
command-line client. -/
theorem openFrame_of_opens
    {setup : Setup MessageKey} {senderText : String} {secretKey senderKey recipientKey : Key}
    {box : Sealed MessageKey} {message : PlaintextChatMessage} {payload : Bytes}
    (hsecret : setup.identity.encryptionSecretKey = secretKey)
    (hsender : Base64.decode senderText = some senderKey.bytes)
    (hrecipient : Base64.decode setup.identity.encryptionPublicKey = some recipientKey.bytes)
    (hopens : Opens setup.primitives setup.serde (setup.primitives.x25519 secretKey senderKey)
      senderKey recipientKey box message)
    (hpayload : setup.serde.fromSlice payload = some (box.envelope senderText).toJson) :
  openFrame setup payload = .ok (box.envelope senderText, message)
  := by
  have hread : EncryptedChatMessage.fromWireBytes setup.serde payload
      = .ok (box.envelope senderText) :=
    fromWire_eq_ok.mpr ⟨_, hpayload, EncryptedChatMessage.ofJson_toJson _⟩
  have hdecrypted : decryptMessage setup.primitives setup.serde setup.identity.encryptionSecretKey
      setup.identity.encryptionPublicKey (box.envelope senderText) = .ok message := by
    apply decryptMessage_eq_ok.mpr
    rw [hsecret]
    exact ⟨rfl, senderKey, recipientKey, box, decodeFixedKey_eq_ok_iff.mpr hsender,
      decodeFixedKey_eq_ok_iff.mpr hrecipient, decodeNonce_encode box.nonce,
      Base64.decode_encode box.ciphertext, hopens⟩
  rw [openFrame, hread, ok_bind, hdecrypted]
  rfl

/-- Both clients display the message of an envelope whose box they can open, when the
sender is a saved contact. -/
theorem displayed_receive
    (hP : P.Agreeing) {recipient : Device} {sender senderText body : String}
    (ha : Base64.decode senderText = some (P.x25519Base a).bytes) (hb : recipient.HasKey P b)
    (hholds : recipient.Holds sender senderText) {writer : JsonCodec}
    {box : Sealed MessageKey} {plaintext payload : Bytes}
    (hseals : Seals P writer (P.x25519 a (P.x25519Base b)) (P.x25519Base a) (P.x25519Base b)
      ⟨sender, recipient.name, body⟩ box)
    (hdecrypt : P.decrypt box.key box.nonce box.associatedData box.ciphertext = some plaintext)
    (hmessage : (recipient.codec serde js).fromSlice plaintext
      = some (PlaintextChatMessage.toJson ⟨sender, recipient.name, body⟩))
    (hpayload : (recipient.codec serde js).fromSlice payload
      = some (box.envelope senderText).toJson)
    (outside : Outside) (outside' : Web.Outside) :
  (recipient.receive P serde js outside outside' payload).displayed
    = recipient.displayed ++ [(sender, body)]
  := by
  have hkey := hseals.key
  rw [hP.x25519_comm] at hkey
  cases recipient with
  | cli pretty endpoints name identity client =>
      obtain ⟨entry, hget, hentry⟩ := hholds
      have hopens : Opens P serde (P.x25519 b (P.x25519Base a)) (P.x25519Base a) (P.x25519Base b)
          box ⟨sender, name, body⟩ :=
        ⟨hkey, hseals.associatedData, plaintext, hdecrypt,
          fromWire_eq_ok.mpr ⟨_, hmessage, PlaintextChatMessage.ofJson_toJson _⟩⟩
      have hopen : openFrame ⟨P, serde, pretty, endpoints, name, identity⟩ payload
          = .ok (box.envelope senderText, ⟨sender, name, body⟩) :=
        openFrame_of_opens (FixedBytes.ext_bytes hb.secretKey) ha hb.publicKey hopens hpayload
      simp only [Device.receive, receiveMessage_of_saved hopen hget hentry, Device.displayed,
        Client.events_record, List.filterMap_append]
      rfl
  | web page =>
      have hdecrypted := Web.decryptMessage_of_box hb.secretKey ha hb.publicKey
        (hP.x25519_ne_zero b a) hkey hseals.associatedData hdecrypt hmessage
      have hreceive : (Web.receiveEncryptedBytes P js outside' payload).outcome page
          = (.ok (), page.addMessage sender body) :=
        Web.receiveEncryptedBytes_of_saved hpayload hdecrypted hholds
      rw [Device.receive, hreceive]
      rfl

/-! ### From a command to a frame -/

/-- The socket of the command-line client is given the frame of the message that a command
names. -/
theorem frame_mem_of_sendMessage
    {pretty : JsonCodec} {endpoints : ServerEndpoints} {name : String} {identity : Identity}
    {client : Client} {outside : Outside} {rest recipient body publicKey : String}
    (hparse : parseSend rest = some (recipient, body))
    (hholds : (Device.cli pretty endpoints name identity client).Holds recipient publicKey)
    {frame : Bytes}
    (hframe : (Device.cli pretty endpoints name identity client).frame P serde js outside.nonce
      recipient body publicKey = some frame)
    (hsocket : outside.socketTakes) :
  .frame frame
    ∈ ((sendMessage ⟨P, serde, pretty, endpoints, name, identity⟩ outside rest).outcome
      client).2.events
  := by
  obtain ⟨entry, hget, rfl⟩ := hholds
  rw [Device.frame, toOption_eq_some] at hframe
  rw [sendMessage_of_entry hparse (recipientEntry_of_saved hget) (Prod.ext hframe rfl) hsocket]
  simp

/-- The socket of the browser client is given the frame of the message that is typed. -/
theorem frame_mem_of_sendCurrentMessage
    {page : Web.Page} {outside : Web.Outside} {recipient text publicKey : String}
    (hstarted : page.started) (hrecipient : ¬ recipient.isEmpty)
    (hbody : ¬ (Web.trim text).isEmpty) (hholds : (Device.web page).Holds recipient publicKey)
    {frame : Bytes}
    (hframe : (Device.web page).frame P serde js outside.nonce recipient (Web.trim text) publicKey
      = some frame)
    (hopen : page.socketOpen) :
  frame ∈ ((Web.sendCurrentMessage P js outside recipient text).outcome page).2.sent
  := by
  rw [Device.frame, toOption_eq_some] at hframe
  rw [Web.sendCurrentMessage_of_saved hstarted hrecipient hbody hholds hframe hopen]
  simp [Web.Page.addMessage]

/-! ### Through the relay -/

/-- The relay accepts a payload from the connection of its sender. -/
theorem step_receive_of_accepted
    {s : Relay} {c : ℕ} {conn : Connection} (hc : s.connections[c]? = some conn)
    (hwaiting : conn.receiveTask = .waiting) {bytes payload : Bytes} {recipient : String}
    (hcheck : checkPayload serde conn.username bytes = .ok (.accepted recipient payload)) :
  s.step serde (.receive c bytes) = some (s.accept c conn bytes recipient payload)
  := by
  simp only [Relay.step, hc, hwaiting, hcheck, Option.bind_eq_bind, Option.bind_some]

theorem codec_mem (serde js : JsonCodec) (device : Device) :
  device.codec serde js ∈ [serde, js]
  := by
  cases device <;> simp [Device.codec]

/-- Whichever client the sender and the recipient use: the sender's client makes a frame of
the message, the relay accepts it on the sender's connection and delivers it to the
recipient with one payload in every run after that, and the recipient's client displays
the payload as the body from the sender, when the sender is a saved contact with the
right key. -/
theorem roundTrip
    (hP : P.Agreeing)
    (hcodecs : ∀ writer ∈ [serde, js], ∀ reader ∈ [serde, js], writer.Inverts reader)
    {sender recipient : Device} (ha : sender.HasKey P a) (hb : recipient.HasKey P b)
    (hname : isValidUsername recipient.name)
    (hholds : recipient.Holds sender.name sender.publicKey) (nonce : Nonce) (body : String) :
  ∃ frame payload,
    sender.frame P serde js nonce recipient.name body recipient.publicKey = some frame
      ∧ (∀ (s : Relay) (c : ℕ) (conn : Connection), s.connections[c]? = some conn →
          conn.username = sender.name → conn.receiveTask = .waiting →
          s.step serde (.receive c frame) = some (s.accept c conn frame recipient.name payload)
            ∧ ∀ s₀ s', s₀.Initial → Reaches (Relay.step serde) anyAction s₀ s →
              Reaches (Relay.step serde) anyAction
                (s.accept c conn frame recipient.name payload) s' →
              s'.Transports s.nextTag recipient.name payload)
      ∧ ∀ outside outside', (recipient.receive P serde js outside outside' payload).displayed
          = recipient.displayed ++ [(sender.name, body)]
  := by
  have hserde : serde ∈ [serde, js] := List.mem_cons_self
  obtain ⟨box, plaintext, rfl, hseals, hdecrypt, hmessage⟩ := exists_seals hP
    (hcodecs _ (codec_mem serde js sender) _ (codec_mem serde js recipient)) a b nonce
    ⟨sender.name, recipient.name, body⟩
  have hframe := frame_of_seals hP ha hb.publicKey hseals
  obtain ⟨frame, hwrite, hread⟩ := hcodecs _ (codec_mem serde js sender) _ hserde _
    (RoutedEncryptedMessage.plain_toJson
      ⟨sender.name, recipient.name, box.envelope sender.publicKey⟩)
  obtain ⟨payload, hencode, hdecode⟩ := hcodecs _ hserde _ (codec_mem serde js recipient) _
    (EncryptedChatMessage.plain_toJson (box.envelope sender.publicKey))
  use frame, payload
  and_intros
  · rw [hframe, hwrite]
  · intro s c conn hc huser hwaiting
    have haccept : s.step serde (.receive c frame)
        = some (s.accept c conn frame recipient.name payload) := by
      apply step_receive_of_accepted hc hwaiting
      apply checkPayload_accepted.mpr
      exact ⟨_, fromWire_eq_ok.mpr ⟨_, hread, RoutedEncryptedMessage.ofJson_toJson _⟩,
        toWire_eq_ok.mpr hencode, huser.symm, rfl, hname⟩
    use haccept
    intro s₀ s' h₀ hbefore hafter
    apply Relay.transports_of_reaches h₀ hbefore hc haccept hafter
  · intro outside outside'
    apply displayed_receive hP ha.publicKey hb hholds hseals hdecrypt hmessage hdecode

end

/-! ### From a page to a terminal -/

theorem agreeing_samplePrimitives :
  (samplePrimitives fun _ => true).Agreeing
  where
  x25519_comm a b := by
    rw [samplePrimitives_x25519, samplePrimitives_x25519, mix_keyOf]
  x25519_ne_zero a b := by
    rw [samplePrimitives_x25519]
    apply mix_ne_zero
  hkdf secret info := ⟨_, rfl⟩
  encrypt key nonce data text := ⟨text, rfl, rfl⟩

/-- The key of the sample recipient. -/
def terminalKey : Key := ⟨0 :: 1 :: List.replicate 30 0, FixedBytes.length_other_key⟩

/-- The key text of the sample primitives for a key. -/
def sampleText (key : Key) : String :=
  encodeKey ((samplePrimitives fun _ => true).x25519Base key)

/-- `alice` at the browser client. -/
def samplePage : Device :=
  .web ⟨true, "alice", ⟨sampleText (.zero 32), (FixedBytes.zero 32).bytes⟩, [], true, "", [], [],
    fun _ => none⟩

/-- `bob` at the command-line client, with `alice` saved. -/
def sampleTerminal : Device :=
  .cli .compact ⟨"http://127.0.0.1:3000"⟩ "bob" ⟨sampleText terminalKey, terminalKey⟩
    ⟨.insert ⟨∅, "contacts/bob.json"⟩ ⟨"alice", sampleText (.zero 32), sampleText (.zero 32)⟩,
      none, []⟩

/-- A message from `alice` to `bob` is accepted by the relay, delivered and displayed. -/
theorem roundTrip_sample :
  ∃ frame payload,
    samplePage.frame (samplePrimitives fun _ => true) .compact .compact (.zero 24) "bob"
        "hello bob" (sampleText terminalKey) = some frame
      ∧ (∀ (s : Relay) (c : ℕ) (conn : Connection), s.connections[c]? = some conn →
          conn.username = "alice" → conn.receiveTask = .waiting →
          s.step .compact (.receive c frame) = some (s.accept c conn frame "bob" payload)
            ∧ ∀ s₀ s', s₀.Initial → Reaches (Relay.step .compact) anyAction s₀ s →
              Reaches (Relay.step .compact) anyAction (s.accept c conn frame "bob" payload) s' →
              s'.Transports s.nextTag "bob" payload)
      ∧ ∀ outside outside', (sampleTerminal.receive (samplePrimitives fun _ => true) .compact
          .compact outside outside' payload).displayed = [("alice", "hello bob")]
  := by
  have hcodecs : ∀ writer ∈ [JsonCodec.compact, .compact],
      ∀ reader ∈ [JsonCodec.compact, .compact], writer.Inverts reader := by
    simp [JsonCodec.inverts_compact]
  have ha : samplePage.HasKey (samplePrimitives fun _ => true) (.zero 32) :=
    ⟨rfl, Base64.decode_encode _⟩
  have hb : sampleTerminal.HasKey (samplePrimitives fun _ => true) terminalKey :=
    ⟨rfl, Base64.decode_encode _⟩
  have hholds : sampleTerminal.Holds samplePage.name samplePage.publicKey :=
    ⟨_, ContactBook.get_insert_self _ _, rfl⟩
  apply roundTrip agreeing_samplePrimitives hcodecs ha hb (by decide +kernel) hholds

end Phantasma
