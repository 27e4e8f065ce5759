import Mathlib.Data.List.DropRight
import Phantasma.Base.Program
import Phantasma.Client.Contacts
import Phantasma.Client.Crypto
import Phantasma.Client.ServerApi

/-!
# Sending and receiving in the client

The functions of `main.rs` that the loop of the client calls for a command or a received
frame.  They are programs over the contact book, its file and what the client has printed
and handed on; what comes from outside in one call, the answer to a lookup, a nonce, the
end of a write and of a send, is given to the call as `Outside`.
-/

namespace Phantasma

/-! ### What the functions work on -/

/-- `Identity`, as far as messages need it. -/
structure Identity where
  encryptionPublicKey : String
  encryptionSecretKey : Key

/-- What stays the same while the client runs: the libraries, the relay it talks to, the
username it was started with and its identity. -/
structure Setup (MessageKey : Type) where
  primitives : Primitives MessageKey
  serde : JsonCodec
  pretty : JsonCodec
  endpoints : ServerEndpoints
  name : String
  identity : Identity

/-- What comes from outside in one call: the answer to the lookup it makes, the nonce it
draws, how the contact book is written, and whether the socket takes a frame. -/
structure Outside where
  answer : Option HttpResponse
  nonce : Nonce
  write : WriteOutcome
  socketTakes : Bool

/-- What the client does that can be observed, and the calls to `encrypt_message`. -/
inductive Event where
  /-- A line of text is printed. -/
  | line (text : String)
  /-- The body of a message is printed behind the name of its sender. -/
  | message (sender body : String)
  /-- `encrypt_message` returns `encrypted` for this recipient, body and key text. -/
  | encrypted (recipient body recipientPublicKey : String) (encrypted : EncryptedChatMessage)
  /-- The socket takes a binary frame. -/
  | frame (bytes : Bytes)
deriving DecidableEq

/-- The contact book in memory, its file, and what the client has done, the oldest
first. -/
structure Client where
  contacts : ContactBook
  file : Option Bytes
  events : List Event

/-- The client after it has done `event`. -/
def Client.record (client : Client) (event : Event) : Client :=
  { client with events := client.events ++ [event] }

/-- A function of the client. -/
abbrev Run := Program Client Error

/-- Something is done. -/
def record (event : Event) : Run Unit :=
  modify fun client => client.record event

/-- `println!`. -/
def println (text : String) : Run Unit :=
  record (.line text)

/-! ### The text of a command -/

/-- `char::is_whitespace`. -/
def isWhitespace (ch : Char) : Bool :=
  (9 ≤ ch.toNat && ch.toNat ≤ 13) || (0x2000 ≤ ch.toNat && ch.toNat ≤ 0x200a) ||
    ch.toNat ∈ [0x20, 0x85, 0xa0, 0x1680, 0x2028, 0x2029, 0x202f, 0x205f, 0x3000]

/-- `str::trim`. -/
def trim (text : List Char) : List Char :=
  (text.dropWhile isWhitespace).rdropWhile isWhitespace

/-- `split_once(' ')`. -/
def splitOnce (text : List Char) : Option (List Char × List Char) :=
  match text.dropWhile (· ≠ ' ') with
  | [] => none
  | _ :: rest => some (text.takeWhile (· ≠ ' '), rest)

/-- The recipient and the message body that `send_message` reads from its argument. -/
def parseSend (rest : String) : Option (String × String) := do
  let (recipient, messageBody) ← splitOnce (trim rest.toList)
  let recipient := trim recipient
  let messageBody := trim messageBody
  if recipient.isEmpty || messageBody.isEmpty then
    none
  else
    some (String.ofList recipient, String.ofList messageBody)

/-! ### The functions -/

section

variable {MessageKey : Type} (setup : Setup MessageKey) (outside : Outside)

/-- `contacts.add(entry)?`. -/
def addEntry (entry : PublicKeyEntry) : Run Unit := do
  let client ← get
  let (result, contacts, file) :=
    client.contacts.add setup.pretty outside.write client.file entry
  modify fun client => { client with contacts := contacts, file := file }
  Program.ofExcept result

/-- What `add_contact`, `send_message` and `find_or_add_sender` have in common: the key of
`username` is looked up, and the entry that is found is added. -/
def lookUpAndAdd (username : String) : Run (Option PublicKeyEntry) := do
  match ← Program.ofExcept
    (lookupPublicKey setup.serde setup.endpoints outside.answer username) with
  | some entry =>
      addEntry setup outside entry
      println s!"added contact {username}"
      return some entry
  | none => return none

/-- `add_contact`. -/
def addContact (username : String) : Run Unit := do
  if username.isEmpty then
    println "usage: /add <username>"
  else
    match ← lookUpAndAdd setup outside username with
    | some _ => return ()
    | none => println s!"no public key found for {username}"

/-- The entry of the recipient in `send_message`: the saved contact, or else the entry
that is looked up and added. -/
def recipientEntry (recipient : String) : Run (Option PublicKeyEntry) := do
  match (← get).contacts.get recipient with
  | some entry => return some entry
  | none => lookUpAndAdd setup outside recipient

/-- The part of `send_message` that makes the frame for the socket: the body is encrypted
to the key text, and the envelope is routed to the recipient. -/
def routedFrame (nonce : Nonce) (recipient messageBody recipientPublicKey : String) :
    Run Bytes := do
  let encrypted ← Program.ofExcept (encryptMessage setup.primitives setup.serde nonce
    setup.name recipient messageBody setup.identity.encryptionSecretKey
    setup.identity.encryptionPublicKey recipientPublicKey)
  record (.encrypted recipient messageBody recipientPublicKey encrypted)
  Program.ofExcept (RoutedEncryptedMessage.toWireBytes setup.serde
    ⟨setup.name, recipient, encrypted⟩)

/-- `send_message`. -/
def sendMessage (rest : String) : Run Unit := do
  match parseSend rest with
  | none => println "usage: /send <username> <message>"
  | some (recipient, messageBody) =>
      match ← recipientEntry setup outside recipient with
      | none =>
          println s!"no public key found for {recipient}. use /add {recipient} after they register."
      | some entry =>
          let bytes ← routedFrame setup outside.nonce recipient messageBody
            entry.encryptionPublicKey
          if !outside.socketTakes then
            throw .socket
          record (.frame bytes)
          println s!"sent encrypted message to {recipient}"

/-- `find_or_add_sender`. -/
def findOrAddSender (username : String) : Run PublicKeyEntry := do
  match (← get).contacts.get username with
  | some entry => return entry
  | none =>
      match ← lookUpAndAdd setup outside username with
      | some entry => return entry
      | none => throw (.text s!"no public key found for sender {username}")

/-- The message that `receive_message` reads from a frame, with its envelope. -/
def openFrame (bytes : Bytes) : Except Error (EncryptedChatMessage × PlaintextChatMessage) := do
  let encrypted ← EncryptedChatMessage.fromWireBytes setup.serde bytes
  let chatMessage ← decryptMessage setup.primitives setup.serde setup.identity.encryptionSecretKey
    setup.identity.encryptionPublicKey encrypted
  return (encrypted, chatMessage)

/-- `receive_message`. -/
def receiveMessage (bytes : Bytes) : Run Unit := do
  let (encrypted, chatMessage) ← Program.ofExcept (openFrame setup bytes)
  if chatMessage.to ≠ setup.name then
    return ()
  let senderEntry ← findOrAddSender setup outside chatMessage.from
  if senderEntry.encryptionPublicKey ≠ encrypted.senderEncryptionPublicKey then
    throw (.text "sender key did not match saved contact")
  record (.message chatMessage.from chatMessage.body)

end

end Phantasma
