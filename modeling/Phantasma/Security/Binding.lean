import Phantasma.Security.Authenticity

/-!
# Envelopes are bound to their recipient

When nobody seals but the runs of `encrypt_message`, `decrypt_message` opens the envelopes
that these runs have returned, each for the public key it was encrypted to, and nothing else
(`run_of_decryptMessage`).  The texts of an envelope are not an exception: a text that
decodes is the encoding of what it decodes to.
-/

namespace Phantasma

/-- A run of `encrypt_message`: its arguments, and the nonce that it was given by the random
number generator. -/
structure EncryptionRun where
  nonce : Nonce
  sender : String
  recipient : String
  body : String
  senderSecretKey : Key
  senderPublicKey : String
  recipientPublicKey : String

namespace EncryptionRun

variable {MessageKey : Type} (P : Primitives MessageKey) (serde : JsonCodec)

/-- The message that is encrypted. -/
def message (run : EncryptionRun) : PlaintextChatMessage :=
  ⟨run.sender, run.recipient, run.body⟩

/-- What `encrypt_message` returns. -/
def result (run : EncryptionRun) : Except Error EncryptedChatMessage :=
  encryptMessage P serde run.nonce run.sender run.recipient run.body run.senderSecretKey
    run.senderPublicKey run.recipientPublicKey

/-- What the run has sealed, if it has come to sealing. -/
def box (run : EncryptionRun) : Except Error (Sealed MessageKey) := do
  let encrypted ← run.result P serde
  encrypted.box P run.senderSecretKey run.senderPublicKey run.recipientPublicKey

/-- What the runs have sealed. -/
def boxes (runs : List EncryptionRun) : List (Sealed MessageKey) :=
  runs.filterMap fun run => (run.box P serde).toOption

variable {P serde}

/-- A sealed box is sealed for the pair of the keys of its run, which has returned the
envelope of the box. -/
theorem seals_of_box
    {run : EncryptionRun} {box : Sealed MessageKey} (h : run.box P serde = .ok box) :
  ∃ senderKey recipientKey,
    Base64.decode run.senderPublicKey = some senderKey.bytes
      ∧ Base64.decode run.recipientPublicKey = some recipientKey.bytes
      ∧ Seals P serde (P.x25519 run.senderSecretKey recipientKey) senderKey recipientKey
        run.message box
      ∧ run.result P serde = .ok (box.envelope run.senderPublicKey)
  := by
  obtain ⟨encrypted, hresult, hbox⟩ := bind_eq_ok.mp h
  obtain ⟨senderKey, recipientKey, hsender, hrecipient, hseals, rfl⟩ :=
    seals_of_encryptMessage hresult hbox
  use senderKey, recipientKey, decodeFixedKey_eq_ok_iff.mp hsender,
    decodeFixedKey_eq_ok_iff.mp hrecipient, hseals, hresult

end EncryptionRun

/-- An envelope that decodes to the parts of a box is the envelope of the box. -/
theorem eq_envelope
    {MessageKey : Type} {encrypted : EncryptedChatMessage} {box : Sealed MessageKey}
    {senderKey : Key} {senderPublicKey : String}
    (hversion : encrypted.version = messageVersion)
    (hsender : Base64.decode encrypted.senderEncryptionPublicKey = some senderKey.bytes)
    (hnonce : Base64.decode encrypted.nonce = some box.nonce.bytes)
    (hciphertext : Base64.decode encrypted.ciphertext = some box.ciphertext)
    (hsender' : Base64.decode senderPublicKey = some senderKey.bytes) :
  encrypted = box.envelope senderPublicKey
  := by
  rw [Sealed.envelope, Base64.encode_of_decode hnonce, Base64.encode_of_decode hciphertext,
    Base64.eq_of_decode_eq hsender' hsender, ← hversion]

/-- What is opened is an envelope that a run of `encrypt_message` has returned for the public
key it is opened with, and the message is the one of that run. -/
theorem run_of_decryptMessage
    {MessageKey : Type} [DecidableEq MessageKey] {P : Primitives MessageKey}
    {serde : JsonCodec} (hP : P.Symbolic) (hserde : serde.Inverts serde)
    (runs : List EncryptionRun) (recipientSecretKey : Key) (recipientPublicKey : String)
    (encrypted : EncryptedChatMessage) (message : PlaintextChatMessage)
    (h : decryptMessage (P.opening (EncryptionRun.boxes P serde runs)) serde recipientSecretKey
      recipientPublicKey encrypted = .ok message) :
  ∃ run ∈ runs, run.recipientPublicKey = recipientPublicKey
    ∧ run.result P serde = .ok encrypted ∧ message = run.message
  := by
  obtain ⟨hversion, senderKey, recipientKey, box, hsender, hrecipient, hnonce, hciphertext,
    hopens⟩ := decryptMessage_eq_ok.mp h
  obtain ⟨hmem, hopens⟩ := World.mem_of_opens_opening hopens
  obtain ⟨run, hrun, hbox⟩ := List.mem_filterMap.mp hmem
  obtain ⟨senderKey', recipientKey', hsender', hrecipient', hseals, hresult⟩ :=
    EncryptionRun.seals_of_box (toOption_eq_some.mp hbox)
  obtain ⟨rfl, rfl, rfl⟩ := World.eq_of_seals_of_opens hP hserde hseals hopens
  have hsame : encrypted = box.envelope run.senderPublicKey := by
    apply eq_envelope hversion (decodeFixedKey_eq_ok_iff.mp hsender)
      (decodeNonce_eq_ok.mp hnonce) hciphertext hsender'
  rw [decodeFixedKey_eq_ok_iff] at hrecipient
  use run, hrun, Base64.eq_of_decode_eq hrecipient' hrecipient
  rw [hsame]
  use hresult

/-- `alice` encrypts a message to `bob`. -/
def greetingRun : EncryptionRun where
  nonce := .zero 24
  sender := "alice"
  recipient := "bob"
  body := "hello bob"
  senderSecretKey := World.Friend.alice.secretKey
  senderPublicKey := encodeKey World.Friend.alice.publicKey
  recipientPublicKey := encodeKey World.Friend.bob.publicKey

/-- `bob` opens the message of `greetingRun`, the only one so far. -/
theorem run_of_decryptMessage_sample :
  let P := samplePrimitives fun _ => true
  ∃ encrypted, decryptMessage (P.opening (EncryptionRun.boxes P .compact [greetingRun])) .compact
      World.Friend.bob.secretKey (encodeKey World.Friend.bob.publicKey) encrypted
      = .ok greetingRun.message
    ∧ ∃ run ∈ [greetingRun], run.recipientPublicKey = encodeKey World.Friend.bob.publicKey
      ∧ run.result P .compact = .ok encrypted ∧ greetingRun.message = run.message
  := by
  intro P
  have hencrypts : ((greetingRun.result P .compact).toOption).isSome := by
    decide +kernel
  have hopens : ∀ encrypted ∈ (greetingRun.result P .compact).toOption,
      (decryptMessage (P.opening (EncryptionRun.boxes P .compact [greetingRun])) .compact
        World.Friend.bob.secretKey (encodeKey World.Friend.bob.publicKey) encrypted).toOption
        = some greetingRun.message := by
    decide +kernel
  obtain ⟨encrypted, hencrypted⟩ := Option.isSome_iff_exists.mp hencrypts
  have hopen := toOption_eq_some.mp (hopens encrypted hencrypted)
  use encrypted, hopen
  apply run_of_decryptMessage (World.symbolic_samplePrimitives _) JsonCodec.inverts_compact
    [greetingRun] World.Friend.bob.secretKey _ encrypted _ hopen

end Phantasma
