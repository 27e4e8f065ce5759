import Phantasma.Client.Crypto
import Phantasma.Relay.Registration
import Phantasma.Shared.JsonText

/-!
# Recipient keys of small order

X25519 gives the array of zeros for a `u`-coordinate of small order, whatever the scalar.
`encrypt_message` does not look at the shared secret, and such a coordinate is a key text
like any other for the relay and the client.  A message encrypted to it has a message
key that is derived from public data (`opens_of_isSmallOrder`);
`sharedSecret_ne_zero_iff` says for which arguments this does not happen.
-/

namespace Phantasma

/-! ### Coordinates of small order -/

/-- The number with the given bytes, the least significant first. -/
def littleEndian : Bytes → ℕ
  | [] => 0
  | byte :: bytes => byte.toNat + 256 * littleEndian bytes

/-- The field of Curve25519 has this many elements. -/
def fieldSize : ℕ := 2 ^ 255 - 19

/-- The `u`-coordinate that X25519 reads from an array: the last bit is ignored, and the
number need not be reduced. -/
def uCoordinate (key : Key) : ℕ :=
  littleEndian key.bytes % 2 ^ 255 % fieldSize

/-- The `u`-coordinates of the points of Curve25519 and its twist whose order divides
eight. -/
def smallOrderCoordinates : List ℕ :=
  [0, 1, fieldSize - 1,
    325606250916557431795983626356110631294008115727848805560023387167927233504,
    39382357235489614581723060781553021112529911719440698176882885853963445705823]

/-- The array is read as a `u`-coordinate of small order. -/
def isSmallOrder (key : Key) : Bool :=
  uCoordinate key ∈ smallOrderCoordinates

/-! ### When the shared secret is not zero -/

section

variable {MessageKey : Type} {P : Primitives MessageKey} {serde : JsonCodec} {limit : ℕ}

/-- What `encrypt_message` relies on: X25519 gives zeros for the coordinates of small order
and no others, HKDF gives a key of the length asked for, and the cipher takes a text of
at most `limit` bytes. -/
structure Primitives.Total (P : Primitives MessageKey) (limit : ℕ) : Prop where
  x25519_eq_zero : ∀ secret key, P.x25519 secret key = .zero 32 ↔ isSmallOrder key
  hkdf : ∀ secret info, ∃ key, P.hkdf keyDerivationSalt secret info = some key
  encrypt : ∀ key nonce data text,
    (∃ ciphertext, P.encrypt key nonce data text = some ciphertext) ↔ text.length ≤ limit

/-- The text does not decode to a key, or to one that is not of small order. -/
def AvoidsSmallOrder (publicKey : String) : Prop :=
  ∀ key, (Base64.decode publicKey).bind (FixedBytes.tryInto 32) = some key → ¬ isSmallOrder key

/-- The text does not decode to a key. -/
def Malformed (publicKey : String) : Prop :=
  (Base64.decode publicKey).bind (FixedBytes.tryInto 32) = none

/-- The plaintext of a message is longer than the cipher takes. -/
def TooLong (serde : JsonCodec) (limit : ℕ) (message : PlaintextChatMessage) : Prop :=
  ∀ plaintext, message.toWireBytes serde = .ok plaintext → limit < plaintext.length

/-- `encrypt_message` does not use a shared secret of zeros, just when the key text of the
recipient does not decode to a coordinate of small order, or the call fails because the
key text of the sender does not decode or the message is too long. -/
theorem sharedSecret_ne_zero_iff
    (hP : P.Total limit) (nonce : Nonce) (sender recipient body : String)
    (senderSecretKey : Key) (senderPublicKey recipientPublicKey : String) :
  (∀ encrypted, encryptMessage P serde nonce sender recipient body senderSecretKey
      senderPublicKey recipientPublicKey = .ok encrypted →
    ∀ key, decodeFixedKey recipientPublicKey "recipient public key" = .ok key →
      P.x25519 senderSecretKey key ≠ .zero 32)
    ↔ AvoidsSmallOrder recipientPublicKey ∨ Malformed senderPublicKey
      ∨ TooLong serde limit ⟨sender, recipient, body⟩
  := by
  constructor
  · intro hne
    by_contra hnone
    simp only [not_or, AvoidsSmallOrder, Malformed, TooLong, not_forall, not_not, not_lt]
      at hnone
    obtain ⟨⟨recipientKey, hrecipient, hsmall⟩, hsender, plaintext, hplaintext, hlen⟩ := hnone
    obtain ⟨senderKey, hsender⟩ := Option.ne_none_iff_exists'.mp hsender
    obtain ⟨messageKey, hkey⟩ := hP.hkdf (P.x25519 senderSecretKey recipientKey)
      (associatedData senderKey recipientKey)
    obtain ⟨ciphertext, hciphertext⟩ := (hP.encrypt messageKey nonce
      (associatedData senderKey recipientKey) plaintext).mpr hlen
    have hencrypted := encryptMessage_eq_ok.mpr ⟨senderKey, recipientKey,
      ⟨messageKey, nonce, _, ciphertext⟩, decodeFixedKey_eq_ok.mpr hsender,
      decodeFixedKey_eq_ok.mpr hrecipient,
      ⟨hkey, rfl, plaintext, hplaintext, hciphertext⟩, rfl, rfl⟩
    apply hne _ hencrypted recipientKey (decodeFixedKey_eq_ok.mpr hrecipient)
    apply (hP.x25519_eq_zero ..).mpr hsmall
  · rintro hcases encrypted hencrypted key hkey hzero
    obtain ⟨senderKey, recipientKey, box, hsender, hrecipient, ⟨-, -, plaintext, hplaintext,
      hciphertext⟩, -⟩ := encryptMessage_eq_ok.mp hencrypted
    rcases hcases with havoids | hmalformed | htoolong
    · apply havoids key (decodeFixedKey_eq_ok.mp hkey)
      apply (hP.x25519_eq_zero ..).mp hzero
    · rw [decodeFixedKey_eq_ok, hmalformed] at hsender
      cases hsender
    · have hlen := (hP.encrypt ..).mp ⟨_, hciphertext⟩
      have := htoolong plaintext hplaintext
      omega

/-- A message that is encrypted to a coordinate of small order is opened with the key that
is derived from zeros and the two public keys. -/
theorem opens_of_isSmallOrder
    (hP : P.Total limit) (hserde : serde.Inverts serde)
    (hdecrypt : ∀ key nonce data text ciphertext,
      P.encrypt key nonce data text = some ciphertext →
        P.decrypt key nonce data ciphertext = some text)
    {nonce : Nonce} {sender recipient body : String} {senderSecretKey : Key}
    {senderPublicKey recipientPublicKey : String} {encrypted : EncryptedChatMessage}
    (hencrypted : encryptMessage P serde nonce sender recipient body senderSecretKey
      senderPublicKey recipientPublicKey = .ok encrypted)
    (hsmall : ¬ AvoidsSmallOrder recipientPublicKey) :
  ∃ senderKey recipientKey box,
    decodeFixedKey encrypted.senderEncryptionPublicKey "sender public key" = .ok senderKey
      ∧ decodeFixedKey recipientPublicKey "recipient public key" = .ok recipientKey
      ∧ encrypted = Sealed.envelope box senderPublicKey
      ∧ Opens P serde (.zero 32) senderKey recipientKey box ⟨sender, recipient, body⟩
  := by
  obtain ⟨senderKey, recipientKey, box, hsender, hrecipient, ⟨hkey, hdata, plaintext,
    hplaintext, hciphertext⟩, -, rfl⟩ := encryptMessage_eq_ok.mp hencrypted
  simp only [AvoidsSmallOrder, not_forall, not_not] at hsmall
  obtain ⟨key, hdecode, hsmall⟩ := hsmall
  obtain rfl := Option.some.inj (hdecode.symm.trans (decodeFixedKey_eq_ok.mp hrecipient))
  rw [(hP.x25519_eq_zero ..).mpr hsmall] at hkey
  obtain ⟨bytes, hwrite, hread⟩ := fromWire_toWire hserde
    (PlaintextChatMessage.plain_toJson ⟨sender, recipient, body⟩)
    (PlaintextChatMessage.ofJson_toJson _)
  obtain rfl : bytes = plaintext := by
    simpa [PlaintextChatMessage.toWireBytes, hwrite] using hplaintext
  use senderKey, key, box, hsender, hrecipient, rfl, hkey, hdata
  exact ⟨bytes, hdecrypt _ _ _ _ _ hciphertext, hread⟩

end

/-! ### Concrete primitives -/

/-- A key with the first byte `first` and the others of `bytes`. -/
def keyOf (first : UInt8) (bytes : Bytes) (h : bytes.length = 31) : Key where
  bytes := first :: bytes
  length_eq := by rw [List.length_cons, h]

theorem length_tail (key : Key) :
  key.bytes.tail.length = 31
  := by
  rw [List.length_tail, key.length_eq]

/-- The sum of two keys, byte by byte, with the first byte `1`. -/
def mix (a b : Key) : Key :=
  keyOf 1 (List.zipWith (· + ·) a.bytes.tail b.bytes.tail) (by
    rw [List.length_zipWith, length_tail, length_tail, min_self])

/-- Primitives that are easy to evaluate.  X25519 adds keys, except that it gives zeros for
the coordinates of small order; a derived key is what it is derived from; and the cipher
leaves the texts as they are, taking those with a length in `takes`. -/
def samplePrimitives (takes : ℕ → Bool) : Primitives (Key × Bytes) where
  x25519 secret key := if isSmallOrder key then .zero 32 else mix secret key
  x25519Base secret := keyOf 9 secret.bytes.tail (length_tail secret)
  hkdf _ secret info := some (secret, info)
  encrypt _ _ _ text := if takes text.length then some text else none
  decrypt _ _ _ ciphertext := some ciphertext

theorem mix_ne_zero (a b : Key) :
  mix a b ≠ .zero 32
  := by
  intro heq
  have hbytes := congrArg FixedBytes.bytes heq
  cases hbytes

/-- The public keys of the sample primitives are not of small order. -/
theorem not_isSmallOrder_keyOf {bytes : Bytes} (h : bytes.length = 31) :
  ¬ isSmallOrder (keyOf 9 bytes h)
  := by
  intro hsmall
  have hmem : (9 + 256 * littleEndian bytes) % 2 ^ 255 % fieldSize ∈ smallOrderCoordinates :=
    of_decide_eq_true hsmall
  have hlt : (9 + 256 * littleEndian bytes) % 2 ^ 255 < 2 ^ 255 := Nat.mod_lt _ (by decide)
  have hlow : (9 + 256 * littleEndian bytes) % 2 ^ 255 % 256 = 9 := by
    rw [Nat.mod_mod_of_dvd _ (by decide : 256 ∣ 2 ^ 255), Nat.add_mul_mod_self_left]
  generalize (9 + 256 * littleEndian bytes) % 2 ^ 255 = u at hmem hlt hlow
  have hreduced : u < fieldSize := by
    rw [fieldSize]
    omega
  rw [Nat.mod_eq_of_lt hreduced, smallOrderCoordinates, fieldSize] at hmem
  simp only [List.mem_cons, List.not_mem_nil, or_false] at hmem
  rcases hmem with rfl | rfl | rfl | rfl | rfl <;> cases hlow

/-- The shared secret of a sample key and a sample public key. -/
theorem samplePrimitives_x25519 (takes : ℕ → Bool) (a b : Key) :
  (samplePrimitives takes).x25519 a ((samplePrimitives takes).x25519Base b)
    = mix a (keyOf 9 b.bytes.tail (length_tail b))
  := if_neg (not_isSmallOrder_keyOf (length_tail b))

theorem mix_keyOf (a b : Key) :
  mix a (keyOf 9 b.bytes.tail (length_tail b)) = mix b (keyOf 9 a.bytes.tail (length_tail a))
  := by
  apply FixedBytes.ext_bytes
  change 1 :: List.zipWith (· + ·) a.bytes.tail b.bytes.tail
    = 1 :: List.zipWith (· + ·) b.bytes.tail a.bytes.tail
  rw [List.zipWith_comm_of_comm add_comm]

theorem samplePrimitives_total (limit : ℕ) :
  (samplePrimitives (· ≤ limit)).Total limit
  where
  x25519_eq_zero secret key := by
    simp only [samplePrimitives]
    split
    · simp [*]
    · simp [*, mix_ne_zero]
  hkdf secret info := ⟨_, rfl⟩
  encrypt key nonce data text := by
    simp [samplePrimitives]

/-- The key text of the base point of Curve25519. -/
def basePointText : String := "CQAAAAAAAAAAAAAAAAAAAAAAAAAAAAAAAAAAAAAAAAA"

/-- The key text of the `u`-coordinate `0`. -/
def zeroText : String := "AAAAAAAAAAAAAAAAAAAAAAAAAAAAAAAAAAAAAAAAAAA"

/-- A message to the key of the base point does not use a shared secret of zeros. -/
theorem sharedSecret_ne_zero_iff_sample :
  ∃ encrypted, encryptMessage (samplePrimitives (· ≤ 100)) .compact (.zero 24) "alice" "bob"
      "hello bob" (.zero 32) basePointText basePointText = .ok encrypted
    ∧ ∀ key, decodeFixedKey basePointText "recipient public key" = .ok key →
      (samplePrimitives (· ≤ 100)).x25519 (.zero 32) key ≠ .zero 32
  := by
  have hencrypts : (encryptMessage (samplePrimitives (· ≤ 100)) .compact (.zero 24) "alice" "bob"
      "hello bob" (.zero 32) basePointText basePointText).toOption.isSome := by
    decide +kernel
  have hbase : ∀ key ∈ (Base64.decode basePointText).bind (FixedBytes.tryInto 32),
      ¬ isSmallOrder key := by
    decide +kernel
  obtain ⟨encrypted, hencrypted⟩ := exists_eq_ok hencrypts
  use encrypted, hencrypted
  apply (sharedSecret_ne_zero_iff (samplePrimitives_total 100) ..).mpr _ encrypted hencrypted
  left
  apply hbase

/-- A key text of zeros is registered, and a message is encrypted to it with a shared
secret of zeros. -/
theorem not_sharedSecret_ne_zero :
  ¬ ∀ (P : Primitives (Key × Bytes)) (limit : ℕ) (serde : JsonCodec) (nonce : Nonce)
      (sender recipient body : String) (senderSecretKey : Key)
      (senderPublicKey identityPublicKey recipientPublicKey : String)
      (encrypted : EncryptedChatMessage) (key : Key),
    P.Total limit →
    validateRegistration ⟨recipient, identityPublicKey, recipientPublicKey⟩ = .ok () →
    encryptMessage P serde nonce sender recipient body senderSecretKey senderPublicKey
      recipientPublicKey = .ok encrypted →
    decodeFixedKey recipientPublicKey "recipient public key" = .ok key →
      P.x25519 senderSecretKey key ≠ .zero 32
  := by
  intro hne
  have hencrypts : (encryptMessage (samplePrimitives (· ≤ 100)) .compact (.zero 24) "alice" "bob"
      "hello bob" (.zero 32) basePointText zeroText).toOption.isSome := by
    decide +kernel
  obtain ⟨encrypted, hencrypted⟩ := exists_eq_ok hencrypts
  apply hne _ 100 _ _ _ _ _ _ _ basePointText zeroText encrypted (.zero 32)
    (samplePrimitives_total 100) (by rfl) hencrypted
  · rw [decodeFixedKey_eq_ok]
    decide +kernel
  · decide +kernel

end Phantasma
