import Phantasma.Client.Identity
import Phantasma.Relay.Registration

/-!
# The texts of keys

The relay checks the shape of the text of a public key, the clients decode it.  A text of
the right shape has room for two bits more than a key has: `exists_encodeKey_iff` says
which texts encode keys, and `keyTextAgrees_iff` that the check and the decoders disagree
just on those whose last character sets one of these bits.
-/

namespace Phantasma

/-! ### The shape of a text -/

/-- A character of the alphabet takes one byte. -/
theorem utf8Size_of_isPublicKeyChar {ch : Char} (h : isPublicKeyChar ch) :
  ch.utf8Size = 1
  := by
  obtain ⟨v, hv⟩ := Option.isSome_iff_exists.mp ((Base64.isSome_ofChar ch).trans h)
  have hascii := Base64.toNat_lt_of_ofChar hv
  rw [Char.utf8Size_eq_one_iff, UInt32.le_iff_toNat_le]
  change ch.toNat ≤ 127
  omega

/-- A text of characters of the alphabet has as many bytes as characters. -/
theorem utf8ByteSize_of_isPublicKeyChar {chars : List Char} (h : chars.all isPublicKeyChar) :
  (String.ofList chars).utf8ByteSize = chars.length
  := by
  induction chars with
  | nil => rfl
  | cons ch chars ih =>
      rw [List.all_cons, Bool.and_eq_true] at h
      rw [String.ofList_cons, String.utf8ByteSize_append, String.utf8ByteSize_singleton,
        utf8Size_of_isPublicKeyChar h.1, ih h.2, List.length_cons, Nat.add_comm]

/-- The check of the shape: 43 characters of the alphabet. -/
theorem isValidPublicKeyText_iff (text : String) :
  isValidPublicKeyText text
    ↔ text.toList.length = publicKeyTextLen ∧ ∀ ch ∈ text.toList, isPublicKeyChar ch
  := by
  rw [isValidPublicKeyText, Bool.and_eq_true, decide_eq_true_eq, ← List.all_eq_true]
  constructor
  · rintro ⟨hsize, hall⟩
    rw [← String.ofList_toList (s := text), utf8ByteSize_of_isPublicKeyChar hall] at hsize
    exact ⟨hsize, hall⟩
  · rintro ⟨hlen, hall⟩
    rw [← String.ofList_toList (s := text), utf8ByteSize_of_isPublicKeyChar hall]
    rw [String.toList_ofList]
    exact ⟨hlen, hall⟩

/-! ### The texts that encode keys -/

/-- The characters of the alphabet that do not set the last two bits. -/
def evenChars : List Char :=
  "AEIMQUYcgkosw048".toList

theorem val_mod_four_iff {ch : Char} {v : Fin 64} (h : Base64.ofChar ch = some v) :
  v.val % 4 = 0 ↔ ch ∈ evenChars
  := by
  have heven : ∀ v : Fin 64, v.val % 4 = 0 ↔ Base64.toChar v ∈ evenChars := by
    decide +kernel
  rw [heven v, Base64.toChar_ofChar h]

/-- The bytes of a text of 43 characters are as many as those of a key, and only of such. -/
theorem length_decode_iff
    {text : String} {bytes : Bytes} (h : Base64.decode text = some bytes) :
  bytes.length = 32 ↔ text.toList.length = publicKeyTextLen
  := by
  obtain ⟨sextets, hsextets, hbytes⟩ := Option.bind_eq_some_iff.mp h
  have hmod := (Base64.isSome_ofSextets sextets).mp (Option.isSome_of_eq_some hbytes)
  rw [← Base64.map_toChar_of_mapM hsextets, List.length_map, Base64.length_ofSextets hbytes,
    publicKeyTextLen]
  omega

/-- A text encodes a key when it has the shape of one and its last character sets none of
the last two bits. -/
theorem exists_encodeKey_iff (text : String) :
  (∃ key, encodeKey key = text)
    ↔ (text.toList.length = publicKeyTextLen ∧ ∀ ch ∈ text.toList, isPublicKeyChar ch)
      ∧ ∀ ch ∈ text.toList.getLast?, ch ∈ evenChars
  := by
  have hdecode := Base64.isSome_decode text
  simp only [Base64.isSome_ofChar] at hdecode
  constructor
  · rintro ⟨key, rfl⟩
    have hbytes : Base64.decode (encodeKey key) = some key.bytes := Base64.decode_encode key.bytes
    have hlen := (length_decode_iff hbytes).mp key.length_eq
    obtain ⟨hshape, -, hlast⟩ := hdecode.mp (Option.isSome_of_eq_some hbytes)
    use ⟨hlen, hshape⟩
    intro ch hch
    obtain ⟨v, hv⟩ := Option.isSome_iff_exists.mp
      ((Base64.isSome_ofChar ch).trans (hshape ch (List.mem_of_getLast? hch)))
    rw [hlen] at hlast
    exact (val_mod_four_iff hv).mp (hlast ch hch v hv)
  · rintro ⟨⟨hlen, hshape⟩, hlast⟩
    have hsome : (Base64.decode text).isSome := by
      rw [hdecode, hlen]
      use hshape, by decide
      intro ch hch v hv
      exact (val_mod_four_iff hv).mpr (hlast ch hch)
    obtain ⟨bytes, hbytes⟩ := Option.isSome_iff_exists.mp hsome
    use ⟨bytes, (length_decode_iff hbytes).mpr hlen⟩
    apply Base64.encode_of_decode hbytes

/-- The decoders take the encodings of keys. -/
theorem exists_decodeFixedKey_iff (text label : String) :
  (∃ key, decodeFixedKey text label = .ok key) ↔ ∃ key, encodeKey key = text
  := by
  simp only [decodeFixedKey_eq_ok_iff]
  constructor
  · rintro ⟨key, hkey⟩
    use key, Base64.encode_of_decode hkey
  · rintro ⟨key, rfl⟩
    use key, Base64.decode_encode key.bytes

/-! ### Failing to decode a key -/

/-- The errors of the decoders for the key they call `label`. -/
def decodingErrors (label : String) : List Error :=
  [.text s!"{label} is not valid base64url", .text s!"{label} must be 32 bytes"]

/-- The result is an error of decoding the key called `label`. -/
def FailsToDecode {α : Type} (label : String) (result : Except Error α) : Prop :=
  ∃ err ∈ decodingErrors label, result = .error err

section

variable {α β : Type} {label : String}

theorem failsToDecode_bind {x : Except Error α} {f : α → Except Error β} :
  FailsToDecode label (x >>= f)
    ↔ FailsToDecode label x ∨ ∃ a, x = .ok a ∧ FailsToDecode label (f a)
  := by
  cases x with
  | error err => simp [FailsToDecode, bind, Except.bind]
  | ok a => simp [FailsToDecode]

theorem failsToDecode_orError {err : Error} {o : Option α} :
  FailsToDecode label (orError err o) ↔ o = none ∧ err ∈ decodingErrors label
  := by
  cases o with
  | none => simp [FailsToDecode, orError]
  | some a => simp [FailsToDecode, orError]

theorem not_failsToDecode_ok (a : α) :
  ¬ FailsToDecode label (.ok a : Except Error α)
  := by
  rintro ⟨err, -, h⟩
  cases h

/-- A decoder fails with the errors for the label it is given. -/
theorem mem_of_failsToDecode_decodeFixedKey
    {text given : String} (h : FailsToDecode label (decodeFixedKey text given)) :
  ∃ err ∈ decodingErrors given, err ∈ decodingErrors label
  := by
  rw [decodeFixedKey, failsToDecode_bind] at h
  rcases h with h | ⟨bytes, -, h⟩
  · use .text s!"{given} is not valid base64url", List.mem_cons_self,
      (failsToDecode_orError.mp h).2
  · use .text s!"{given} must be 32 bytes", List.mem_cons_of_mem _ List.mem_cons_self,
      (failsToDecode_orError.mp h).2

end

/-- `encrypt_message` fails to decode a key only if the decoder fails on that key. -/
theorem failsToDecode_encryptMessage
    {MessageKey : Type} {P : Primitives MessageKey} {serde : JsonCodec} {nonce : Nonce}
    {sender recipient body : String} {senderSecretKey : Key}
    {senderPublicKey recipientPublicKey label : String}
    (hlabel : label = "sender public key" ∨ label = "recipient public key")
    (h : FailsToDecode label (encryptMessage P serde nonce sender recipient body senderSecretKey
      senderPublicKey recipientPublicKey)) :
  FailsToDecode label (decodeFixedKey senderPublicKey "sender public key")
    ∨ FailsToDecode label (decodeFixedKey recipientPublicKey "recipient public key")
  := by
  have hserde : Error.serde ∉ decodingErrors label := by
    rcases hlabel with rfl | rfl <;> decide
  have hderive : Error.text "message key derivation failed" ∉ decodingErrors label := by
    rcases hlabel with rfl | rfl <;> decide
  have hencrypt : Error.text "message encryption failed" ∉ decodingErrors label := by
    rcases hlabel with rfl | rfl <;> decide
  rw [encryptMessage, failsToDecode_bind] at h
  rcases h with h | ⟨senderKey, -, h⟩
  · left
    apply h
  rw [failsToDecode_bind] at h
  rcases h with h | ⟨recipientKey, -, h⟩
  · right
    apply h
  dsimp only at h
  rw [deriveMessageKey, failsToDecode_bind] at h
  rcases h with h | ⟨messageKey, -, h⟩
  · exact absurd (failsToDecode_orError.mp h).2 hderive
  rw [failsToDecode_bind] at h
  rcases h with h | ⟨plaintext, -, h⟩
  · rw [PlaintextChatMessage.toWireBytes, toWire] at h
    split at h
    · exact absurd h (not_failsToDecode_ok _)
    · obtain ⟨err, herr, ⟨⟩⟩ := h
      exact absurd herr hserde
  rw [failsToDecode_bind] at h
  rcases h with h | ⟨ciphertext, -, h⟩
  · exact absurd (failsToDecode_orError.mp h).2 hencrypt
  exact absurd h (not_failsToDecode_ok _)

/-! ### Where the check and the decoders agree -/

/-- `KeyTextAgrees`: the validators hold of the text when it encodes a key, which is when
the decoders succeed; and if the relay accepts the text in a registration, then
`encrypt_message` does not fail to decode it, neither as the key of the sender nor as that of
the recipient. -/
structure KeyTextAgrees (text : String) : Prop where
  x25519 : isValidX25519PublicKeyText text ↔ ∃ key, encodeKey key = text
  ed25519 : isValidEd25519PublicKeyText text ↔ ∃ key, encodeKey key = text
  decodeFixedKey : ∀ label,
    (∃ key, encodeKey key = text) ↔ ∃ key, decodeFixedKey text label = .ok key
  decodeKey : ∀ label, (∃ key, encodeKey key = text) ↔ ∃ key, decodeKey text label = .ok key
  encryptMessage : ∀ registration : PublicKeyRegistration,
    validateRegistration registration = .ok () → registration.encryptionPublicKey = text →
    ∀ (MessageKey : Type) (P : Primitives MessageKey) (serde : JsonCodec) (nonce : Nonce)
      (sender recipient body : String) (secretKey : Key) (publicKey : String),
      ¬ FailsToDecode "recipient public key"
          (encryptMessage P serde nonce sender recipient body secretKey publicKey text)
        ∧ ¬ FailsToDecode "sender public key"
          (encryptMessage P serde nonce sender recipient body secretKey text publicKey)

/-- `SetsSpareBits`: 43 characters of the alphabet, the last of which sets one of the two
bits that a key does not have. -/
def SetsSpareBits (text : String) : Prop :=
  (text.toList.length = publicKeyTextLen ∧ ∀ ch ∈ text.toList, isPublicKeyChar ch)
    ∧ ∃ ch ∈ text.toList.getLast?, ch ∉ evenChars

/-- A key that the decoder takes is one that `encrypt_message` does not fail to decode. -/
theorem not_failsToDecode_encryptMessage
    {MessageKey : Type} (P : Primitives MessageKey) (serde : JsonCodec) (nonce : Nonce)
    (sender recipient body : String) (secretKey : Key) (publicKey : String) (key : Key) :
  ¬ FailsToDecode "recipient public key"
      (encryptMessage P serde nonce sender recipient body secretKey publicKey (encodeKey key))
    ∧ ¬ FailsToDecode "sender public key"
      (encryptMessage P serde nonce sender recipient body secretKey (encodeKey key) publicKey)
  := by
  have hdecode : ∀ label, decodeFixedKey (encodeKey key) label = .ok key := by
    intro label
    rw [decodeFixedKey_eq_ok_iff, encodeKey, Base64.decode_encode]
  have hlabels : (∃ err ∈ decodingErrors "sender public key",
      err ∈ decodingErrors "recipient public key") → False := by
    decide
  constructor
  · intro h
    rcases failsToDecode_encryptMessage (Or.inr rfl) h with h | h
    · exact hlabels (mem_of_failsToDecode_decodeFixedKey h)
    · rw [hdecode] at h
      exact not_failsToDecode_ok key h
  · intro h
    rcases failsToDecode_encryptMessage (Or.inl rfl) h with h | h
    · rw [hdecode] at h
      exact not_failsToDecode_ok key h
    · obtain ⟨err, hmem, hmem'⟩ := mem_of_failsToDecode_decodeFixedKey h
      exact hlabels ⟨err, hmem', hmem⟩

/-- A text that sets the spare bits passes the check and encodes no key. -/
theorem SetsSpareBits.not_exists_encodeKey {text : String} (h : SetsSpareBits text) :
  isValidPublicKeyText text ∧ ¬ ∃ key, encodeKey key = text
  := by
  obtain ⟨hshape, ch, hch, hodd⟩ := h
  use (isValidPublicKeyText_iff text).mpr hshape
  intro hkey
  exact hodd (((exists_encodeKey_iff text).mp hkey).2 ch hch)

/-- The check and the decoders agree on a text unless it sets the spare bits. -/
theorem keyTextAgrees_iff (text : String) :
  KeyTextAgrees text ↔ ¬ SetsSpareBits text
  := by
  have hvalid := isValidPublicKeyText_iff text
  have hencodes := exists_encodeKey_iff text
  constructor
  · intro hagrees hspare
    obtain ⟨hshape, hkey⟩ := hspare.not_exists_encodeKey
    exact hkey (hagrees.x25519.mp hshape)
  · intro heven
    have hcheck : isValidPublicKeyText text ↔ ∃ key, encodeKey key = text := by
      rw [hvalid, hencodes]
      constructor
      · intro hshape
        use hshape
        intro ch hch
        by_contra hodd
        exact heven ⟨hshape, ch, hch, hodd⟩
      · rintro ⟨hshape, -⟩
        apply hshape
    exact {
      x25519 := hcheck
      ed25519 := hcheck
      decodeFixedKey := fun label => (exists_decodeFixedKey_iff text label).symm
      decodeKey := fun label => (exists_decodeFixedKey_iff text label).symm
      encryptMessage := by
        intro registration haccepted htext MessageKey P serde nonce sender recipient body
          secretKey publicKey
        have hkey := (validateRegistration_eq_ok.mp haccepted).2.2
        rw [htext] at hkey
        obtain ⟨key, rfl⟩ := hcheck.mp hkey
        apply not_failsToDecode_encryptMessage }

/-- The key of the test `registering_key_then_looking_it_up_returns_same_key`. -/
def allB : String :=
  String.ofList (List.replicate 43 'B')

theorem setsSpareBits_allB :
  SetsSpareBits allB
  := by
  have hchars : allB.toList = List.replicate 43 'B' := String.toList_ofList
  unfold SetsSpareBits
  rw [hchars]
  constructor
  · use List.length_replicate
    intro ch hch
    rw [List.eq_of_mem_replicate hch]
    decide
  · use 'B', rfl
    decide

/-- The key of that test has the shape of a key and encodes none. -/
theorem not_keyTextAgrees_allB :
  isValidX25519PublicKeyText allB ∧ (¬ ∃ key, encodeKey key = allB) ∧ ¬ KeyTextAgrees allB
  := by
  obtain ⟨hvalid, hkey⟩ := setsSpareBits_allB.not_exists_encodeKey
  have hnot : ¬ KeyTextAgrees allB := by
    intro hagrees
    exact hkey (hagrees.x25519.mp hvalid)
  exact ⟨hvalid, hkey, hnot⟩

end Phantasma
