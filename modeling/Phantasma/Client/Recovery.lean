import Phantasma.Client.Identity
import Phantasma.Client.SmallOrder

/-!
# Identities after a write that stops

An identity file is written in place, whether it is created or upgraded.  A write that
stops between the first byte and the last one leaves a file that no later call can load,
and, in an upgrade, the only copy of the secret key is lost.  Where the system is not Unix, a file
that is there and is not seen is written over.  `survives_iff` says that these are the only ways in
which a call can end the life of an identity.
-/

namespace Phantasma

/-- What the identity files rely on in the JSON library: what is written is a text and is
read back, and no part of the text of an object is the text of a value. -/
structure IdentityStore.WritesFiles (store : IdentityStore) : Prop where
  inverts : store.pretty.Inverts store.serde
  text : ∀ v bytes, store.pretty.toVec v = some bytes → (Utf8.decode bytes).isSome
  whole : ∀ members bytes, (Json.obj members).plain →
    store.pretty.toVec (.obj members) = some bytes →
      ∀ n < bytes.length, store.serde.fromSlice (bytes.take n) = none

/-! ### Valid identity files -/

/-- What an identity file holds. -/
inductive IdentityFile where
  | absent
  | current (stored : StoredIdentity)
  | legacy (legacy : LegacyStoredIdentity)

/-- `Holds store path file content`: the file is absent, or it holds the identity `content`
and the identity is valid. -/
inductive Holds (store : IdentityStore) (path : String) : Option Bytes → IdentityFile → Prop where
  | absent : Holds store path none .absent
  | current {text value stored} (htext : (Utf8.decode text).isSome)
      (hvalue : store.serde.fromSlice text = some value)
      (hkey : (value.get "identity_public_key").isSome)
      (hstored : StoredIdentity.ofValue value = some stored)
      (hvalid : validateStoredIdentity store path stored = .ok ()) :
      Holds store path (some text) (.current stored)
  | legacy {text value legacy} (htext : (Utf8.decode text).isSome)
      (hvalue : store.serde.fromSlice text = some value)
      (hkey : ¬ (value.get "identity_public_key").isSome)
      (hlegacy : LegacyStoredIdentity.ofValue value = some legacy)
      (hvalid : checkIdentityKeys store path legacy.secretKey legacy.publicKey = .ok ()) :
      Holds store path (some text) (.legacy legacy)

section

variable {store : IdentityStore} {path : String}

theorem decodeKey_eq_ok {encoded label : String} {key : Key} :
  decodeKey encoded label = .ok key ↔ Base64.decode encoded = some key.bytes
  := decodeFixedKey_eq_ok_iff

/-- The identity keys match when the public key is that of the secret key. -/
theorem checkIdentityKeys_eq_ok {identitySecretKey identityPublicKey : String} :
  checkIdentityKeys store path identitySecretKey identityPublicKey = .ok ()
    ↔ ∃ secretKey, Base64.decode identitySecretKey = some secretKey.bytes
      ∧ Base64.decode identityPublicKey = some (store.ed25519.verifyingKey secretKey).bytes
  := by
  simp only [checkIdentityKeys, bind_eq_ok, decodeKey_eq_ok]
  constructor
  · rintro ⟨secretKey, hsecret, publicKey, hpublic, h⟩
    use secretKey, hsecret
    split at h
    · cases h
    · split at h
      · cases h
      · rename_i heq
        rw [not_not.mp heq, hpublic]
  · rintro ⟨secretKey, hsecret, hpublic⟩
    use secretKey, hsecret, store.ed25519.verifyingKey secretKey, hpublic
    rw [store.ed25519.isVerifyingKey_verifyingKey]
    apply if_neg (not_not_intro rfl)

/-- A stored identity is valid when each public key is that of its secret key. -/
theorem validateStoredIdentity_eq_ok {stored : StoredIdentity} :
  validateStoredIdentity store path stored = .ok ()
    ↔ checkIdentityKeys store path stored.identitySecretKey stored.identityPublicKey = .ok ()
      ∧ ∃ key, Base64.decode stored.encryptionSecretKey = some key.bytes
        ∧ Base64.decode stored.encryptionPublicKey = some (store.x25519Base key).bytes
  := by
  simp only [validateStoredIdentity, bind_eq_ok, decodeKey_eq_ok]
  constructor
  · rintro ⟨⟨⟩, hkeys, secretKey, hsecret, publicKey, hpublic, h⟩
    use hkeys, secretKey, hsecret
    split at h
    · cases h
    · rename_i heq
      rw [not_not.mp heq, hpublic]
  · rintro ⟨hkeys, secretKey, hsecret, hpublic⟩
    use (), hkeys, secretKey, hsecret, store.x25519Base secretKey, hpublic
    apply if_neg (not_not_intro rfl)

/-- An identity with a drawn encryption key is valid if its identity keys match. -/
theorem validateStoredIdentity_withEncryption
    {identityPublicKey identitySecretKey : String} {encryptionSecret : Key}
    (hkeys : checkIdentityKeys store path identitySecretKey identityPublicKey = .ok ()) :
  validateStoredIdentity store path
    (.withEncryption store identityPublicKey identitySecretKey encryptionSecret) = .ok ()
  := by
  apply validateStoredIdentity_eq_ok.mpr
  use hkeys, encryptionSecret, Base64.decode_encode _, Base64.decode_encode _

theorem validateStoredIdentity_created (attempt : Attempt) :
  validateStoredIdentity store path (attempt.created store) = .ok ()
  := by
  apply validateStoredIdentity_withEncryption
  apply checkIdentityKeys_eq_ok.mpr
  use attempt.signingKey, Base64.decode_encode _, Base64.decode_encode _

theorem validateStoredIdentity_upgraded
    {legacy : LegacyStoredIdentity} (attempt : Attempt)
    (hkeys : checkIdentityKeys store path legacy.secretKey legacy.publicKey = .ok ()) :
  validateStoredIdentity store path (legacy.upgraded store attempt) = .ok ()
  := validateStoredIdentity_withEncryption hkeys

/-- An identity file holds one identity. -/
theorem holds_unique
    {file : Option Bytes} {stored stored' : StoredIdentity}
    (h : Holds store path file (.current stored)) (h' : Holds store path file (.current stored')) :
  stored = stored'
  := by
  obtain - | ⟨-, hvalue, -, hstored, -⟩ := h
  obtain - | ⟨-, hvalue', -, hstored', -⟩ := h'
  obtain rfl := Option.some.inj (hvalue.symm.trans hvalue')
  apply Option.some.inj (hstored.symm.trans hstored')

/-- A valid identity can be written, and the file then holds it. -/
theorem holds_of_valid
    (hinverts : store.pretty.Inverts store.serde)
    (htext : ∀ v bytes, store.pretty.toVec v = some bytes → (Utf8.decode bytes).isSome)
    {stored : StoredIdentity} (hvalid : validateStoredIdentity store path stored = .ok ()) :
  ∃ json, store.pretty.toVec stored.toJson = some json
    ∧ Holds store path (some json) (.current stored)
  := by
  obtain ⟨json, hwrite, hread⟩ := hinverts _ stored.plain_toJson
  use json, hwrite
  apply Holds.current (htext _ _ hwrite) hread rfl stored.ofValue_toJson hvalid

end

/-! ### What one call does -/

/-- What the call writes on Unix, if it gets as far as to write. -/
def Attempt.rewrite (attempt : Attempt) (store : IdentityStore) :
    IdentityFile → Option StoredIdentity
  | .absent => if attempt.createsDir then some (attempt.created store) else none
  | .current _ => none
  | .legacy legacy =>
      if attempt.seesFile && attempt.reads then some (legacy.upgraded store attempt) else none

/-- Where the system is not Unix, a call writes over a file that is there, if it does not see it. -/
def Attempt.overwrites (attempt : Attempt) (fs : FileSystem) : IdentityFile → Bool
  | .absent => false
  | _ => fs.windows && !attempt.seesFile && attempt.createsDir

/-- What the call writes on the system of the files, if it gets as far as to write. -/
def Attempt.rewriteOn (attempt : Attempt) (fs : FileSystem) (store : IdentityStore)
    (start : IdentityFile) : Option StoredIdentity :=
  if attempt.overwrites fs start then some (attempt.created store)
  else attempt.rewrite store start

/-- No call to the file system fails. -/
structure Attempt.Works (attempt : Attempt) : Prop where
  seesFile : attempt.seesFile
  reads : attempt.reads
  createsDir : attempt.createsDir
  write : attempt.write = .complete

/-- The identity is the stored one. -/
structure LoadedIdentity.IsOf (identity : LoadedIdentity) (stored : StoredIdentity) : Prop where
  identityPublicKey : identity.identityPublicKey = stored.identityPublicKey
  encryptionPublicKey : identity.encryptionPublicKey = stored.encryptionPublicKey
  encryptionSecretKey :
    Base64.decode stored.encryptionSecretKey = some identity.encryptionSecretKey.bytes

/-- The stored identity has the identity keys that the file held, and the encryption keys
too if the file was current. -/
def IdentityFile.Keeps : IdentityFile → StoredIdentity → Prop
  | .absent, _ => True
  | .current old, stored => stored = old
  | .legacy old, stored =>
      stored.identityPublicKey = old.publicKey ∧ stored.identitySecretKey = old.secretKey

section

variable {store : IdentityStore} {path username : String} {file : Option Bytes}
    {start : IdentityFile} {stored : StoredIdentity} {attempt : Attempt} {text json : Bytes}

theorem outcome_readToString
    (hreads : attempt.reads) (htext : (Utf8.decode text).isSome) :
  (readToString attempt path).outcome (some text) = (.ok text, some text)
  := by
  simp only [readToString, Program.outcome_bind, Program.outcome_get, Program.outcome_ofExcept,
    Option.filter_some, hreads, htext, Bool.and_self, if_true, orError]

theorem outcome_writeOrError
    (err : Error) (write : Option Bytes → Bool × Option Bytes) (file : Option Bytes) :
  (writeOrError err write).outcome file
    = (if (write file).1 then .ok () else .error err, (write file).2)
  := by
  simp only [writeOrError, Program.outcome_bind, Program.outcome_get, Program.outcome_modify]
  cases (write file).1 <;> rfl

/-- A current identity is loaded, and the file is left as it is. -/
theorem outcome_loadIdentityFile_of_current
    (hholds : Holds store path (some text) (.current stored)) (hreads : attempt.reads) :
  (loadIdentityFile store attempt path).outcome (some text) = (.ok stored, some text)
  := by
  obtain - | ⟨htext, hvalue, hkey, hstored, hvalid⟩ := hholds
  simp only [loadIdentityFile, Program.outcome_bind, outcome_readToString hreads htext, hvalue,
    hkey, hstored, hvalid, orError, if_true, Program.outcome_ofExcept, Program.outcome_pure]

/-- A legacy identity is upgraded, if the file can be written. -/
theorem outcome_loadIdentityFile_of_legacy
    {legacy : LegacyStoredIdentity} (hholds : Holds store path (some text) (.legacy legacy))
    (hreads : attempt.reads)
    (hjson : store.pretty.toVec (legacy.upgraded store attempt).toJson = some json) :
  (loadIdentityFile store attempt path).outcome (some text)
    = (if (attempt.write.write json (some text)).1 then .ok (legacy.upgraded store attempt)
        else .error (.text s!"failed to update {path}"), (attempt.write.write json (some text)).2)
  := by
  obtain - | - | ⟨htext, hvalue, hkey, hlegacy, hvalid⟩ := hholds
  have hupgraded := validateStoredIdentity_upgraded attempt hvalid
  simp only [loadIdentityFile, upgradeLegacyIdentity, Program.outcome_bind,
    outcome_readToString hreads htext, hvalue, hkey, hlegacy, hvalid, orError, if_false,
    Bool.false_eq_true, Program.outcome_ofExcept, toWire, hjson, outcome_writeOrError]
  cases (attempt.write.write json (some text)).1 with
  | false => rfl
  | true =>
      simp only [if_true, Program.outcome_pure, hupgraded]

/-- A file that is seen is loaded. -/
theorem outcome_loadOrCreateIn_of_seesFile
    (hname : isValidUsername username) (hsees : attempt.seesFile) :
  (loadOrCreateIn store attempt username).outcome (some text)
    = Program.outcome (do
        let stored ← loadIdentityFile store attempt (store.path username)
        let encryptionSecretKey ←
          Program.ofExcept (decodeKey stored.encryptionSecretKey "encryption secret key")
        return {
          identityPublicKey := stored.identityPublicKey
          encryptionPublicKey := stored.encryptionPublicKey
          encryptionSecretKey := encryptionSecretKey
          path := store.path username
          wasCreated := false }) (some text)
  := by
  simp only [loadOrCreateIn, hname, Bool.not_true, Bool.false_eq_true, if_false,
    Program.outcome_bind, Program.outcome_get, hsees, Option.isSome_some, Bool.and_self, if_true]

/-- A call that sees no file creates an identity. -/
theorem outcome_loadOrCreateIn_of_unseen
    (hname : isValidUsername username) (hsees : (attempt.seesFile && file.isSome) = false) :
  (loadOrCreateIn store attempt username).outcome file
    = Program.outcome (do
        let identityDir := joinPath store.root "identities"
        if !attempt.createsDir then
          throw (.text s!"failed to create {identityDir}")
        let json ← Program.ofExcept (toWire store.pretty (attempt.created store).toJson)
        writeOrError (.text s!"failed to write {store.path username}")
          (writeSecretFile attempt.write json)
        return {
          identityPublicKey := (attempt.created store).identityPublicKey
          encryptionPublicKey := (attempt.created store).encryptionPublicKey
          encryptionSecretKey := attempt.encryptionSecret
          path := store.path username
          wasCreated := true }) file
  := by
  simp only [loadOrCreateIn, hname, Bool.not_true, Bool.false_eq_true, if_false,
    Program.outcome_bind, Program.outcome_get, hsees]

/-- A current identity is loaded on working storage. -/
theorem outcome_loadOrCreateIn_of_current
    (hname : isValidUsername username)
    (hholds : Holds store (store.path username) (some text) (.current stored))
    (hsees : attempt.seesFile) (hreads : attempt.reads) :
  ∃ identity, (loadOrCreateIn store attempt username).outcome (some text)
      = (.ok identity, some text) ∧ identity.IsOf stored
  := by
  have hload := outcome_loadIdentityFile_of_current hholds hreads
  obtain - | ⟨-, -, -, -, hvalid⟩ := hholds
  obtain ⟨-, key, hkey, -⟩ := validateStoredIdentity_eq_ok.mp hvalid
  rw [outcome_loadOrCreateIn_of_seesFile hname hsees]
  simp only [Program.outcome_bind, hload, decodeKey_eq_ok.mpr hkey, Program.outcome_ofExcept,
    Program.outcome_pure]
  exact ⟨_, rfl, rfl, rfl, hkey⟩

/-- A legacy identity is loaded, if the upgraded one can be written. -/
theorem outcome_loadOrCreateIn_of_legacy
    (hname : isValidUsername username) {legacy : LegacyStoredIdentity}
    (hholds : Holds store (store.path username) (some text) (.legacy legacy))
    (hsees : attempt.seesFile) (hreads : attempt.reads)
    (hjson : store.pretty.toVec (legacy.upgraded store attempt).toJson = some json) :
  ((loadOrCreateIn store attempt username).outcome (some text)).2
      = (attempt.write.write json (some text)).2
    ∧ (attempt.write = .complete →
      ∃ identity, ((loadOrCreateIn store attempt username).outcome (some text)).1 = .ok identity
        ∧ identity.IsOf (legacy.upgraded store attempt))
  := by
  have hload := outcome_loadIdentityFile_of_legacy hholds hreads hjson
  have hkey : decodeKey (legacy.upgraded store attempt).encryptionSecretKey
      "encryption secret key" = .ok attempt.encryptionSecret :=
    decodeKey_eq_ok.mpr (Base64.decode_encode _)
  rw [outcome_loadOrCreateIn_of_seesFile hname hsees]
  simp only [Program.outcome_bind, hload]
  constructor
  · cases (attempt.write.write json (some text)).1 with
    | false => rfl
    | true => simp only [if_true, hkey, Program.outcome_ofExcept, Program.outcome_pure]
  · intro hwrite
    simp only [hwrite, WriteOutcome.write, if_true, hkey, Program.outcome_ofExcept,
      Program.outcome_pure]
    exact ⟨_, rfl, rfl, rfl, Base64.decode_encode _⟩

/-- An identity is created, if its directory and its file can be. -/
theorem outcome_loadOrCreateIn_of_absent
    (hname : isValidUsername username) (hcreates : attempt.createsDir)
    (hjson : store.pretty.toVec (attempt.created store).toJson = some json) :
  ((loadOrCreateIn store attempt username).outcome none).2 = (attempt.write.write json none).2
    ∧ (attempt.write = .complete →
      ∃ identity, ((loadOrCreateIn store attempt username).outcome none).1 = .ok identity
        ∧ identity.IsOf (attempt.created store))
  := by
  rw [outcome_loadOrCreateIn_of_unseen hname (Bool.and_false _)]
  simp only [hcreates, Bool.not_true, Bool.false_eq_true, if_false, Program.outcome_bind, toWire,
    hjson, Program.outcome_ofExcept, outcome_writeOrError, Option.isSome_none, writeSecretFile]
  constructor
  · cases (attempt.write.write json none).1 <;> rfl
  · intro hwrite
    simp only [hwrite, WriteOutcome.write, if_true, Program.outcome_pure]
    exact ⟨_, rfl, rfl, rfl, Base64.decode_encode _⟩

/-- A call that does not see the file leaves it as it is. -/
theorem outcome_loadOrCreateIn_of_not_seesFile
    (hname : isValidUsername username) (hsees : ¬ attempt.seesFile) :
  ((loadOrCreateIn store attempt username).outcome (some text)).2 = some text
  := by
  have hunseen : (attempt.seesFile && (some text).isSome) = false := by
    rw [Bool.eq_false_iff.mpr hsees, Bool.false_and]
  rw [outcome_loadOrCreateIn_of_unseen hname hunseen]
  cases attempt.createsDir with
  | false => rfl
  | true =>
      cases hjson : store.pretty.toVec (attempt.created store).toJson with
      | none =>
          simp only [Bool.not_true, Bool.false_eq_true, if_false, Program.outcome_bind, toWire,
            hjson, Program.outcome_ofExcept]
      | some json =>
          simp only [Bool.not_true, Bool.false_eq_true, if_false, Program.outcome_bind, toWire,
            hjson, Program.outcome_ofExcept, outcome_writeOrError, writeSecretFile,
            Option.isSome_some, if_true]

/-- A call that sees no value in the file fails, and leaves the file as it is. -/
theorem outcome_loadOrCreateIn_of_unreadable
    (hname : isValidUsername username) (hsees : attempt.seesFile)
    (hunreadable : ¬ attempt.reads ∨ store.serde.fromSlice text = none) :
  (∀ identity, ((loadOrCreateIn store attempt username).outcome (some text)).1 ≠ .ok identity)
    ∧ ((loadOrCreateIn store attempt username).outcome (some text)).2 = some text
  := by
  have hload : ∃ err, (loadIdentityFile store attempt (store.path username)).outcome (some text)
      = (.error err, some text) := by
    simp only [loadIdentityFile, readToString, Program.outcome_bind, Program.outcome_get,
      Program.outcome_ofExcept, Option.filter_some]
    by_cases hread : (attempt.reads && (Utf8.decode text).isSome) = true
    · rw [Bool.and_eq_true] at hread
      rcases hunreadable with hreads | hvalue
      · apply absurd hread.1 hreads
      · simp only [hread, Bool.and_self, if_true, orError, hvalue]
        exact ⟨_, rfl⟩
    · simp only [hread, orError]
      exact ⟨_, rfl⟩
  obtain ⟨err, hload⟩ := hload
  rw [outcome_loadOrCreateIn_of_seesFile hname hsees]
  simp only [Program.outcome_bind, hload, and_true]
  rintro identity ⟨⟩

/-- A call that does not get as far as to write leaves the file as it is. -/
theorem outcome_loadOrCreateIn_of_rewrite_eq_none
    (hname : isValidUsername username) (hholds : Holds store (store.path username) file start)
    (hrewrite : attempt.rewrite store start = none) :
  ((loadOrCreateIn store attempt username).outcome file).2 = file
  := by
  cases file with
  | none =>
      cases hholds
      cases hcreates : attempt.createsDir with
      | true =>
          rw [Attempt.rewrite, hcreates] at hrewrite
          cases hrewrite
      | false =>
          rw [outcome_loadOrCreateIn_of_unseen hname (Bool.and_false _), hcreates]
          rfl
  | some text =>
      by_cases hsees : attempt.seesFile
      · by_cases hreads : attempt.reads
        · cases start with
          | absent => cases hholds
          | current stored =>
              obtain ⟨identity, houtcome, -⟩ :=
                outcome_loadOrCreateIn_of_current hname hholds hsees hreads
              rw [houtcome]
          | legacy legacy =>
              rw [Attempt.rewrite, hsees, hreads] at hrewrite
              cases hrewrite
        · apply (outcome_loadOrCreateIn_of_unreadable hname hsees (.inl hreads)).2
      · apply outcome_loadOrCreateIn_of_not_seesFile hname hsees

/-- A call that gets as far as to write leaves what the write leaves. -/
theorem outcome_loadOrCreateIn_of_rewrite_eq_some
    (hname : isValidUsername username) (hholds : Holds store (store.path username) file start)
    (hrewrite : attempt.rewrite store start = some stored)
    (hjson : store.pretty.toVec stored.toJson = some json) :
  ((loadOrCreateIn store attempt username).outcome file).2 = (attempt.write.write json file).2
    ∧ (attempt.write = .complete →
      ∃ identity, ((loadOrCreateIn store attempt username).outcome file).1 = .ok identity
        ∧ identity.IsOf stored)
    ∧ validateStoredIdentity store (store.path username) stored = .ok () ∧ start.Keeps stored
  := by
  cases start with
  | absent =>
      cases hholds
      obtain ⟨hcreates, ⟨⟩⟩ := Option.ite_none_right_eq_some.mp hrewrite
      obtain ⟨hfile, hresult⟩ := outcome_loadOrCreateIn_of_absent hname hcreates hjson
      exact ⟨hfile, hresult, validateStoredIdentity_created attempt, trivial⟩
  | current old => cases hrewrite
  | legacy legacy =>
      obtain ⟨hreads, ⟨⟩⟩ := Option.ite_none_right_eq_some.mp hrewrite
      rw [Bool.and_eq_true] at hreads
      cases file with
      | none => cases hholds
      | some text =>
          obtain ⟨hfile, hresult⟩ :=
            outcome_loadOrCreateIn_of_legacy hname hholds hreads.1 hreads.2 hjson
          obtain - | - | ⟨-, -, -, -, hvalid⟩ := hholds
          exact ⟨hfile, hresult, validateStoredIdentity_upgraded attempt hvalid, rfl, rfl⟩

/-! ### What it does on all systems -/

variable {fs : FileSystem}

/-- A file that is seen is loaded in one way on all systems, -/
theorem outcome_loadOrCreateOn_of_seesFile
    {attempt : Attempt} (hsees : attempt.seesFile) (text : Bytes) :
  (loadOrCreateOn fs store attempt username).outcome (some text)
    = (loadOrCreateIn store attempt username).outcome (some text)
  := by
  rw [loadOrCreateOn]
  split
  · simp only [loadOrCreateElsewhere, Program.outcome_bind, Program.outcome_get, hsees,
      Option.isSome_some, Bool.and_self, Bool.or_true, if_true]
  · rfl

/-- and where there is no file, an identity is created in one way. -/
theorem outcome_loadOrCreateOn_none (attempt : Attempt) (hname : isValidUsername username) :
  (loadOrCreateOn fs store attempt username).outcome none
    = (loadOrCreateIn store attempt username).outcome none
  := by
  rw [loadOrCreateOn]
  split
  · simp only [loadOrCreateElsewhere, loadOrCreateIn, hname, Program.outcome_bind,
      Program.outcome_get, Option.isSome_none, Bool.and_false, Bool.not_true, Bool.or_self,
      Bool.false_eq_true, if_false]
    cases attempt.createsDir with
    | false => rfl
    | true =>
        simp only [Bool.not_true, Bool.false_eq_true, if_false, Program.outcome_bind,
          Program.outcome_ofExcept, outcome_writeOrError, writeSecretFile]
        cases toWire store.pretty (attempt.created store).toJson <;> rfl
  · rfl

/-- A call that does not create the directory fails in one way. -/
theorem outcome_loadOrCreateOn_of_not_createsDir
    (hname : isValidUsername username) (hcreates : attempt.createsDir = false)
    (hsees : attempt.seesFile = false) :
  (loadOrCreateOn fs store attempt username).outcome file
    = (loadOrCreateIn store attempt username).outcome file
  := by
  have hunseen : (attempt.seesFile && file.isSome) = false := by
    rw [hsees, Bool.false_and]
  rw [loadOrCreateOn]
  split
  · rw [outcome_loadOrCreateIn_of_unseen hname hunseen]
    simp only [loadOrCreateElsewhere, Program.outcome_bind, Program.outcome_get, hname, hunseen,
      hcreates, Bool.not_true, Bool.not_false, Bool.or_self, Bool.false_eq_true, if_false, if_true]
    rfl
  · rfl

/-- A call that does not write over the file is one on Unix. -/
theorem outcome_loadOrCreateOn_of_not_overwrites
    (hname : isValidUsername username) (hholds : Holds store path file start)
    (hover : attempt.overwrites fs start = false) :
  (loadOrCreateOn fs store attempt username).outcome file
    = (loadOrCreateIn store attempt username).outcome file
  := by
  cases file with
  | none => apply outcome_loadOrCreateOn_none attempt hname
  | some text =>
      have hover : (fs.windows && !attempt.seesFile && attempt.createsDir) = false := by
        cases hholds <;> exact hover
      cases hsees : attempt.seesFile with
      | true => apply outcome_loadOrCreateOn_of_seesFile hsees
      | false =>
          cases hcreates : attempt.createsDir with
          | false => apply outcome_loadOrCreateOn_of_not_createsDir hname hcreates hsees
          | true =>
              rw [hsees, hcreates, Bool.not_false, Bool.and_true, Bool.and_true] at hover
              rw [loadOrCreateOn, hover]
              rfl

/-- A call that writes over the file leaves what the write leaves. -/
theorem outcome_loadOrCreateOn_of_overwrites
    (hname : isValidUsername username) (hover : attempt.overwrites fs start)
    (hjson : store.pretty.toVec (attempt.created store).toJson = some json) :
  ((loadOrCreateOn fs store attempt username).outcome file).2 = (attempt.write.write json file).2
  := by
  have hover : (fs.windows && !attempt.seesFile && attempt.createsDir) = true := by
    cases start with
    | absent => cases hover
    | current | legacy => apply hover
  simp only [Bool.and_eq_true, Bool.not_eq_true'] at hover
  obtain ⟨⟨hwindows, hsees⟩, hcreates⟩ := hover
  rw [loadOrCreateOn, if_pos hwindows]
  simp only [loadOrCreateElsewhere, Program.outcome_bind, Program.outcome_get, hname, hsees,
    hcreates, Bool.false_and, Bool.not_true, Bool.or_self, Bool.false_eq_true, if_false, toWire,
    hjson, Program.outcome_ofExcept, outcome_writeOrError]
  cases (attempt.write.write json file).1 <;> rfl

/-- A call that does not get as far as to write leaves the file as it is, on every system. -/
theorem outcome_loadOrCreateOn_of_rewriteOn_eq_none
    (hname : isValidUsername username) (hholds : Holds store (store.path username) file start)
    (hrewrite : attempt.rewriteOn fs store start = none) :
  ((loadOrCreateOn fs store attempt username).outcome file).2 = file
  := by
  rw [Attempt.rewriteOn] at hrewrite
  cases hover : attempt.overwrites fs start with
  | true =>
      rw [hover] at hrewrite
      cases hrewrite
  | false =>
      rw [hover, if_neg Bool.false_ne_true] at hrewrite
      rw [outcome_loadOrCreateOn_of_not_overwrites hname hholds hover]
      apply outcome_loadOrCreateIn_of_rewrite_eq_none hname hholds hrewrite

/-- A call that gets as far as to write leaves what the write leaves, on every system. -/
theorem outcome_loadOrCreateOn_of_rewriteOn_eq_some
    (hname : isValidUsername username) (hholds : Holds store (store.path username) file start)
    (hrewrite : attempt.rewriteOn fs store start = some stored)
    (hjson : store.pretty.toVec stored.toJson = some json) :
  ((loadOrCreateOn fs store attempt username).outcome file).2 = (attempt.write.write json file).2
    ∧ validateStoredIdentity store (store.path username) stored = .ok ()
  := by
  rw [Attempt.rewriteOn] at hrewrite
  cases hover : attempt.overwrites fs start with
  | true =>
      rw [hover, if_pos rfl] at hrewrite
      obtain rfl := Option.some.inj hrewrite
      use outcome_loadOrCreateOn_of_overwrites hname hover hjson
      apply validateStoredIdentity_created
  | false =>
      rw [hover, if_neg Bool.false_ne_true] at hrewrite
      rw [outcome_loadOrCreateOn_of_not_overwrites hname hholds hover]
      obtain ⟨hfile, -, hvalid, -⟩ :=
        outcome_loadOrCreateIn_of_rewrite_eq_some hname hholds hrewrite hjson
      exact ⟨hfile, hvalid⟩

end

/-! ### When an identity survives -/

section

variable {fs : FileSystem} {store : IdentityStore} {username : String} {file : Option Bytes}
    {start : IdentityFile} {stored : StoredIdentity}

/-- On working storage a call loads an identity that the file then holds, and the identity
is the one the file held before. -/
def Loads (fs : FileSystem) (store : IdentityStore) (username : String) (start : IdentityFile)
    (file : Option Bytes) : Prop :=
  ∀ later : Attempt, later.Works → ∃ identity stored file',
    (loadOrCreateOn fs store later username).outcome file = (.ok identity, file')
      ∧ Holds store (store.path username) file' (.current stored) ∧ identity.IsOf stored
      ∧ start.Keeps stored

/-- The call opens the file to write, and stops between the first byte and the last one, or what it
writes is another identity than that of the file. -/
def Attempt.Cuts (first : Attempt) (fs : FileSystem) (store : IdentityStore)
    (start : IdentityFile) : Prop :=
  ∃ stored json, first.rewriteOn fs store start = some stored
    ∧ store.pretty.toVec stored.toJson = some json
    ∧ ((∃ written, first.write = .stopped written ∧ written < json.length)
      ∨ first.write ≠ .notOpened ∧ ¬ start.Keeps stored)

/-- On working storage a call is one on Unix. -/
theorem outcome_loadOrCreateOn_of_works
    (fs : FileSystem) {later : Attempt} (hname : isValidUsername username) (hworks : later.Works) :
  (loadOrCreateOn fs store later username).outcome file
    = (loadOrCreateIn store later username).outcome file
  := by
  cases file with
  | none => apply outcome_loadOrCreateOn_none later hname
  | some text => apply outcome_loadOrCreateOn_of_seesFile hworks.seesFile

/-- A valid identity file is loaded. -/
theorem loads_of_holds
    (hstore : store.WritesFiles) (hname : isValidUsername username)
    (hholds : Holds store (store.path username) file start) :
  Loads fs store username start file
  := by
  intro later hworks
  rw [outcome_loadOrCreateOn_of_works fs hname hworks]
  cases hrewrite : later.rewrite store start with
  | some stored =>
      obtain ⟨json, hjson, -⟩ := hstore.inverts _ stored.plain_toJson
      obtain ⟨hfile, hresult, hvalid, hkeeps⟩ :=
        outcome_loadOrCreateIn_of_rewrite_eq_some hname hholds hrewrite hjson
      obtain ⟨identity, hidentity, hisOf⟩ := hresult hworks.write
      obtain ⟨json', hjson', hholds'⟩ := holds_of_valid hstore.inverts hstore.text hvalid
      obtain rfl := Option.some.inj (hjson.symm.trans hjson')
      rw [hworks.write] at hfile
      use identity, stored, some json, Prod.ext hidentity hfile
  | none =>
      cases start with
      | absent =>
          rw [Attempt.rewrite, hworks.createsDir] at hrewrite
          cases hrewrite
      | current stored =>
          cases file with
          | none => cases hholds
          | some text =>
              obtain ⟨identity, houtcome, hisOf⟩ :=
                outcome_loadOrCreateIn_of_current hname hholds hworks.seesFile hworks.reads
              use identity, stored, some text, houtcome, hholds, hisOf
              rfl
      | legacy legacy =>
          rw [Attempt.rewrite, hworks.seesFile, hworks.reads] at hrewrite
          cases hrewrite

/-- What working storage does. -/
theorem exists_works :
  ∃ later : Attempt, later.Works
  := ⟨⟨true, true, true, .complete, .zero 32, .zero 32⟩, rfl, rfl, rfl, rfl⟩

/-- No identity is loaded from a part of the text of one. -/
theorem not_loads_of_take
    (hstore : store.WritesFiles) (hname : isValidUsername username) {json : Bytes}
    (hjson : store.pretty.toVec stored.toJson = some json) {written : ℕ}
    (hlt : written < json.length) :
  ¬ Loads fs store username start (some (json.take written))
  := by
  intro hloads
  have hunreadable := hstore.whole _ _ stored.plain_toJson hjson written hlt
  obtain ⟨later, hworks⟩ := exists_works
  obtain ⟨identity, _, _, houtcome, -⟩ := hloads later hworks
  obtain ⟨hfails, -⟩ := outcome_loadOrCreateIn_of_unreadable hname hworks.seesFile
    (.inr hunreadable)
  apply hfails identity
  rw [← outcome_loadOrCreateOn_of_works fs hname hworks, houtcome]

/-- From the text of an identity that identity is loaded. -/
theorem loads_iff_keeps
    (hstore : store.WritesFiles) (hname : isValidUsername username)
    (hvalid : validateStoredIdentity store (store.path username) stored = .ok ()) {json : Bytes}
    (hjson : store.pretty.toVec stored.toJson = some json) :
  Loads fs store username start (some json) ↔ start.Keeps stored
  := by
  obtain ⟨json', hjson', hholds⟩ := holds_of_valid hstore.inverts hstore.text hvalid
  obtain rfl := Option.some.inj (hjson.symm.trans hjson')
  have hloads : Loads fs store username (.current stored) (some json) :=
    loads_of_holds hstore hname hholds
  constructor
  · intro hkeeps
    obtain ⟨later, hworks⟩ := exists_works
    obtain ⟨_, _, _, houtcome, hheld, -, hkept⟩ := hkeeps later hworks
    obtain ⟨_, _, _, houtcome', hheld', -, rfl⟩ := hloads later hworks
    obtain ⟨-, rfl⟩ := Prod.mk.inj (houtcome.symm.trans houtcome')
    rwa [← holds_unique hheld hheld']
  · intro hkeeps later hworks
    obtain ⟨identity, stored', file', houtcome, hheld, hisOf, rfl⟩ := hloads later hworks
    use identity, stored', file'

/-- An identity survives a call, however the call ends, just when the call does not stop
inside its write, and does not write another identity over it. -/
theorem survives_iff
    (hstore : store.WritesFiles) (hname : isValidUsername username)
    (hholds : Holds store (store.path username) file start) (fs : FileSystem) (first : Attempt) :
  Loads fs store username start ((loadOrCreateOn fs store first username).outcome file).2
    ↔ ¬ first.Cuts fs store start
  := by
  cases hrewrite : first.rewriteOn fs store start with
  | none =>
      rw [outcome_loadOrCreateOn_of_rewriteOn_eq_none hname hholds hrewrite]
      refine iff_of_true (loads_of_holds hstore hname hholds) ?_
      rintro ⟨stored, json, hsome, -⟩
      cases hrewrite.symm.trans hsome
  | some stored =>
      obtain ⟨json, hjson, -⟩ := hstore.inverts _ stored.plain_toJson
      obtain ⟨hfile, hvalid⟩ :=
        outcome_loadOrCreateOn_of_rewriteOn_eq_some hname hholds hrewrite hjson
      have hcuts : first.Cuts fs store start
          ↔ (∃ written, first.write = .stopped written ∧ written < json.length)
            ∨ first.write ≠ .notOpened ∧ ¬ start.Keeps stored := by
        simp only [Attempt.Cuts, hrewrite, Option.some.injEq, exists_and_left, exists_eq_left',
          hjson]
      have hwhole : Loads fs store username start (some json) ↔ start.Keeps stored :=
        loads_iff_keeps hstore hname hvalid hjson
      rw [hfile, hcuts]
      cases hwrite : first.write with
      | notOpened => simpa [WriteOutcome.write] using loads_of_holds hstore hname hholds
      | complete => simpa [WriteOutcome.write] using hwhole
      | stopped written =>
          by_cases hlt : written < json.length
          · simpa [WriteOutcome.write, hlt] using not_loads_of_take hstore hname hjson hlt
          · rw [WriteOutcome.write, List.take_of_length_le (not_lt.mp hlt)]
            simpa [hlt] using hwhole

end

/-! ### A sample file -/

/-- A store with libraries that are easy to evaluate: a key is its own public key. -/
def sampleStore : IdentityStore where
  ed25519 := ⟨id, fun _ => true, fun _ => rfl⟩
  x25519Base := id
  serde := .strict
  pretty := .strict
  root := "/home/alice/.phantasma"

theorem sampleStore_writesFiles :
  sampleStore.WritesFiles
  where
  inverts := JsonCodec.inverts_strict
  text v bytes hwrite := by
    obtain rfl := Option.some.inj hwrite
    rw [Json.compactBytes, Utf8.decode_flatMap]
    rfl
  whole members bytes hplain hwrite n hlt := by
    obtain rfl := Option.some.inj hwrite
    apply JsonCodec.fromSlice_strict_take hplain hlt

/-- An identity in the format without encryption keys. -/
def sampleLegacy : LegacyStoredIdentity where
  publicKey := zeroText
  secretKey := zeroText

/-- The value of the file of `sampleLegacy`. -/
def sampleLegacyValue : Json :=
  .obj [("public_key", .str zeroText), ("secret_key", .str zeroText)]

/-- A call that can read the file and create the directory, with the keys it draws. -/
def sampleAttempt (write : WriteOutcome) : Attempt where
  seesFile := true
  reads := true
  createsDir := true
  write := write
  signingKey := .zero 32
  encryptionSecret := .zero 32

theorem holds_sampleLegacy :
  Holds sampleStore (sampleStore.path "alice") (some sampleLegacyValue.compactBytes)
    (.legacy sampleLegacy)
  := by
  have hplain : sampleLegacyValue.plain := by decide +kernel
  have hkey : ¬ (sampleLegacyValue.get "identity_public_key").isSome := by decide +kernel
  have hlegacy : LegacyStoredIdentity.ofValue sampleLegacyValue = some sampleLegacy := by
    decide +kernel
  have hzero : Base64.decode zeroText = some (FixedBytes.zero 32).bytes := by decide +kernel
  obtain ⟨bytes, hwrite, hread⟩ := sampleStore_writesFiles.inverts _ hplain
  have htext := sampleStore_writesFiles.text _ _ hwrite
  obtain rfl := Option.some.inj hwrite
  apply Holds.legacy htext hread hkey hlegacy
  apply checkIdentityKeys_eq_ok.mpr ⟨.zero 32, hzero, hzero⟩

/-- A file system of Unix. -/
def sampleUnix : FileSystem where
  windows := false
  ignoresCase := false
  workingDir := []

/-- An identity survives an upgrade that cannot open the file. -/
theorem survives_iff_sample :
  Loads sampleUnix sampleStore "alice" (.legacy sampleLegacy)
    ((loadOrCreateOn sampleUnix sampleStore (sampleAttempt .notOpened) "alice").outcome
      (some sampleLegacyValue.compactBytes)).2
  := by
  have hname : isValidUsername "alice" := by decide +kernel
  apply (survives_iff sampleStore_writesFiles hname holds_sampleLegacy _ _).mpr
  rintro ⟨_, _, -, -, ⟨_, hwrite, -⟩ | ⟨hopened, -⟩⟩
  · cases hwrite
  · exact hopened rfl

/-- An upgrade that stops after the file was truncated is the end of the identity. -/
theorem not_survives :
  ¬ ∀ (fs : FileSystem) (store : IdentityStore) (username : String) (file : Option Bytes)
      (start : IdentityFile) (first : Attempt),
    store.WritesFiles → isValidUsername username → Holds store (store.path username) file start →
      Loads fs store username start ((loadOrCreateOn fs store first username).outcome file).2
  := by
  intro hsurvives
  have hname : isValidUsername "alice" := by decide +kernel
  have hloads := hsurvives sampleUnix sampleStore "alice" _ _ (sampleAttempt (.stopped 0))
    sampleStore_writesFiles hname holds_sampleLegacy
  obtain ⟨json, hjson, hread⟩ := sampleStore_writesFiles.inverts _
    (sampleLegacy.upgraded sampleStore (sampleAttempt (.stopped 0))).plain_toJson
  have hrewrite : (sampleAttempt (.stopped 0)).rewriteOn sampleUnix sampleStore
        (.legacy sampleLegacy)
      = some (sampleLegacy.upgraded sampleStore (sampleAttempt (.stopped 0))) := rfl
  obtain ⟨hfile, -⟩ :=
    outcome_loadOrCreateOn_of_rewriteOn_eq_some hname holds_sampleLegacy hrewrite hjson
  rw [hfile] at hloads
  apply not_loads_of_take sampleStore_writesFiles hname hjson _ hloads
  apply List.length_pos_of_ne_nil
  rintro rfl
  cases hread

end Phantasma
