import Phantasma.Client.Recovery

/-!
# Loading an identity again and again

On working storage the first call that succeeds leaves a current identity file, whichever way
it takes: it has found one, created one, or upgraded one.  From then on every call finds that
file and returns what the first one has returned (`loadOrCreateIn_stable`).
-/

namespace Phantasma

/-- Calls of `load_or_create_in` one after another: their results, and the file after them. -/
def loadAll (store : IdentityStore) (username : String) :
    List Attempt → Option Bytes → List (Except Error LoadedIdentity) × Option Bytes
  | [], file => ([], file)
  | attempt :: attempts, file =>
      let (result, file') := (loadOrCreateIn store attempt username).outcome file
      let (results, file'') := loadAll store username attempts file'
      (result :: results, file'')

section

variable {store : IdentityStore} {username path : String} {attempt : Attempt} {text : Bytes}
    {stored : StoredIdentity}

/-- The identity that is loaded from a file that holds `stored`. -/
def StoredIdentity.loaded (store : IdentityStore) (username : String) (stored : StoredIdentity)
    (encryptionSecretKey : Key) : LoadedIdentity where
  identityPublicKey := stored.identityPublicKey
  encryptionPublicKey := stored.encryptionPublicKey
  encryptionSecretKey := encryptionSecretKey
  path := store.path username
  wasCreated := false

/-- A call that finds a text with an identity key: the text holds a current identity, which
is loaded, or the call fails. -/
theorem loadIdentityFile_current_cases
    {path : String} {text : Bytes} {value : Json} (hreads : attempt.reads)
    (hutf8 : (Utf8.decode text).isSome) (hvalue : store.serde.fromSlice text = some value)
    (hkey : (value.get "identity_public_key").isSome) :
  (∃ stored, Holds store path (some text) (.current stored)
      ∧ (loadIdentityFile store attempt path).outcome (some text) = (.ok stored, some text))
    ∨ ∃ err, (loadIdentityFile store attempt path).outcome (some text) = (.error err, some text)
  := by
  cases hstored : StoredIdentity.ofValue value with
  | none =>
      right
      simp only [loadIdentityFile, Program.outcome_bind, outcome_readToString hreads hutf8,
        Program.outcome_ofExcept, hvalue, orError, hkey, if_true, hstored]
      exact ⟨_, rfl⟩
  | some stored =>
      cases hvalid : validateStoredIdentity store path stored with
      | error err =>
          right
          simp only [loadIdentityFile, Program.outcome_bind, outcome_readToString hreads hutf8,
            Program.outcome_ofExcept, hvalue, orError, hkey, if_true, hstored, hvalid]
          exact ⟨_, rfl⟩
      | ok _ =>
          left
          have hholds : Holds store path (some text) (.current stored) :=
            .current hutf8 hvalue hkey hstored hvalid
          use stored, hholds, outcome_loadIdentityFile_of_current hholds hreads

/-- A call that finds a text without an identity key: the text holds a legacy identity, which
is upgraded, or the call fails. -/
theorem loadIdentityFile_legacy_cases
    (hinverts : store.pretty.Inverts store.serde)
    (htext : ∀ v bytes, store.pretty.toVec v = some bytes → (Utf8.decode bytes).isSome)
    {path : String} {text : Bytes} {value : Json} (hworks : attempt.Works)
    (hutf8 : (Utf8.decode text).isSome) (hvalue : store.serde.fromSlice text = some value)
    (hkey : ¬ (value.get "identity_public_key").isSome) :
  (∃ legacy json, Holds store path (some text) (.legacy legacy)
      ∧ Holds store path (some json) (.current (legacy.upgraded store attempt))
      ∧ (loadIdentityFile store attempt path).outcome (some text)
        = (.ok (legacy.upgraded store attempt), some json))
    ∨ ∃ err, (loadIdentityFile store attempt path).outcome (some text) = (.error err, some text)
  := by
  have hreads := hworks.reads
  cases hlegacy : LegacyStoredIdentity.ofValue value with
  | none =>
      right
      simp only [loadIdentityFile, upgradeLegacyIdentity, Program.outcome_bind,
        outcome_readToString hreads hutf8, Program.outcome_ofExcept, hvalue, orError, hkey,
        Bool.false_eq_true, if_false, hlegacy]
      exact ⟨_, rfl⟩
  | some legacy =>
      cases hvalid : checkIdentityKeys store path legacy.secretKey legacy.publicKey with
      | error err =>
          right
          simp only [loadIdentityFile, upgradeLegacyIdentity, Program.outcome_bind,
            outcome_readToString hreads hutf8, Program.outcome_ofExcept, hvalue, orError, hkey,
            Bool.false_eq_true, if_false, hlegacy, hvalid]
          exact ⟨_, rfl⟩
      | ok _ =>
          left
          have hholds : Holds store path (some text) (.legacy legacy) :=
            .legacy hutf8 hvalue hkey hlegacy hvalid
          obtain ⟨json, hjson, hupgraded⟩ := holds_of_valid hinverts htext
            (validateStoredIdentity_upgraded attempt hvalid)
          have hload := outcome_loadIdentityFile_of_legacy hholds hreads hjson
          rw [hworks.write] at hload
          use legacy, json, hholds, hupgraded, hload

/-- On working storage the file is loaded as it is, upgraded, or refused and left. -/
theorem loadIdentityFile_cases
    (hinverts : store.pretty.Inverts store.serde)
    (htext : ∀ v bytes, store.pretty.toVec v = some bytes → (Utf8.decode bytes).isSome)
    (hworks : attempt.Works) (path : String) (text : Bytes) :
  (∃ stored, Holds store path (some text) (.current stored)
      ∧ (loadIdentityFile store attempt path).outcome (some text) = (.ok stored, some text))
    ∨ (∃ legacy json, Holds store path (some text) (.legacy legacy)
      ∧ Holds store path (some json) (.current (legacy.upgraded store attempt))
      ∧ (loadIdentityFile store attempt path).outcome (some text)
        = (.ok (legacy.upgraded store attempt), some json))
    ∨ ∃ err, (loadIdentityFile store attempt path).outcome (some text) = (.error err, some text)
  := by
  have hreads := hworks.reads
  cases hutf8 : (Utf8.decode text).isSome with
  | false =>
      right
      right
      simp only [loadIdentityFile, readToString, Program.outcome_bind, Program.outcome_get,
        Program.outcome_ofExcept, Option.filter_some, hutf8, Bool.and_false, orError]
      exact ⟨_, rfl⟩
  | true =>
      cases hvalue : store.serde.fromSlice text with
      | none =>
          right
          right
          simp only [loadIdentityFile, Program.outcome_bind, outcome_readToString hreads hutf8,
            Program.outcome_ofExcept, hvalue, orError]
          exact ⟨_, rfl⟩
      | some value =>
          by_cases hkey : (value.get "identity_public_key").isSome
          · rcases loadIdentityFile_current_cases hreads hutf8 hvalue hkey with hloads | hfails
            · left
              apply hloads
            · right
              right
              apply hfails
          · right
            apply loadIdentityFile_legacy_cases hinverts htext hworks hutf8 hvalue hkey

/-- The result of a call that finds a file: that of loading it, with its secret key. -/
theorem outcome_loadOrCreateIn_of_loaded
    (hname : isValidUsername username) (hsees : attempt.seesFile) {file' : Option Bytes}
    (hload : (loadIdentityFile store attempt (store.path username)).outcome (some text)
      = (.ok stored, file')) {key : Key}
    (hkey : Base64.decode stored.encryptionSecretKey = some key.bytes) :
  (loadOrCreateIn store attempt username).outcome (some text)
    = (.ok (stored.loaded store username key), file')
  := by
  rw [outcome_loadOrCreateIn_of_seesFile hname hsees]
  simp only [Program.outcome_bind, hload, decodeKey_eq_ok.mpr hkey, Program.outcome_ofExcept,
    Program.outcome_pure, StoredIdentity.loaded]

theorem outcome_loadOrCreateIn_of_fails
    (hname : isValidUsername username) (hsees : attempt.seesFile) {err : Error}
    (hload : (loadIdentityFile store attempt (store.path username)).outcome (some text)
      = (.error err, some text)) :
  (loadOrCreateIn store attempt username).outcome (some text) = (.error err, some text)
  := by
  rw [outcome_loadOrCreateIn_of_seesFile hname hsees]
  simp only [Program.outcome_bind, hload]

/-- A valid identity has a secret key, whose public key it has too. -/
theorem exists_secretKey
    {file : Option Bytes} (hholds : Holds store path file (.current stored)) :
  ∃ key, Base64.decode stored.encryptionSecretKey = some key.bytes
    ∧ stored.encryptionPublicKey = encodeKey (store.x25519Base key)
  := by
  obtain - | ⟨-, -, -, -, hvalid⟩ := hholds
  obtain ⟨-, key, hkey, hpublic⟩ := validateStoredIdentity_eq_ok.mp hvalid
  use key, hkey
  exact (Base64.encode_of_decode hpublic).symm

/-- The file of a current identity stays, and every call returns what is stored in it. -/
theorem loadAll_of_current
    {file : Option Bytes} (hname : isValidUsername username)
    (hholds : Holds store (store.path username) file (.current stored)) {key : Key}
    (hkey : Base64.decode stored.encryptionSecretKey = some key.bytes)
    {attempts : List Attempt} (hworks : ∀ attempt ∈ attempts, attempt.Works) :
  loadAll store username attempts file
    = (attempts.map fun _ => .ok (stored.loaded store username key), file)
  := by
  obtain ⟨text, rfl⟩ : ∃ text, file = some text := by
    cases hholds
    exact ⟨_, rfl⟩
  induction attempts with
  | nil => rfl
  | cons attempt attempts ih =>
      rw [List.forall_mem_cons] at hworks
      have hload := outcome_loadIdentityFile_of_current hholds hworks.1.reads
      have houtcome := outcome_loadOrCreateIn_of_loaded hname hworks.1.seesFile hload hkey
      rw [loadAll, houtcome]
      dsimp only
      rw [ih hworks.2, List.map_cons]

/-- The identity of the format without encryption keys that the file holds, if it is one. -/
def legacyIn (store : IdentityStore) (file : Option Bytes) : Option LegacyStoredIdentity := do
  let text ← file
  let value ← store.serde.fromSlice text
  if (value.get "identity_public_key").isSome then none
  else LegacyStoredIdentity.ofValue value

theorem legacyIn_of_holds_current
    {file : Option Bytes} (hholds : Holds store path file (.current stored)) :
  legacyIn store file = none
  := by
  obtain - | ⟨-, hvalue, hkey, -, -⟩ := hholds
  rw [legacyIn, Option.bind_eq_bind, Option.bind_some, hvalue, Option.bind_eq_bind,
    Option.bind_some, if_pos hkey]

theorem legacyIn_of_holds_legacy
    {file : Option Bytes} {legacy : LegacyStoredIdentity}
    (hholds : Holds store path file (.legacy legacy)) :
  legacyIn store file = some legacy
  := by
  obtain - | - | ⟨-, hvalue, hkey, hlegacy, -⟩ := hholds
  rw [legacyIn, Option.bind_eq_bind, Option.bind_some, hvalue, Option.bind_eq_bind,
    Option.bind_some, if_neg hkey, hlegacy]

/-- `Settled store username file identity file'`: the file `file'` is a current one, `identity`
is the identity in it, and if `file` was a legacy file, it has the identity keys of that. -/
structure Settled (store : IdentityStore) (username : String) (file : Option Bytes)
    (identity : LoadedIdentity) (stored : StoredIdentity) (file' : Option Bytes) : Prop where
  holds : Holds store (store.path username) file' (.current stored)
  secretKey :
    Base64.decode stored.encryptionSecretKey = some identity.encryptionSecretKey.bytes
  identity : { identity with wasCreated := false }
    = stored.loaded store username identity.encryptionSecretKey
  legacy : ∀ legacy, legacyIn store file = some legacy →
    stored.identityPublicKey = legacy.publicKey ∧ stored.identitySecretKey = legacy.secretKey

/-- On working storage a call settles the file, or fails and leaves the file that is there. -/
theorem loadOrCreateIn_cases
    (hinverts : store.pretty.Inverts store.serde)
    (htext : ∀ v bytes, store.pretty.toVec v = some bytes → (Utf8.decode bytes).isSome)
    (hname : isValidUsername username) (hworks : attempt.Works) (file : Option Bytes) :
  (∃ identity stored file', (loadOrCreateIn store attempt username).outcome file
        = (.ok identity, file') ∧ Settled store username file identity stored file')
    ∨ ∃ err, (loadOrCreateIn store attempt username).outcome file = (.error err, file)
  := by
  cases file with
  | none =>
      left
      have hvalid : validateStoredIdentity store (store.path username) (attempt.created store)
          = .ok () := validateStoredIdentity_created attempt
      obtain ⟨json, hjson, hholds⟩ := holds_of_valid hinverts htext hvalid
      rw [outcome_loadOrCreateIn_of_unseen hname (Bool.and_false _)]
      simp only [hworks.createsDir, Bool.not_true, Bool.false_eq_true, if_false,
        Program.outcome_bind, toWire, hjson, Program.outcome_ofExcept, outcome_writeOrError,
        Option.isSome_none, writeSecretFile, hworks.write, WriteOutcome.write, if_true,
        Program.outcome_pure]
      refine ⟨_, attempt.created store, some json, rfl, hholds, Base64.decode_encode _, rfl, ?_⟩
      rintro legacy ⟨⟩
  | some text =>
      rcases loadIdentityFile_cases hinverts htext hworks (store.path username) text with
        ⟨stored, hholds, hload⟩ | ⟨legacy, json, hlegacy, hholds, hload⟩ | ⟨err, hload⟩
      · left
        obtain ⟨key, hkey, -⟩ := exists_secretKey hholds
        use stored.loaded store username key, stored, some text,
          outcome_loadOrCreateIn_of_loaded hname hworks.seesFile hload hkey
        constructor
        · apply hholds
        · apply hkey
        · rfl
        · rw [legacyIn_of_holds_current hholds]
          rintro legacy ⟨⟩
      · left
        obtain ⟨key, hkey, -⟩ := exists_secretKey hholds
        use (legacy.upgraded store attempt).loaded store username key,
          legacy.upgraded store attempt, some json,
          outcome_loadOrCreateIn_of_loaded hname hworks.seesFile hload hkey
        constructor
        · apply hholds
        · apply hkey
        · rfl
        · rw [legacyIn_of_holds_legacy hlegacy]
          rintro legacy ⟨⟩
          exact ⟨rfl, rfl⟩
      · right
        use err
        apply outcome_loadOrCreateIn_of_fails hname hworks.seesFile hload

/-- On working storage, once a call has loaded an identity, every later call loads the same
identity and leaves the file as it is; the encryption keys are a pair, and a legacy file has
kept its identity keys.  A call that fails leaves the file that is there. -/
theorem loadOrCreateIn_stable
    (hinverts : store.pretty.Inverts store.serde)
    (htext : ∀ v bytes, store.pretty.toVec v = some bytes → (Utf8.decode bytes).isSome)
    (hname : isValidUsername username) (hworks : attempt.Works) {file file' : Option Bytes}
    {result : Except Error LoadedIdentity}
    (hload : (loadOrCreateIn store attempt username).outcome file = (result, file')) :
  (∀ identity, result = .ok identity →
      (∀ attempts : List Attempt, (∀ later ∈ attempts, later.Works) →
        loadAll store username attempts file'
          = (attempts.map fun _ => .ok { identity with wasCreated := false }, file'))
      ∧ identity.encryptionPublicKey = encodeKey (store.x25519Base identity.encryptionSecretKey)
      ∧ ∀ legacy, legacyIn store file = some legacy →
        ∃ stored, Holds store (store.path username) file' (.current stored)
          ∧ stored.identityPublicKey = legacy.publicKey
          ∧ stored.identitySecretKey = legacy.secretKey
          ∧ identity.identityPublicKey = legacy.publicKey)
    ∧ ∀ err, result = .error err → file' = file
  := by
  rcases loadOrCreateIn_cases hinverts htext hname hworks file with
    ⟨identity, stored, settled, hrun, hsettled⟩ | ⟨err, hrun⟩
  · rw [hrun] at hload
    cases hload
    constructor
    · rintro _ ⟨⟩
      have hidentity := hsettled.identity
      constructor
      · intro attempts hlater
        rw [hidentity]
        apply loadAll_of_current hname hsettled.holds hsettled.secretKey hlater
      constructor
      · obtain ⟨key, hkey, hpublic⟩ := exists_secretKey hsettled.holds
        rw [hsettled.secretKey, Option.some.injEq] at hkey
        rw [FixedBytes.ext_bytes hkey, ← hpublic]
        exact congrArg (fun i : LoadedIdentity => i.encryptionPublicKey) hidentity
      · intro legacy hlegacy
        obtain ⟨hpublic, hsecret⟩ := hsettled.legacy legacy hlegacy
        have hloaded : identity.identityPublicKey = stored.identityPublicKey :=
          congrArg LoadedIdentity.identityPublicKey hidentity
        exact ⟨stored, hsettled.holds, hpublic, hsecret, hloaded.trans hpublic⟩
    · rintro err ⟨⟩
  · rw [hrun] at hload
    cases hload
    constructor
    · rintro identity ⟨⟩
    · rintro err _
      rfl

end

/-- An identity that was upgraded is loaded again and again. -/
theorem loadOrCreateIn_stable_sample :
  ∃ identity file', (loadOrCreateIn sampleStore (sampleAttempt .complete) "alice").outcome
      (some sampleLegacyValue.compactBytes) = (.ok identity, file')
    ∧ ∀ attempts : List Attempt, (∀ later ∈ attempts, later.Works) →
      loadAll sampleStore "alice" attempts file'
        = (attempts.map fun _ => .ok { identity with wasCreated := false }, file')
  := by
  have hname : isValidUsername "alice" := by decide +kernel
  have hworks : (sampleAttempt .complete).Works := ⟨rfl, rfl, rfl, rfl⟩
  have hloads : Loads sampleUnix sampleStore "alice" (.legacy sampleLegacy)
      (some sampleLegacyValue.compactBytes) :=
    loads_of_holds sampleStore_writesFiles hname holds_sampleLegacy
  obtain ⟨identity, _, file', hrun, -⟩ := hloads _ hworks
  use identity, file', hrun
  exact ((loadOrCreateIn_stable sampleStore_writesFiles.inverts sampleStore_writesFiles.text hname
    hworks hrun).1 identity rfl).1

end Phantasma
