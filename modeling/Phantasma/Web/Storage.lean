import Phantasma.Base.TransitionSystem
import Phantasma.Shared.JsonText
import Phantasma.Web.SignIn

/-!
# What a browser keeps of its users

The tabs of a browser share one local storage, which outlives the pages in them.  It holds
an item with the identity of each user, which is made by the first sign-in that gets so far
and read by every later one, an item with the contacts of each user, and two items with
what was typed last.  None of them is ever put in the place of another.

So a user registers the same keys in every tab and after every reload, and a later sign-in
always comes back to these keys (`sameKeys_of_reaches`).
-/

namespace Phantasma.Web

/-! ### The keys of the local storage -/

/-- The key of the item with the identity of a user. -/
def identityStorageKey (username : String) : String :=
  s!"phantasma.web.identity.{username}"

theorem identityStorageKey_eq (username : String) :
  identityStorageKey username = "phantasma.web.identity." ++ username
  := congrArg₂ (· ++ ·) rfl rfl

theorem contactStorageKey_eq (username : String) :
  contactStorageKey username = "phantasma.web.contacts." ++ username
  := congrArg₂ (· ++ ·) rfl rfl

theorem contactStorageKey_injective :
  Function.Injective contactStorageKey
  := by
  intro username username' heq
  rw [contactStorageKey_eq, contactStorageKey_eq] at heq
  apply (String.append_right_inj _).mp heq

/-- The first character behind the prefix of a key, which tells the kinds of items apart. -/
def itemKind (key : String) : Option Char :=
  key.toList[14]?

theorem itemKind_append {start : String} (hlength : 14 < start.toList.length) (rest : String) :
  itemKind (start ++ rest) = itemKind start
  := by
  rw [itemKind, String.toList_append, List.getElem?_append_left hlength, itemKind]

@[simp]
theorem itemKind_identityStorageKey (username : String) :
  itemKind (identityStorageKey username) = some 'i'
  := by
  rw [identityStorageKey_eq, itemKind_append (by decide +kernel)]
  decide +kernel

@[simp]
theorem itemKind_contactStorageKey (username : String) :
  itemKind (contactStorageKey username) = some 'c'
  := by
  rw [contactStorageKey_eq, itemKind_append (by decide +kernel)]
  decide +kernel

@[simp]
theorem itemKind_lastUsername :
  itemKind "phantasma.web.lastUsername" = some 'l'
  := by
  decide +kernel

@[simp]
theorem itemKind_relayUrl :
  itemKind "phantasma.web.relayUrl" = some 'r'
  := by
  decide +kernel

theorem ne_of_itemKind {key key' : String} (hne : itemKind key ≠ itemKind key') :
  key ≠ key'
  := by
  rintro rfl
  apply hne rfl

theorem identityStorageKey_ne_contactStorageKey (username username' : String) :
  identityStorageKey username ≠ contactStorageKey username'
  := by
  apply ne_of_itemKind
  rw [itemKind_identityStorageKey, itemKind_contactStorageKey]
  decide

/-- An item that can be read is there once it is set. -/
theorem getItem_update_self
    {js : JsonCodec} (hempty : js.fromSlice [] = none) {text : Bytes} {v : Json}
    (hread : js.fromSlice text = some v) (storage : Storage) (key : String) :
  getItem (Function.update storage key (some text)) key = some text
  := by
  have hne : text ≠ [] := by
    rintro rfl
    rw [hempty] at hread
    cases hread
  rw [getItem, Function.update_self, Option.filter_some, List.isEmpty_eq_false_iff.mpr hne]
  rfl

/-! ### Identities -/

section

variable (js : JsonCodec)

/-- The identity that `loadOrCreateIdentity` reads from an item. -/
def readIdentity (text : Bytes) : Except Thrown SessionIdentity := do
  let parsed : Value := some (← orException (js.fromSlice text))
  let identityPublicKey ← parsed.property "identityPublicKey"
  let identitySecretKey ← fromBase64 (← parsed.property "identitySecretKey")
  let encryptionPublicKey ← parsed.property "encryptionPublicKey"
  let encryptionSecretKey ← fromBase64 (← parsed.property "encryptionSecretKey")
  return ⟨identityPublicKey, identitySecretKey, encryptionPublicKey, encryptionSecretKey⟩

/-- The identity that `loadOrCreateIdentity` makes of the key pairs that are drawn. -/
def StartCall.newIdentity (call : StartCall) : SessionIdentity where
  identityPublicKey := .ofString (toBase64 call.identityPair.1)
  identitySecretKey := call.identityPair.2
  encryptionPublicKey := .ofString (toBase64 call.encryptionPair.1)
  encryptionSecretKey := call.encryptionPair.2

/-- The value that `loadOrCreateIdentity` writes for it. -/
def StartCall.identityJson (call : StartCall) : Json :=
  .obj [
    ("identityPublicKey", .str (toBase64 call.identityPair.1)),
    ("identitySecretKey", .str (toBase64 call.identityPair.2)),
    ("encryptionPublicKey", .str (toBase64 call.encryptionPair.1)),
    ("encryptionSecretKey", .str (toBase64 call.encryptionPair.2))]

/-- The item of the user is there and holds this identity. -/
def HoldsIdentity (storage : Storage) (username : String) (identity : SessionIdentity) : Prop :=
  ∃ text, getItem storage (identityStorageKey username) = some text
    ∧ readIdentity js text = .ok identity

variable {js} {call : StartCall} {storage storage' : Storage} {username : String}
    {identity identity' : SessionIdentity} {text : Bytes}

theorem HoldsIdentity.unique
    (h : HoldsIdentity js storage username identity)
    (h' : HoldsIdentity js storage username identity') :
  identity = identity'
  := by
  obtain ⟨text, hitem, hread⟩ := h
  obtain ⟨text', hitem', hread'⟩ := h'
  rw [hitem] at hitem'
  cases hitem'
  apply Except.ok.inj (hread.symm.trans hread')

theorem plain_identityJson (call : StartCall) :
  call.identityJson.plain
  := by
  simp [StartCall.identityJson, Json.plain, Json.plainMembers]

/-- What is read from the item of a new identity is the identity. -/
theorem readIdentity_of_identityJson (hread : js.fromSlice text = some call.identityJson) :
  readIdentity js text = .ok call.newIdentity
  := by
  have hsecret : ∀ bytes, fromBase64 (.ofString (toBase64 bytes)) = .ok bytes := by
    intro bytes
    apply fromBase64_ofString.mpr (Base64.decode_encode bytes)
  have hproperties : Value.property "identityPublicKey" (some call.identityJson)
        = .ok call.newIdentity.identityPublicKey
      ∧ Value.property "identitySecretKey" (some call.identityJson)
        = .ok (.ofString (toBase64 call.newIdentity.identitySecretKey))
      ∧ Value.property "encryptionPublicKey" (some call.identityJson)
        = .ok call.newIdentity.encryptionPublicKey
      ∧ Value.property "encryptionSecretKey" (some call.identityJson)
        = .ok (.ofString (toBase64 call.newIdentity.encryptionSecretKey)) := ⟨rfl, rfl, rfl, rfl⟩
  obtain ⟨hpublic, hprivate, hpublic', hprivate'⟩ := hproperties
  simp only [readIdentity, hread, orException, ok_bind, hpublic, hprivate, hpublic', hprivate',
    hsecret]
  rfl

/-- An item that is there is read, and left as it is. -/
theorem loadOrCreateIdentity_of_item
    (hitem : getItem storage (identityStorageKey username) = some text) :
  (loadOrCreateIdentity js call username).outcome storage = (readIdentity js text, storage)
  := by
  unfold identityStorageKey at hitem
  simp only [loadOrCreateIdentity, Program.outcome_bind, Program.outcome_get, hitem,
    Program.outcome_ofExcept, readIdentity]
  rcases orException (js.fromSlice text) with _ | parsed
  · rfl
  dsimp only [ok_bind]
  rcases Value.property "identityPublicKey" (some parsed) with _ | identityPublicKey
  · rfl
  dsimp only [ok_bind]
  rcases Value.property "identitySecretKey" (some parsed) with _ | identitySecretText
  · rfl
  dsimp only [ok_bind]
  rcases fromBase64 identitySecretText with _ | identitySecretKey
  · rfl
  dsimp only [ok_bind]
  rcases Value.property "encryptionPublicKey" (some parsed) with _ | encryptionPublicKey
  · rfl
  dsimp only [ok_bind]
  rcases Value.property "encryptionSecretKey" (some parsed) with _ | encryptionSecretText
  · rfl
  dsimp only [ok_bind]
  rcases fromBase64 encryptionSecretText with _ | encryptionSecretKey <;> rfl

/-- An identity that is made is stored before it is used. -/
theorem loadOrCreateIdentity_of_no_item
    (hitem : getItem storage (identityStorageKey username) = none) :
  (loadOrCreateIdentity js call username).outcome storage = match js.toVec call.identityJson with
    | some text =>
        if call.storageTakes (identityStorageKey username) then
          (.ok call.newIdentity, Function.update storage (identityStorageKey username) (some text))
        else (.error .exception, storage)
    | none => (.error .exception, storage)
  := by
  unfold identityStorageKey at hitem ⊢
  unfold StartCall.identityJson
  simp only [loadOrCreateIdentity, Program.outcome_bind, Program.outcome_get, hitem,
    Program.outcome_ofExcept]
  cases js.toVec _ with
  | none => rfl
  | some text =>
      dsimp only [orException]
      rw [setItem]
      cases call.storageTakes _ <;> rfl

/-- The identity that a call works with is the one of the item, afterwards and later. -/
theorem holdsIdentity_of_loadOrCreateIdentity
    (hjs : js.Inverts js) (hempty : js.fromSlice [] = none)
    (h : (loadOrCreateIdentity js call username).outcome storage = (.ok identity, storage')) :
  HoldsIdentity js storage' username identity
  := by
  cases hitem : getItem storage (identityStorageKey username) with
  | some text =>
      rw [loadOrCreateIdentity_of_item hitem] at h
      obtain ⟨hread, rfl⟩ := Prod.mk.inj h
      use text
  | none =>
      rw [loadOrCreateIdentity_of_no_item hitem] at h
      obtain ⟨text, hwrite, hread⟩ := hjs _ (plain_identityJson call)
      rw [hwrite] at h
      dsimp only at h
      split at h
      · cases h
        use text, getItem_update_self hempty hread storage _
        apply readIdentity_of_identityJson hread
      · cases h

/-- `loadOrCreateIdentity` sets no item but the one of the user, and only if that is not there. -/
theorem loadOrCreateIdentity_item
    {result : Except Thrown SessionIdentity}
    (h : (loadOrCreateIdentity js call username).outcome storage = (result, storage'))
    {key : String} (hkey : key ≠ identityStorageKey username ∨ getItem storage key ≠ none) :
  storage' key = storage key
  := by
  cases hitem : getItem storage (identityStorageKey username) with
  | some text =>
      rw [loadOrCreateIdentity_of_item hitem] at h
      obtain ⟨-, rfl⟩ := Prod.mk.inj h
      rfl
  | none =>
      have hne : key ≠ identityStorageKey username := by
        rintro rfl
        apply hkey.elim (fun hne => hne rfl) fun hthere => hthere hitem
      rw [loadOrCreateIdentity_of_no_item hitem] at h
      split at h
      · split at h
        · obtain ⟨-, rfl⟩ := Prod.mk.inj h
          apply Function.update_of_ne hne
        · obtain ⟨-, rfl⟩ := Prod.mk.inj h
          rfl
      · obtain ⟨-, rfl⟩ := Prod.mk.inj h
        rfl

end

/-! ### Items that stay -/

section

variable {js : JsonCodec} {call : StartCall} {username : String} {key : String}
    {item : Option Bytes}

/-- A program over the local storage keeps on the session what it keeps of the storage. -/
theorem keeps_onStorage
    {α : Type} {x : Program Storage Thrown α} {I : Storage → Prop} (h : Program.Keeps I x) :
  Program.Keeps (fun s : Session => I s.storage) (onStorage x)
  where
  outcome s hs := by
    rw [outcome_onStorage]
    apply h.outcome s.storage hs

theorem keeps_setItem {key' : String} {text : Bytes} (hne : key ≠ key') :
  Program.Keeps (fun storage : Storage => storage key = item) (setItem call key' text)
  := by
  rw [setItem]
  apply Program.Keeps.unless
  apply Program.keeps_modify
  intro storage hstorage
  rw [Function.update_of_ne hne, hstorage]

theorem keeps_loadOrCreateIdentity
    (hitem : itemKind key ≠ some 'i' ∨ item.filter (fun text => !text.isEmpty) ≠ none) :
  Program.Keeps (fun storage : Storage => storage key = item)
    (loadOrCreateIdentity js call username)
  where
  outcome storage hstorage := by
    rcases h : (loadOrCreateIdentity js call username).outcome storage with ⟨result, storage'⟩
    change storage' key = item
    rw [loadOrCreateIdentity_item h, hstorage]
    rcases hitem with hkind | hthere
    · left
      apply ne_of_itemKind
      rw [itemKind_identityStorageKey]
      apply hkind
    · right
      rw [getItem, hstorage]
      apply hthere

/-- A registration changes no item. -/
theorem keeps_registerPublicKey (I : Storage → Prop) :
  Program.Keeps (fun s : Session => I s.storage) (registerPublicKey js call)
  := by
  rw [registerPublicKey]
  apply Program.Keeps.bind Program.keeps_get
  intro s
  split
  · apply Program.Keeps.bind
    · apply Program.keeps_modify
      intro s hs
      apply hs
    intro _
    apply Program.Keeps.bind (Program.keeps_ofExcept _)
    intro _
    apply Program.keeps_pure
  · apply Program.keeps_throw

/-- A new socket changes no item. -/
theorem keeps_connectWebSocket (I : Storage → Prop) (constructs : Bool) :
  Program.Keeps (fun s : Session => I s.storage) (connectWebSocket constructs)
  := by
  rw [connectWebSocket]
  apply Program.Keeps.bind Program.keeps_get
  intro s
  split
  · apply Program.Keeps.unless
    apply Program.keeps_modify
    intro s hs
    apply hs
  · apply Program.keeps_throw

/-- A call of `start` changes no item but what was typed last, and an identity that is not
there. -/
theorem keeps_start
    {browser : Browser} (hlast : itemKind key ≠ some 'l') (hrelay : itemKind key ≠ some 'r')
    (hitem : itemKind key ≠ some 'i' ∨ item.filter (fun text => !text.isEmpty) ≠ none) :
  Program.Keeps (fun s : Session => s.storage key = item) (start js call browser)
  := by
  rw [start]
  apply Program.Keeps.unless
  apply Program.Keeps.bind (Program.keeps_ofExcept _)
  intro relay
  refine Program.Keeps.bind (Program.keeps_modify fun s hs => hs) fun _ => ?_
  refine Program.Keeps.bind (Program.keeps_modify fun s hs => hs) fun _ => ?_
  apply Program.Keeps.bind (keeps_onStorage (keeps_loadOrCreateIdentity hitem))
  intro identity
  refine Program.Keeps.bind (Program.keeps_modify fun s hs => hs) fun _ => ?_
  apply Program.Keeps.bind Program.keeps_get
  intro s
  apply Program.Keeps.bind (Program.keeps_ofExcept _)
  intro contacts
  refine Program.Keeps.bind (Program.keeps_modify fun s hs => hs) fun _ => ?_
  refine Program.Keeps.bind (Program.keeps_modify fun s hs => hs) fun _ => ?_
  rw [completeStart]
  apply Program.Keeps.bind
  · apply keeps_onStorage (keeps_setItem _)
    apply ne_of_itemKind
    rw [itemKind_lastUsername]
    apply hlast
  intro _
  apply Program.Keeps.bind
  · apply keeps_onStorage (keeps_setItem _)
    apply ne_of_itemKind
    rw [itemKind_relayUrl]
    apply hrelay
  intro _
  apply Program.Keeps.bind (keeps_registerPublicKey fun storage => storage key = item)
  intro _
  apply Program.Keeps.unless
  apply Program.Keeps.bind (keeps_connectWebSocket (fun storage => storage key = item) _)
  intro _
  apply Program.keeps_modify
  intro s hs
  apply hs

end

/-! ### Registrations -/

/-- The body of the registration of a user with this identity. -/
def registrationBody (username : String) (identity : SessionIdentity) : List (String × Value) :=
  [("username", .ofString username), ("identity_public_key", identity.identityPublicKey),
    ("encryption_public_key", identity.encryptionPublicKey)]

/-- Every registration has the keys of the item of its user. -/
def RegistersStored (js : JsonCodec) (storage : Storage)
    (registrations : List (String × List (String × Value))) : Prop :=
  ∀ registration ∈ registrations, ∃ username identity,
    registration.2 = registrationBody username identity ∧ HoldsIdentity js storage username identity

/-- The session is ready for the registration of the user with this identity. -/
structure Ready (js : JsonCodec) (username : String) (identity : SessionIdentity) (s : Session) :
    Prop where
  registers : RegistersStored js s.storage s.registrations
  holds : HoldsIdentity js s.storage username identity
  username : s.username = username
  identity : s.identity = some identity

section

variable {js : JsonCodec} {call : StartCall} {username : String} {identity : SessionIdentity}

/-- An identity is held by whatever has the same item. -/
theorem HoldsIdentity.of_item
    {storage storage' : Storage} (h : HoldsIdentity js storage username identity)
    (hitem : ∀ text, getItem storage (identityStorageKey username) = some text →
      storage' (identityStorageKey username) = storage (identityStorageKey username)) :
  HoldsIdentity js storage' username identity
  := by
  obtain ⟨text, hthere, hread⟩ := h
  refine ⟨text, ?_, hread⟩
  rw [getItem, hitem text hthere, ← getItem, hthere]

/-- What was registered has the keys of an item that stays. -/
theorem RegistersStored.of_items
    {storage storage' : Storage} {registrations : List (String × List (String × Value))}
    (h : RegistersStored js storage registrations)
    (hitems : ∀ user text, getItem storage (identityStorageKey user) = some text →
      storage' (identityStorageKey user) = storage (identityStorageKey user)) :
  RegistersStored js storage' registrations
  := by
  intro registration hmem
  obtain ⟨user, identity, hbody, hholds⟩ := h registration hmem
  use user, identity, hbody
  apply hholds.of_item (hitems user)

theorem keeps_ready_setItem {key text} (hkind : itemKind key ≠ some 'i') :
  Program.Keeps (Ready js username identity) (onStorage (setItem call key text))
  where
  outcome s hs := by
    have hsame : ∀ user, ((setItem call key text).outcome s.storage).2 (identityStorageKey user)
        = s.storage (identityStorageKey user) := by
      intro user
      apply (keeps_setItem _).outcome s.storage rfl
      apply ne_of_itemKind
      rw [itemKind_identityStorageKey]
      apply Ne.symm hkind
    rw [outcome_onStorage]
    constructor
    · apply hs.registers.of_items
      intro user text _
      apply hsame user
    · apply hs.holds.of_item
      intro text _
      apply hsame username
    · apply hs.username
    · apply hs.identity

/-- The keys that are registered are those of the item. -/
theorem keeps_ready_registerPublicKey :
  Program.Keeps (Ready js username identity) (registerPublicKey js call)
  where
  outcome s hs := by
    simp only [registerPublicKey, Program.outcome_bind, Program.outcome_get, hs.identity]
    cases s.relay with
    | none => apply hs
    | some relay =>
        simp only [Program.outcome_bind, Program.outcome_modify, Program.outcome_ofExcept]
        have hready : Ready js username identity { s with
            registrations := s.registrations
              ++ [(s!"{relay.httpBaseUrl}/users", registrationBody s.username identity)] } := by
          refine ⟨?_, hs.holds, hs.username, hs.identity⟩
          intro registration hmem
          rcases List.mem_append.mp hmem with hold | hnew
          · apply hs.registers registration hold
          · obtain rfl := List.mem_singleton.mp hnew
            refine ⟨username, identity, ?_, hs.holds⟩
            rw [hs.username]
        cases fetchJson js call.answer with
        | error err => apply hready
        | ok value => apply hready

theorem keeps_ready_completeStart (user relayUrl : String) :
  Program.Keeps (Ready js username identity) (completeStart js call user relayUrl)
  := by
  rw [completeStart]
  apply Program.Keeps.bind
  · apply keeps_ready_setItem
    rw [itemKind_lastUsername]
    decide
  intro _
  apply Program.Keeps.bind
  · apply keeps_ready_setItem
    rw [itemKind_relayUrl]
    decide
  intro _
  apply Program.Keeps.bind keeps_ready_registerPublicKey
  intro _
  apply Program.Keeps.unless
  apply Program.Keeps.bind
  · rw [connectWebSocket]
    apply Program.Keeps.bind Program.keeps_get
    intro s
    split
    · apply Program.Keeps.unless
      apply Program.keeps_modify
      intro s hs
      exact ⟨hs.registers, hs.holds, hs.username, hs.identity⟩
    · apply Program.keeps_throw
  intro _
  apply Program.keeps_modify
  intro s hs
  exact ⟨hs.registers, hs.holds, hs.username, hs.identity⟩

/-- The identity of the user is there once it is loaded, and no other identity is changed. -/
theorem ensures_loadOrCreateIdentity
    (hjs : js.Inverts js) (hempty : js.fromSlice [] = none) (user : String) :
  Program.Ensures (fun s => RegistersStored js s.storage s.registrations ∧ s.username = user)
    (onStorage (loadOrCreateIdentity js call user))
    (fun identity s => RegistersStored js s.storage s.registrations
      ∧ HoldsIdentity js s.storage user identity ∧ s.username = user)
    (fun s => RegistersStored js s.storage s.registrations)
  := by
  have hitems : ∀ {s : Session} {other : String} {text : Bytes},
      getItem s.storage (identityStorageKey other) = some text →
      ((loadOrCreateIdentity js call user).outcome s.storage).2 (identityStorageKey other)
        = s.storage (identityStorageKey other) := by
    intro s other text hthere
    apply loadOrCreateIdentity_item rfl
    right
    rw [hthere]
    apply Option.some_ne_none
  constructor
  · rintro s identity s' ⟨hs, husername⟩ h
    rw [outcome_onStorage] at h
    obtain ⟨hresult, rfl⟩ := Prod.mk.inj h
    refine ⟨hs.of_items fun _ _ => hitems, ?_, husername⟩
    apply holdsIdentity_of_loadOrCreateIdentity hjs hempty
    rw [← hresult]
  · rintro s err s' ⟨hs, -⟩ h
    rw [outcome_onStorage] at h
    obtain ⟨-, rfl⟩ := Prod.mk.inj h
    exact hs.of_items fun _ _ => hitems

/-- A call of `start` that returns has loaded the identity of its user. -/
theorem ensures_ready_start
    (hjs : js.Inverts js) (hempty : js.fromSlice [] = none) (browser : Browser)
    (call : StartCall) :
  Program.Ensures (fun s => RegistersStored js s.storage s.registrations) (start js call browser)
    (fun _ s => ∃ identity, Ready js call.user identity s)
    (fun s => RegistersStored js s.storage s.registrations)
  := by
  rw [start]
  apply Program.Ensures.unless
  · intro s hs
    apply hs
  apply Program.Ensures.bind (Program.ensures_ofExcept fun s hs => hs)
  intro relay
  apply Program.Ensures.bind (J := fun _ s => RegistersStored js s.storage s.registrations)
  · apply Program.ensures_modify
    rintro s ⟨-, hs⟩
    apply hs
  intro _
  apply Program.Ensures.bind
    (J := fun _ s => RegistersStored js s.storage s.registrations ∧ s.username = call.user)
  · apply Program.ensures_modify
    intro s hs
    exact ⟨hs, rfl⟩
  intro _
  apply Program.Ensures.bind (J := fun identity s => RegistersStored js s.storage s.registrations
    ∧ HoldsIdentity js s.storage call.user identity ∧ s.username = call.user)
  · apply ensures_loadOrCreateIdentity hjs hempty
  intro identity
  apply Program.Ensures.bind (J := fun _ => Ready js call.user identity)
  · apply Program.ensures_modify
    rintro s ⟨hs, hholds, husername⟩
    exact ⟨hs, hholds, husername, rfl⟩
  intro _
  apply Program.Keeps.ensures (I := Ready js call.user identity)
  · apply Program.Keeps.bind Program.keeps_get
    intro s
    apply Program.Keeps.bind (Program.keeps_ofExcept _)
    intro contacts
    apply Program.Keeps.bind
    · apply Program.keeps_modify
      intro s hs
      exact ⟨hs.registers, hs.holds, hs.username, hs.identity⟩
    intro _
    apply Program.Keeps.bind
    · apply Program.keeps_modify
      intro s hs
      exact ⟨hs.registers, hs.holds, hs.username, hs.identity⟩
    intro _
    apply keeps_ready_completeStart
  · intro s hs
    use identity
  · intro s hs
    apply hs.registers

/-- A call of `start` registers the keys of the item of its user. -/
theorem keeps_registersStored_start
    (hjs : js.Inverts js) (hempty : js.fromSlice [] = none) (browser : Browser)
    (call : StartCall) :
  Program.Keeps (fun s => RegistersStored js s.storage s.registrations) (start js call browser)
  := by
  apply Program.Ensures.keeps
  apply (ensures_ready_start hjs hempty browser call).mono
  rintro _ s ⟨identity, hready⟩
  apply hready.registers

end

/-! ### The tabs of a browser -/

/-- `state.contacts.set` and `saveContacts`, for a contact that was looked up. -/
def addAndSave (js : JsonCodec) (takes : Bool) (contact : Json) : SessionTask Unit := do
  let name ← Program.ofExcept (Value.property "username" (some contact))
  modify fun s => { s with contacts := setContact s.contacts name contact }
  let s ← get
  let text ← Program.ofExcept (orException (js.toVec (.arr (s.contacts.map Prod.snd))))
  if !takes then
    throw .exception
  modify fun s =>
    { s with storage := Function.update s.storage (contactStorageKey s.username) (some text) }

/-- A contact that is added changes no identity. -/
theorem keeps_registersStored_addAndSave
    {js : JsonCodec} (takes : Bool) (contact : Json) :
  Program.Keeps (fun s : Session => RegistersStored js s.storage s.registrations)
    (addAndSave js takes contact)
  := by
  rw [addAndSave]
  apply Program.Keeps.bind (Program.keeps_ofExcept _)
  intro name
  refine Program.Keeps.bind (Program.keeps_modify fun s hs => hs) fun _ => ?_
  apply Program.Keeps.bind Program.keeps_get
  intro s
  apply Program.Keeps.bind (Program.keeps_ofExcept _)
  intro text
  apply Program.Keeps.unless
  apply Program.keeps_modify
  intro s hs
  apply hs.of_items
  intro user text _
  dsimp only
  apply Function.update_of_ne (identityStorageKey_ne_contactStorageKey _ _)

/-- A new socket changes nothing that was registered. -/
theorem keeps_registersStored_connectWebSocket {js : JsonCodec} (constructs : Bool) :
  Program.Keeps (fun s : Session => RegistersStored js s.storage s.registrations)
    (connectWebSocket constructs)
  := by
  rw [connectWebSocket]
  apply Program.Keeps.bind Program.keeps_get
  intro s
  split
  · apply Program.Keeps.unless
    apply Program.keeps_modify
    intro s hs
    apply hs
  · apply Program.keeps_throw

/-- The local storage, the pages in the tabs, and the registrations that were requested.  The
storage and the registrations of a page count only while its tab takes its turn.  A call of `start`
is one turn, from its first read of the storage to its last write: the browser does not lock the
storage between tabs, and two calls that are interleaved are not covered. -/
structure Tabs where
  storage : Storage
  page : ℕ → Session
  registrations : List (String × List (String × Value))

namespace Tabs

/-- What can happen in the tabs. -/
inductive Action where
  /-- A call of `start` in a tab. -/
  | start (tab : ℕ) (call : StartCall)
  /-- The page in a tab is loaded anew. -/
  | reload (tab : ℕ)
  /-- A reconnect timer fires in a tab. -/
  | reconnect (tab : ℕ) (constructs : Bool)
  /-- A contact that was looked up is added in a tab. -/
  | addContact (tab : ℕ) (takes : Bool) (contact : Json)

/-- The session of a tab that takes its turn. -/
def session (tabs : Tabs) (tab : ℕ) : Session :=
  { tabs.page tab with storage := tabs.storage, registrations := tabs.registrations }

/-- The tabs after the turn of one of them. -/
def moveTo (tabs : Tabs) (tab : ℕ) (s : Session) : Tabs where
  storage := s.storage
  page := Function.update tabs.page tab s
  registrations := s.registrations

@[simp]
theorem storage_moveTo (tabs : Tabs) (tab : ℕ) (s : Session) :
  (tabs.moveTo tab s).storage = s.storage
  := rfl

@[simp]
theorem registrations_moveTo (tabs : Tabs) (tab : ℕ) (s : Session) :
  (tabs.moveTo tab s).registrations = s.registrations
  := rfl

variable (browser : Browser) (js : JsonCodec)

/-- A step of the tabs. -/
def step (tabs : Tabs) : Action → Option Tabs
  | .start tab call =>
      some (tabs.moveTo tab ((Web.start js call browser).outcome (tabs.session tab)).2)
  | .reload tab =>
      let page := (SignInPage.loaded tabs.storage).session
      some { tabs with page := Function.update tabs.page tab page }
  | .reconnect tab constructs =>
      some (tabs.moveTo tab ((connectWebSocket constructs).outcome (tabs.session tab)).2)
  | .addContact tab takes contact =>
      some (tabs.moveTo tab ((Web.addAndSave js takes contact).outcome (tabs.session tab)).2)

variable {browser : Browser} {js : JsonCodec} {tabs tabs' : Tabs}

open TransitionSystem

/-- A step keeps the keys of what was registered. -/
theorem registersStored_step
    (hjs : js.Inverts js) (hempty : js.fromSlice [] = none) {a : Action}
    (hstep : step browser js tabs a = some tabs')
    (h : RegistersStored js tabs.storage tabs.registrations) :
  RegistersStored js tabs'.storage tabs'.registrations
  := by
  cases a with
  | start tab call =>
      rw [step, Option.some.injEq] at hstep
      subst hstep
      rw [storage_moveTo, registrations_moveTo]
      apply (keeps_registersStored_start hjs hempty browser call).outcome (tabs.session tab) h
  | reload tab =>
      rw [step, Option.some.injEq] at hstep
      subst hstep
      apply h
  | reconnect tab constructs =>
      rw [step, Option.some.injEq] at hstep
      subst hstep
      rw [storage_moveTo, registrations_moveTo]
      apply (keeps_registersStored_connectWebSocket constructs).outcome (tabs.session tab) h
  | addContact tab takes contact =>
      rw [step, Option.some.injEq] at hstep
      subst hstep
      rw [storage_moveTo, registrations_moveTo]
      apply (keeps_registersStored_addAndSave takes contact).outcome (tabs.session tab) h

/-- Whatever happens in the tabs of a browser, where each sign-in is one step, all registrations
of a user that were requested have the same keys, and every later sign-in of the user loads the
identity with these keys. -/
theorem sameKeys_of_reaches
    (hjs : js.Inverts js) (hempty : js.fromSlice [] = none) {tabs₀ : Tabs}
    (h₀ : tabs₀.registrations = []) (h : Reaches (step browser js) anyAction tabs₀ tabs) :
  ∀ registration ∈ tabs.registrations, ∃ username identity,
    registration.2 = registrationBody username identity
      ∧ (∀ registration' ∈ tabs.registrations,
        ("username", Value.ofString username) ∈ registration'.2 → registration'.2 = registration.2)
      ∧ ∀ call : StartCall,
        (loadOrCreateIdentity js call username).outcome tabs.storage = (.ok identity, tabs.storage)
  := by
  have hregisters : RegistersStored js tabs.storage tabs.registrations := by
    apply h.invariant (I := fun tabs => RegistersStored js tabs.storage tabs.registrations)
    · intro t a t' _ hstep ht
      apply registersStored_step hjs hempty hstep ht
    · rw [h₀]
      rintro _ ⟨⟩
  intro registration hmem
  obtain ⟨username, identity, hbody, hholds⟩ := hregisters registration hmem
  use username, identity, hbody
  constructor
  · intro registration' hmem' hname
    obtain ⟨username', identity', hbody', hholds'⟩ := hregisters registration' hmem'
    rw [hbody', registrationBody] at hname
    rcases List.mem_cons.mp hname with hsame | hother
    · obtain rfl := Json.str.inj (Option.some.inj (congrArg Prod.snd hsame))
      rw [hbody', hbody, hholds.unique hholds']
    · simp at hother
  · intro call
    obtain ⟨text, hitem, hread⟩ := hholds
    rw [loadOrCreateIdentity_of_item hitem, hread]

/-- The first visit of the page. -/
def firstVisit : Tabs where
  storage _ := none
  page _ := (SignInPage.loaded fun _ => none).session
  registrations := []

/-- `alice` signs in, reloads the page, and signs in again in another tab, where other key pairs
are drawn. -/
def visits : List Action :=
  [.start 0 (SignInPage.sampleCall "alice" SignInPage.accepted), .reload 0,
    .start 1 { SignInPage.sampleCall "alice" SignInPage.accepted with
      identityPair := (List.replicate 32 5, List.replicate 64 6)
      encryptionPair := (List.replicate 32 7, List.replicate 32 8) }]

/-- Both sign-ins of `alice` register the keys that were drawn first. -/
theorem sameKeys_of_reaches_sample :
  ∃ tabs, run (step SignInPage.sampleBrowser .compact) firstVisit visits = some tabs
    ∧ tabs.registrations.length = 2
    ∧ ∀ registration ∈ tabs.registrations, ∃ username identity,
      registration.2 = registrationBody username identity
        ∧ (∀ registration' ∈ tabs.registrations,
          ("username", Value.ofString username) ∈ registration'.2 →
            registration'.2 = registration.2)
        ∧ ∀ call : StartCall, (loadOrCreateIdentity .compact call username).outcome tabs.storage
          = (.ok identity, tabs.storage)
  := by
  have hlength : ∀ tabs ∈ run (step SignInPage.sampleBrowser .compact) firstVisit visits,
      tabs.registrations.length = 2 := by
    decide +kernel
  obtain ⟨tabs, htabs⟩ : ∃ tabs,
      run (step SignInPage.sampleBrowser .compact) firstVisit visits = some tabs := ⟨_, rfl⟩
  use tabs, htabs, hlength tabs htabs
  have hempty : JsonCodec.compact.fromSlice [] = none := rfl
  have h₀ : firstVisit.registrations = [] := rfl
  apply sameKeys_of_reaches JsonCodec.inverts_compact hempty h₀ (reaches_any_of_run htabs)

end Tabs

end Phantasma.Web
