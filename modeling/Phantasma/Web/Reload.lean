import Phantasma.Shared.JsonArrayText
import Phantasma.Web.Storage

/-!
# Reloading the page

What a user has in a session is in the local storage too: the identity since it was made,
and the contacts since the last one was added.  A session in which no sign-in goes wrong
half-way and in which the local storage takes the contacts can be left at any time: after
a reload, the next sign-in of the user brings back the identity and the contacts as they
were, whatever comes of its registration (`restored_of_reaches`).
-/

namespace Phantasma.Web

open TransitionSystem

/-! ### Contacts in the local storage -/

theorem Value.eq_of_strictEq {a b : Value} (h : a.strictEq b) :
  a = b
  := by
  rw [Value.strictEq.eq_def] at h
  split at h <;> simp_all

/-- Every contact is under the username it carries, no two are under the same one, and they are
plain values. -/
structure Keyed (contacts : List (Value × Json)) : Prop where
  carried : ∀ contact ∈ contacts, Value.property "username" (some contact.2) = .ok contact.1
  apart : contacts.Pairwise fun contact contact' => ¬ contact.1.strictEq contact'.1
  plain : ∀ contact ∈ contacts, contact.2.plain

theorem keyed_nil :
  Keyed []
  := by
  constructor
  · rintro _ ⟨⟩
  · apply List.Pairwise.nil
  · rintro _ ⟨⟩

/-- A contact that is set is the one under its username. -/
theorem Keyed.setContact
    {contacts : List (Value × Json)} (h : Keyed contacts) {name : Value} {contact : Json}
    (hname : Value.property "username" (some contact) = .ok name) (hplain : contact.plain) :
  Keyed (setContact contacts name contact)
  := by
  rw [Web.setContact]
  split
  · constructor
    · intro entry hentry
      obtain ⟨old, hold, rfl⟩ := List.mem_map.mp hentry
      split
      · rename_i hsame
        rw [Value.eq_of_strictEq hsame, hname]
      · apply h.carried old hold
    · apply List.pairwise_map.mpr
      apply h.apart.imp
      intro old old' hapart
      have hkey : ∀ entry : Value × Json,
          (if entry.1.strictEq name then (entry.1, contact) else entry).1 = entry.1 := by
        intro entry
        split <;> rfl
      rw [hkey, hkey]
      apply hapart
    · intro entry hentry
      obtain ⟨old, hold, rfl⟩ := List.mem_map.mp hentry
      split
      · apply hplain
      · apply h.plain old hold
  · rename_i hnone
    rw [List.any_eq_true] at hnone
    constructor
    · intro entry hentry
      rcases List.mem_append.mp hentry with hold | hnew
      · apply h.carried entry hold
      · obtain rfl := List.mem_singleton.mp hnew
        apply hname
    · apply List.pairwise_append.mpr
      refine ⟨h.apart, List.pairwise_singleton _ _, ?_⟩
      intro old hold new hnew hsame
      obtain rfl := List.mem_singleton.mp hnew
      apply hnone ⟨old, hold, hsame⟩
    · intro entry hentry
      rcases List.mem_append.mp hentry with hold | hnew
      · apply h.plain entry hold
      · obtain rfl := List.mem_singleton.mp hnew
        apply hplain

/-- Contacts that are apart are set one after the other. -/
theorem foldl_setContact
    {contacts earlier : List (Value × Json)}
    (hapart : (earlier ++ contacts).Pairwise fun contact contact' =>
      ¬ contact.1.strictEq contact'.1) :
  contacts.foldl (fun contacts entry => setContact contacts entry.1 entry.2) earlier
    = earlier ++ contacts
  := by
  induction contacts generalizing earlier with
  | nil => rw [List.foldl_nil, List.append_nil]
  | cons contact contacts ih =>
      have hnew : setContact earlier contact.1 contact.2 = earlier ++ [contact] := by
        rw [setContact, if_neg]
        rw [List.any_eq_true]
        rintro ⟨old, hold, hsame⟩
        apply (List.pairwise_append.mp hapart).2.2 old hold contact List.mem_cons_self hsame
      rw [List.foldl_cons, hnew, ih]
      · rw [List.append_assoc, List.singleton_append]
      · rw [List.append_assoc, List.singleton_append]
        apply hapart

section

variable {js : JsonCodec} {storage storage' : Storage} {username : String}
    {contacts : List (Value × Json)}

/-- What is loaded are the contacts whose values are in the item. -/
theorem loadContacts_of_item
    {raw : Bytes} (hitem : getItem storage (contactStorageKey username) = some raw)
    (hread : js.fromSlice raw = some (.arr (contacts.map Prod.snd))) (h : Keyed contacts) :
  loadContacts js username storage = .ok contacts
  := by
  have hnamed : (contacts.map Prod.snd).mapM (m := Except Thrown) (fun entry => do
      return (← Value.property "username" (some entry), entry)) = .ok contacts := by
    have hcarried := h.carried
    clear hread h
    induction contacts with
    | nil => rfl
    | cons contact contacts ih =>
        obtain ⟨hhead, htail⟩ := List.forall_mem_cons.mp hcarried
        rw [List.map_cons, List.mapM_cons, ih htail, hhead]
        rfl
  have hfold : contacts.foldl (fun contacts entry => setContact contacts entry.1 entry.2) []
      = [] ++ contacts := foldl_setContact h.apart
  rw [loadContacts, hitem]
  simp only [hread, orException, ok_bind, hnamed]
  rw [hfold]
  rfl

/-- What is loaded depends on the item only. -/
theorem loadContacts_congr
    (hitem : storage' (contactStorageKey username) = storage (contactStorageKey username)) :
  loadContacts js username storage' = loadContacts js username storage
  := by
  rw [loadContacts, loadContacts, getItem, hitem, ← getItem]

end

/-! ### A session that can be left -/

namespace Session

/-- What is in `state` is in the local storage, once the user has started; and the contacts of
every user can be loaded. -/
structure Remembers (js : JsonCodec) (s : Session) : Prop where
  registers : RegistersStored js s.storage s.registrations
  identity : s.started → ∃ identity, s.identity = some identity
    ∧ HoldsIdentity js s.storage s.username identity
  contacts : s.started → loadContacts js s.username s.storage = .ok s.contacts
  loads : ∀ username, ∃ contacts, loadContacts js username s.storage = .ok contacts
    ∧ Keyed contacts

/-- What can happen in a session. -/
inductive Action where
  /-- A call of `start`. -/
  | start (call : StartCall)
  /-- The page is loaded anew. -/
  | reload
  /-- A reconnect timer fires. -/
  | reconnect (constructs : Bool)
  /-- A contact that was looked up is added. -/
  | addContact (takes : Bool) (contact : Json)

variable (browser : Browser) (js : JsonCodec)

/-- A step of the session. -/
def step (s : Session) : Action → Option Session
  | .start call => some ((Web.start js call browser).outcome s).2
  | .reload => some (SignInPage.loaded s.storage).session
  | .reconnect constructs =>
      if s.socket.isSome then some ((connectWebSocket constructs).outcome s).2 else none
  | .addContact takes contact =>
      if s.started then some ((Web.addAndSave js takes contact).outcome s).2 else none

/-- No sign-in goes wrong half-way, and the local storage takes the contacts that are added, which
are plain values. -/
def Smooth (s : Session) : Action → Prop
  | .start call => StartsSafely browser js s call
  | .addContact takes contact => takes ∧ contact.plain
  | _ => True

variable {browser : Browser} {js : JsonCodec} {call : StartCall} {s s' : Session}
    {result : Except Thrown Unit}

/-- A call of `start` leaves the contacts in the local storage as they are. -/
theorem loadContacts_start
    (hstart : (Web.start js call browser).outcome s = (result, s')) (username : String) :
  loadContacts js username s'.storage = loadContacts js username s.storage
  := by
  apply loadContacts_congr
  have hkeeps : Program.Keeps (fun t : Session =>
      t.storage (contactStorageKey username) = s.storage (contactStorageKey username))
      (Web.start js call browser) := by
    apply keeps_start
    · rw [itemKind_contactStorageKey]
      decide
    · rw [itemKind_contactStorageKey]
      decide
    · left
      rw [itemKind_contactStorageKey]
      decide
  have hkept := hkeeps.outcome s rfl
  rw [hstart] at hkept
  apply hkept

/-- A call of `start` leaves the identities that are there. -/
theorem holdsIdentity_start
    (hstart : (Web.start js call browser).outcome s = (result, s')) {username : String}
    {identity : SessionIdentity} (h : HoldsIdentity js s.storage username identity) :
  HoldsIdentity js s'.storage username identity
  := by
  apply h.of_item
  intro text hthere
  have hkeeps : Program.Keeps (fun t : Session =>
      t.storage (identityStorageKey username) = s.storage (identityStorageKey username))
      (Web.start js call browser) := by
    apply keeps_start
    · rw [itemKind_identityStorageKey]
      decide
    · rw [itemKind_identityStorageKey]
      decide
    · right
      rw [← getItem, hthere]
      apply Option.some_ne_none
  have hkept := hkeeps.outcome s rfl
  rw [hstart] at hkept
  apply hkept

/-- The contacts that a call of `start` loads are those of the local storage it leaves. -/
theorem loadContacts_start_eq
    (hstart : (Web.start js call browser).outcome s = (result, s')) {identity : SessionIdentity}
    {storage : Storage}
    (hidentity : (loadOrCreateIdentity js call call.user).outcome s.storage
      = (.ok identity, storage)) :
  loadContacts js call.user storage = loadContacts js call.user s'.storage
  := by
  rw [loadContacts_start hstart]
  apply loadContacts_congr
  apply loadOrCreateIdentity_item hidentity
  left
  apply (identityStorageKey_ne_contactStorageKey _ _).symm

/-- A call of `start` that is safe leaves a session that can be left. -/
theorem Remembers.start
    (hjs : js.Inverts js) (hempty : js.fromSlice [] = none) (h : Remembers js s)
    (hsafe : StartsSafely browser js s call)
    (hstart : (Web.start js call browser).outcome s = (result, s')) :
  Remembers js s'
  := by
  have hregisters : RegistersStored js s'.storage s'.registrations := by
    have hkept := (keeps_registersStored_start hjs hempty browser call).outcome s h.registers
    rw [hstart] at hkept
    apply hkept
  have hloads : ∀ username, ∃ contacts, loadContacts js username s'.storage = .ok contacts
      ∧ Keyed contacts := by
    intro username
    rw [loadContacts_start hstart]
    apply h.loads
  rw [StartsSafely] at hsafe
  have hcases := starts hstart
  cases hcases with
  | refused => apply h
  | noIdentity hpass hidentity =>
      rw [hpass.forall_iff, hidentity] at hsafe
      refine ⟨hregisters, ?_, ?_, hloads⟩
      · intro hstarted
        obtain ⟨identity, hsome, hholds⟩ := h.identity hstarted
        refine ⟨identity, hsome, ?_⟩
        have hkept := holdsIdentity_start hstart hholds
        rw [hsafe.2] at hkept
        apply hkept
      · intro hstarted
        have hsame := h.contacts hstarted
        rw [hsafe.2, ← loadContacts_start hstart] at hsame
        apply hsame
  | noContacts hpass hidentity hcontacts =>
      obtain ⟨contacts, hload, -⟩ := hloads call.user
      rw [loadContacts_start_eq hstart hidentity, hload] at hcontacts
      cases hcontacts
  | ended hpass hidentity hcontacts hstate hend =>
      rw [hpass.forall_iff, hidentity] at hsafe
      dsimp only at hsafe
      rw [hcontacts] at hsafe
      rw [loadContacts_start_eq hstart hidentity] at hcontacts
      refine ⟨hregisters, ?_, ?_, hloads⟩
      · intro _
        rw [hstate.username]
        rcases hend with ⟨rfl, -, -⟩ | ⟨-, hcompletes, -⟩
        · obtain ⟨identity, hready⟩ :=
            (ensures_ready_start hjs hempty browser call).ok s () s' h.registers hstart
          exact ⟨identity, hready.identity, hready.holds⟩
        · obtain ⟨-, husername, hidentity', -, hstarted⟩ := hsafe.resolve_left hcompletes
          obtain ⟨identity, hsome, hholds⟩ := h.identity hstarted
          use identity, hstate.identity.trans (hidentity'.symm.trans hsome)
          have hkept := holdsIdentity_start hstart hholds
          rw [husername] at hkept
          apply hkept
      · intro _
        rw [hstate.username, hstate.contacts]
        apply hcontacts

theorem outcome_addAndSave
    {contact : Json} {name : Value} (hname : Value.property "username" (some contact) = .ok name)
    {text : Bytes} (hwrite : js.toVec (.arr ((setContact s.contacts name contact).map Prod.snd))
      = some text) :
  ((Web.addAndSave js true contact).outcome s).2 = { s with
    contacts := setContact s.contacts name contact
    storage := Function.update s.storage (contactStorageKey s.username) (some text) }
  := by
  simp only [Web.addAndSave, Program.outcome_bind, Program.outcome_ofExcept, hname,
    Program.outcome_modify, Program.outcome_get, hwrite, orException]
  rfl

/-- A contact that is added is in the local storage when it is in `state`. -/
theorem Remembers.addContact
    (harrays : js.InvertsArrays) (hempty : js.fromSlice [] = none) (h : Remembers js s)
    (hstarted : s.started) {contact : Json} (hplain : contact.plain) :
  Remembers js ((Web.addAndSave js true contact).outcome s).2
  := by
  have hregisters := (keeps_registersStored_addAndSave true contact).outcome s h.registers
  cases hname : Value.property "username" (some contact) with
  | error err =>
      rw [Web.addAndSave, Program.outcome_bind, Program.outcome_ofExcept, hname]
      apply h
  | ok name =>
      obtain ⟨loaded, hload, hkeyed⟩ := h.loads s.username
      obtain rfl := Except.ok.inj (hload.symm.trans (h.contacts hstarted))
      replace hkeyed := hkeyed.setContact hname hplain
      have hvalues : ∀ v ∈ (setContact s.contacts name contact).map Prod.snd, v.plain := by
        intro v hv
        obtain ⟨entry, hentry, rfl⟩ := List.mem_map.mp hv
        apply hkeyed.plain entry hentry
      obtain ⟨text, hwrite, hread⟩ := harrays _ hvalues
      rw [outcome_addAndSave hname hwrite] at hregisters ⊢
      have hadded : loadContacts js s.username
          (Function.update s.storage (contactStorageKey s.username) (some text))
          = .ok (setContact s.contacts name contact) :=
        loadContacts_of_item (getItem_update_self hempty hread _ _) hread hkeyed
      refine ⟨hregisters, ?_, fun _ => hadded, ?_⟩
      · intro _
        obtain ⟨identity, hsome, hholds⟩ := h.identity hstarted
        refine ⟨identity, hsome, hholds.of_item ?_⟩
        intro _ _
        dsimp only
        exact Function.update_of_ne (identityStorageKey_ne_contactStorageKey _ _) _ _
      · intro username
        by_cases hsame : username = s.username
        · subst hsame
          exact ⟨_, hadded, hkeyed⟩
        · obtain ⟨contacts, hother, hkeyed'⟩ := h.loads username
          refine ⟨contacts, ?_, hkeyed'⟩
          rw [← hother]
          apply loadContacts_congr
          exact Function.update_of_ne (contactStorageKey_injective.ne hsame) _ _

/-- A new socket leaves a session that can be left. -/
theorem keeps_remembers_connectWebSocket (constructs : Bool) :
  Program.Keeps (Remembers js) (connectWebSocket constructs)
  := by
  rw [connectWebSocket]
  apply Program.Keeps.bind Program.keeps_get
  intro s
  split
  · apply Program.Keeps.unless
    apply Program.keeps_modify
    intro s hs
    exact ⟨hs.registers, hs.identity, hs.contacts, hs.loads⟩
  · apply Program.keeps_throw

/-- A step of a smooth session leaves one that can be left. -/
theorem Remembers.step
    (hjs : js.Inverts js) (harrays : js.InvertsArrays) (hempty : js.fromSlice [] = none)
    (h : Remembers js s) {a : Action} (hsmooth : Smooth browser js s a)
    (hstep : Session.step browser js s a = some s') :
  Remembers js s'
  := by
  cases a with
  | start call =>
      rw [Session.step, Option.some.injEq] at hstep
      rcases hstart : (Web.start js call browser).outcome s with ⟨result, s''⟩
      rw [hstart] at hstep
      subst hstep
      apply h.start hjs hempty hsmooth hstart
  | reload =>
      rw [Session.step, Option.some.injEq] at hstep
      subst hstep
      refine ⟨?_, ?_, ?_, h.loads⟩
      · rintro _ ⟨⟩
      · rintro ⟨⟩
      · rintro ⟨⟩
  | reconnect constructs =>
      obtain ⟨-, hstep⟩ := Option.ite_none_right_eq_some.mp hstep
      rw [Option.some.injEq] at hstep
      subst hstep
      apply (keeps_remembers_connectWebSocket constructs).outcome s h
  | addContact takes contact =>
      obtain ⟨hstarted, hstep⟩ := Option.ite_none_right_eq_some.mp hstep
      rw [Option.some.injEq] at hstep
      subst hstep
      obtain ⟨htakes, hplain⟩ := hsmooth
      rw [htakes]
      apply h.addContact harrays hempty hstarted hplain

/-- The first visit of the page leaves nothing behind. -/
theorem remembers_loaded :
  Remembers js (SignInPage.loaded fun _ => none).session
  := by
  refine ⟨?_, ?_, ?_, ?_⟩
  · rintro _ ⟨⟩
  · rintro ⟨⟩
  · rintro ⟨⟩
  · intro username
    exact ⟨[], rfl, keyed_nil⟩

/-- A user who has started in a smooth session, reloads the page and signs in again has the
identity and the contacts of before, once the checks are passed, whatever comes of the
registration. -/
theorem restored_of_reaches
    (hjs : js.Inverts js) (harrays : js.InvertsArrays) (hempty : js.fromSlice [] = none)
    (h : Reaches (step browser js) (Smooth browser js) (SignInPage.loaded fun _ => none).session s)
    (hstarted : s.started) {relay : RelayConfig} (huser : call.user = s.username)
    (hpass : call.Passes browser relay)
    (hstart : (Web.start js call browser).outcome (SignInPage.loaded s.storage).session
      = (result, s')) :
  s'.started ∧ s'.username = s.username ∧ s'.identity = s.identity ∧ s'.contacts = s.contacts
  := by
  have hremembers : Remembers js s := by
    apply h.invariant (I := Remembers js)
    · intro t a t' hsmooth hstep ht
      apply ht.step hjs harrays hempty hsmooth hstep
    · apply remembers_loaded
  obtain ⟨identity, hsome, text, hitem, hread⟩ := hremembers.identity hstarted
  have hcontacts := hremembers.contacts hstarted
  rw [← huser] at hitem hcontacts
  have hload : (loadOrCreateIdentity js call call.user).outcome s.storage
      = (.ok identity, s.storage) := by
    rw [loadOrCreateIdentity_of_item hitem, hread]
  cases starts hstart with
  | refused hrefused => apply absurd hpass (hrefused relay)
  | noIdentity _ hidentity => cases hidentity.symm.trans hload
  | noContacts _ hidentity hcontacts' =>
      cases hidentity.symm.trans hload
      cases hcontacts'.symm.trans hcontacts
  | ended _ hidentity hcontacts' hstate =>
      cases hidentity.symm.trans hload
      cases hcontacts'.symm.trans hcontacts
      refine ⟨hstate.started, ?_, ?_, hstate.contacts⟩
      · rw [hstate.username, ← huser]
        rfl
      · rw [hstate.identity, hsome]
        rfl

/-- What the relay answers when `bob` is looked up. -/
def bobJson : Json :=
  .obj [("username", .str "bob"), ("identity_public_key", .str "aWRlbnRpdHk"),
    ("encryption_public_key", .str "ZW5jcnlwdGlvbg")]

/-- `alice` signs in and adds `bob`. -/
def acquaintance : List Action :=
  [.start (SignInPage.sampleCall "alice" SignInPage.accepted), .addContact true bobJson]

/-- After a reload `alice` has her identity and her contact back, although her registration
fails. -/
theorem restored_of_reaches_sample :
  ∃ s s', run (step SignInPage.sampleBrowser .compactArrays)
      (SignInPage.loaded fun _ => none).session acquaintance = some s
    ∧ s.contacts.length = 1
    ∧ ((Web.start .compactArrays (SignInPage.sampleCall "alice" SignInPage.failed)
      SignInPage.sampleBrowser).outcome (SignInPage.loaded s.storage).session).2 = s'
    ∧ s'.started ∧ s'.username = s.username ∧ s'.identity = s.identity ∧ s'.contacts = s.contacts
  := by
  have hrun : ∀ s ∈ run (step SignInPage.sampleBrowser .compactArrays)
      (SignInPage.loaded fun _ => none).session acquaintance,
      s.contacts.length = 1 ∧ s.started ∧ s.username = "alice" := by
    decide +kernel
  have hok : ((Web.start .compactArrays (SignInPage.sampleCall "alice" SignInPage.accepted)
      SignInPage.sampleBrowser).outcome (SignInPage.loaded fun _ => none).session).1.isOk := by
    decide +kernel
  obtain ⟨s, hs⟩ : ∃ s, run (step SignInPage.sampleBrowser .compactArrays)
      (SignInPage.loaded fun _ => none).session acquaintance = some s := ⟨_, rfl⟩
  obtain ⟨hlength, hstarted, husername⟩ := hrun s hs
  obtain ⟨t, hstart, hrest⟩ := Option.bind_eq_some_iff.mp hs
  obtain ⟨t', hadd, hend⟩ := Option.bind_eq_some_iff.mp hrest
  obtain rfl := Option.some.inj hend
  have hsafe : StartsSafely SignInPage.sampleBrowser .compactArrays
      (SignInPage.loaded fun _ => none).session
      (SignInPage.sampleCall "alice" SignInPage.accepted) := by
    apply (allOrNothing_iff ..).mp
    intro err herr
    rw [herr] at hok
    cases hok
  have hreaches : Reaches (step SignInPage.sampleBrowser .compactArrays)
      (Smooth SignInPage.sampleBrowser .compactArrays)
      (SignInPage.loaded fun _ => none).session t' := by
    apply Relation.ReflTransGen.tail (b := t)
    · apply Relation.ReflTransGen.single
      exact ⟨.start (SignInPage.sampleCall "alice" SignInPage.accepted), hsafe, hstart⟩
    · refine ⟨.addContact true bobJson, ⟨rfl, ?_⟩, hadd⟩
      decide +kernel
  have hpass : ∃ relay,
      (SignInPage.sampleCall "alice" SignInPage.failed).Passes SignInPage.sampleBrowser relay := by
    refine ⟨_, ?_, rfl⟩
    decide +kernel
  obtain ⟨relay, hpass⟩ := hpass
  have huser : (SignInPage.sampleCall "alice" SignInPage.failed).user = t'.username := by
    rw [husername]
    decide +kernel
  refine ⟨t', _, hs, hlength, rfl, ?_⟩
  apply restored_of_reaches JsonCodec.inverts_compactArrays JsonCodec.invertsArrays_compactArrays
    rfl hreaches hstarted huser hpass (Prod.mk.eta).symm

end Session

end Phantasma.Web
