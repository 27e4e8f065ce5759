import Phantasma.Web.Operations

/-!
# Contacts of the browser client stay as they were saved

`sendCurrentMessage` and `findOrAddContact` look for a contact, ask the relay when there is
none, and save what is answered without looking again.  `saved_throughout_iff` says that an
entry stays through any interleaving of such operations just when no lookup of its name is
answered with another entry while it is saved.
-/

namespace Phantasma.Web

/-! ### The contacts as a map -/

theorem strictEq_ofString_iff {value : Value} {text : String} :
  value.strictEq (.ofString text) ↔ value = .ofString text
  := by
  constructor
  · intro h
    match value with
    | some (.str s) =>
        have heq : s = text := of_decide_eq_true h
        rw [heq]
        rfl
  · rintro rfl
    rw [Value.strictEq_ofString, decide_eq_true rfl]

/-- Setting a contact changes what is found under its name only. -/
theorem getContact_setContact
    (contacts : List (Value × Json)) (name text : String) (contact : Json) :
  getContact (setContact contacts (.ofString name) contact) (.ofString text)
    = if name = text then some contact else getContact contacts (.ofString text)
  := by
  rw [getContact, getContact, setContact]
  split
  · rename_i hany
    have hkeys : (fun entry : Value × Json => entry.1.strictEq (.ofString text))
        ∘ (fun entry : Value × Json =>
          if entry.1.strictEq (.ofString name) then (entry.1, contact) else entry)
        = fun entry => entry.1.strictEq (.ofString text) := by
      funext entry
      rw [Function.comp_apply]
      split <;> rfl
    rw [List.find?_map, hkeys]
    by_cases hname : name = text
    · subst hname
      rw [if_pos rfl]
      obtain ⟨entry, hfound⟩ := Option.isSome_iff_exists.mp (List.find?_isSome.mpr
        (List.any_eq_true.mp hany))
      rw [hfound, Option.map_some, if_pos (List.find?_some hfound)]
      rfl
    · rw [if_neg hname]
      cases hfound : contacts.find? fun entry => entry.1.strictEq (.ofString text) with
      | none => rfl
      | some entry =>
          have hentry := List.find?_some hfound
          rw [strictEq_ofString_iff] at hentry
          rw [Option.map_some, if_neg]
          rw [hentry, Value.strictEq_ofString, decide_eq_true_eq]
          exact fun heq => hname heq.symm
  · rename_i hnone
    rw [List.find?_append]
    by_cases hname : name = text
    · subst hname
      rw [if_pos rfl]
      have hunsaved : contacts.find? (fun entry => entry.1.strictEq (.ofString name)) = none := by
        rw [List.find?_eq_none]
        intro entry hentry hstrict
        apply hnone (List.any_eq_true.mpr ⟨entry, hentry, hstrict⟩)
      rw [hunsaved, Option.none_or, List.find?_cons_of_pos]
      · rfl
      · rw [Value.strictEq_ofString, decide_eq_true rfl]
    · rw [if_neg hname, List.find?_cons_of_neg, List.find?_nil, Option.or_none]
      rw [Value.strictEq_ofString, decide_eq_true_eq]
      exact hname

/-! ### What the relay answers -/

/-- The name that the operation has asked the relay for. -/
def Stage.asked : Stage → Option Value
  | .sendLookup recipient _ => some (.ofString recipient)
  | .receiveLookup _ _ sender => some sender
  | .addLookup name => some (.ofString name)
  | _ => none

/-- The operation is an `addContactFromInput` that has asked the relay for `username`. -/
def Stage.adds (username : String) : Stage → Prop
  | .addLookup name => name = username
  | _ => False

/-- The entry that the relay answers. -/
def answeredEntry (js : JsonCodec) (outside : Outside) : Option Json :=
  match lookupPublicKey js outside.answer with
  | .ok (some entry) => if Value.truthy (some entry) then some entry else none
  | _ => none

namespace Tab

section

variable (js : JsonCodec) (username : String) (s : Tab)

/-- What can happen to a user who stays signed in, when the relay answers a lookup with an
entry of the name that was asked for or with none; answers to an `addContactFromInput` for
`username` are left out. -/
def StaysSignedIn : Action → Prop
  | .start _ _ _ _ => False
  | .resume i outside => ∀ operation ∈ s.operations[i]?, ¬ operation.stage.adds username
      ∧ ∀ asked ∈ operation.stage.asked, ∀ entry ∈ answeredEntry js outside,
        Value.property "username" (some entry) = .ok (.ofString asked.display)
  | _ => True

/-- When a lookup of `username` is answered with an entry, there is none saved, or this one
is. -/
def AnswersFirst : Action → Prop
  | .resume i outside => ∀ operation ∈ s.operations[i]?, ∀ asked ∈ operation.stage.asked,
      asked.display = username → ∀ entry ∈ answeredEntry js outside,
        getContact s.page.contacts (.ofString username) = none
          ∨ getContact s.page.contacts (.ofString username) = some entry
  | _ => True

end

instance (asked text : String) (value : Value) :
    Decidable (Value.property asked value = .ok (.ofString text)) :=
  match h : Value.property asked value with
  | .ok found =>
      decidable_of_iff (found.strictEq (.ofString text))
        (strictEq_ofString_iff.trans (by rw [Except.ok.injEq]))
  | .error _ => .isFalse (by rintro ⟨⟩)

instance (username : String) : ∀ stage : Stage, Decidable (stage.adds username)
  | .addLookup name => inferInstanceAs (Decidable (name = username))
  | .sendLookup _ _ | .sendKey _ | .sendReturn _ _ _ | .receiveKey _ | .receiveReturn _ _
  | .receiveLookup _ _ _ | .receiveContact _ _ _ _ | .done => .isFalse id

instance (js : JsonCodec) (username : String) (s : Tab) :
    ∀ a, Decidable (s.StaysSignedIn js username a)
  | .start _ _ _ _ => .isFalse id
  | .resume i _ => inferInstanceAs (Decidable (∀ operation ∈ s.operations[i]?, _))
  | .registered _ | .notRegistered | .reconnect _ | .setReadyState _ | .send _ _ | .add _
  | .receive _ => .isTrue trivial

end Tab

/-! ### What keeps an entry -/

/-- `scope.Saved username entry`: the entry is saved under the name. -/
def Scope.Saved (username : String) (entry : Json) (scope : Scope) : Prop :=
  getContact scope.page.contacts (.ofString username) = some entry

namespace Segment

variable {username : String} {entry : Json}

theorem stableApart_saved (username : String) (entry : Json) :
  Scope.StableApart (Scope.Saved username entry)
  where
  use _ _ _ h := h
  change scope f hf h := by
    rw [Scope.Saved, (hf scope.page).2]
    apply h

/-- What is saved after `state.contacts.set`. -/
theorem getContact_outcome_setContact (name text : String) (contact : Json) (scope : Scope) :
  getContact ((do
      let saved ← contacts
      change fun page => { page with contacts := setContact saved (.ofString name) contact }
        : Segment Unit).outcome scope).2.page.contacts (.ofString text)
    = if name = text then some contact else getContact scope.page.contacts (.ofString text)
  := by
  simp only [contacts, use, change, Program.outcome_bind, Program.outcome_modify,
    Program.outcome_get, Program.outcome_pure, getContact_setContact]

/-- A contact that is added is saved under the name it carries. -/
theorem establishes_addContact
    (outside : Outside) (asked : Value) (htruthy : Value.truthy (some entry))
    (hname : Value.property "username" (some entry) = .ok (.ofString username)) :
  Program.Establishes (Scope.Saved username entry) (addContact outside asked (some entry))
  := by
  have hsaved := stableApart_saved username entry
  simp only [addContact, htruthy, Bool.not_true, Bool.false_eq_true, if_false]
  apply Program.establishes_ofExcept_bind hname
  rw [← bind_assoc]
  apply Program.Establishes.bind
  · constructor
    intro scope
    rw [Scope.Saved, getContact_outcome_setContact, if_pos rfl]
  intro _
  apply Program.Keeps.bind (keeps_username hsaved _)
  intro _
  apply Program.Keeps.bind (keeps_contacts hsaved)
  intro _
  apply Program.Keeps.unless
  apply keeps_change hsaved
  intro page
  exact ⟨rfl, rfl⟩

/-- A contact that is added keeps the entry, when it is that entry or has another name. -/
theorem keeps_addContact_saved
    (outside : Outside) (asked : Value) {contact : Value}
    (hname : ∀ json, contact = some json → Value.truthy contact →
      ∃ name, Value.property "username" contact = .ok (.ofString name)
        ∧ (name = username → json = entry)) :
  Program.Keeps (Scope.Saved username entry) (addContact outside asked contact)
  := by
  have hsaved := stableApart_saved username entry
  cases contact with
  | none => apply Program.keeps_throw
  | some json =>
      simp only [addContact]
      cases htruthy : Value.truthy (some json) with
      | false =>
          simp only [Bool.not_false, if_true]
          apply Program.keeps_throw
      | true =>
          obtain ⟨name, hproperty, hentry⟩ := hname json rfl htruthy
          simp only [Bool.not_true, Bool.false_eq_true, if_false]
          apply Program.keeps_ofExcept_bind
          intro key hkey
          obtain rfl := Except.ok.inj (hproperty.symm.trans hkey)
          rw [← bind_assoc]
          apply Program.Keeps.bind
          · constructor
            intro scope hscope
            rw [Scope.Saved, getContact_outcome_setContact]
            split
            · rename_i heq
              rw [hentry heq]
            · apply hscope
          intro _
          apply Program.Keeps.bind (keeps_username hsaved _)
          intro _
          apply Program.Keeps.bind (keeps_contacts hsaved)
          intro _
          apply Program.Keeps.unless
          apply keeps_change hsaved
          intro page
          exact ⟨rfl, rfl⟩

section

variable {MessageKey : Type} (P : Primitives MessageKey) (js : JsonCodec) (outside : Outside)

/-- An operation that goes on keeps the entry, when it is not given another one of this
name. -/
theorem keeps_resume_saved
    {stage : Stage}
    (hanswer : ∀ asked ∈ stage.asked, ∀ contact ∈ answeredEntry js outside,
      ∃ name, Value.property "username" (some contact) = .ok (.ofString name)
        ∧ (name = username → contact = entry)) :
  Program.Keeps (Scope.Saved username entry) (resume P js outside stage)
  := by
  have hsaved := stableApart_saved username entry
  have hadd : ∀ asked ∈ stage.asked, ∀ contact, lookupPublicKey js outside.answer = .ok contact →
      Program.Keeps (Scope.Saved username entry) (addContact outside asked contact) := by
    intro asked hasked contact hlookup
    apply keeps_addContact_saved
    rintro json rfl htruthy
    apply hanswer asked hasked json
    rw [answeredEntry, hlookup, Option.mem_def]
    apply if_pos htruthy
  cases stage with
  | sendLookup recipient body =>
      apply Program.keeps_ofExcept_bind
      intro contact hlookup
      apply Program.Keeps.bind (hadd _ rfl contact hlookup)
      intro _
      apply keeps_beginEncryption hsaved
  | sendKey encryption => apply keeps_finishEncryption hsaved
  | sendReturn recipient body encrypted => apply keeps_finishSend hsaved
  | receiveKey decryption => apply keeps_finishDecryption
  | receiveReturn encrypted plaintext => apply keeps_findContact hsaved
  | receiveLookup encrypted plaintext sender =>
      apply Program.keeps_ofExcept_bind
      intro contact hlookup
      apply Program.Keeps.bind (hadd _ rfl contact hlookup)
      intro _
      apply Program.Keeps.bind (Program.keeps_ofExcept _)
      intro _
      apply Program.Keeps.bind (keeps_setStatus hsaved _)
      intro _
      apply Program.keeps_pure
  | receiveContact encrypted plaintext sender contact => apply keeps_showMessage hsaved
  | addLookup name =>
      apply Program.keeps_ofExcept_bind
      intro contact hlookup
      apply Program.Keeps.ite
      · apply Program.Keeps.bind (keeps_setStatus hsaved _)
        intro _
        apply Program.keeps_pure
      · apply Program.Keeps.bind (hadd _ rfl contact hlookup)
        intro _
        apply Program.Keeps.bind (Program.keeps_ofExcept _)
        intro _
        apply Program.Keeps.bind (keeps_setStatus hsaved _)
        intro _
        apply Program.keeps_pure
  | done => apply Program.keeps_pure

/-- A lookup of `sendCurrentMessage` or `receiveEncryptedBytes` that is answered with an entry
saves it. -/
theorem establishes_resume_saved
    {stage : Stage} {asked : Value} (hasked : asked ∈ stage.asked)
    (hadds : ¬ stage.adds asked.display) (hanswer : entry ∈ answeredEntry js outside)
    (hname : Value.property "username" (some entry) = .ok (.ofString username)) :
  Program.Establishes (Scope.Saved username entry) (resume P js outside stage)
  := by
  have hsaved := stableApart_saved username entry
  obtain ⟨hlookup, htruthy⟩ : lookupPublicKey js outside.answer = .ok (some entry)
      ∧ Value.truthy (some entry) := by
    rw [answeredEntry] at hanswer
    split at hanswer
    · rename_i hlookup
      obtain ⟨htruthy, ⟨⟩⟩ := Option.ite_none_right_eq_some.mp hanswer
      exact ⟨hlookup, htruthy⟩
    · cases hanswer
  have hadd := fun asked => establishes_addContact outside asked htruthy hname
  cases stage with
  | sendLookup recipient body =>
      apply Program.establishes_ofExcept_bind hlookup
      apply Program.Establishes.bind (hadd _)
      intro _
      apply keeps_beginEncryption hsaved
  | receiveLookup encrypted plaintext sender =>
      apply Program.establishes_ofExcept_bind hlookup
      apply Program.Establishes.bind (hadd _)
      intro _
      apply Program.Keeps.bind (Program.keeps_ofExcept _)
      intro _
      apply Program.Keeps.bind (keeps_setStatus hsaved _)
      intro _
      apply Program.keeps_pure
  | addLookup name =>
      cases hasked
      apply absurd rfl hadds
  | _ => cases hasked

end

end Segment

namespace Tab

variable {MessageKey : Type} {P : Primitives MessageKey} {js : JsonCodec} {s s' : Tab}
    {username : String} {entry : Json}

/-- The page that a segment leaves. -/
theorem page_runSegment (s : Tab) (uses : List (Part × String)) (x : Segment Stage) :
  (s.runSegment uses x).1 = (x.outcome ⟨s.page, s.owners, uses⟩).2.page
  := by
  rw [runSegment]
  rcases x.outcome ⟨s.page, s.owners, uses⟩ with ⟨_ | stage, scope⟩ <;> rfl

/-- An entry that a segment keeps is kept on the page. -/
theorem saved_runSegment
    {x : Segment Stage} (hx : Program.Keeps (Scope.Saved username entry) x)
    (hget : getContact s.page.contacts (.ofString username) = some entry)
    (uses : List (Part × String)) :
  getContact (s.runSegment uses x).1.contacts (.ofString username) = some entry
  := by
  rw [page_runSegment]
  apply hx.outcome ⟨s.page, s.owners, uses⟩ hget

/-- A step keeps an entry that is saved. -/
theorem getContact_step
    {a : Action} (hstays : s.StaysSignedIn js username a) (hfirst : s.AnswersFirst js username a)
    (hstep : s.step P js a = some s')
    (hget : getContact s.page.contacts (.ofString username) = some entry) :
  getContact s'.page.contacts (.ofString username) = some entry
  := by
  have hsaved := Segment.stableApart_saved username entry
  cases a with
  | start => cases hstays
  | registered | notRegistered | reconnect | setReadyState =>
      obtain ⟨-, ⟨⟩⟩ := Option.ite_none_right_eq_some.mp hstep
      apply hget
  | send recipient text =>
      obtain rfl := Option.some.inj hstep
      apply saved_runSegment (Segment.keeps_sendCurrentMessage hsaved P recipient text) hget
  | add text =>
      obtain rfl := Option.some.inj hstep
      apply saved_runSegment (Segment.keeps_addContactFromInput hsaved text) hget
  | receive bytes =>
      obtain ⟨owner, -, hstep⟩ := Option.bind_eq_some_iff.mp hstep
      obtain ⟨-, ⟨⟩⟩ := Option.ite_none_right_eq_some.mp hstep
      apply saved_runSegment (Segment.keeps_receiveEncryptedBytes hsaved P js bytes) hget
  | resume i outside =>
      obtain ⟨operation, hi, hstep⟩ := Option.bind_eq_some_iff.mp hstep
      obtain ⟨-, ⟨⟩⟩ := Option.ite_none_right_eq_some.mp hstep
      apply saved_runSegment (Segment.keeps_resume_saved P js outside _) hget
      intro asked hasked contact hcontact
      use asked.display, (hstays operation hi).2 asked hasked contact hcontact
      intro hname
      rcases hfirst operation hi asked hasked hname contact hcontact with hnone | hsame
      · rw [hnone] at hget
        cases hget
      · rw [hsame] at hget
        apply Option.some.inj hget

/-- A step that answers a lookup of the name with another entry replaces the entry. -/
theorem answersFirst_of_getContact_step
    {a : Action} (hstays : s.StaysSignedIn js username a) (hstep : s.step P js a = some s')
    (hget : getContact s.page.contacts (.ofString username) = some entry)
    (hget' : getContact s'.page.contacts (.ofString username) = some entry) :
  s.AnswersFirst js username a
  := by
  cases a with
  | resume i outside =>
      obtain ⟨operation, hi, hstep⟩ := Option.bind_eq_some_iff.mp hstep
      obtain ⟨-, ⟨⟩⟩ := Option.ite_none_right_eq_some.mp hstep
      intro _ hi' asked hasked hname contact hcontact
      obtain rfl := Option.some.inj (hi.symm.trans hi')
      obtain ⟨hadds, hcarries⟩ := hstays operation hi
      subst hname
      have hsaved := Segment.establishes_resume_saved P js outside hasked hadds hcontact
        (hcarries asked hasked contact hcontact)
      have hcontact' := hsaved.outcome ⟨s.page, s.owners, operation.uses⟩
      rw [Scope.Saved, ← page_runSegment] at hcontact'
      right
      rw [hget, ← hget', ← hcontact']
      rfl
  | _ => trivial

/-- Through every run of a user who stays signed in, an entry that is saved stays as it is
until an `addContactFromInput` for its name is answered, just when no lookup of the name is
answered with another entry while it is saved. -/
theorem saved_throughout_iff
    {actions : List Action}
    (hstays : TransitionSystem.Always (step P js) (StaysSignedIn js username) s actions)
    (hget : getContact s.page.contacts (.ofString username) = some entry) :
  TransitionSystem.Throughout (step P js)
      (fun t => getContact t.page.contacts (.ofString username) = some entry) s actions
    ↔ TransitionSystem.Always (step P js) (AnswersFirst js username) s actions
  := by
  apply TransitionSystem.throughout_iff_always _ hstays hget
  intro t a t' hstays hstep ht
  constructor
  · intro ht'
    apply answersFirst_of_getContact_step hstays hstep ht ht'
  · intro hfirst
    apply getContact_step hstays hfirst hstep ht

/-! ### Two first messages of one sender -/

/-- The identity of `bob`. -/
def bobIdentity : Identity :=
  sampleIdentity ⟨0 :: 1 :: List.replicate 30 0, FixedBytes.length_other_key⟩

/-- A frame with a message from `bob` to `alice`. -/
def bobFrame : Bytes :=
  match encryptMessage samplePrimitives .compact (.zero 24) bobIdentity "bob" "alice" "hi"
    (.ofString (sampleIdentity (.zero 32)).encryptionPublicKey) with
  | .ok encrypted => encrypted.compactBytes
  | .error _ => []

/-- The relay answers that `bob` has this key. -/
def bobAnswer (publicKey : String) : Outside :=
  let entry : PublicKeyEntry := ⟨"bob", zeroText, publicKey⟩
  ⟨some ⟨200, "200 OK", some entry.toJson.compactBytes, none⟩, .zero 24, true⟩

/-- The relay answers that there is no such user. -/
def notFound : Outside := ⟨some ⟨404, "404 Not Found", none, none⟩, .zero 24, true⟩

/-- `alice`, who has no contacts, receives two messages of `bob`.  Both are decrypted and look
for his key before the first lookup is answered. -/
def receivesTwo : List Action :=
  [.start "alice" (some (sampleIdentity (.zero 32))) (some []) true, .registered true,
    .setReadyState true, .receive bobFrame, .receive bobFrame, .resume 0 noLookup,
    .resume 1 noLookup, .resume 0 noLookup, .resume 1 noLookup,
    .resume 0 (bobAnswer bobIdentity.encryptionPublicKey)]

/-- The key of `bob` that is saved. -/
def bobKey (s : Tab) : Option String :=
  match Value.property "encryption_public_key" (getContact s.page.contacts (.ofString "bob")) with
  | .ok (some (.str text)) => some text
  | _ => none

/-- The entry of `bob` stays when the second lookup finds none. -/
theorem saved_throughout_iff_sample :
  ∃ s entry,
    TransitionSystem.run (step samplePrimitives .compact) (loaded fun _ => none) receivesTwo
      = some s
    ∧ TransitionSystem.Throughout (step samplePrimitives .compact)
      (fun t => getContact t.page.contacts (.ofString "bob") = some entry) s [.resume 1 notFound]
  := by
  have hrun : ∃ s ∈ TransitionSystem.run (step samplePrimitives .compact) (loaded fun _ => none)
      receivesTwo,
      (getContact s.page.contacts (.ofString "bob")).isSome
        ∧ TransitionSystem.Always (step samplePrimitives .compact)
          (StaysSignedIn .compact "bob") s [.resume 1 notFound] := by
    decide +kernel
  obtain ⟨s, hs, hsaved, hstays⟩ := hrun
  obtain ⟨entry, hentry⟩ := Option.isSome_iff_exists.mp hsaved
  use s, entry, hs
  apply (saved_throughout_iff hstays hentry).mpr
  intro s' _
  constructor
  · rintro operation - asked - - entry' ⟨⟩
  · trivial

/-- The second lookup is answered with another key, which replaces the first. -/
theorem not_saved_throughout :
  ¬ ∀ (s : Tab) (username : String) (entry : Json) (actions : List Action),
    TransitionSystem.Reaches (step samplePrimitives .compact) TransitionSystem.anyAction
      (loaded fun _ => none) s →
    TransitionSystem.Always (step samplePrimitives .compact) (StaysSignedIn .compact username) s
      actions →
    getContact s.page.contacts (.ofString username) = some entry →
      TransitionSystem.Throughout (step samplePrimitives .compact)
        (fun t => getContact t.page.contacts (.ofString username) = some entry) s actions
  := by
  intro hkeeps
  let other := bobAnswer (sampleIdentity (.zero 32)).encryptionPublicKey
  have hrun : ∃ s ∈ TransitionSystem.run (step samplePrimitives .compact) (loaded fun _ => none)
      receivesTwo,
      (getContact s.page.contacts (.ofString "bob")).isSome
        ∧ TransitionSystem.Always (step samplePrimitives .compact)
          (StaysSignedIn .compact "bob") s [.resume 1 other]
        ∧ ∃ s' ∈ step samplePrimitives .compact s (.resume 1 other), s'.bobKey ≠ s.bobKey := by
    decide +kernel
  obtain ⟨s, hs, hsaved, hstays, s', hs', hkey⟩ := hrun
  obtain ⟨entry, hentry⟩ := Option.isSome_iff_exists.mp hsaved
  have hreach := TransitionSystem.reaches_any_of_run hs
  obtain ⟨-, hthroughout⟩ := hkeeps s "bob" entry _ hreach hstays hentry
  apply hkey
  rw [bobKey, bobKey, hthroughout s' hs', hentry]

end Tab

end Phantasma.Web
