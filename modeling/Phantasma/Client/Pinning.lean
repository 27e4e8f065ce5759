import Phantasma.Client.Calls
import Phantasma.Client.SmallOrder

/-!
# Contacts stay as they were saved

A session of the client is a sequence of calls of `send_message` and `receive_message`.
A call looks up a contact only when it is not saved, but the entry that is found is saved
under the username it carries.  So what was saved stays, and what is looked up is saved
under the name that was asked for, as long as every answer carries that name:
`pinned_iff`.
-/

namespace Phantasma

variable {MessageKey : Type} (setup : Setup MessageKey)

/-- A call of the client, with its argument. -/
inductive Call where
  | send (rest : String)
  | receive (bytes : Bytes)

namespace Call

/-- The function that is called. -/
def run (outside : Outside) : Call → Run Unit
  | send rest => sendMessage setup outside rest
  | receive bytes => receiveMessage setup outside bytes

/-- The username of the contact that the call needs: the recipient of a message to send,
or the sender of a message to this client. -/
def needs : Call → Option String
  | send rest => (parseSend rest).map Prod.fst
  | receive bytes => openedSender setup bytes

/-- The username that the call looks up, with the entry that the relay answers. -/
def answered (outside : Outside) (client : Client) (call : Call) :
    Option (String × PublicKeyEntry) := do
  let username ← call.needs setup
  let entry ← newEntry setup outside client username
  return (username, entry)

end Call

/-- The client after a sequence of calls. -/
def after (client : Client) (calls : List (Outside × Call)) : Client :=
  calls.foldl (fun client call => ((call.2.run setup call.1).outcome client).2) client

@[simp]
theorem after_cons (client : Client) (call : Outside × Call) (calls : List (Outside × Call)) :
  after setup client (call :: calls)
    = after setup ((call.2.run setup call.1).outcome client).2 calls
  := rfl

theorem after_append (client : Client) (calls calls' : List (Outside × Call)) :
  after setup client (calls ++ calls') = after setup (after setup client calls) calls'
  := List.foldl_append ..

/-- `Makes calls earlier outside call`: the sequence `calls` makes this call
after the calls `earlier`. -/
def Makes (calls earlier : List (Outside × Call)) (outside : Outside) (call : Call) : Prop :=
  ∃ later, calls = earlier ++ (outside, call) :: later

variable {setup}

theorem Makes.cons
    {calls earlier : List (Outside × Call)} {outside : Outside} {call : Call}
    (h : Makes calls earlier outside call) (first : Outside × Call) :
  Makes (first :: calls) (first :: earlier) outside call
  := by
  obtain ⟨later, rfl⟩ := h
  use later
  rfl

/-! ### One call -/

section

variable {outside : Outside} {client : Client} {call : Call} {username : String}
    {entry : PublicKeyEntry}

theorem map_answered (outside : Outside) (client : Client) (call : Call) :
  (call.answered setup outside client).map Prod.snd
    = (call.needs setup).bind (newEntry setup outside client)
  := by
  rw [Call.answered]
  cases call.needs setup with
  | none => rfl
  | some username =>
      simp only [Option.bind_eq_bind, Option.bind_some]
      cases newEntry setup outside client username <;> rfl

/-- A call adds the entry that the relay answers to its lookup, and changes nothing else
in the contact book. -/
theorem contacts_call (outside : Outside) (client : Client) (call : Call) :
  ((call.run setup outside).outcome client).2.contacts
    = client.contacts.learn ((call.answered setup outside client).map Prod.snd)
  := by
  rw [map_answered]
  cases call with
  | send rest =>
      rw [Call.run, contacts_sendMessage, Call.needs, Option.bind_map]
      rfl
  | receive bytes => apply contacts_receiveMessage

/-- A contact that is looked up is not saved. -/
theorem get_eq_none_of_answered
    (h : call.answered setup outside client = some (username, entry)) :
  client.contacts.get username = none
  := by
  obtain ⟨name, -, h⟩ := Option.bind_eq_some_iff.mp h
  obtain ⟨found, hnew, h⟩ := Option.bind_eq_some_iff.mp h
  cases h
  cases hget : client.contacts.get username with
  | none => rfl
  | some saved =>
      rw [newEntry_of_saved hget] at hnew
      cases hnew

/-- The entry that the relay answers is saved under the name that was asked for just when
it carries that name. -/
theorem get_call_of_answered
    (h : call.answered setup outside client = some (username, entry)) :
  ((call.run setup outside).outcome client).2.contacts.get username = some entry
    ↔ entry.username = username
  := by
  rw [contacts_call, h]
  change (client.contacts.insert entry).get username = some entry ↔ _
  rw [ContactBook.get_insert, get_eq_none_of_answered h]
  by_cases hname : entry.username = username
  · rw [if_pos hname]
    apply iff_of_true rfl hname
  · rw [if_neg hname]
    apply iff_of_false (Option.some_ne_none entry).symm hname

/-- A saved entry stays, when an entry that the relay answers carries the name that was
asked for. -/
theorem get_call_of_saved
    (hanswer : ∀ asked answer, call.answered setup outside client = some (asked, answer) →
      answer.username = asked)
    (hget : client.contacts.get username = some entry) :
  ((call.run setup outside).outcome client).2.contacts.get username = some entry
  := by
  rw [contacts_call]
  cases h : call.answered setup outside client with
  | none => apply hget
  | some answered =>
      obtain ⟨asked, answer⟩ := answered
      have hnone := get_eq_none_of_answered h
      have hne : answer.username ≠ username := by
        rw [hanswer asked answer h]
        rintro rfl
        rw [hget] at hnone
        cases hnone
      rw [Option.map_some, ContactBook.learn, ContactBook.get_insert_of_ne _ hne, hget]

end

/-! ### A session -/

/-- Every entry that the relay answers in the session carries the name that was asked
for. -/
def AnswersAsAsked (setup : Setup MessageKey) (client : Client) (calls : List (Outside × Call)) :
    Prop :=
  ∀ earlier outside call, Makes calls earlier outside call →
    ∀ username entry,
      call.answered setup outside (after setup client earlier) = some (username, entry) →
      entry.username = username

theorem AnswersAsAsked.tail
    {client : Client} {first : Outside × Call} {calls : List (Outside × Call)}
    (h : AnswersAsAsked setup client (first :: calls)) :
  AnswersAsAsked setup ((first.2.run setup first.1).outcome client).2 calls
  := by
  intro earlier outside call hmakes
  apply h (first :: earlier) outside call (hmakes.cons first)

/-- A session whose answers carry the names that were asked for changes no saved entry. -/
theorem get_after_of_saved
    {client : Client} {calls : List (Outside × Call)} (h : AnswersAsAsked setup client calls)
    {username : String} {entry : PublicKeyEntry}
    (hget : client.contacts.get username = some entry) :
  (after setup client calls).contacts.get username = some entry
  := by
  induction calls generalizing client with
  | nil => apply hget
  | cons first calls ih =>
      rw [after_cons]
      apply ih h.tail
      apply get_call_of_saved _ hget
      apply h [] first.1 first.2 ⟨calls, rfl⟩

/-- A session leaves every saved entry as it is and saves every entry that the relay
answers under the name that was asked for, if and only if every entry that the relay
answers carries that name. -/
theorem pinned_iff (client : Client) (calls : List (Outside × Call)) :
  ((∀ username entry, client.contacts.get username = some entry →
      (after setup client calls).contacts.get username = some entry)
    ∧ ∀ earlier outside call, Makes calls earlier outside call →
      ∀ username entry,
        call.answered setup outside (after setup client earlier) = some (username, entry) →
        (after setup client (earlier ++ [(outside, call)])).contacts.get username = some entry)
    ↔ AnswersAsAsked setup client calls
  := by
  constructor
  · rintro ⟨-, hadded⟩ earlier outside call hmakes username entry hanswer
    apply (get_call_of_answered hanswer).mp
    have hget := hadded earlier outside call hmakes username entry hanswer
    rwa [after_append] at hget
  · intro h
    constructor
    · intro username entry hget
      apply get_after_of_saved h hget
    · intro earlier outside call hmakes username entry hanswer
      rw [after_append]
      apply (get_call_of_answered hanswer).mpr
      apply h earlier outside call hmakes username entry hanswer

/-! ### A session in which a contact is replaced -/

/-- What a lookup of any name is answered with: another key under the name `bob`. -/
def substitute : PublicKeyEntry := ⟨"bob", basePointText, zeroText⟩

/-- An answer with the entry `substitute`. -/
def substituteAnswer : HttpResponse :=
  ⟨200, "200 OK", some substitute.toJson.compactBytes, none⟩

/-- The setup of the client of `alice`. -/
def aliceSetup : Setup (Key × Bytes) where
  primitives := samplePrimitives (· ≤ 100)
  serde := .compact
  pretty := .compact
  endpoints := ⟨"http://127.0.0.1:3000"⟩
  name := "alice"
  identity := ⟨basePointText, .zero 32⟩

/-- The client of `alice`, who has saved `bob`. -/
def aliceClient : Client where
  contacts := .insert ⟨∅, "contacts/alice.json"⟩ ⟨"bob", basePointText, basePointText⟩
  file := none
  events := []

/-- A message to `carol`, whose key is looked up. -/
def messageToCarol : List (Outside × Call) :=
  [(⟨some substituteAnswer, .zero 24, .complete, true⟩, .send "carol hello")]

/-- A lookup of `carol` replaces the entry of `bob`. -/
theorem not_pinned :
  ¬ ∀ (setup : Setup (Key × Bytes)) (client : Client) (calls : List (Outside × Call)),
    (∀ username entry, client.contacts.get username = some entry →
      (after setup client calls).contacts.get username = some entry)
    ∧ ∀ earlier outside call, Makes calls earlier outside call →
      ∀ username entry,
        call.answered setup outside (after setup client earlier) = some (username, entry) →
        (after setup client (earlier ++ [(outside, call)])).contacts.get username = some entry
  := by
  intro h
  have hbob : aliceClient.contacts.get "bob" = some ⟨"bob", basePointText, basePointText⟩ := by
    decide +kernel
  have hkept := (h aliceSetup aliceClient messageToCarol).1 _ _ hbob
  have hreplaced : (after aliceSetup aliceClient messageToCarol).contacts.get "bob"
      = some substitute := by
    decide +kernel
  rw [hreplaced] at hkept
  apply absurd hkept
  decide +kernel

end Phantasma
