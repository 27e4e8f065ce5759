import Phantasma.Web.Operations

/-!
# Operations that are not interrupted

An operation whose segments follow each other with nothing in between does to the page what
`sendCurrentMessage` or `receiveEncryptedBytes` does in one go: `looksLike_sendCurrentMessage`
and `looksLike_receiveEncryptedBytes` say so of the segments, and `exists_run_send` and
`exists_run_receive` of the turns that the operation takes in a run.
-/

namespace Phantasma.Web

namespace Segment

variable {MessageKey : Type} (P : Primitives MessageKey) (js : JsonCodec) (outside : Outside)

/-- The operation goes on, `n` times at most, with nothing in between; the result says
whether it is over then. -/
def complete : ℕ → Stage → Segment Bool
  | 0, stage => return stage.isDone
  | n + 1, stage => do complete n (← resume P js outside stage)

section

variable {P : Primitives MessageKey} {js : JsonCodec} {outside : Outside} {page : Page}

theorem complete_done (n : ℕ) :
  complete P js outside n .done = pure true
  := by
  induction n with
  | zero => rfl
  | succ n ih => rw [complete, resume, pure_bind, ih]

/-! ### Reading the page -/

theorem looksLike_read
    {α : Type} {f : Scope → Scope} (hf : ∀ scope, (f scope).page = scope.page) (read : Page → α)
    {k : α → Segment Bool} {y : Task Bool}
    (h : Program.LooksLike Scope.page page (k (read page)) y) :
  Program.LooksLike Scope.page page
    ((do (modify f : Segment Unit); return read (← get).page) >>= k) y
  := by
  simp only [bind_assoc, pure_bind]
  apply Program.LooksLike.modify_left
  · intro scope hscope
    apply (hf scope).trans hscope
  · apply Program.LooksLike.get_left
    rintro scope rfl
    apply h

theorem looksLike_username
    {part : Part} {k : String → Segment Bool} {y : Task Bool}
    (h : Program.LooksLike Scope.page page (k page.username) y) :
  Program.LooksLike Scope.page page (username part >>= k) y
  := by
  apply looksLike_read _ Page.username h
  intro scope
  rfl

theorem looksLike_identity
    {part : Part} {k : Identity → Segment Bool} {y : Task Bool}
    (h : Program.LooksLike Scope.page page (k page.identity) y) :
  Program.LooksLike Scope.page page (identity part >>= k) y
  := by
  apply looksLike_read _ Page.identity h
  intro scope
  rfl

theorem looksLike_contacts
    {k : List (Value × Json) → Segment Bool} {y : Task Bool}
    (h : Program.LooksLike Scope.page page (k page.contacts) y) :
  Program.LooksLike Scope.page page (contacts >>= k) y
  := by
  apply looksLike_read _ Page.contacts h
  intro scope
  rfl

theorem looksLike_socket
    {k : Bool → Segment Bool} {y : Task Bool}
    (h : Program.LooksLike Scope.page page (k page.socketOpen) y) :
  Program.LooksLike Scope.page page (socket >>= k) y
  := by
  apply looksLike_read _ Page.socketOpen h
  intro scope
  rfl

theorem looksLike_relay
    {k : Unit → Segment Bool} {y : Task Bool}
    (h : Program.LooksLike Scope.page page (k ()) y) :
  Program.LooksLike Scope.page page (relay >>= k) y
  := by
  apply Program.LooksLike.modify_left _ h
  exact fun _ => id

/-! ### Sending -/

/-- The end of `sendCurrentMessage`, once the contact is there. -/
theorem looksLike_beginEncryption (n : ℕ) (recipient body : String) (contact : Value) :
  Program.LooksLike Scope.page page
    (beginEncryption P recipient body contact >>= complete P js outside (n + 2))
    (do
      let keyText ← Program.ofExcept (contact.property "encryption_public_key")
      let bytes ← Program.ofExcept
        (routedFrame P js outside.nonce page.identity page.username recipient body keyText)
      if !page.socketOpen then
        throw (.error "Not connected to the relay.")
      modify fun page =>
        ({ page with sent := page.sent ++ [bytes] }.addMessage page.username body)
      setStatus s!"Sent encrypted message to {recipient}."
      return true)
  := by
  simp only [beginEncryption, routedFrame, encryptMessage, bind_assoc, pure_bind,
    Program.ofExcept_bind, Program.ite_bind, Program.throw_bind, complete, resume,
    finishEncryption, finishSend, complete_done]
  apply looksLike_username
  apply Program.LooksLike.ofExcept
  intro keyText
  apply looksLike_identity
  apply Program.LooksLike.ofExcept
  intro senderPublicKey
  apply Program.LooksLike.ofExcept
  intro recipientPublicKey
  apply looksLike_identity
  apply Program.LooksLike.ofExcept
  intro sharedSecret
  apply Program.LooksLike.ofExcept
  intro messageKey
  apply Program.LooksLike.ofExcept
  intro plaintext
  apply Program.LooksLike.ofExcept
  intro ciphertext
  apply looksLike_identity
  apply looksLike_username
  apply Program.LooksLike.ofExcept
  intro bytes
  apply looksLike_socket
  apply Program.LooksLike.ite
  · apply Program.looksLike_throw
  rw [Program.modify_comp (fun page : Page => { page with sent := page.sent ++ [bytes] })
    fun page => page.addMessage page.username body, bind_assoc]
  apply Program.LooksLike.modify
  · rintro scope rfl
    rfl
  apply looksLike_username
  apply Program.LooksLike.modify
  · intro scope hscope
    simp only [hscope]
  apply Program.LooksLike.modify
  · intro scope hscope
    simp only [hscope]
  apply Program.looksLike_pure

/-- A contact that is looked up is added. -/
theorem looksLike_lookUpAndAdd
    {name : Value} {k : Value → Segment Bool} {l : Value → Task Bool}
    (h : ∀ contact contacts storage, Program.LooksLike Scope.page
      { page with contacts := contacts, storage := storage } (k contact) (l contact)) :
  Program.LooksLike Scope.page page
    (do
      let contact ← Program.ofExcept (lookupPublicKey js outside.answer)
      addContact outside name contact
      k contact)
    (lookUpAndAdd js outside name >>= l)
  := by
  simp only [lookUpAndAdd, bind_assoc]
  apply Program.LooksLike.ofExcept
  intro contact
  cases contact with
  | none => apply Program.looksLike_throw
  | some json =>
      simp only [addContact, saveContacts, bind_assoc, pure_bind, Program.ite_bind,
        Program.throw_bind]
      apply Program.LooksLike.ite
      · apply Program.looksLike_throw
      apply Program.LooksLike.ofExcept
      intro key
      apply looksLike_contacts
      apply Program.LooksLike.modify
      · intro scope hscope
        simp only [hscope]
      apply looksLike_username
      apply looksLike_contacts
      apply Program.LooksLike.ite
      · apply Program.looksLike_throw
      apply Program.LooksLike.modify
      · intro scope hscope
        simp only [hscope]
      apply h

/-- `sendCurrentMessage` that is not interrupted. -/
theorem looksLike_sendCurrentMessage (recipient text : String) :
  Program.LooksLike Scope.page page
    (sendCurrentMessage P recipient text >>= complete P js outside 3)
    (do Web.sendCurrentMessage P js outside recipient text; return true)
  := by
  simp only [sendCurrentMessage, Web.sendCurrentMessage, bind_assoc, pure_bind, Program.ite_bind,
    Program.throw_bind]
  apply Program.LooksLike.get_left
  rintro scope rfl
  apply Program.LooksLike.get_right
  apply Program.LooksLike.ite
  · apply Program.looksLike_throw
  apply Program.LooksLike.ite
  · apply Program.looksLike_throw
  apply Program.LooksLike.ite
  · rw [complete_done]
    apply Program.looksLike_pure
  apply looksLike_contacts
  apply Program.LooksLike.ite
  · apply looksLike_beginEncryption
  · apply looksLike_relay
    rw [complete]
    simp only [resume, sendContact, bind_assoc]
    apply looksLike_lookUpAndAdd
    intro contact contacts storage
    apply looksLike_beginEncryption

/-! ### Receiving -/

/-- The end of `receiveEncryptedBytes`, once the contact is there. -/
theorem looksLike_showMessage (n : ℕ) (encrypted plaintext sender contact : Value) :
  Program.LooksLike Scope.page page
    (complete P js outside (n + 1) (.receiveContact encrypted plaintext sender contact))
    (do
      let contactKey ← Program.ofExcept (contact.property "encryption_public_key")
      let senderKey ← Program.ofExcept (encrypted.property "sender_encryption_public_key")
      if !contactKey.strictEq senderKey then
        throw (.error s!"Discarded message from {sender.display}; sender key changed.")
      let body ← Program.ofExcept (plaintext.property "body")
      modify fun page => page.addMessage sender.display body.display
      return true)
  := by
  simp only [complete, resume, showMessage, bind_assoc, pure_bind, Program.ite_bind,
    Program.throw_bind, complete_done]
  apply Program.LooksLike.ofExcept
  intro contactKey
  apply Program.LooksLike.ofExcept
  intro senderKey
  apply Program.LooksLike.ite
  · apply Program.looksLike_throw
  apply Program.LooksLike.ofExcept
  intro body
  apply Program.LooksLike.modify
  · intro scope hscope
    simp only [hscope]
  apply Program.looksLike_pure

/-- `receiveEncryptedBytes` that is not interrupted. -/
theorem looksLike_receiveEncryptedBytes (bytes : Bytes) :
  Program.LooksLike Scope.page page
    (receiveEncryptedBytes P js bytes >>= complete P js outside 4)
    (do Web.receiveEncryptedBytes P js outside bytes; return true)
  := by
  simp only [receiveEncryptedBytes, Web.receiveEncryptedBytes, decryptMessage, bind_assoc,
    pure_bind, Program.ite_bind, Program.throw_bind, Program.ofExcept_bind, Program.ofExcept_ite,
    Program.ofExcept_throw, Program.ofExcept_pure]
  apply Program.LooksLike.get_right
  apply Program.LooksLike.ofExcept
  intro encrypted
  apply Program.LooksLike.ofExcept
  intro version
  apply Program.LooksLike.ite
  · apply Program.looksLike_throw
  apply Program.LooksLike.ofExcept
  intro senderKeyText
  apply Program.LooksLike.ofExcept
  intro senderPublicKey
  apply looksLike_identity
  apply Program.LooksLike.ofExcept
  intro recipientPublicKey
  apply looksLike_identity
  apply Program.LooksLike.ofExcept
  intro sharedSecret
  rw [complete]
  simp only [resume, finishDecryption, bind_assoc, pure_bind, Program.ofExcept_bind]
  apply Program.LooksLike.ofExcept
  intro messageKey
  apply Program.LooksLike.ofExcept
  intro nonceText
  apply Program.LooksLike.ofExcept
  intro nonceBytes
  apply Program.LooksLike.ofExcept
  intro ciphertextText
  apply Program.LooksLike.ofExcept
  intro ciphertext
  apply Program.LooksLike.ofExcept
  intro nonce
  apply Program.LooksLike.ofExcept
  intro text
  apply Program.LooksLike.ofExcept
  intro plaintext
  rw [complete]
  simp only [resume, findContact, findOrAddContact, bind_assoc, pure_bind, Program.ite_bind]
  apply Program.LooksLike.ofExcept
  intro recipient
  apply looksLike_username
  apply Program.LooksLike.ite
  · rw [complete_done]
    apply Program.looksLike_pure
  apply Program.LooksLike.ofExcept
  intro sender
  apply looksLike_contacts
  apply Program.LooksLike.get_right
  apply Program.LooksLike.ite
  · apply looksLike_showMessage
  apply looksLike_relay
  rw [complete]
  simp only [resume, addSender, bind_assoc, pure_bind]
  apply looksLike_lookUpAndAdd
  intro contact contacts storage
  apply Program.LooksLike.ofExcept
  intro name
  apply Program.LooksLike.modify
  · intro scope hscope
    simp only [hscope]
  apply looksLike_showMessage

/-- No segment changes what belongs to whom. -/
theorem stable_owners (owners : Owners) :
  Scope.Stable fun scope => scope.owners = owners
  where
  use _ _ _ h := h
  change _ _ _ h := h

end

end Segment

/-! ### Taking every turn -/

namespace Tab

variable {MessageKey : Type} {P : Primitives MessageKey} {js : JsonCodec} {s : Tab}

theorem runSegment_ok
    {uses : List (Part × String)} {x : Segment Stage} {stage : Stage} {scope : Scope}
    (hx : x.outcome ⟨s.page, s.owners, uses⟩ = (.ok stage, scope)) :
  s.runSegment uses x = (scope.page, ⟨stage, scope.uses⟩)
  := by
  rw [runSegment, hx]

theorem runSegment_error
    {uses : List (Part × String)} {x : Segment Stage} {err : Thrown} {scope : Scope}
    (hx : x.outcome ⟨s.page, s.owners, uses⟩ = (.error err, scope)) :
  s.runSegment uses x = (scope.page, ⟨.done, scope.uses⟩)
  := by
  rw [runSegment, hx]

theorem step_resume
    {outside : Outside} {i : ℕ} {operation operation' : Operation} {page : Page}
    (hi : s.operations[i]? = some operation) (hrunning : operation.isRunning)
    (h : s.runSegment operation.uses (Segment.resume P js outside operation.stage)
      = (page, operation')) :
  s.step P js (.resume i outside)
    = some { s with page := page, operations := s.operations.set i operation' }
  := by
  simp only [step, hi, hrunning, if_true, Option.bind_eq_bind, Option.bind_some, goOn, h]

/-- The operation `i` can take turns until it is over, if `n` of them are enough for it, and
leaves the page that these leave. -/
theorem exists_run_resume
    (outside : Outside) {i : ℕ} {operation : Operation} (hi : s.operations[i]? = some operation)
    {n : ℕ} {page : Page} {result : Except Thrown Bool}
    (h : Prod.map id Scope.page ((Segment.complete P js outside n operation.stage).outcome
      ⟨s.page, s.owners, operation.uses⟩) = (result, page)) (hresult : result ≠ .ok false) :
  ∃ k s', TransitionSystem.run (step P js) s (List.replicate k (.resume i outside)) = some s'
    ∧ s'.page = page ∧ s'.operations[i]?.any fun operation => operation.stage.isDone
  := by
  induction n generalizing s operation with
  | zero =>
      obtain ⟨rfl, rfl⟩ := Prod.mk.inj h
      use 0, s, rfl, rfl
      rw [hi, Option.any_some]
      apply (Bool.eq_false_or_eq_true _).resolve_right
      intro hrunning
      apply hresult
      rw [← hrunning]
      rfl
  | succ n ih =>
      obtain ⟨hlt, -⟩ := List.getElem?_eq_some_iff.mp hi
      cases hrunning : operation.isRunning with
      | true =>
          have howners := (Segment.keeps_resume (Segment.stable_owners s.owners) P js outside
            operation.stage).outcome ⟨s.page, s.owners, operation.uses⟩ rfl
          rw [Segment.complete, Program.outcome_bind] at h
          rcases hx : (Segment.resume P js outside operation.stage).outcome
            ⟨s.page, s.owners, operation.uses⟩ with ⟨err | stage, scope⟩
          · have hstep := step_resume hi hrunning (runSegment_error hx)
            rw [hx] at h
            obtain ⟨rfl, rfl⟩ := Prod.mk.inj h
            refine ⟨1, _, Option.bind_eq_some_iff.mpr ⟨_, hstep, rfl⟩, rfl, ?_⟩
            rw [List.getElem?_set_self hlt]
            rfl
          · have hstep := step_resume hi hrunning (runSegment_ok hx)
            rw [hx] at h howners
            obtain ⟨page', owners', uses'⟩ := scope
            obtain rfl := howners
            let t : Tab :=
              { s with page := page', operations := s.operations.set i ⟨stage, uses'⟩ }
            obtain ⟨k, s', hrun, hs'⟩ := ih (s := t) (List.getElem?_set_self hlt) h
            use k + 1, s', Option.bind_eq_some_iff.mpr ⟨_, hstep, hrun⟩
      | false =>
          have hdone : operation.stage = .done := by
            rw [Operation.isRunning, Bool.not_eq_false'] at hrunning
            cases hstage : operation.stage with
            | done => rfl
            | _ =>
                rw [hstage] at hrunning
                cases hrunning
          rw [hdone, Segment.complete_done] at h
          obtain ⟨rfl, rfl⟩ := Prod.mk.inj h
          use 0, s, rfl, rfl
          rw [hi, Option.any_some, hdone]
          rfl

theorem outcome_return_true (task : Task Unit) (page : Page) :
  ∃ result, Program.outcome (do task; return true) page = (result, (task.outcome page).2)
    ∧ result ≠ .ok false
  := by
  rw [Program.outcome_bind]
  rcases task.outcome page with ⟨err | _, page'⟩
  · use .error err, rfl
    rintro ⟨⟩
  · use .ok true, rfl
    rintro ⟨⟩

/-- An operation that begins can take turns until it is over, and leaves the page that the
task leaves. -/
theorem exists_run_begin
    {a : Action} {uses : List (Part × String)} {x : Segment Stage}
    (hstep : s.step P js a = some (s.begin uses x))
    (hkeeps : Program.Keeps (fun scope => scope.owners = s.owners) x)
    {outside : Outside} {n : ℕ} {task : Task Unit}
    (h : Program.LooksLike Scope.page s.page (x >>= Segment.complete P js outside n)
      (do task; return true)) :
  ∃ k s', TransitionSystem.run (step P js) s
      (a :: List.replicate k (.resume s.operations.length outside)) = some s'
    ∧ s'.page = (task.outcome s.page).2
    ∧ s'.operations[s.operations.length]?.any fun operation => operation.stage.isDone
  := by
  obtain ⟨result, htask, hresult⟩ := outcome_return_true task s.page
  have hlook := (h.outcome ⟨s.page, s.owners, uses⟩ rfl).trans htask
  rw [Program.outcome_bind] at hlook
  rcases hx : x.outcome ⟨s.page, s.owners, uses⟩ with ⟨err | stage, scope⟩
  · rw [hx] at hlook
    rw [begin, runSegment_error hx] at hstep
    refine ⟨0, _, Option.bind_eq_some_iff.mpr ⟨_, hstep, rfl⟩, (Prod.mk.inj hlook).2, ?_⟩
    rw [List.getElem?_concat_length]
    rfl
  · have howners := hkeeps.outcome ⟨s.page, s.owners, uses⟩ rfl
    rw [hx] at hlook howners
    rw [begin, runSegment_ok hx] at hstep
    obtain ⟨page, owners, uses'⟩ := scope
    obtain rfl := howners
    let t : Tab := { s with page := page, operations := s.operations ++ [⟨stage, uses'⟩] }
    obtain ⟨k, s', hrun, hs'⟩ :=
      exists_run_resume (s := t) outside List.getElem?_concat_length hlook hresult
    use k, s', Option.bind_eq_some_iff.mpr ⟨_, hstep, hrun⟩, hs'.1, hs'.2

/-- A message that is sent without interruption. -/
theorem exists_run_send (s : Tab) (outside : Outside) (recipient text : String) :
  ∃ k s', TransitionSystem.run (step P js) s
      (.send recipient text :: List.replicate k (.resume s.operations.length outside)) = some s'
    ∧ s'.page = ((sendCurrentMessage P js outside recipient text).outcome s.page).2
    ∧ s'.operations[s.operations.length]?.any fun operation => operation.stage.isDone
  := by
  apply exists_run_begin rfl
  · apply Segment.keeps_sendCurrentMessage (Segment.stable_owners s.owners).apart
  · apply Segment.looksLike_sendCurrentMessage

/-- A frame that is received without interruption. -/
theorem exists_run_receive
    {owner : String} (howner : s.owners.socket = some owner) (hopen : s.page.socketOpen)
    (outside : Outside) (bytes : Bytes) :
  ∃ k s', TransitionSystem.run (step P js) s
      (.receive bytes :: List.replicate k (.resume s.operations.length outside)) = some s'
    ∧ s'.page = ((receiveEncryptedBytes P js outside bytes).outcome s.page).2
    ∧ s'.operations[s.operations.length]?.any fun operation => operation.stage.isDone
  := by
  apply exists_run_begin
  · simp only [step, howner, hopen, if_true, Option.bind_eq_bind, Option.bind_some]
    rfl
  · apply Segment.keeps_receiveEncryptedBytes (Segment.stable_owners s.owners).apart
  · apply Segment.looksLike_receiveEncryptedBytes

end Tab

end Phantasma.Web
