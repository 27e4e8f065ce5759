import Phantasma.Exchange.Invariant

/-!
# What the relay handles and the clients read

What the relay handles, it has accepted, and the tag of a message says when (`tagged_of_step`);
a client reads no message twice (`readOnce_of_step`); and what it displays, it has read
(`displays_of_step`).  Every run has a ledger with these properties (`exists_ledger`).
-/

namespace Phantasma.Exchange

open TransitionSystem

variable {User MessageKey : Type} [DecidableEq User] {d : Deployment User MessageKey}
    {s s' s₀ : State User} {l : Ledger User} {a : Action User}

/-! ### Tags -/

omit [DecidableEq User] in
/-- The message was accepted for the recipient, as the ledger has it. -/
def Ledger.Made (d : Deployment User MessageKey) (l : Ledger User) (recipient : String)
    (message : Message) : Prop :=
  ∃ u frame, l.accepted[message.tag]? = some (u, frame)
    ∧ checkPayload d.serde (d.name u) frame = .ok (.accepted recipient message.payload)

omit [DecidableEq User] in
/-- The tags are the places in the ledger, and what the relay handles was accepted. -/
structure Tagged (d : Deployment User MessageKey) (s : State User) (l : Ledger User) : Prop where
  length : l.accepted.length = s.relay.nextTag
  routed : s.relay.Routed (l.Made d)

omit [DecidableEq User] in
/-- What was accepted stays so. -/
theorem Ledger.Made.accept
    {recipient : String} {message : Message} (h : l.Made d recipient message) (u : User)
    (frame : Bytes) :
  (l.accept u frame).Made d recipient message
  := by
  obtain ⟨v, frame', hget, hcheck⟩ := h
  refine ⟨v, frame', ?_, hcheck⟩
  apply List.getElem?_eq_some_iff.mpr
  obtain ⟨hlt, hget⟩ := List.getElem?_eq_some_iff.mp hget
  have hlt' : message.tag < (l.accepted ++ [(u, frame)]).length := by
    rw [List.length_append]
    omega
  use hlt'
  rw [← hget]
  apply List.getElem_append_left hlt

omit [DecidableEq User] in
/-- A step in which nothing is received gives out no tag. -/
theorem nextTag_of_step
    {t t' : Relay} {a' : Phantasma.Action} (hstep : Relay.Step d.serde t a' t')
    (ha' : ∀ c bytes, a' ≠ .receive c bytes) :
  t'.nextTag = t.nextTag
  := by
  cases hstep with
  | accept | refuse => apply absurd rfl (ha' _ _)
  | _ => rfl

omit [DecidableEq User] in
/-- A frame that is received gets the next tag, if it is accepted. -/
theorem nextTag_of_receive
    {t t' : Relay} {c : ℕ} {bytes : Bytes} (hstep : Relay.Step d.serde t (.receive c bytes) t')
    (hlt : t.nextTag < t'.nextTag) :
  t'.nextTag = t.nextTag + 1
  := by
  cases hstep with
  | accept => rfl
  | refuse => apply absurd hlt (lt_irrefl _)

omit [DecidableEq User] in
theorem Tagged.of_inner
    (hl : Tagged d s l) (hs : Sound d s) {a' : Phantasma.Action}
    (hrelay : s.relay.step d.serde a' = some s'.relay) (ha' : ∀ c bytes, a' ≠ .receive c bytes) :
  Tagged d s' l
  := by
  have hstep := Relay.step_of_step hrelay
  constructor
  · rw [nextTag_of_step hstep ha', hl.length]
  · apply hstep.routed hs.ready.toWellformed hl.routed
    intro c bytes _ _ _ hreceive
    apply absurd hreceive (ha' c bytes)

omit [DecidableEq User] in
/-- What the relay accepts is in the ledger. -/
theorem Tagged.of_receive
    (hl : Tagged d s l) (hs : Sound d s) {u : User} {c : ℕ} {frame : Bytes}
    (hown : Owns d s u c) (hrelay : s.relay.step d.serde (.receive c frame) = some s'.relay) :
  Tagged d s' (if s.relay.nextTag < s'.relay.nextTag then l.accept u frame else l)
  := by
  have hstep := Relay.step_of_step hrelay
  obtain ⟨conn, hc, hname⟩ := hown
  split
  · rename_i hlt
    constructor
    · rw [nextTag_of_receive hstep hlt, Ledger.accept, List.length_append, hl.length,
        List.length_singleton]
    · apply hstep.routed hs.ready.toWellformed
      · apply hl.routed.mono
        intro recipient message hmade
        apply hmade.accept
      · rintro _ _ conn' recipient payload ⟨⟩ hc' hcheck
        obtain rfl := Option.some.inj (hc.symm.trans hc')
        refine ⟨u, frame, ?_, ?_⟩
        · rw [Ledger.accept, ← hl.length]
          apply List.getElem?_concat_length
        · rw [← hname]
          apply hcheck
  · rename_i hnot
    constructor
    · rw [hl.length]
      apply Nat.le_antisymm hstep.nextTag_le (not_lt.mp hnot)
    · apply hstep.routed hs.ready.toWellformed hl.routed
      rintro _ _ conn' recipient payload ⟨⟩ hc' hcheck
      apply absurd (hstep.nextTag_lt_of_accepted hc' hcheck) hnot

theorem tagged_of_step
    (hl : Tagged d s l) (hs : Sound d s) (hconnected : Connected d s) (hstep : Step d s a s') :
  Tagged d s' (record s a s' l)
  := by
  cases hstep with
  | away | refuse | say => exact ⟨hl.length, hl.routed⟩
  | hear hnext =>
      rw [record_hear hnext]
      exact ⟨hl.length, hl.routed⟩
  | join husers hrelay | reconnect hloss husers hrelay =>
      apply hl.of_inner hs hrelay
      rintro _ _ ⟨⟩
  | relay hinner hrelay =>
      apply hl.of_inner hs hrelay
      rintro _ _ rfl
      cases hinner
  | arrive hfirst hrelay =>
      rw [record_arrive hfirst]
      apply hl.of_receive hs (hconnected.sent _ _ (mem_of_first hfirst)) hrelay

/-! ### Reading -/

omit [DecidableEq User] in
/-- What a client has read was written to connections of its user, and it has read nothing
twice. -/
structure ReadOnce (d : Deployment User MessageKey) (s : State User) (l : Ledger User) :
    Prop where
  written : ∀ u, ∀ message ∈ l.readBy u, ∃ c conn i, s.relay.connections[c]? = some conn
    ∧ conn.username = d.name u ∧ i < s.read c ∧ conn.written[i]? = some message
  nodup : ∀ u, ((l.readBy u).map Message.tag).Nodup

/-- What a client has read stays written. -/
theorem written_later
    (hl : ReadOnce d s l) (hstep : Step d s a s')
    (hread : ∀ c, s.read c ≤ s'.read c) {u : User} {message : Message}
    (hmessage : message ∈ l.readBy u) :
  ∃ c conn i, s'.relay.connections[c]? = some conn ∧ conn.username = d.name u ∧ i < s'.read c
    ∧ conn.written[i]? = some message
  := by
  obtain ⟨c, conn, i, hc, hname, hi, hwritten⟩ := hl.written u message hmessage
  obtain ⟨conn', hc', hlater⟩ := along_of_step .refl Relay.Step.later hstep c conn hc
  obtain ⟨conn'', hc'', hprefix⟩ := along_of_step (fun _ => List.prefix_refl _)
    Relay.Step.written hstep c conn hc
  obtain rfl := Option.some.inj (hc'.symm.trans hc'')
  refine ⟨c, conn', i, hc', hlater.username.trans hname, hi.trans_le (hread c), ?_⟩
  obtain ⟨hlt, hget⟩ := List.getElem?_eq_some_iff.mp hwritten
  rw [← hget]
  apply List.prefix_iff_getElem?.mp hprefix

omit [DecidableEq User] in
/-- A client that reads on reads a message that it has not read. -/
theorem tag_notMem_of_next
    (hl : ReadOnce d s l) (hs : Sound d s) (hsent : s.relay.SentOnce) {u : User} {c : ℕ}
    {message : Message} (hnext : s.next u = some (c, message)) :
  message.tag ∉ (l.readBy u).map Message.tag
  := by
  intro hmem
  obtain ⟨old, hold, htag⟩ := List.mem_map.mp hmem
  obtain ⟨c', conn', i, hc', -, hi, hwritten'⟩ := hl.written u old hold
  obtain ⟨-, conn, hc, hwritten⟩ := next_eq_some.mp hnext
  obtain ⟨rfl, rfl⟩ := hsent.eq_of_written hs.inOrder hc' hc hwritten' hwritten htag
  apply lt_irrefl _ hi

theorem readOnce_of_step
    (hl : ReadOnce d s l) (hs : Sound d s) (hsent : s.relay.SentOnce)
    (hconnected : Connected d s) (hstep : Step d s a s') :
  ReadOnce d s' (record s a s' l)
  := by
  have hstays := written_later hl hstep
  cases hstep with
  | away | join | refuse | say | reconnect | relay =>
      exact ⟨fun u message => hstays (fun _ => le_refl _), hl.nodup⟩
  | arrive hfirst =>
      rw [record_arrive hfirst]
      split
      all_goals exact ⟨fun u message => hstays (fun _ => le_refl _), hl.nodup⟩
  | @hear u outside succeeds lost c message users hnext husers =>
      have hread : ∀ c', s.read c' ≤ (s.heard c users).read c' := by
        intro c'
        simp only [State.heard, Function.update_apply]
        split
        · rename_i heq
          rw [heq]
          apply Nat.le_succ
        · apply le_refl
      rw [record_hear hnext]
      constructor
      · intro v old hold
        simp only [Ledger.read, Function.update_apply] at hold
        split at hold
        · rename_i heq
          subst heq
          rcases List.mem_append.mp hold with hold | hnew
          · apply hstays hread hold
          · obtain rfl := List.mem_singleton.mp hnew
            obtain ⟨hsocket, conn, hc, hwritten⟩ := next_eq_some.mp hnext
            obtain ⟨conn', hc', hname⟩ := hconnected.socket v c hsocket
            obtain rfl := Option.some.inj (hc.symm.trans hc')
            refine ⟨c, conn, s.read c, hc, hname, ?_, hwritten⟩
            simp [State.heard]
        · apply hstays hread hold
      · intro v
        simp only [Ledger.read, Function.update_apply]
        split
        · rename_i heq
          subst heq
          rw [List.map_append]
          apply (hl.nodup v).append (List.nodup_singleton _)
          apply List.disjoint_singleton.mpr
          apply tag_notMem_of_next hl hs hsent hnext
        · apply hl.nodup v

/-! ### Displaying -/

omit [DecidableEq User] in
/-- The client of the user opens the payload of the message as what is displayed. -/
def IsDisplayOf (d : Deployment User MessageKey) (s : State User) (v : User)
    (displayed : String × String) (message : Message) : Prop :=
  ∃ identity encrypted, d.InSession s.users v identity
    ∧ openFrame (d.setup v identity) message.payload
      = .ok (encrypted, ⟨displayed.1, d.name v, displayed.2⟩)

omit [DecidableEq User] in
/-- The clients display, one by one, messages that they have read. -/
def Displays (d : Deployment User MessageKey) (s : State User) (l : Ledger User) : Prop :=
  ∀ v, ∃ opened, opened.Sublist (l.readBy v)
    ∧ List.Forall₂ (IsDisplayOf d s v) (s.users.terminals v).client.displayed opened

/-- What a client opens, it opens later. -/
theorem IsDisplayOf.of_step
    {v : User} {displayed : String × String} {message : Message}
    (h : IsDisplayOf d s v displayed message) (hs : Sound d s) (hguard : usual d s a)
    (hstep : Step d s a s') :
  IsDisplayOf d s' v displayed message
  := by
  obtain ⟨identity, encrypted, hsession, hopen⟩ := h
  refine ⟨identity, encrypted, ?_, hopen⟩
  rcases users_of_step hguard hstep with hsame | ⟨a', hguard', husers⟩
  · rw [hsame]
    apply hsession
  · apply hsession.of_changes (Deployment.changes_of_step hs.agrees hguard' husers)

/-- A step that is no turn in which a message is read makes a client display nothing. -/
theorem displayed_of_users
    {a' : Deployment.Action User} {users : Deployment.State User} (hguard : d.guard s.users a')
    (husers : d.step s.users a' = some users)
    (ha' : ∀ v bytes outside succeeds lost, a' ≠ .turn v (.binary bytes outside) succeeds lost)
    (v : User) :
  (users.terminals v).client.displayed = (s.users.terminals v).client.displayed
  := by
  rcases Deployment.displayed_of_step hguard husers v with hsame
    | ⟨_, bytes, outside, succeeds, lost, _, _, hturn, -⟩
  · apply hsame
  · apply absurd hturn (ha' v bytes outside succeeds lost)

omit [DecidableEq User] in
/-- Where nothing is displayed, the ledger stays. -/
theorem Displays.of_eq
    (hl : Displays d s l) (hlater : ∀ v displayed message,
      IsDisplayOf d s v displayed message → IsDisplayOf d s' v displayed message)
    (hdisplayed : ∀ v, (s'.users.terminals v).client.displayed
      = (s.users.terminals v).client.displayed) :
  Displays d s' l
  := by
  intro v
  obtain ⟨opened, hsublist, hopened⟩ := hl v
  use opened, hsublist
  rw [hdisplayed]
  apply hopened.imp (hlater v)

/-- A client displays at most the message that it reads. -/
theorem Displays.hear
    (hl : Displays d s l) (hs : Sound d s) {u : User} {outside : Outside} {succeeds lost : Bool}
    {message : Message}
    (husers : d.step s.users (.turn u (.binary message.payload outside) succeeds lost)
      = some s'.users)
    (hlater : ∀ v displayed message,
      IsDisplayOf d s v displayed message → IsDisplayOf d s' v displayed message) :
  Displays d s' (l.read u message)
  := by
  intro v
  obtain ⟨opened, hsublist, hopened⟩ := hl v
  have hopened := hopened.imp (hlater v)
  have hread : (l.readBy v).Sublist ((l.read u message).readBy v) := by
    simp only [Ledger.read, Function.update_apply]
    split
    · rename_i heq
      rw [heq]
      apply List.sublist_append_left
    · apply List.Sublist.refl
  have hguard : d.guard s.users (.turn u (.binary message.payload outside) succeeds lost) :=
    trivial
  rcases Deployment.displayed_of_step hguard husers v with hsame
    | ⟨identity, _, _, _, _, displayed, encrypted, ⟨⟩, hrunning, hopen, hnew⟩
  · rw [hsame]
    exact ⟨opened, hsublist.trans hread, hopened⟩
  · have hsession := hs.agrees.session u identity (by rw [hrunning]; rfl)
    rw [hnew]
    refine ⟨opened ++ [message], ?_, ?_⟩
    · simp only [Ledger.read, Function.update_self]
      apply hsublist.append (List.Sublist.refl _)
    · apply List.rel_append hopened
      apply List.Forall₂.cons _ List.Forall₂.nil
      apply hlater u displayed message ⟨identity, encrypted, hsession, hopen⟩

theorem displays_of_step
    (hl : Displays d s l) (hs : Sound d s) (hguard : usual d s a) (hstep : Step d s a s') :
  Displays d s' (record s a s' l)
  := by
  have hlater : ∀ v displayed message,
      IsDisplayOf d s v displayed message → IsDisplayOf d s' v displayed message :=
    fun v displayed message h => h.of_step hs hguard hstep
  cases hstep with
  | relay => exact hl.of_eq hlater fun _ => rfl
  | arrive hfirst =>
      rw [record_arrive hfirst]
      split
      all_goals apply hl.of_eq hlater fun _ => rfl
  | away haway husers =>
      apply hl.of_eq hlater
      apply displayed_of_users hguard husers
      rintro v bytes outside succeeds lost rfl
      cases haway
  | join husers | refuse husers | say husers =>
      apply hl.of_eq hlater
      refine displayed_of_users ?_ husers ?_
      · trivial
      · rintro v bytes outside succeeds lost ⟨⟩
  | reconnect hloss husers =>
      apply hl.of_eq hlater
      refine displayed_of_users ?_ husers ?_
      · trivial
      · rintro v bytes outside succeeds lost ⟨⟩
        cases hloss
  | hear hnext husers =>
      rw [record_hear hnext]
      apply hl.hear hs husers hlater

/-! ### In every run -/

/-- What the ledger of a run says. -/
structure Told (d : Deployment User MessageKey) (s : State User) (l : Ledger User) : Prop where
  accounted : Accounted s l
  tagged : Tagged d s l
  readOnce : ReadOnce d s l
  displays : Displays d s l

theorem told_of_step
    (hl : Told d s l) (hs : Sound d s) (hsent : s.relay.SentOnce) (hconnected : Connected d s)
    (hguard : usual d s a) (hstep : Step d s a s') :
  Told d s' (record s a s' l)
  where
  accounted := accounted_of_step hl.accounted hs hguard hstep
  tagged := tagged_of_step hl.tagged hs hconnected hstep
  readOnce := readOnce_of_step hl.readOnce hs hsent hconnected hstep
  displays := displays_of_step hl.displays hs hguard hstep

theorem told_of_initial (hs : Initial d s) :
  Told d s .empty
  where
  accounted u := by
    rw [hs.sent]
    apply List.nil_subperm
  tagged := by
    have hstart := hs.initial_relay
    refine ⟨?_, ?_, ?_, ?_⟩
    · rw [hs.relay]
      rfl
    · rw [hs.relay]
      rintro row ⟨⟩
    · simp [hstart.puts]
    · simp [hstart.connections]
  readOnce := by
    refine ⟨?_, fun u => List.nodup_nil⟩
    intro u message hmessage
    cases hmessage
  displays v := by
    refine ⟨[], List.nil_sublist _, ?_⟩
    rw [Client.displayed, Client.done, hs.users.events]
    apply List.Forall₂.nil

/-- Every run has a ledger. -/
theorem exists_ledger (hs₀ : Initial d s₀) (h : Reaches (step d) (guard d) s₀ s) :
  ∃ l, Told d s l
  := by
  induction h with
  | refl => exact ⟨.empty, told_of_initial hs₀⟩
  | @tail t t' hreach hmove ih =>
      obtain ⟨a, hguard, hstep⟩ := hmove
      obtain ⟨l, hl⟩ := ih
      have hsound := sound_of_reaches hs₀ (Reaches.mono usual_of_guard hreach)
      have hconnected := connected_of_reaches (connected_of_initial hs₀) hreach
      use record t a t' l
      apply told_of_step hl hsound (sentOnce_of_reaches hs₀ hreach) hconnected hguard.1.1
        (step_of_step hstep)

end Phantasma.Exchange
