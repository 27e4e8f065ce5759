import Mathlib.Data.List.Perm.Subperm
import Phantasma.Exchange.System
import Phantasma.Relay.WindDown

/-!
# What is on the way

A run of the system is a run of the users and a run of the relay (`users_reaches` and
`relay_reaches`), and the connections that the clients use are their own
(`connected_of_reaches`).  What happens between the two is recorded in a ledger: the frames that
the relay has accepted, by their tags, and the messages that each client has read.  No frame is
received twice (`accounted_of_step`).
-/

namespace Phantasma.Exchange

open TransitionSystem

variable {User MessageKey : Type} [DecidableEq User] {d : Deployment User MessageKey}
    {s s' s₀ : State User} {a : Action User}

omit [DecidableEq User] in
/-- The condition on the steps of the users, which is all that is needed for what a message says
and whom it gets to. -/
def usual (d : Deployment User MessageKey) (s : State User) : Action User → Prop
  | .away a => d.guard s.users a
  | _ => True

omit [DecidableEq User] in
/-- So it is, and the database of the relay does not fail. -/
def works (d : Deployment User MessageKey) (s : State User) (a : Action User) : Prop :=
  usual d s a ∧ ∀ a', a = .relay a' → Relay.dbSucceeds a'

omit [DecidableEq User] in
/-- So it is, and no queue is loaded while another connection of its user has rows that it has not
deleted. -/
def guard (d : Deployment User MessageKey) (s : State User) (a : Action User) : Prop :=
  works d s a ∧ ∀ a', a = .relay a' → s.relay.LoadsAlone a'

/-- The start of the system: nobody has a connection, and nothing was sent. -/
structure Initial (d : Deployment User MessageKey) (s : State User) : Prop where
  users : d.Initial s.users
  relay : s.relay = Relay.start
  socket : ∀ u, s.socket u = none
  sent : ∀ u, s.sent u = []
  read : ∀ c, s.read c = 0

omit [DecidableEq User] in
theorem usual_of_guard (s : State User) (a : Action User) (h : guard d s a) :
  usual d s a
  := h.1.1

omit [DecidableEq User] in
/-- Only the steps of the relay have a condition of their own. -/
theorem guard_of_usual (h : usual d s a) (ha : ∀ a', a ≠ .relay a') :
  guard d s a
  := ⟨⟨h, fun a' heq => absurd heq (ha a')⟩, fun a' heq => absurd heq (ha a')⟩

/-! ### The two parts -/

/-- A step of the system is a step of the users, or it leaves them as they are. -/
theorem users_of_step (hguard : usual d s a) (hstep : Step d s a s') :
  s'.users = s.users ∨ ∃ a', d.guard s.users a' ∧ d.step s.users a' = some s'.users
  := by
  cases hstep with
  | away haway husers => exact Or.inr ⟨_, hguard, husers⟩
  | join husers | refuse husers | say husers | hear hnext husers | reconnect hloss husers =>
      refine Or.inr ⟨_, ?_, husers⟩
      trivial
  | relay | arrive => exact Or.inl rfl

/-- A step of the system is a step of the relay, one of its own or one that a client makes it take,
or it leaves the relay as it is. -/
theorem relay_of_step (hstep : Step d s a s') :
  s'.relay = s.relay ∨ ∃ a', s.relay.step d.serde a' = some s'.relay
    ∧ (a = .relay a' ∨ ¬ isInner a')
  := by
  cases hstep with
  | away | refuse | say | hear => exact Or.inl rfl
  | join husers hrelay | reconnect hloss husers hrelay =>
      exact Or.inr ⟨_, hrelay, Or.inr Bool.false_ne_true⟩
  | relay hinner hrelay => exact Or.inr ⟨_, hrelay, Or.inl rfl⟩
  | arrive hfirst hrelay => exact Or.inr ⟨_, hrelay, Or.inr Bool.false_ne_true⟩

theorem users_reaches (h : Reaches (step d) (usual d) s s') :
  Reaches d.step d.guard s.users s'.users
  := by
  apply h.simulation State.users (I := fun _ => True) _ _ trivial
  · intro _ _ _ _ _ _
    trivial
  · intro s a s' hguard hstep _
    apply users_of_step hguard (step_of_step hstep)

theorem relay_reaches (h : Reaches (step d) (usual d) s s') :
  Reaches (Relay.step d.serde) anyAction s.relay s'.relay
  := by
  apply h.simulation State.relay (I := fun _ => True) _ _ trivial
  · intro _ _ _ _ _ _
    trivial
  · intro s a s' _ hstep _
    rcases relay_of_step (step_of_step hstep) with hsame | ⟨a', hrelay, -⟩
    · apply Or.inl hsame
    · exact Or.inr ⟨a', trivial, hrelay⟩

/-- What a client makes the relay take is no step of the database. -/
theorem guarded_of_not_inner {r : Relay} {a' : Phantasma.Action} (h : ¬ isInner a') :
  Relay.dbSucceeds a' ∧ r.LoadsAlone a'
  := by
  cases a' with
  | connect | receive => exact ⟨rfl, trivial⟩
  | _ => exact absurd rfl h

theorem relay_reaches_guarded (h : Reaches (step d) (guard d) s s') :
  Reaches (Relay.step d.serde) (fun r a' => Relay.dbSucceeds a' ∧ r.LoadsAlone a')
    s.relay s'.relay
  := by
  apply h.simulation State.relay (I := fun _ => True) _ _ trivial
  · intro _ _ _ _ _ _
    trivial
  · intro s a s' hguard hstep _
    rcases relay_of_step (step_of_step hstep) with hsame | ⟨a', hrelay, hwhere⟩
    · apply Or.inl hsame
    · refine Or.inr ⟨a', ?_, hrelay⟩
      rcases hwhere with rfl | hinner
      · exact ⟨hguard.1.2 a' rfl, hguard.2 a' rfl⟩
      · apply guarded_of_not_inner hinner

omit [DecidableEq User] in
/-- What holds of the users and the relay in every run. -/
structure Sound (d : Deployment User MessageKey) (s : State User) : Prop where
  agrees : d.Agrees s.users
  written : d.Written s.users
  framed : d.Framed s.users
  ready : s.relay.Ready
  inOrder : s.relay.PutsInOrder
  given : s.relay.TagsGiven

omit [DecidableEq User] in
theorem Initial.initial_relay (hs : Initial d s) :
  s.relay.Initial
  := by
  rw [hs.relay]
  apply Relay.initial_start

theorem sound_of_reaches (hs₀ : Initial d s₀) (h : Reaches (step d) (usual d) s₀ s) :
  Sound d s
  := by
  have husers := users_reaches h
  have hagrees := Deployment.agrees_of_initial hs₀.users
  have hinitial := hs₀.initial_relay
  constructor
  · apply Deployment.agrees_of_reaches hagrees husers
  · apply Deployment.written_of_reaches hagrees (Deployment.written_of_initial hs₀.users) husers
  · apply Deployment.framed_of_reaches hs₀.users husers
  · apply Relay.ready_of_reaches (relay_reaches h) hinitial.ready
  · apply Relay.putsInOrder_of_reaches hinitial (relay_reaches h)
  · apply Relay.tagsGiven_of_reaches hinitial (relay_reaches h)

theorem sentOnce_of_reaches (hs₀ : Initial d s₀) (h : Reaches (step d) (guard d) s₀ s) :
  s.relay.SentOnce
  := by
  have hinitial := hs₀.initial_relay
  apply Relay.invariant_of_reaches (I := Relay.SentOnce) _ (relay_reaches_guarded h)
    hinitial.wellformed hinitial.sentOnce
  rintro r a r' ⟨hdb, hloads⟩ hstep hr hsent
  apply hstep.sentOnce hr hdb hloads hsent

/-! ### The ledger -/

omit [DecidableEq User] in
/-- The frames that the relay has accepted, in the order of their tags, each with the user who
has sent it, and the messages that the clients have read. -/
structure Ledger (User : Type) where
  accepted : List (User × Bytes)
  readBy : User → List Message

namespace Ledger

omit [DecidableEq User] in
/-- Nothing has happened. -/
def empty : Ledger User := ⟨[], fun _ => []⟩

/-- The frames of a user that the relay has accepted. -/
def acceptedOf (l : Ledger User) (u : User) : List Bytes :=
  (l.accepted.filter fun entry => entry.1 = u).map Prod.snd

omit [DecidableEq User] in
/-- A frame of a user is accepted. -/
def accept (l : Ledger User) (u : User) (frame : Bytes) : Ledger User :=
  { l with accepted := l.accepted ++ [(u, frame)] }

/-- The client of a user reads a message. -/
def read (l : Ledger User) (u : User) (message : Message) : Ledger User :=
  { l with readBy := Function.update l.readBy u (l.readBy u ++ [message]) }

end Ledger

/-- The ledger after the step from `s` to `s'` by `a`. -/
def record (s : State User) (a : Action User) (s' : State User) (l : Ledger User) :
    Ledger User :=
  match a with
  | .arrive u c =>
      match s.first u c with
      | some frame => if s.relay.nextTag < s'.relay.nextTag then l.accept u frame else l
      | none => l
  | .hear u _ _ _ =>
      match s.next u with
      | some (_, message) => l.read u message
      | none => l
  | _ => l

/-! ### Connections -/

omit [DecidableEq User] in
/-- The connection is one of the user. -/
def Owns (d : Deployment User MessageKey) (s : State User) (u : User) (c : ℕ) : Prop :=
  ∃ conn, s.relay.connections[c]? = some conn ∧ conn.username = d.name u

/-- A step takes the connections of the relay along what a step of the relay does. -/
theorem along_of_step
    {R : Connection → Connection → Prop} (hrefl : ∀ conn, R conn conn)
    (hR : ∀ {r a' r'}, Relay.Step d.serde r a' r' → Relay.Along R r r')
    (hstep : Step d s a s') :
  Relay.Along R s.relay s'.relay
  := by
  rcases relay_of_step hstep with hsame | ⟨a', hrelay, -⟩
  · rw [hsame]
    intro c conn hc
    exact ⟨conn, hc, hrefl conn⟩
  · apply hR (Relay.step_of_step hrelay)

theorem Owns.of_step
    {u : User} {c : ℕ} (h : Owns d s u c) (hstep : Step d s a s') :
  Owns d s' u c
  := by
  obtain ⟨conn, hc, hname⟩ := h
  obtain ⟨conn', hc', hlater⟩ := along_of_step .refl Relay.Step.later hstep c conn hc
  exact ⟨conn', hc', hlater.username.trans hname⟩

omit [DecidableEq User] in
/-- The connections that the clients use are their own, and nothing was read that is not
written. -/
structure Connected (d : Deployment User MessageKey) (s : State User) : Prop where
  socket : ∀ u c, s.socket u = some c → Owns d s u c
  sent : ∀ u, ∀ frame ∈ s.sent u, Owns d s u frame.1
  read : ∀ c, s.relay.connections[c]? = none → s.read c = 0

/-- A client that connects has the new connection. -/
theorem owns_connected
    {u : User} {users : Deployment.State User} {relay : Relay}
    (hrelay : s.relay.step d.serde (.connect (d.name u)) = some relay) :
  Owns d (s.connected u users relay) u s.relay.connections.length
  := by
  obtain ⟨-, ⟨⟩⟩ := Option.ite_none_right_eq_some.mp hrelay
  use .new (d.name u) s.relay.nextConnectionId
  constructor
  · simp [State.connected, Relay.connect]
  · rfl

omit [DecidableEq User] in
/-- The next message of a client. -/
theorem next_eq_some {u : User} {c : ℕ} {message : Message} :
  s.next u = some (c, message) ↔ s.socket u = some c
    ∧ ∃ conn, s.relay.connections[c]? = some conn ∧ conn.written[s.read c]? = some message
  := by
  rw [State.next]
  cases s.socket u with
  | none => simp
  | some c' =>
      cases hc : s.relay.connections[c']? with
      | none =>
          simp only [hc, reduceCtorEq, Option.some.injEq, false_iff]
          rintro ⟨rfl, conn, hconn, -⟩
          rw [hc] at hconn
          cases hconn
      | some conn =>
          simp only [hc, Option.map_eq_some_iff, Prod.mk.injEq, Option.some.injEq]
          constructor
          · rintro ⟨message', hget, rfl, rfl⟩
            exact ⟨rfl, conn, hc, hget⟩
          · rintro ⟨rfl, conn', hconn, hget⟩
            obtain rfl := Option.some.inj (hc.symm.trans hconn)
            exact ⟨message, hget, rfl, rfl⟩

/-- A connection that is not there after a step was not there before. -/
theorem none_of_step {c : ℕ} (hstep : Step d s a s') (hc : s'.relay.connections[c]? = none) :
  s.relay.connections[c]? = none
  := by
  by_contra hsome
  obtain ⟨conn, hconn⟩ := Option.ne_none_iff_exists'.mp hsome
  obtain ⟨conn', hc', -⟩ := along_of_step .refl Relay.Step.later hstep c conn hconn
  rw [hc] at hc'
  cases hc'

theorem connected_of_step (hs : Connected d s) (hstep : Step d s a s') :
  Connected d s'
  := by
  have hsocket : ∀ u c, s.socket u = some c → Owns d s' u c :=
    fun u c hu => (hs.socket u c hu).of_step hstep
  have hsent : ∀ u, ∀ frame ∈ s.sent u, Owns d s' u frame.1 :=
    fun u frame hframe => (hs.sent u frame hframe).of_step hstep
  have hread : ∀ c, s'.relay.connections[c]? = none → s.read c = 0 :=
    fun c hc => hs.read c (none_of_step hstep hc)
  cases hstep with
  | away | refuse | relay => exact ⟨hsocket, hsent, hread⟩
  | @hear u outside succeeds lost c message users hnext =>
      refine ⟨hsocket, hsent, ?_⟩
      intro c' hc'
      obtain ⟨-, conn, hc, -⟩ := next_eq_some.mp hnext
      have hne : c' ≠ c := by
        rintro rfl
        cases hc'.symm.trans hc
      simp only [State.heard, Function.update_apply, if_neg hne]
      apply hread c' hc'
  | join husers hrelay | reconnect hloss husers hrelay =>
      refine ⟨?_, hsent, hread⟩
      intro v c hv
      simp only [State.connected, Function.update_apply] at hv
      split at hv
      · rename_i heq
        cases hv
        rw [heq]
        apply owns_connected hrelay
      · apply hsocket v c hv
  | @say u typed outside succeeds lost users husers =>
      refine ⟨hsocket, ?_, hread⟩
      intro v frame hframe
      simp only [State.speak, Function.update_apply] at hframe
      split at hframe
      · rename_i heq
        subst heq
        rcases List.mem_append.mp hframe with hold | hnew
        · apply hsent v frame hold
        · rw [State.spoken] at hnew
          split at hnew
          · cases hnew
          · rename_i c hc
            obtain ⟨bytes, -, rfl⟩ := List.mem_map.mp hnew
            apply hsocket v c hc
      · apply hsent v frame hframe
  | arrive hfirst hrelay =>
      refine ⟨hsocket, ?_, hread⟩
      intro v frame hframe
      simp only [State.arrived, Function.update_apply] at hframe
      split at hframe
      · rename_i heq
        rw [heq]
        apply hsent _ frame (List.mem_of_mem_erase hframe)
      · apply hsent v frame hframe

omit [DecidableEq User] in
theorem connected_of_initial (hs : Initial d s) :
  Connected d s
  where
  socket u c hu := by
    rw [hs.socket] at hu
    cases hu
  sent u frame hframe := by
    rw [hs.sent] at hframe
    cases hframe
  read c _ := hs.read c

theorem connected_of_reaches
    {usual : State User → Action User → Prop} (hs₀ : Connected d s₀)
    (h : Reaches (step d) usual s₀ s) :
  Connected d s
  := by
  apply h.invariant _ hs₀
  intro s a s' _ hstep hs
  apply connected_of_step hs (step_of_step hstep)

/-! ### Frames -/

/-- The frames that a client has given to its socket stay, with more behind them. -/
theorem frames_grow
    (hs : Sound d s) (hguard : usual d s a) (hstep : Step d s a s') (u : User) :
  (s.users.terminals u).client.frames <+: (s'.users.terminals u).client.frames
  := by
  rcases users_of_step hguard hstep with hsame | ⟨a', hguard', husers⟩
  · rw [hsame]
  · have hchanges := Deployment.changes_of_step hs.agrees hguard' husers
    apply (hchanges.terminals u).done_grows Event.frame?

/-- No frame is received twice: the frames of a user that were accepted, and those that have not
arrived yet, are among those that the client has given to its socket. -/
def Accounted (s : State User) (l : Ledger User) : Prop :=
  ∀ u, (l.acceptedOf u ++ (s.sent u).map Prod.snd).Subperm (s.users.terminals u).client.frames

/-- Where nothing is given to a socket and nothing is received, the frames are accounted for. -/
theorem Accounted.of_prefix
    (hl : Accounted s l) (hsent : s'.sent = s.sent)
    (hframes : ∀ u, (s.users.terminals u).client.frames
      <+: (s'.users.terminals u).client.frames) :
  Accounted s' l
  := by
  intro u
  rw [hsent]
  apply (hl u).trans (hframes u).sublist.subperm

theorem acceptedOf_accept_self (l : Ledger User) (u : User) (frame : Bytes) :
  (l.accept u frame).acceptedOf u = l.acceptedOf u ++ [frame]
  := by
  simp [Ledger.accept, Ledger.acceptedOf]

theorem acceptedOf_accept_of_ne (l : Ledger User) {u v : User} (frame : Bytes) (hv : v ≠ u) :
  (l.accept u frame).acceptedOf v = l.acceptedOf v
  := by
  simp [Ledger.accept, Ledger.acceptedOf, Ne.symm hv]

omit [DecidableEq User] in
/-- The first frame of a connection is one of those that have not arrived. -/
theorem mem_of_first {u : User} {c : ℕ} {frame : Bytes} (h : s.first u c = some frame) :
  (c, frame) ∈ s.sent u
  := by
  obtain ⟨⟨c', frame'⟩, hfind, rfl⟩ := Option.map_eq_some_iff.mp h
  obtain rfl : c' = c := by simpa using List.find?_some hfind
  apply List.mem_of_find?_eq_some hfind

/-- A frame that is received, accepted or not, was on the way. -/
theorem Accounted.arrived
    (hl : Accounted s l) {u : User} {c : ℕ} {frame : Bytes} {relay : Relay}
    (hfirst : s.first u c = some frame) :
  Accounted (s.arrived u (c, frame) relay) l
    ∧ Accounted (s.arrived u (c, frame) relay) (l.accept u frame)
  := by
  have hperm : ((s.sent u).map Prod.snd).Perm
      (frame :: ((s.sent u).erase (c, frame)).map Prod.snd) :=
    (List.perm_cons_erase (mem_of_first hfirst)).map Prod.snd
  have hsent : (s.arrived u (c, frame) relay).sent
      = Function.update s.sent u ((s.sent u).erase (c, frame)) := rfl
  have husers : (s.arrived u (c, frame) relay).users = s.users := rfl
  constructor
  · intro v
    rw [hsent, husers, Function.update_apply]
    split
    · rename_i heq
      subst heq
      apply List.Subperm.trans _ (hl v)
      apply List.Sublist.subperm
      apply List.Sublist.append_left
      apply List.erase_sublist.map
    · apply hl v
  · intro v
    rw [hsent, husers, Function.update_apply]
    split
    · rename_i heq
      subst heq
      rw [acceptedOf_accept_self, List.append_assoc, List.singleton_append]
      apply (hperm.symm.append_left (l.acceptedOf v)).subperm.trans (hl v)
    · rename_i hne
      rw [acceptedOf_accept_of_ne l frame hne]
      apply hl v

/-- The frames of a turn are on the way. -/
theorem Accounted.speak
    (hl : Accounted s l) {u : User} {users : Deployment.State User}
    (hframes : ∀ v, (s.users.terminals v).client.frames
      <+: (users.terminals v).client.frames) :
  Accounted (s.speak u users) l
  := by
  intro v
  have hsent : (s.speak u users).sent
      = Function.update s.sent u (s.sent u ++ s.spoken u users) := rfl
  have husers : (s.speak u users).users = users := rfl
  rw [hsent, husers, Function.update_apply]
  split
  · rename_i heq
    subst heq
    obtain ⟨new, hnew⟩ := hframes v
    have hspoken : ((s.spoken v users).map Prod.snd).Sublist new := by
      rw [State.spoken]
      split
      · apply List.nil_sublist
      · rw [← hnew, List.drop_left, List.map_map]
        simp [Function.comp_def]
    rw [List.map_append, ← List.append_assoc, ← hnew]
    apply (hl v).append hspoken.subperm
  · apply (hl v).trans (hframes v).sublist.subperm

theorem record_arrive
    {u : User} {c : ℕ} {frame : Bytes} (hfirst : s.first u c = some frame) (l : Ledger User) :
  record s (.arrive u c) s' l
    = if s.relay.nextTag < s'.relay.nextTag then l.accept u frame else l
  := by
  simp only [record, hfirst]

theorem record_hear
    {u : User} {outside : Outside} {succeeds lost : Bool} {c : ℕ} {message : Message}
    (hnext : s.next u = some (c, message)) (l : Ledger User) :
  record s (.hear u outside succeeds lost) s' l = l.read u message
  := by
  simp only [record, hnext]

theorem accounted_of_step
    (hl : Accounted s l) (hs : Sound d s) (hguard : usual d s a) (hstep : Step d s a s') :
  Accounted s' (record s a s' l)
  := by
  have hframes := frames_grow hs hguard hstep
  cases hstep with
  | away | join | refuse | reconnect | relay => exact hl.of_prefix rfl hframes
  | @hear u outside succeeds lost c message users hnext =>
      rw [record_hear hnext]
      have hread : Accounted (s.heard c users) l := hl.of_prefix rfl hframes
      apply hread
  | say => apply hl.speak hframes
  | arrive hfirst =>
      rw [record_arrive hfirst]
      split
      · apply (hl.arrived hfirst).2
      · apply (hl.arrived hfirst).1

end Phantasma.Exchange
