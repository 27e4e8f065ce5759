import Phantasma.Deployment.Delivery

/-!
# What the clients of the users have done

A step of the users makes at most one client do more than print, and that in a turn
(`client_of_step`).  So the frames that a client has given to its sockets are one by one those of
messages that it has encrypted (`framed_of_reaches`).
-/

namespace Phantasma.Deployment

open TransitionSystem

variable {User MessageKey : Type} {d : Deployment User MessageKey} {s s' s₀ : State User}
    {u v : User}

/-! ### One step -/

theorem onlyPrints_of_eq (h : s'.terminals v = s.terminals v) :
  OnlyPrints (s.terminals v).client (s'.terminals v).client
  := by
  rw [h]
  apply OnlyPrints.refl

section

variable [DecidableEq User]

/-- A client that is started prints. -/
theorem onlyPrints_start
    (s : State User) {attempt opening : Attempt} (hsees : (d.fs u).windows → attempt.seesFile)
    (v : User) :
  OnlyPrints (s.terminals v).client ((d.start s u attempt opening).terminals v).client
  := by
  rw [start]
  rcases hload : (loadUser (d.fs u) (d.store u) (d.name u) attempt opening).outcome
    (s.terminals u).toMachine with ⟨_ | identity, machine⟩
  all_goals
    by_cases hv : v = u
    · subst hv
      have hprints := (loaded (d.writesFiles v) hsees hload).prints
      simpa [State.send] using hprints
    · apply onlyPrints_of_eq
      apply terminals_setTerminal_of_ne s _ hv

/-- A client whose registration is answered prints. -/
theorem onlyPrints_register
    (s : State User) (u : User) (identity : LoadedIdentity) (succeeds lost : Bool)
    (failures : List String) (v : User) :
  OnlyPrints (s.terminals v).client
    ((d.register s u identity succeeds lost failures).terminals v).client
  := by
  by_cases hv : v = u
  · subst hv
    rw [register]
    rcases hjoin : (joinRelay (d.endpoints v) (d.name v) (if lost then none else
      (d.net.register d.serde (d.endpoints v) s.directory succeeds
        (identity.registration (d.name v))).1) failures).outcome (s.terminals v).client
      with ⟨result, client⟩
    dsimp only
    rw [hjoin]
    have hprints := (joined hjoin).2.2.1
    simpa using hprints
  · apply onlyPrints_of_eq
    apply terminals_setTerminal_of_ne s _ hv

/-- A step makes a client print, or it is a turn of that client. -/
theorem client_of_step
    {a : Action User} (hguard : d.guard s a) (hstep : d.step s a = some s') (v : User) :
  OnlyPrints (s.terminals v).client (s'.terminals v).client
    ∨ ∃ identity input succeeds lost, a = .turn v input succeeds lost
      ∧ (s.terminals v).progress = .running identity
      ∧ (s'.terminals v).client = ((Phantasma.turn (d.setup v identity) d.library
        (input.answered (d.setup v identity) (d.lookup s.directory v succeeds lost))).outcome
          (s.terminals v).client).2
  := by
  cases a with
  | start u attempt opening =>
      rw [step] at hstep
      split at hstep
      · cases hstep
        apply Or.inl (onlyPrints_start s hguard v)
      · cases hstep
  | register u succeeds lost failures =>
      rw [step] at hstep
      split at hstep
      · cases hstep
        apply Or.inl
        apply onlyPrints_register
      · cases hstep
  | arrive registration succeeds =>
      obtain ⟨-, ⟨⟩⟩ := Option.ite_none_right_eq_some.mp hstep
      apply Or.inl (OnlyPrints.refl _)
  | turn u input succeeds lost =>
      rw [step] at hstep
      split at hstep
      · rename_i identity hrunning
        cases hstep
        by_cases hv : v = u
        · subst hv
          right
          refine ⟨identity, input, succeeds, lost, rfl, hrunning, ?_⟩
          rw [takeTurn]
          simp
        · apply Or.inl
          apply onlyPrints_of_eq
          apply terminals_setTerminal_of_ne s _ hv
      · cases hstep
  | quit u =>
      cases hstep
      left
      by_cases hv : v = u
      · subst hv
        simpa using OnlyPrints.refl _
      · apply onlyPrints_of_eq
        apply terminals_setTerminal_of_ne s _ hv
  | registerOther registration succeeds =>
      cases hstep
      apply Or.inl (OnlyPrints.refl _)

/-- A step makes a client give its socket no frame, or that of a message that it encrypts in the
step. -/
theorem frames_of_step
    {a : Action User} (hguard : d.guard s a) (hstep : d.step s a = some s') (v : User) :
  (s'.terminals v).client.frames = (s.terminals v).client.frames
    ∨ ∃ recipient body encrypted frame,
      RoutedEncryptedMessage.toWireBytes d.serde ⟨d.name v, recipient, encrypted⟩ = .ok frame
        ∧ (s'.terminals v).client.frames = (s.terminals v).client.frames ++ [frame]
        ∧ (s'.terminals v).client.encryptions
          = (s.terminals v).client.encryptions ++ [(recipient, body, encrypted)]
  := by
  rcases client_of_step hguard hstep v with hprints
    | ⟨identity, input, succeeds, lost, rfl, -, hturn⟩
  · apply Or.inl hprints.frames_eq
  · rw [hturn]
    rcases frames_turn (d.setup v identity) d.library (s.terminals v).client _ with hnothing
      | ⟨_, _, recipient, body, _, encrypted, frame, -, -, -, hbytes, hframe, hnew⟩
    · apply Or.inl hnothing
    · exact Or.inr ⟨recipient, body, encrypted, frame, hbytes, hframe, hnew⟩

/-- A step makes a client display nothing, or the message that a frame opens as which it receives
in the step. -/
theorem displayed_of_step
    {a : Action User} (hguard : d.guard s a) (hstep : d.step s a = some s') (v : User) :
  (s'.terminals v).client.displayed = (s.terminals v).client.displayed
    ∨ ∃ identity bytes outside succeeds lost message encrypted,
      a = .turn v (.binary bytes outside) succeeds lost
        ∧ (s.terminals v).progress = .running identity
        ∧ openFrame (d.setup v identity) bytes
          = .ok (encrypted, ⟨message.1, d.name v, message.2⟩)
        ∧ (s'.terminals v).client.displayed = (s.terminals v).client.displayed ++ [message]
  := by
  rcases client_of_step hguard hstep v with hprints
    | ⟨identity, input, succeeds, lost, rfl, hrunning, hturn⟩
  · apply Or.inl hprints.displayed_eq
  · rw [hturn]
    rcases Phantasma.displayed_turn (d.setup v identity) d.library
      (s.terminals v).client (input.answered (d.setup v identity)
        (d.lookup s.directory v succeeds lost)) with hnothing | ⟨message, hshows, hnew⟩
    · apply Or.inl hnothing
    · right
      cases input with
      | binary bytes outside =>
          obtain ⟨encrypted, -, hopen, -⟩ := hshows
          exact ⟨identity, bytes, outside, succeeds, lost, message, encrypted, rfl, hrunning,
            hopen, hnew⟩
      | _ => cases hshows

end

/-! ### In every run -/

/-- The frame is that of the message that the user has encrypted. -/
def IsFrameOf (d : Deployment User MessageKey) (u : User) (frame : Bytes)
    (encryption : String × String × EncryptedChatMessage) : Prop :=
  RoutedEncryptedMessage.toWireBytes d.serde ⟨d.name u, encryption.1, encryption.2.2⟩ = .ok frame

/-- The frames that a client has given to its sockets are those of messages that it has
encrypted, one by one. -/
def Framed (d : Deployment User MessageKey) (s : State User) : Prop :=
  ∀ u, ∃ used, used.Sublist (s.terminals u).client.encryptions
    ∧ List.Forall₂ (d.IsFrameOf u) (s.terminals u).client.frames used

theorem framed_of_initial (hs : d.Initial s) :
  d.Framed s
  := by
  intro u
  refine ⟨[], List.nil_sublist _, ?_⟩
  rw [Client.frames, Client.done, hs.events]
  apply List.Forall₂.nil

/-- What a client has done of a kind stays, with more behind it. -/
theorem TerminalChanges.done_grows
    {Kind : Type} (kind : Event → Option Kind) (h : d.TerminalChanges s s' u) :
  (s.terminals u).client.done kind <+: (s'.terminals u).client.done kind
  := h.before.filterMap kind

/-- What a client has done of a kind stays in every run. -/
theorem done_of_reaches
    [DecidableEq User] {Kind : Type} (kind : Event → Option Kind) (hs : d.Agrees s)
    (h : Reaches d.step d.guard s s') (u : User) :
  (s.terminals u).client.done kind <+: (s'.terminals u).client.done kind
  := by
  have hboth : d.Agrees s' ∧ (s.terminals u).client.done kind
      <+: (s'.terminals u).client.done kind := by
    apply h.invariant (I := fun t => d.Agrees t ∧ (s.terminals u).client.done kind
      <+: (t.terminals u).client.done kind) _ ⟨hs, List.prefix_refl _⟩
    rintro t a t' hguard hstep ⟨ht, hdone⟩
    have hchanges := changes_of_step ht hguard hstep
    exact ⟨ht.of_changes hchanges, hdone.trans ((hchanges.terminals u).done_grows kind)⟩
  apply hboth.2

theorem framed_of_reaches
    [DecidableEq User] (hs₀ : d.Initial s₀) (h : Reaches d.step d.guard s₀ s) :
  d.Framed s
  := by
  have hboth : d.Agrees s ∧ d.Framed s := by
    apply h.invariant (I := fun s => d.Agrees s ∧ d.Framed s) _
      ⟨agrees_of_initial hs₀, framed_of_initial hs₀⟩
    rintro s a s' hguard hstep ⟨hs, hframed⟩
    have hchanges := changes_of_step hs hguard hstep
    use hs.of_changes hchanges
    intro u
    obtain ⟨used, hused, hframes⟩ := hframed u
    rcases frames_of_step hguard hstep u with hsame
      | ⟨recipient, body, encrypted, frame, hbytes, hframe, hnew⟩
    · rw [hsame]
      use used
      constructor
      · apply hused.trans
        apply ((hchanges.terminals u).done_grows Event.encrypted?).sublist
      · apply hframes
    · rw [hframe, hnew]
      use used ++ [(recipient, body, encrypted)], hused.append (List.Sublist.refl _)
      apply List.rel_append hframes
      exact List.Forall₂.cons hbytes List.Forall₂.nil
  apply hboth.2

end Phantasma.Deployment
