import Mathlib.Data.List.Basic
import Phantasma.Base.TransitionSystem

/-!
# Reconnecting in the browser client

`connectWebSocket` replaces the socket of the page: it cancels the timer in the slot
`state.reconnectTimer`, closes the socket in the slot `state.socket`, and puts a new one
there.  It runs at the end of `start`, once the registration has been answered, and when a
reconnect timer fires.  A timer is set when a socket is closed, whether or not it is still
the one in the slot.

`undisturbed_of_reaches` says that a timer never closes a working socket, as long as the
close event of a replaced socket is not handled.
-/

namespace Phantasma.Web

/-- `WebSocket.readyState`. -/
inductive ReadyState where
  | connecting
  | open
  | closing
  | closed
deriving DecidableEq

namespace ReadyState

/-- The socket is still connecting or open. -/
def isWorking : ReadyState → Bool
  | .connecting | .open => true
  | _ => false

/-- The state after `close()`. -/
def close : ReadyState → ReadyState
  | .closed => .closed
  | _ => .closing

end ReadyState

/-- The part of the page that is about connections: `state.started`, `state.socket` and
`state.reconnectTimer`, with the calls of `start` that await their registration, the sockets
that were made, the timers that are set, and the number of timers that were made.
`closedByTimer` has the states of the sockets that `close()` was called on by a timer, the
oldest first. -/
structure Connections where
  started : Bool
  starts : ℕ
  sockets : List ReadyState
  socket : Option ℕ
  reconnectTimer : Option ℕ
  timers : List ℕ
  nextTimer : ℕ
  closedByTimer : List ReadyState
deriving DecidableEq

namespace Connections

/-- The page after it is loaded. -/
def loaded : Connections where
  started := false
  starts := 0
  sockets := []
  socket := none
  reconnectTimer := none
  timers := []
  nextTimer := 0
  closedByTimer := []

/-- What can happen on the page. -/
inductive Action where
  /-- `start` runs to its registration. -/
  | start
  /-- `start` throws after it has set `state.started`. -/
  | startThrows
  /-- The registration of a call of `start` is answered; `constructs` says whether
  `new WebSocket` succeeds. -/
  | registered (constructs : Bool)
  /-- The registration of a call of `start` fails. -/
  | notRegistered
  /-- The open event of a socket. -/
  | opened (i : ℕ)
  /-- The other side begins to close a socket. -/
  | closing (i : ℕ)
  /-- A socket is closed, and its close event is handled. -/
  | closed (i : ℕ)
  /-- A reconnect timer fires. -/
  | fire (t : ℕ) (constructs : Bool)

/-- The state of the socket in the slot. -/
def current (s : Connections) : Option ReadyState :=
  s.socket.bind fun i => s.sockets[i]?

/-- `clearTimeout(state.reconnectTimer)`. -/
def clearTimeout (s : Connections) : Connections :=
  { s with timers := s.timers.filter fun t => s.reconnectTimer ≠ some t }

/-- `state.socket.close()`, if there is a socket. -/
def closeSocket (s : Connections) : Connections :=
  match s.socket with
  | some i => { s with sockets := s.sockets.modify i ReadyState.close }
  | none => s

/-- `new WebSocket(..)` and the assignment of `state.socket`. -/
def newSocket (s : Connections) (constructs : Bool) : Connections :=
  if constructs then
    { s with sockets := s.sockets ++ [.connecting], socket := some s.sockets.length }
  else s

/-- `connectWebSocket`. -/
def connectWebSocket (s : Connections) (constructs : Bool) : Connections :=
  (s.clearTimeout.closeSocket).newSocket constructs

/-- The close event of the socket `i`. -/
def handleClose (s : Connections) (i : ℕ) : Connections :=
  if s.started then
    { s with
      sockets := s.sockets.set i .closed
      reconnectTimer := some s.nextTimer
      timers := s.timers ++ [s.nextTimer]
      nextTimer := s.nextTimer + 1 }
  else { s with sockets := s.sockets.set i .closed }

/-- A step of the page. -/
def step (s : Connections) : Action → Option Connections
  | .start => some { s with started := true, starts := s.starts + 1 }
  | .startThrows => some { s with started := true }
  | .registered constructs =>
      if 0 < s.starts then
        some ({ s with starts := s.starts - 1 }.connectWebSocket constructs)
      else none
  | .notRegistered => if 0 < s.starts then some { s with starts := s.starts - 1 } else none
  | .opened i =>
      if s.sockets[i]? = some .connecting then
        some { s with sockets := s.sockets.set i .open }
      else none
  | .closing i =>
      if s.sockets[i]?.any ReadyState.isWorking then
        some { s with sockets := s.sockets.set i .closing }
      else none
  | .closed i =>
      if s.sockets[i]?.any fun state => state ≠ .closed then some (s.handleClose i) else none
  | .fire t constructs =>
      if t ∈ s.timers then
        some ({ s with
          timers := s.timers.erase t
          closedByTimer := s.closedByTimer ++ s.current.toList }.connectWebSocket constructs)
      else none

/-- A timer has never closed a working socket. -/
def Undisturbed (s : Connections) : Prop :=
  ∀ state ∈ s.closedByTimer, ¬ state.isWorking

instance : DecidablePred Undisturbed := fun s =>
  inferInstanceAs (Decidable (∀ state ∈ s.closedByTimer, ¬ state.isWorking))

/-- The close event of a socket is handled only while the socket is in the slot. -/
def ClosesCurrent (s : Connections) : Action → Prop
  | .closed i => s.socket = some i
  | _ => True

instance (s : Connections) : ∀ a, Decidable (s.ClosesCurrent a)
  | .closed i => inferInstanceAs (Decidable (s.socket = some i))
  | .start | .startThrows | .registered _ | .notRegistered | .opened _ | .closing _ | .fire _ _ =>
      .isTrue trivial

/-! ### The timer in the slot -/

/-- At most the timer in the slot is set, once, and then the socket in the slot is closed. -/
structure Calm (s : Connections) : Prop where
  timers : s.timers = [] ∨ ∃ t, s.timers = [t] ∧ s.reconnectTimer = some t
  closed : s.timers ≠ [] → ∀ state ∈ s.current, state = .closed
  undisturbed : s.Undisturbed

theorem calm_loaded :
  loaded.Calm
  where
  timers := .inl rfl
  closed hne := absurd rfl hne
  undisturbed := by
    rintro state ⟨⟩

/-- Cancelling the timer in the slot cancels the timer that is set. -/
theorem Calm.timers_clearTimeout {s : Connections} (h : s.Calm) :
  s.clearTimeout.timers = []
  := by
  rw [clearTimeout]
  rcases h.timers with hnone | ⟨t, ht, hslot⟩
  · rw [hnone, List.filter_nil]
  · rw [ht, hslot]
    simp

theorem timers_connectWebSocket (s : Connections) (constructs : Bool) :
  (s.connectWebSocket constructs).timers = s.clearTimeout.timers
  := by
  rw [connectWebSocket, newSocket, closeSocket]
  split <;> split <;> rfl

theorem closedByTimer_connectWebSocket (s : Connections) (constructs : Bool) :
  (s.connectWebSocket constructs).closedByTimer = s.closedByTimer
  := by
  rw [connectWebSocket, newSocket, closeSocket]
  split <;> split <;> rfl

/-- After `connectWebSocket` no timer is set. -/
theorem calm_connectWebSocket
    {s : Connections} (htimers : s.clearTimeout.timers = []) (h : s.Undisturbed)
    (constructs : Bool) :
  (s.connectWebSocket constructs).Calm
  := by
  have hnone : (s.connectWebSocket constructs).timers = [] := by
    rw [timers_connectWebSocket, htimers]
  constructor
  · left
    apply hnone
  · intro hne
    apply absurd hnone hne
  · rw [Undisturbed, closedByTimer_connectWebSocket]
    apply h

/-- The socket in the slot is not one that is still to be closed, if a timer is set. -/
theorem Calm.socket_ne
    {s : Connections} (h : s.Calm) (hne : s.timers ≠ []) {i : ℕ}
    (hi : s.sockets[i]?.any fun state => state ≠ .closed) :
  s.socket ≠ some i
  := by
  intro hsocket
  obtain ⟨state, hstate, hopen⟩ := (Option.any_eq_true _ _).mp hi
  have hclosed := h.closed hne state
  rw [current, hsocket, Option.bind_some] at hclosed
  rw [hclosed hstate] at hopen
  cases hopen

/-- What happens to a socket that is not closed yet keeps the page calm. -/
theorem Calm.setSocket
    {s : Connections} (h : s.Calm) {i : ℕ}
    (hi : s.sockets[i]?.any fun state => state ≠ .closed) (state' : ReadyState) :
  { s with sockets := s.sockets.set i state' }.Calm
  where
  timers := h.timers
  closed hne state hstate := by
    apply h.closed hne
    obtain ⟨j, hsocket, hstate⟩ := Option.bind_eq_some_iff.mp hstate
    have hij : i ≠ j := by
      rintro rfl
      apply h.socket_ne hne hi hsocket
    rw [List.getElem?_set_ne hij] at hstate
    apply Option.bind_eq_some_iff.mpr
    use j
  undisturbed := h.undisturbed

/-- The close event of the socket in the slot sets the only timer. -/
theorem Calm.handleClose
    {s : Connections} (h : s.Calm) {i : ℕ} (hsocket : s.socket = some i)
    (hi : s.sockets[i]?.any fun state => state ≠ .closed) :
  (s.handleClose i).Calm
  := by
  have htimers : s.timers = [] := by
    by_contra hne
    apply h.socket_ne hne hi hsocket
  rw [Connections.handleClose]
  split
  · constructor
    · right
      use s.nextTimer
      rw [htimers]
      exact ⟨rfl, rfl⟩
    · intro _ state hstate
      rw [current, hsocket, Option.bind_some] at hstate
      obtain ⟨hlt, hset⟩ := List.getElem?_eq_some_iff.mp hstate
      rw [List.getElem_set_self] at hset
      apply hset.symm
    · apply h.undisturbed
  · apply h.setSocket hi

/-- A step keeps the page calm. -/
theorem Calm.step
    {s s' : Connections} {a : Action} (h : s.Calm) (hcloses : s.ClosesCurrent a)
    (hstep : s.step a = some s') :
  s'.Calm
  := by
  cases a with
  | start | startThrows =>
      obtain rfl := Option.some.inj hstep
      exact ⟨h.timers, h.closed, h.undisturbed⟩
  | notRegistered =>
      obtain ⟨-, ⟨⟩⟩ := Option.ite_none_right_eq_some.mp hstep
      exact ⟨h.timers, h.closed, h.undisturbed⟩
  | registered constructs =>
      obtain ⟨-, ⟨⟩⟩ := Option.ite_none_right_eq_some.mp hstep
      apply calm_connectWebSocket
      · apply h.timers_clearTimeout
      · apply h.undisturbed
  | opened i =>
      obtain ⟨hi, ⟨⟩⟩ := Option.ite_none_right_eq_some.mp hstep
      apply h.setSocket
      rw [hi]
      rfl
  | closing i =>
      obtain ⟨hi, ⟨⟩⟩ := Option.ite_none_right_eq_some.mp hstep
      apply h.setSocket
      obtain ⟨state, hstate, hworking⟩ := (Option.any_eq_true _ _).mp hi
      rw [hstate]
      cases state <;> cases hworking <;> rfl
  | closed i =>
      obtain ⟨hi, ⟨⟩⟩ := Option.ite_none_right_eq_some.mp hstep
      apply h.handleClose hcloses hi
  | fire t constructs =>
      obtain ⟨ht, ⟨⟩⟩ := Option.ite_none_right_eq_some.mp hstep
      have hclosed := h.closed (List.ne_nil_of_mem ht)
      rcases h.timers with hnone | ⟨t', ht', hslot⟩
      · rw [hnone] at ht
        cases ht
      · apply calm_connectWebSocket
        · rw [ht', List.mem_singleton] at ht
          subst ht
          simp [clearTimeout, ht']
        · intro state hstate
          rcases List.mem_append.mp hstate with hold | hnew
          · apply h.undisturbed state hold
          · rw [hclosed state (Option.mem_toList.mp hnew)]
            rintro ⟨⟩

/-- A timer never closes a working socket, as long as no close event of a replaced socket is
handled. -/
theorem undisturbed_of_reaches
    {s : Connections} (h : TransitionSystem.Reaches step ClosesCurrent loaded s) :
  s.Undisturbed
  := by
  have hcalm : s.Calm := by
    apply h.invariant _ calm_loaded
    intro t a t' hcloses hstep ht
    apply ht.step hcloses hstep
  apply hcalm.undisturbed

/-- The socket of the first sign-in is closed, and a timer connects again. -/
def reconnects : List Action :=
  [.start, .registered true, .opened 0, .closing 0, .closed 0, .fire 0 true, .opened 1]

/-- The timer of `reconnects` closes the socket that was closed before it. -/
theorem undisturbed_of_reaches_sample :
  ∃ s, TransitionSystem.run step loaded reconnects = some s ∧ s.Undisturbed
  := by
  have hrun : (TransitionSystem.run (TransitionSystem.guarded step ClosesCurrent) loaded
      reconnects).isSome := by
    decide
  obtain ⟨s, hs⟩ := Option.isSome_iff_exists.mp hrun
  use s, TransitionSystem.run_of_run_guarded hs
  apply undisturbed_of_reaches (TransitionSystem.reaches_of_run_guarded hs)

/-- The user signs in again while the socket is open, the close event of the first socket
comes after the second one is open, and the timer that it sets closes the second one. -/
theorem not_undisturbed :
  ¬ ∀ s : Connections,
    TransitionSystem.Reaches step TransitionSystem.anyAction loaded s → s.Undisturbed
  := by
  intro hundisturbed
  let actions : List Action := [.start, .registered true, .opened 0, .start, .registered true,
    .opened 1, .closed 0, .fire 0 true]
  have hrun : (TransitionSystem.run step loaded actions).isSome := by
    decide
  have hcloses : ∀ t ∈ TransitionSystem.run step loaded actions, ¬ t.Undisturbed := by
    decide
  obtain ⟨s, hs⟩ := Option.isSome_iff_exists.mp hrun
  apply hcloses s hs
  apply hundisturbed
  apply TransitionSystem.reaches_any_of_run hs

end Connections

end Phantasma.Web
