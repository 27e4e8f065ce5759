import Phantasma.Deployment.Guarantees
import Phantasma.Exchange.Service

/-!
# A message gets through

A line that a user types becomes a queued message (`exists_queued`), which the other user reads and
displays (`exists_shown_of_waits`); so from every state that the system reaches a line gets through
(`exists_shown`).
-/

namespace Phantasma.Exchange

open TransitionSystem

variable {User MessageKey : Type} [DecidableEq User] {d : Deployment User MessageKey}
    {s s' s₀ : State User} {u v : User}

/-! ### Sending -/

/-- The frame of a turn is on the way. -/
theorem sent_speak
    {users : Deployment.State User} {c : ℕ} {frame : Bytes} (hsocket : s.socket u = some c)
    (hframes : (users.terminals u).client.frames
      = (s.users.terminals u).client.frames ++ [frame]) :
  (s.speak u users).sent u = s.sent u ++ [(c, frame)]
  := by
  simp only [State.speak, Function.update_self, State.spoken, hsocket, hframes, List.drop_left,
    List.map_cons, List.map_nil]

omit [DecidableEq User] in
/-- It is the first of its connection, if nothing else is on the way there. -/
theorem first_eq_some
    {sent : List (ℕ × Bytes)} {c : ℕ} {frame : Bytes} (hsent : s.sent u = sent ++ [(c, frame)])
    (hnone : ∀ other ∈ sent, other.1 ≠ c) :
  s.first u c = some frame
  := by
  have hold : sent.find? (fun frame => frame.1 = c) = none := by
    apply List.find?_eq_none.mpr
    intro other hother
    simpa using hnone other hother
  rw [State.first, hsent, List.find?_append, hold]
  simp

/-- The message of the frame that `u` sent to `v` is queued: the client of `v` can open it, and the
relay has nothing else to do. -/
structure Waits (d : Deployment User MessageKey) (s : State User) (u v : User) (body : String)
    (frame : Bytes) : Prop where
  down : Down s
  usable : d.Usable s.users v
  queued : ∃ publicKey encrypted message, d.Wrote s.users u (d.name v) body publicKey encrypted
    ∧ checkPayload d.serde (d.name u) frame = .ok (.accepted (d.name v) message.payload)
    ∧ d.serde.fromSlice message.payload = some encrypted.toJson
    ∧ s.relay.Queued (d.name v) message

/-- The first frame that a user gives to a new socket is the first that waits there. -/
theorem Online.first_speak
    {s₁ : State User} (honline : Online d s u s₁) (hs : Connected d s)
    {users : Deployment.State User} {frame : Bytes}
    (hframes : (users.terminals u).client.frames
      = (s₁.users.terminals u).client.frames ++ [frame]) :
  (s₁.speak u users).first u s.relay.connections.length = some frame
  := by
  apply first_eq_some (sent_speak honline.socket hframes)
  rw [honline.sent]
  intro other hother heq
  obtain ⟨conn, hconn, -⟩ := hs.sent u other hother
  apply absurd heq (List.getElem?_eq_some_iff.mp hconn).1.ne

/-- The typed line is a step of the system. -/
theorem step_say
    {users : Deployment.State User} {typed body : String} {frame : Bytes}
    (hspeaks : d.Speaks s.users u v typed body users frame) :
  step d s (.say u typed Deployment.workingOutside true false) = some (s.speak u users)
  := by
  simp only [step, hspeaks.step, Option.map_some]

omit [DecidableEq User] in
theorem runsAlone_say (typed : String) (outside : Outside) :
  runsAlone d s (.say u typed outside true false)
  := by
  apply runsAlone_of_usual
  · trivial
  · trivial
  · rintro _ ⟨⟩

/-- The frame of a user who has come online is received, and the message is queued. -/
theorem exists_received
    {s₁ : State User} (hs₀ : Initial d s₀) (h : Reaches (step d) (usual d) s₀ s)
    (hdown : Down s) (honline : Online d s u s₁) {users : Deployment.State User}
    {typed body : String} {frame : Bytes}
    (hspeaks : d.Speaks s₁.users u v typed body users frame)
    (husable : d.Usable users v) (hne : u ≠ v) :
  ∃ s', Reaches (step d) (runsAlone d) (s₁.speak u users) s' ∧ Waits d s' u v body frame
  := by
  obtain ⟨conn, hconn, hname, hwaiting, halive, -⟩ := honline.connection
  let c := s.relay.connections.length
  let s₂ := s₁.speak u users
  have hreach₁ : Reaches (step d) (usual d) s₀ s₁ :=
    h.trans (honline.reaches.mono usual_of_runsAlone)
  have hreach₂ : Reaches (step d) (usual d) s₀ s₂ :=
    hreach₁.tail ⟨_, usual_of_runsAlone _ _ (runsAlone_say ..), step_say hspeaks⟩
  have hs₁ := sound_of_reaches hs₀ hreach₁
  have hs₂ := sound_of_reaches hs₀ hreach₂
  obtain ⟨payload, publicKey, encrypted, hwrote, hcheck, hpayload⟩ :=
    hspeaks.exists_payload hs₂.agrees hs₂.written
  have hfirst : s₂.first u c = some frame :=
    honline.first_speak (connected_of_reaches (connected_of_initial hs₀) h) hspeaks.frames
  have haccepts := hcheck
  rw [← hname] at haccepts
  obtain ⟨hreceive, r, hrun, hdown', hqueued⟩ := Relay.exists_queued hs₁.ready hs₁.inOrder
    hs₁.given (fun e other hne hother => honline.tornDown hdown hne hother) hconn hwaiting halive
    haccepts (by rw [hname]; exact fun heq => hne (d.name_injective heq))
  let s₃ := s₂.arrived u (c, frame) (s₁.relay.accept c conn frame (d.name v) payload)
  have hmove : Moves (step d) (runsAlone d) s₂ s₃ := by
    have hreceive : s₂.relay.step d.serde (.receive c frame)
        = some (s₁.relay.accept c conn frame (d.name v) payload) := hreceive
    refine ⟨.arrive u c, runsAlone_of_usual trivial ?_ ?_, ?_⟩
    · exact fun _ => Relay.forall_of_getElem? hconn halive
    · rintro _ ⟨⟩
    · simp only [step, hfirst, Option.bind_eq_bind, Option.bind_some, hreceive, Option.map_some,
        s₃]
  have hspawned : s₃.relay.OthersSpawned c := by
    intro e other hne he
    have he := (Relay.getElem?_accept_of_ne hconn frame (d.name v) payload hne).symm.trans he
    rw [(honline.tornDown hdown hne he).1]
    rfl
  refine ⟨{ s₃ with relay := r }, ?_, hdown', husable, ?_⟩
  · apply Relation.ReflTransGen.trans (.single hmove)
    apply reaches_relay_alone hrun hspawned
  · exact ⟨publicKey, encrypted, ⟨_, payload⟩, hwrote, hcheck, hpayload, hqueued⟩

/-- Where all connections are torn down, a line that a user types becomes a message that is queued
for another user: both come online, one after the other, and the relay is wound down in between. -/
theorem exists_queued
    (hs₀ : Initial d s₀) (h : Reaches (step d) (usual d) s₀ s) (hdown : Down s)
    (hu : d.Usable s.users u) (hv : d.Usable s.users v) (hne : u ≠ v)
    (hlookup : d.CanBeLookedUp v) {typed rest body : String}
    (hcommand : parseCommand typed = .send rest)
    (hparse : parseSend rest = some (d.name v, body)) :
  ∃ s₁ users s₃ frame, Reaches (step d) (runsAlone d) s s₁
    ∧ d.Speaks s₁.users u v typed body users frame
    ∧ Reaches (step d) (runsAlone d) (s₁.speak u users) s₃ ∧ Waits d s₃ u v body frame
  := by
  obtain ⟨s₁, honline₁⟩ := exists_online (sound_of_reaches hs₀ h) hdown hv
  have hreach₁ : Reaches (step d) (usual d) s₀ s₁ :=
    h.trans (honline₁.reaches.mono usual_of_runsAlone)
  obtain ⟨r, hdrop, hdown₂⟩ := honline₁.exists_down hdown (sound_of_reaches hs₀ hreach₁)
  have hreach₂ := hreach₁.trans (hdrop.mono usual_of_runsAlone)
  have hu₂ : d.Usable s₁.users u := hu.of_eq (honline₁.terminals u hne)
  obtain ⟨s₃, honline₃⟩ := exists_online (sound_of_reaches hs₀ hreach₂) hdown₂ hu₂
  have hreach₃ := hreach₂.trans (honline₃.reaches.mono usual_of_runsAlone)
  have hterminal : s₃.users.terminals v = s₁.users.terminals v :=
    honline₃.terminals v (Ne.symm hne)
  obtain ⟨identity, hurunning⟩ := honline₃.running
  obtain ⟨identity', hvrunning⟩ := honline₁.running
  rw [← hterminal] at hvrunning
  obtain ⟨users, frame, hspeaks⟩ := Deployment.exists_speaks
    (sound_of_reaches hs₀ hreach₃).agrees hurunning hvrunning hlookup hcommand hparse
  have husable : d.Usable users v :=
    honline₁.usable.of_eq ((hspeaks.others v (Ne.symm hne)).trans hterminal)
  obtain ⟨s', hreach, hwaits⟩ :=
    exists_received hs₀ hreach₂ hdown₂ honline₃ hspeaks husable hne
  use s₃, users, s', frame, (honline₁.reaches.trans hdrop).trans honline₃.reaches, hspeaks, hreach

/-! ### Displaying -/

/-- A message that is queued is displayed. -/
theorem exists_shown_of_waits
    (hs₀ : Initial d s₀) (h : Reaches (step d) (usual d) s₀ s) {body : String} {frame : Bytes}
    (hwaits : Waits d s u v body frame) (hlookup : d.CanBeLookedUp u) :
  ∃ s₁ s₂ c message, Reaches (step d) (runsAlone d) s s₁ ∧ s₁.next v = some (c, message)
    ∧ checkPayload d.serde (d.name u) frame = .ok (.accepted (d.name v) message.payload)
    ∧ step d s₁ (.hear v Deployment.workingOutside true false) = some s₂
    ∧ (s₂.users.terminals v).client.displayed
      = (s₁.users.terminals v).client.displayed ++ [(d.name u, body)]
  := by
  obtain ⟨publicKey, encrypted, message, hwrote, hcheck, hpayload, row, hrow, hrecipient, rfl⟩ :=
    hwaits.queued
  obtain ⟨s₁, honline⟩ := exists_online (sound_of_reaches hs₀ h) hwaits.down hwaits.usable
  obtain ⟨identity, hrunning⟩ := honline.running
  obtain ⟨conn, hconn, -, -, -, hwritten⟩ := honline.connection
  have hmem : row.message ∈ conn.written := by
    rw [hwritten]
    apply List.mem_map_of_mem
    apply (QueuedMessages.mem_queuedMessagesFor ..).mpr ⟨hrow, hrecipient⟩
  obtain ⟨i, hlt, hget⟩ := List.mem_iff_getElem.mp hmem
  have hread : s₁.read s.relay.connections.length = 0 := by
    rw [honline.read]
    apply (connected_of_reaches (connected_of_initial hs₀) h).read
    apply List.getElem?_eq_none (Nat.le_refl _)
  obtain ⟨s₂, hreach₂, hrelay, hsocket, hread₂, hrunning₂⟩ :=
    exists_heard (d := d) i honline.socket hconn hrunning (by omega)
  have hnext : s₂.next v = some (s.relay.connections.length, row.message) := by
    apply next_eq_some.mpr
    rw [hsocket, hrelay, hread₂, hread, Nat.zero_add]
    exact ⟨honline.socket, conn, hconn, List.getElem?_eq_some_iff.mpr ⟨hlt, hget⟩⟩
  have hall : Reaches (step d) (runsAlone d) s s₂ := honline.reaches.trans hreach₂
  have hs := sound_of_reaches hs₀ h
  have hs₂ := sound_of_reaches hs₀ (h.trans (hall.mono usual_of_runsAlone))
  have hwrote₂ :=
    Deployment.wrote_of_reaches hs.agrees hwrote (users_reaches (hall.mono usual_of_runsAlone))
  obtain ⟨hstep, -⟩ := step_hear (d := d) hrunning₂ hnext Deployment.workingOutside
  have hwrite : Deployment.workingOutside.write = .complete := rfl
  have hshown := (Deployment.displayed_takeTurn hs₂.agrees hrunning₂ hwrote₂ hpayload
    (fun _ => hlookup) hwrite).2
  exact ⟨s₂, _, _, _, hall, hnext, hcheck, hstep, hshown⟩

/-- `GetsThrough d G s u v typed body frame s₁ s₂ s₃ s₄`: after a run from `s` to `s₁`, the user `u`
types the line `typed` and the frame `frame` is given to the socket; after a run from `s₂` to `s₃`,
the client of `v` reads the payload of this frame and displays the message `body`, behind what it
had displayed before.  The steps of the runs meet `G`. -/
structure GetsThrough (d : Deployment User MessageKey) (G : State User → Action User → Prop)
    (s : State User) (u v : User) (typed body : String) (frame : Bytes)
    (s₁ s₂ s₃ s₄ : State User) : Prop where
  before : Reaches (step d) G s s₁
  say : step d s₁ (.say u typed Deployment.workingOutside true false) = some s₂
  frames : (s₂.users.terminals u).client.frames
    = (s₁.users.terminals u).client.frames ++ [frame]
  after : Reaches (step d) G s₂ s₃
  reads : ∃ c message, s₃.next v = some (c, message)
    ∧ checkPayload d.serde (d.name u) frame = .ok (.accepted (d.name v) message.payload)
  hear : step d s₃ (.hear v Deployment.workingOutside true false) = some s₄
  kept : (s.users.terminals v).client.displayed <+: (s₃.users.terminals v).client.displayed
  shown : (s₄.users.terminals v).client.displayed
    = (s₃.users.terminals v).client.displayed ++ [(d.name u, body)]

/-- What was displayed before a run stays. -/
theorem displayed_of_reaches
    (hs : Sound d s) (h : Reaches (step d) (usual d) s s') (v : User) :
  (s.users.terminals v).client.displayed <+: (s'.users.terminals v).client.displayed
  := Deployment.done_of_reaches Event.message? hs.agrees (users_reaches h) v

/-- Where all connections are torn down, a line that a user types gets through to another user. -/
theorem exists_shown_of_down
    (hs₀ : Initial d s₀) (h : Reaches (step d) (usual d) s₀ s) (hdown : Down s)
    (hu : d.Usable s.users u) (hv : d.Usable s.users v) (hne : u ≠ v)
    (hulookup : d.CanBeLookedUp u) (hvlookup : d.CanBeLookedUp v) {typed rest body : String}
    (hcommand : parseCommand typed = .send rest)
    (hparse : parseSend rest = some (d.name v, body)) :
  ∃ frame s₁ s₂ s₃ s₄, GetsThrough d (runsAlone d) s u v typed body frame s₁ s₂ s₃ s₄
  := by
  obtain ⟨s₁, users, s₃, frame, hbefore, hspeaks, hafter, hwaits⟩ :=
    exists_queued hs₀ h hdown hu hv hne hvlookup hcommand hparse
  have hsaid : Reaches (step d) (runsAlone d) s s₃ :=
    (hbefore.tail ⟨_, runsAlone_say .., step_say hspeaks⟩).trans hafter
  obtain ⟨s₄, s₅, c, message, hlast, hnext, hcheck, hhear, hshown⟩ :=
    exists_shown_of_waits hs₀ (h.trans (hsaid.mono usual_of_runsAlone)) hwaits hulookup
  have hall : Reaches (step d) (runsAlone d) s s₄ := hsaid.trans hlast
  use frame, s₁, s₁.speak u users, s₄, s₅
  constructor
  case before => apply hbefore
  case say => apply step_say hspeaks
  case frames => apply hspeaks.frames
  case after => apply hafter.trans hlast
  case reads => use c, message
  case hear => apply hhear
  case kept =>
    apply displayed_of_reaches (sound_of_reaches hs₀ h) (hall.mono usual_of_runsAlone)
  case shown => apply hshown

/-- Nothing has happened yet in the sample system. -/
def fresh : State Bool where
  users := Deployment.fresh
  relay := Relay.start
  socket _ := none
  sent _ := []
  read _ := 0

theorem initial_fresh :
  Initial Deployment.deployed fresh
  where
  users := Deployment.initial_fresh
  relay := rfl
  socket _ := rfl
  sent _ := rfl
  read _ := rfl

end Phantasma.Exchange
