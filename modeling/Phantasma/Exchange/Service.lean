import Phantasma.Deployment.Service
import Phantasma.Exchange.Invariant
import Phantasma.Relay.Quiet

/-!
# Messages get through

From every state that the system reaches, a line that a user types gets through to another user:
the relay can be wound down (`exists_down`), the two users can come online one after the other
(`exists_online`), the frame of the line is received and its message is queued, and the other user
reads what is queued (`exists_heard`).
-/

namespace Phantasma.Exchange

open TransitionSystem

variable {User MessageKey : Type} {d : Deployment User MessageKey} {s s' s₀ : State User}
    {a : Action User} {u v : User}

/-! ### Runs in which nothing fails -/

/-- No task of the relay that was aborted is run again. -/
def State.polls (s : State User) : Action User → Prop
  | .relay a => s.relay.PollsAlive a
  | .arrive _ c => ∀ bytes, s.relay.PollsAlive (.receive c bytes)
  | _ => True

/-- The condition on the steps of the users, the database of the relay does not fail, and no task of
the relay that was aborted is run again. -/
def runs (d : Deployment User MessageKey) (s : State User) (a : Action User) : Prop :=
  works d s a ∧ s.polls a

/-- So it is, and no queue is loaded while another connection of its user has rows that it has not
deleted. -/
def runsAlone (d : Deployment User MessageKey) (s : State User) (a : Action User) : Prop :=
  guard d s a ∧ s.polls a

theorem usual_of_runsAlone (s : State User) (a : Action User) (h : runsAlone d s a) :
  usual d s a
  := h.1.1.1

/-- Only the steps of the relay have to do with its database. -/
theorem runsAlone_of_usual (h : usual d s a) (hpolls : s.polls a) (ha : ∀ a', a ≠ .relay a') :
  runsAlone d s a
  := ⟨guard_of_usual h ha, hpolls⟩

theorem inner_of_windsDown {r : Relay} {a : Phantasma.Action} (h : r.WindsDown a) :
  isInner a
  := by
  cases a with
  | connect | receive => cases h
  | _ => rfl

theorem runs_of_windsDown {a : Phantasma.Action} (h : s.relay.WindsDown a) :
  runs d s (.relay a)
  := by
  refine ⟨⟨trivial, ?_⟩, h.pollsAlive⟩
  rintro _ ⟨⟩
  apply h.dbSucceeds

variable [DecidableEq User]

/-- What the relay does by itself, the system does. -/
theorem reaches_relay
    {G : Relay → Phantasma.Action → Prop} {G' : State User → Action User → Prop} {r : Relay}
    (hG : ∀ r a, G r a → isInner a ∧ G' { s with relay := r } (.relay a))
    (h : Reaches (Relay.step d.serde) G s.relay r) :
  Reaches (step d) G' s { s with relay := r }
  := by
  let withRelay (r : Relay) : State User := { s with relay := r }
  apply h.simulation withRelay (I := fun _ => True) _ _ trivial
  · intro _ _ _ _ _ _
    trivial
  · intro r a r' ha hstep _
    obtain ⟨hinner, hguard⟩ := hG r a ha
    refine Or.inr ⟨.relay a, hguard, ?_⟩
    simp only [step, withRelay, hinner, if_true, hstep, Option.map_some]

/-- The relay winds down, and no queue is loaded beside another. -/
theorem reaches_relay_alone
    {r : Relay} {c : ℕ} (h : Reaches (Relay.step d.serde) Relay.WindsDown s.relay r)
    (hspawned : s.relay.OthersSpawned c) :
  Reaches (step d) (runsAlone d) s { s with relay := r }
  := by
  apply reaches_relay _ (Relay.guarded_of_windsDown h hspawned)
  rintro r a ⟨hwinds, hloads⟩
  obtain ⟨hworks, hpolls⟩ := runs_of_windsDown (d := d) (s := { s with relay := r }) hwinds
  refine ⟨inner_of_windsDown hwinds, ⟨hworks, ?_⟩, hpolls⟩
  rintro _ ⟨⟩
  apply hloads

omit [DecidableEq User] in
/-- All connections are torn down. -/
def Down (s : State User) : Prop :=
  ∀ conn ∈ s.relay.connections, conn.TornDown

/-- The relay can be wound down. -/
theorem exists_down (hs : Sound d s) :
  ∃ r, Reaches (step d) (runs d) s { s with relay := r } ∧ Down { s with relay := r }
  := by
  obtain ⟨r, hreach, hdown⟩ := Relay.exists_tornDown d.serde hs.ready
  refine ⟨r, reaches_relay ?_ hreach, hdown⟩
  exact fun r a hwinds => ⟨inner_of_windsDown hwinds, runs_of_windsDown hwinds⟩

omit [DecidableEq User] in
theorem Down.othersSpawned (h : Down s) (c : ℕ) :
  s.relay.OthersSpawned c
  := by
  intro e conn _ he
  rw [(h conn (List.mem_of_getElem? he)).1]
  rfl

/-! ### Coming online -/

/-- The user has come online in a run from `s` to `s'`: the client runs, it has a new connection,
and the relay has written to it what was queued. -/
structure Online (d : Deployment User MessageKey) (s : State User) (u : User) (s' : State User) :
    Prop where
  reaches : Reaches (step d) (runsAlone d) s s'
  running : ∃ identity, (s'.users.terminals u).progress = .running identity
  usable : d.Usable s'.users u
  terminals : ∀ v, v ≠ u → s'.users.terminals v = s.users.terminals v
  socket : s'.socket u = some s.relay.connections.length
  connection : ∃ conn, s'.relay.connections[s.relay.connections.length]? = some conn
    ∧ conn.username = d.name u ∧ conn.receiveTask = .waiting ∧ conn.receiveAborted = false
    ∧ conn.written = (s.relay.queuedMessages.queuedMessagesFor (d.name u)).map (·.message)
  others : ∀ c, c ≠ s.relay.connections.length →
    s'.relay.connections[c]? = s.relay.connections[c]?
  sent : s'.sent = s.sent
  read : s'.read = s.read

/-- A client whose registration is accepted connects. -/
theorem step_join
    {users : Deployment.State User} {identity : LoadedIdentity}
    (hstep : d.step s.users (.register u true false []) = some users)
    (hrunning : (users.terminals u).progress = .running identity)
    (hname : isValidUsername (d.name u)) :
  step d s (.join u true false [])
    = some (s.connected u users (s.relay.connect (d.name u)))
  := by
  have hconnect : s.relay.step d.serde (.connect (d.name u)) = some (s.relay.connect (d.name u)) :=
    if_pos hname
  simp only [step, Option.bind_eq_bind, hstep, Option.bind_some, hrunning, hconnect,
    Option.map_some]

/-- Whatever its client was doing, a user whose files are usable can join. -/
theorem exists_joined (hs : d.Agrees s.users) (hu : d.Usable s.users u) :
  ∃ users identity, d.Follows s.users u users
    ∧ (users.terminals u).progress = .running identity
    ∧ Reaches (step d) (runsAlone d) s (s.connected u users (s.relay.connect (d.name u)))
  := by
  have hquit := Deployment.follows_quit hu
  let users₁ := s.users.setTerminal u { s.users.terminals u with progress := .off }
  have hoff : (users₁.terminals u).progress = .off := by
    rw [Deployment.terminals_setTerminal_self]
  obtain ⟨users₂, identity, hstep₂, hstart, hprogress⟩ :=
    Deployment.follows_start hquit.usable hoff
  have hagrees := Deployment.agrees_of_reaches hs (hquit.trans hstart).reaches
  obtain ⟨users₃, hstep₃, hregister, hrunning⟩ :=
    Deployment.follows_register hagrees hstart.usable hprogress
  have hmove₁ : Moves (step d) (runsAlone d) s { s with users := users₁ } := by
    refine ⟨.away (.quit u), runsAlone_of_usual trivial trivial ?_, rfl⟩
    rintro _ ⟨⟩
  have hmove₂ : Moves (step d) (runsAlone d) { s with users := users₁ }
      { s with users := users₂ } := by
    use .away (.start u Deployment.workingAttempt Deployment.workingAttempt)
    constructor
    · refine runsAlone_of_usual ?_ trivial ?_
      · exact fun _ => rfl
      · rintro _ ⟨⟩
    · simp only [step, isAway, if_true, hstep₂, Option.map_some, users₁]
  have hmove₃ : Moves (step d) (runsAlone d) { s with users := users₂ }
      (s.connected u users₃ (s.relay.connect (d.name u))) := by
    refine ⟨.join u true false [], runsAlone_of_usual trivial trivial ?_,
      step_join hstep₃ hrunning hu.valid⟩
    rintro _ ⟨⟩
  refine ⟨users₃, identity, (hquit.trans hstart).trans hregister, hrunning, ?_⟩
  exact .tail (.tail (.single hmove₁) hmove₂) hmove₃

/-- The connections that were there before stay as they are when a user connects. -/
theorem getElem?_connect_of_ne
    (r : Relay) (username : String) {c : ℕ} (hne : c ≠ r.connections.length) :
  (r.connect username).connections[c]? = r.connections[c]?
  := by
  rcases Nat.lt_or_gt_of_ne hne with hlt | hgt
  · apply List.getElem?_append_left hlt
  · rw [List.getElem?_eq_none (Nat.le_of_lt hgt)]
    apply List.getElem?_eq_none
    apply (List.length_append ..).le.trans hgt

/-- Where all connections are torn down, a user comes online. -/
theorem exists_online (hs : Sound d s) (hdown : Down s) (hu : d.Usable s.users u) :
  ∃ s', Online d s u s'
  := by
  obtain ⟨users, identity, hfollows, hrunning, hjoined⟩ := exists_joined hs.agrees hu
  have hold : ∀ c, c ≠ s.relay.connections.length →
      (s.relay.connect (d.name u)).connections[c]? = s.relay.connections[c]? :=
    fun c => getElem?_connect_of_ne s.relay (d.name u)
  have hnew : (s.relay.connect (d.name u)).connections[s.relay.connections.length]?
      = some (.new (d.name u) s.relay.nextConnectionId) := List.getElem?_concat_length ..
  obtain ⟨r, conn, hserve, hconn, hothers, hname, -, hwaiting, halive, hwritten⟩ :=
    Relay.exists_online d.serde hnew
  have hspawned : (s.relay.connect (d.name u)).OthersSpawned s.relay.connections.length := by
    intro c other hne hc
    rw [hold c hne] at hc
    apply hdown.othersSpawned _ c other hne hc
  have hwinds : Reaches (Relay.step d.serde) Relay.WindsDown (s.relay.connect (d.name u)) r :=
    (Relay.windsDownAt_of_serves hserve hnew rfl).mono fun _ _ h => h.1
  have hrelay := reaches_relay_alone (s := s.connected u users (s.relay.connect (d.name u)))
    hwinds hspawned
  use { s.connected u users (s.relay.connect (d.name u)) with relay := r }
  constructor
  case reaches => apply hjoined.trans hrelay
  case running => exact ⟨identity, hrunning⟩
  case usable => apply hfollows.usable
  case terminals => apply hfollows.others
  case socket => apply Function.update_self
  case connection => exact ⟨conn, hconn, hname, hwaiting, halive, hwritten⟩
  case others =>
    intro c hne
    exact (hothers c hne).trans (hold c hne)
  case sent => rfl
  case read => rfl

/-- The connections that were there before are torn down. -/
theorem Online.tornDown
    (h : Online d s u s') (hdown : Down s) {c : ℕ} {conn : Connection}
    (hne : c ≠ s.relay.connections.length) (hc : s'.relay.connections[c]? = some conn) :
  conn.TornDown
  := by
  rw [h.others c hne] at hc
  apply hdown conn (List.mem_of_getElem? hc)

/-- After a user has come online, the relay is wound down. -/
theorem Online.exists_down (h : Online d s u s') (hdown : Down s) (hs' : Sound d s') :
  ∃ r, Reaches (step d) (runsAlone d) s' { s' with relay := r } ∧ Down { s' with relay := r }
  := by
  obtain ⟨r, hreach, hall⟩ := Relay.exists_tornDown d.serde hs'.ready
  have hspawned : s'.relay.OthersSpawned s.relay.connections.length := by
    intro c conn hne hc
    rw [(h.tornDown hdown hne hc).1]
    rfl
  exact ⟨r, reaches_relay_alone hreach hspawned, hall⟩

/-! ### Reading -/

omit [DecidableEq User] in
/-- A client that receives a message goes on. -/
theorem goes_on_binary (setup : Setup MessageKey) (library : Error → String) (client : Client)
    (bytes : Bytes) (outside : Outside) :
  ((turn setup library (.binary bytes outside)).outcome client).1 = .ok true
  := by
  rw [turn, Program.outcome_bind, outcome_reporting]
  rcases (receiveMessage setup outside bytes).outcome client with ⟨_ | _, _⟩ <;> rfl

/-- The client reads its next message, and goes on. -/
theorem step_hear
    {identity : LoadedIdentity} (hrunning : (s.users.terminals v).progress = .running identity)
    {c : ℕ} {message : Message} (hnext : s.next v = some (c, message)) (outside : Outside) :
  step d s (.hear v outside true false)
      = some (s.heard c
        (d.takeTurn s.users v identity (.binary message.payload outside) true false))
    ∧ ((d.takeTurn s.users v identity (.binary message.payload outside) true false).terminals
        v).progress = .running identity
  := by
  constructor
  · simp only [step, hnext, Option.bind_eq_bind, Option.bind_some, Deployment.step, hrunning]
  · rw [Deployment.takeTurn, Deployment.terminals_setTerminal_self, Input.answered]
    rw [goes_on_binary]
    rfl

/-- A client reads as many of the messages that were written as there are. -/
theorem exists_heard
    {identity : LoadedIdentity} {c : ℕ} {conn : Connection} (n : ℕ) (hsocket : s.socket v = some c)
    (hc : s.relay.connections[c]? = some conn)
    (hrunning : (s.users.terminals v).progress = .running identity)
    (hn : s.read c + n ≤ conn.written.length) :
  ∃ s', Reaches (step d) (runsAlone d) s s' ∧ s'.relay = s.relay ∧ s'.socket = s.socket
    ∧ s'.read c = s.read c + n ∧ (s'.users.terminals v).progress = .running identity
  := by
  induction n with
  | zero => exact ⟨s, .refl, rfl, rfl, rfl, hrunning⟩
  | succ n ih =>
      obtain ⟨s₁, hreach, hrelay, hsame, hread, hrunning₁⟩ := ih (by omega)
      have hlt : s₁.read c < conn.written.length := by omega
      have hnext : s₁.next v = some (c, conn.written[s₁.read c]) := by
        apply next_eq_some.mpr
        rw [hsame, hrelay]
        exact ⟨hsocket, conn, hc, List.getElem?_eq_getElem hlt⟩
      obtain ⟨hstep, hgoes⟩ := step_hear (d := d) hrunning₁ hnext Deployment.workingOutside
      refine ⟨_, hreach.tail ⟨_, runsAlone_of_usual ?_ ?_ ?_, hstep⟩, hrelay, hsame, ?_, hgoes⟩
      · trivial
      · trivial
      · rintro _ ⟨⟩
      · simp only [State.heard, Function.update_self, hread]
        rfl

end Phantasma.Exchange
