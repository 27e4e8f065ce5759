import Phantasma.Base.Registry
import Phantasma.Relay.Invariant

/-!
# Who is in the active clients

The map `active_clients` is a registry whose keys are the usernames and whose owners are
the connections: a connection claims its username when it registers and releases it in
its cleanup.  The source compares the connection ids of the two where the registry
compares owners, which is the same as long as no id was given out twice
(`Relay.removes_iff`).  Hence the relay refines the registry (`Relay.presence_of_reaches`),
and a username has an entry just when the connection that registered last under it has
not cleaned up.
-/

namespace Phantasma

/-- How far a connection is with its entry in `active_clients`. -/
inductive Stage where
  /-- It has not inserted itself. -/
  | opened
  /-- It has inserted itself and has not reached its cleanup. -/
  | up
  /-- Its cleanup is done. -/
  | closed
deriving DecidableEq

/-- The stage of a phase. -/
def Phase.stage : Phase → Stage
  | .opened => .opened
  | .closed => .closed
  | _ => .up

/-- What of a connection has to do with `active_clients`. -/
structure Visit where
  username : String
  connectionId : UInt64
  stage : Stage
deriving DecidableEq

/-- The visit of a connection. -/
def Connection.visit (conn : Connection) : Visit where
  username := conn.username
  connectionId := conn.connectionId
  stage := conn.phase.stage

theorem Connection.Step.visit
    {conn conn' : Connection} {a : TaskAction} (h : conn.Step a conn') :
  conn'.visit = conn.visit
  := by
  cases h <;> simp [Connection.visit, Connection.endSend, Phase.stage, *]

namespace Relay

variable {serde : JsonCodec} {s s' s₀ : Relay} {a : Action}

/-! ### The visits of the connections -/

/-- The visits of the connections, in the order in which their ids were taken. -/
def visits (s : Relay) : List Visit :=
  s.connections.map Connection.visit

theorem getElem?_visits
    {c : ℕ} {conn : Connection} (hc : s.connections[c]? = some conn) :
  s.visits[c]? = some conn.visit
  := by
  simp [visits, hc]

/-- The visits after the connection `c` got to another stage. -/
theorem getElem?_visits_setConnection
    {c : ℕ} {conn : Connection} (hc : s.connections[c]? = some conn) (conn' : Connection)
    (d : ℕ) :
  (s.setConnection c conn').visits[d]? = if c = d then some conn'.visit else s.visits[d]?
  := by
  simp only [visits, List.getElem?_map, getElem?_setConnection hc]
  split <;> rfl

/-- Only opening a connection, registering it and cleaning up after it change the visits,
the active clients and the registrations. -/
theorem Step.frame
    (h : Step serde s a s') (hconnect : ∀ username, a ≠ .connect username)
    (hregister : ∀ c, a ≠ .register c) (hcleanUp : ∀ c, a ≠ .cleanUp c) :
  s'.visits = s.visits ∧ s'.activeClients = s.activeClients
    ∧ s'.registrations = s.registrations ∧ s'.nextConnectionId = s.nextConnectionId
  := by
  cases h with
  | connect => apply absurd rfl (hconnect _)
  | register => apply absurd rfl (hregister _)
  | cleanUp => apply absurd rfl (hcleanUp _)
  | refuse => and_intros <;> rfl
  | task hc hstep =>
      and_intros
      · apply map_setConnection _ hc hstep.visit
      all_goals rfl
  | sendQueued hc hphase =>
      and_intros
      · rw [visits, map_push _ (fun _ _ => rfl)]
        apply map_setConnection _ hc
        simp [Connection.visit, Phase.stage, hphase]
      all_goals rfl
  | forward hc =>
      and_intros
      · rw [visits, map_push _ (fun _ _ => rfl)]
        apply map_setConnection _ hc
        rfl
      all_goals rfl
  | loadQueue hc hphase | breakQueued hc hphase | deleteQueued hc hphase =>
      and_intros
      · apply map_setConnection _ hc
        simp [Connection.visit, Phase.stage, hphase]
      all_goals rfl
  | accept hc | lookUp hc | fallBack hc | enqueue hc =>
      and_intros
      · apply map_setConnection _ hc
        rfl
      all_goals rfl

/-- What holds of the visits next to the ids and the registrations: the connection `c`
has the id `c + 1`, and those that have registered are the ones that inserted
themselves. -/
structure Attended (s : Relay) : Prop where
  connectionId : ∀ (c : ℕ) (v : Visit), s.visits[c]? = some v →
    v.connectionId = UInt64.ofNat (c + 1)
  nextConnectionId : s.nextConnectionId = UInt64.ofNat (s.visits.length + 1)
  registered : ∀ (username : String) (c : ℕ), (username, c) ∈ s.registrations ↔
    ∃ v, s.visits[c]? = some v ∧ v.username = username ∧ v.stage ≠ .opened

theorem Initial.attended (h : s.Initial) :
  s.Attended
  := by
  have hvisits : s.visits = [] := by simp [visits, h.connections]
  constructor <;> simp [hvisits, h.nextConnectionId, h.registrations]

/-- The visits after a connection was opened. -/
theorem getElem?_visits_connect (s : Relay) (username : String) (c : ℕ) (v : Visit) :
  (s.connect username).visits[c]? = some v ↔ s.visits[c]? = some v
    ∨ c = s.visits.length ∧ v = ⟨username, s.nextConnectionId, .opened⟩
  := by
  have hvisits : (s.connect username).visits
      = s.visits ++ [⟨username, s.nextConnectionId, .opened⟩] := by
    simp [visits, connect, Connection.visit, Connection.new, Phase.stage]
  rw [hvisits, List.getElem?_append, List.getElem?_singleton]
  split
  · simp only [iff_self_or]
    omega
  · rename_i hge
    rw [List.getElem?_eq_none (Nat.le_of_not_lt hge), Option.ite_none_right_eq_some]
    simp only [Option.some.injEq, reduceCtorEq, false_or, eq_comm (a := v), and_congr_left_iff]
    omega

theorem attended_connect (hs : s.Attended) (username : String) :
  (s.connect username).Attended
  := by
  constructor
  · intro c v hv
    rcases (getElem?_visits_connect ..).mp hv with hold | ⟨rfl, rfl⟩
    · apply hs.connectionId c v hold
    · apply hs.nextConnectionId
  · have hlen : (s.connect username).visits.length = s.visits.length + 1 := by
      simp [visits, connect]
    rw [hlen, UInt64.ofNat_add (s.visits.length + 1), ← hs.nextConnectionId]
    rfl
  · intro u c
    apply (hs.registered u c).trans
    constructor
    · rintro ⟨v, hv, hu⟩
      use v, (getElem?_visits_connect ..).mpr (Or.inl hv)
    · rintro ⟨v, hv, hu, hstage⟩
      rcases (getElem?_visits_connect ..).mp hv with hold | ⟨-, rfl⟩
      · use v
      · apply absurd rfl hstage

/-- A connection that registers or cleans up keeps its id. -/
theorem connectionId_setConnection
    (hs : s.Attended) {c : ℕ} {conn : Connection} (hc : s.connections[c]? = some conn)
    (phase : Phase) (d : ℕ) (v : Visit)
    (hv : (s.setConnection c { conn with phase := phase }).visits[d]? = some v) :
  v.connectionId = UInt64.ofNat (d + 1)
  := by
  rw [getElem?_visits_setConnection hc] at hv
  split at hv
  · subst d
    obtain rfl := Option.some.inj hv
    apply hs.connectionId c _ (getElem?_visits hc)
  · apply hs.connectionId d v hv

theorem length_visits_setConnection (c : ℕ) (conn : Connection) :
  (s.setConnection c conn).visits.length = s.visits.length
  := by
  simp [visits, setConnection]

theorem attended_register
    (hs : s.Attended) {c : ℕ} {conn : Connection} (hc : s.connections[c]? = some conn) :
  (s.register c conn).Attended
  := by
  constructor
  · apply connectionId_setConnection hs hc
  · apply hs.nextConnectionId.trans
    rw [← length_visits_setConnection]
    rfl
  · intro u d
    simp only [register, List.mem_cons, Prod.mk.injEq, hs.registered]
    change _ ↔ ∃ v, (s.setConnection c _).visits[d]? = some v ∧ _
    rw [getElem?_visits_setConnection hc]
    split
    · subst d
      simp only [getElem?_visits hc, Option.some.injEq, exists_eq_left', and_true]
      constructor
      · rintro (rfl | ⟨rfl, -⟩)
        · simp [Connection.visit, Phase.stage]
        · simp [Connection.visit, Phase.stage]
      · rintro ⟨rfl, -⟩
        left
        rfl
    · rename_i hne
      simp [Ne.symm hne]

theorem attended_cleanUp
    (hs : s.Attended) {c : ℕ} {conn : Connection} (hc : s.connections[c]? = some conn)
    (hphase : conn.phase = .closing) :
  (s.cleanUp c conn).Attended
  := by
  constructor
  · apply connectionId_setConnection hs hc
  · apply hs.nextConnectionId.trans
    rw [← length_visits_setConnection]
    rfl
  · intro u d
    apply (hs.registered u d).trans
    change _ ↔ ∃ v, (s.setConnection c _).visits[d]? = some v ∧ _
    rw [getElem?_visits_setConnection hc]
    split
    · subst d
      simp [getElem?_visits hc, Connection.visit, Phase.stage, hphase]
    · rfl

/-- A step keeps the ids and the registrations in order. -/
theorem Step.attended (h : Step serde s a s') (hs : s.Attended) :
  s'.Attended
  := by
  have hframe := h.frame
  cases h with
  | connect => apply attended_connect hs
  | register hc => apply attended_register hs hc
  | cleanUp hc hphase => apply attended_cleanUp hs hc hphase
  | _ =>
      obtain ⟨hvisits, -, hregistrations, hnext⟩ := hframe (by simp) (by simp) (by simp)
      constructor
      · rw [hvisits]
        apply hs.connectionId
      · rw [hvisits, hnext]
        apply hs.nextConnectionId
      · rw [hvisits, hregistrations]
        apply hs.registered

theorem Step.wellformed_attended
    (h : Step serde s a s') (hs : s.Wellformed ∧ s.Attended) :
  s'.Wellformed ∧ s'.Attended
  := by
  constructor
  · apply h.wellformed hs.1
  · apply h.attended hs.2

/-! ### The relay refines the registry -/

/-- The registry that `active_clients` stands for. -/
def presence (s : Relay) : Registry String ℕ where
  holder username := s.activeClients[username]?.map ActiveClient.sender
  claims := s.registrations
  released := {c | ∃ v, s.visits[c]? = some v ∧ v.stage = .closed}

/-- Every id is given out to one connection only, in a run with fewer than `2 ^ 64`
connections. -/
theorem eq_of_connectionId_eq
    (hs : s.Attended) (hlen : s.connections.length < 2 ^ 64) {c d : ℕ} {v w : Visit}
    (hc : s.visits[c]? = some v) (hd : s.visits[d]? = some w)
    (hid : v.connectionId = w.connectionId) :
  c = d
  := by
  have hlen' : s.visits.length = s.connections.length := List.length_map _
  have hclt := (List.getElem?_eq_some_iff.mp hc).1
  have hdlt := (List.getElem?_eq_some_iff.mp hd).1
  rw [hs.connectionId c v hc, hs.connectionId d w hd] at hid
  have hnat := congrArg UInt64.toNat hid
  simp only [UInt64.toNat_ofNat'] at hnat
  omega

/-- The cleanup of a connection compares ids as the registry compares owners. -/
theorem removes_iff
    (hs : s.Wellformed) (hs' : s.Attended) (hlen : s.connections.length < 2 ^ 64)
    {c : ℕ} {conn : Connection} (hc : s.connections[c]? = some conn) {client : ActiveClient}
    (hclient : s.activeClients[conn.username]? = some client) :
  client.connectionId = conn.connectionId ↔ client.sender = c
  := by
  obtain ⟨other, hother, -, hid, -⟩ := hs.entry _ client hclient
  constructor
  · intro heq
    apply eq_of_connectionId_eq hs' hlen (getElem?_visits hother) (getElem?_visits hc)
    apply hid.trans heq
  · rintro rfl
    obtain rfl := Option.some.inj (hc.symm.trans hother)
    apply hid.symm

/-- Registering is a claim of the username. -/
theorem presence_register
    {c : ℕ} {conn : Connection} (hc : s.connections[c]? = some conn)
    (hphase : conn.phase = .opened) :
  (s.register c conn).presence = s.presence.claim conn.username c
  := by
  have hholder : (s.register c conn).presence.holder
      = (s.presence.claim conn.username c).holder := by
    funext username
    simp only [presence, register, Registry.claim, Std.ExtTreeMap.getElem?_insert,
      Function.update_apply]
    by_cases hname : username = conn.username
    · simp [hname]
    · simp [hname, Ne.symm hname]
  have hreleased : (s.register c conn).presence.released = s.presence.released := by
    ext d
    change (∃ v, (s.setConnection c _).visits[d]? = some v ∧ _) ↔ ∃ v, s.visits[d]? = some v ∧ _
    rw [getElem?_visits_setConnection hc]
    split
    · subst d
      simp [getElem?_visits hc, Connection.visit, Phase.stage, hphase]
    · rfl
  rw [Registry.mk.injEq]
  use hholder, rfl, hreleased

/-- Cleaning up is a release of the username. -/
theorem presence_cleanUp
    (hs : s.Wellformed) (hs' : s.Attended) (hlen : s.connections.length < 2 ^ 64)
    {c : ℕ} {conn : Connection} (hc : s.connections[c]? = some conn) :
  (s.cleanUp c conn).presence = s.presence.release conn.username c
  := by
  have hremoves : (s.activeClients[conn.username]?.any
        fun client => client.connectionId = conn.connectionId)
      ↔ s.presence.holder conn.username = some c := by
    cases hclient : s.activeClients[conn.username]? with
    | none => simp [presence, hclient]
    | some client => simp [presence, hclient, removes_iff hs hs' hlen hc hclient]
  have hholder : (s.cleanUp c conn).presence.holder
      = (s.presence.release conn.username c).holder := by
    funext username
    by_cases h : s.presence.holder conn.username = some c
    · simp only [Registry.release, if_pos h, Function.update_apply]
      simp only [presence, cleanUp, hremoves.mpr h, if_true, Std.ExtTreeMap.getElem?_erase]
      by_cases hname : username = conn.username
      · simp [hname]
      · simp [hname, Ne.symm hname]
    · simp only [Registry.release, if_neg h]
      simp only [presence, cleanUp, if_neg (h ∘ hremoves.mp)]
  have hreleased : (s.cleanUp c conn).presence.released = insert c s.presence.released := by
    ext d
    change (∃ v, (s.setConnection c _).visits[d]? = some v ∧ _)
      ↔ d = c ∨ ∃ v, s.visits[d]? = some v ∧ _
    rw [getElem?_visits_setConnection hc]
    split
    · subst d
      simp [Connection.visit, Phase.stage]
    · rename_i hne
      simp [Ne.symm hne]
  rw [Registry.mk.injEq]
  use hholder, rfl, hreleased

/-- A connection that has registered has claimed its username. -/
theorem mem_claims_iff
    (hs : s.Attended) {c : ℕ} {conn : Connection} (hc : s.connections[c]? = some conn) :
  c ∈ s.presence.claims.map Prod.snd ↔ conn.phase.stage ≠ .opened
  := by
  simp only [presence, List.mem_map, Prod.exists, exists_eq_right, hs.registered,
    getElem?_visits hc, Option.some.injEq, exists_eq_left']
  simp [Connection.visit]

theorem mem_released_iff
    {c : ℕ} {conn : Connection} (hc : s.connections[c]? = some conn) :
  c ∈ s.presence.released ↔ conn.phase.stage = .closed
  := by
  simp only [presence, Set.mem_ofPred_eq, getElem?_visits hc, Option.some.injEq,
    exists_eq_left']
  rfl

/-- A step of the relay is a step of the registry, or leaves it as it is. -/
theorem Step.presence
    (h : Step serde s a s') (hs : s.Wellformed) (hs' : s.Attended)
    (hlen : s.connections.length < 2 ^ 64) :
  s'.presence = s.presence
    ∨ TransitionSystem.Moves Registry.step TransitionSystem.anyAction s.presence s'.presence
  := by
  have hframe := h.frame
  cases h with
  | @connect username =>
      left
      rw [Relay.presence, Relay.presence, Registry.mk.injEq]
      use rfl, rfl
      ext c
      constructor
      · rintro ⟨v, hv, hstage⟩
        rcases (getElem?_visits_connect ..).mp hv with hold | ⟨-, rfl⟩
        · use v
        · cases hstage
      · rintro ⟨v, hv, hstage⟩
        use v, (getElem?_visits_connect ..).mpr (Or.inl hv)
  | @register c conn hc hphase =>
      right
      use .claim conn.username c, trivial
      rw [presence_register hc hphase]
      apply if_pos
      simp [mem_claims_iff hs' hc, mem_released_iff hc, hphase, Phase.stage]
  | @cleanUp c conn hc hphase =>
      right
      use .release conn.username c, trivial
      rw [presence_cleanUp hs hs' hlen hc]
      apply if_pos
      constructor
      · apply (hs'.registered conn.username c).mpr
        use conn.visit, getElem?_visits hc, rfl
        simp [Connection.visit, hphase, Phase.stage]
      · simp [mem_released_iff hc, hphase, Phase.stage]
  | _ =>
      left
      obtain ⟨hvisits, hclients, hregistrations, -⟩ := hframe (by simp) (by simp) (by simp)
      simp only [Relay.presence, hvisits, hclients, hregistrations]

/-- There are fewer than `2 ^ 64` connections. -/
def HasIds (s : Relay) (_ : Action) : Prop :=
  s.connections.length < 2 ^ 64

/-- A run that ends with fewer than `2 ^ 64` connections had fewer all along. -/
theorem hasIds_of_reaches
    (h : TransitionSystem.Reaches (step serde) TransitionSystem.anyAction s₀ s)
    (hlen : s.connections.length < 2 ^ 64) :
  TransitionSystem.Reaches (step serde) HasIds s₀ s
  := by
  induction h with
  | refl => apply Relation.ReflTransGen.refl
  | tail _ hmove ih =>
      obtain ⟨a, -, hstep⟩ := hmove
      have hlen' := (step_of_step hstep).length_le.trans_lt hlen
      apply Relation.ReflTransGen.tail (ih hlen')
      use a, hlen'

/-- The two invariants hold in every state that is reached from one in which they hold. -/
theorem attended_of_reaches
    {guard : Relay → Action → Prop}
    (h : TransitionSystem.Reaches (step serde) guard s₀ s) (hs : s₀.Wellformed ∧ s₀.Attended) :
  s.Wellformed ∧ s.Attended
  := by
  apply h.invariant (I := fun t => t.Wellformed ∧ t.Attended) _ hs
  intro t a t' _ hstep ht
  apply (step_of_step hstep).wellformed_attended ht

/-- The registry of a state that is reached from the start is sound: a run of the relay is
a run of the registry. -/
theorem presence_of_reaches
    (h₀ : s₀.Initial)
    (h : TransitionSystem.Reaches (step serde) TransitionSystem.anyAction s₀ s)
    (hlen : s.connections.length < 2 ^ 64) :
  s.presence.Sound
  := by
  have hempty : s₀.presence = Registry.empty := by
    rw [presence, Registry.empty, Registry.mk.injEq]
    and_intros
    · funext username
      simp [h₀.activeClients]
    · apply h₀.registrations
    · simp [visits, h₀.connections]
  have hrun : TransitionSystem.Reaches Registry.step TransitionSystem.anyAction
      s₀.presence s.presence := by
    apply (hasIds_of_reaches h hlen).simulation presence
      (I := fun t => t.Wellformed ∧ t.Attended)
    · intro t a t' _ hstep ht
      apply (step_of_step hstep).wellformed_attended ht
    · intro t a t' hlen hstep ht
      apply (step_of_step hstep).presence ht.1 ht.2 hlen
    · apply And.intro h₀.wellformed h₀.attended
  apply Registry.sound_of_reaches hrun
  rw [hempty]
  apply Registry.sound_empty

/-! ### Reaching a user -/

/-- The connection that has registered last under `username`. -/
def lastRegistered (s : Relay) (username : String) : Option ℕ :=
  s.presence.lastClaimant username

/-- The entry `client` under `username` belongs to a connection of that user that has
registered and not cleaned up. -/
def Belongs (s : Relay) (username : String) (client : ActiveClient) : Prop :=
  ∃ conn, s.connections[client.sender]? = some conn ∧ conn.username = username
    ∧ conn.connectionId = client.connectionId ∧ conn.phase.stage = .up

/-- A cleanup leaves the entries of other connections, and when no connection of a user
has registered and not cleaned up, the user has no entry. -/
structure Owned (serde : JsonCodec) (s : Relay) : Prop where
  belongs : ∀ (username : String) (client : ActiveClient),
    s.activeClients[username]? = some client → s.Belongs username client
  cleanUp : ∀ (c : ℕ) (s' : Relay), s.step serde (.cleanUp c) = some s' →
    ∀ (username : String) (client : ActiveClient),
      s.activeClients[username]? = some client → client.sender ≠ c →
        s'.activeClients[username]? = some client
  none : ∀ username : String,
    (∀ conn ∈ s.connections, conn.username = username → conn.phase.stage ≠ .up) →
      s.activeClients[username]? = none

theorem belongs_of_sound
    (hs : s.Wellformed) (hsound : s.presence.Sound) {username : String}
    {client : ActiveClient} (hclient : s.activeClients[username]? = some client) :
  s.Belongs username client
  := by
  obtain ⟨conn, hc, husername, hid, hphase⟩ := hs.entry username client hclient
  use conn, hc, husername, hid
  have hholder : s.presence.holder username = some client.sender := by
    simp [presence, hclient]
  obtain ⟨-, hreleased⟩ := (hsound.holder _ _).mp hholder
  rw [mem_released_iff hc] at hreleased
  cases hstage : conn.phase <;> simp_all [Phase.stage]

/-- In every state reached by fewer than `2 ^ 64` connections an entry is owned by a
connection of its user. -/
theorem owned_of_reaches
    (h₀ : s₀.Initial)
    (h : TransitionSystem.Reaches (step serde) TransitionSystem.anyAction s₀ s)
    (hlen : s.connections.length < 2 ^ 64) :
  s.Owned serde
  := by
  have hsound := presence_of_reaches h₀ h hlen
  obtain ⟨hs, hs'⟩ := attended_of_reaches h ⟨h₀.wellformed, h₀.attended⟩
  constructor
  · intro username client hclient
    apply belongs_of_sound hs hsound hclient
  · intro c s' hstep username client hclient hne
    cases step_of_step hstep with
    | @cleanUp _ conn hc hphase =>
        simp only [Relay.cleanUp]
        split
        · rename_i hremove
          rw [Std.ExtTreeMap.getElem?_erase, if_neg, hclient]
          intro heq
          obtain rfl := Std.LawfulEqCmp.eq_of_compare heq
          rw [hclient, Option.any_some, decide_eq_true_iff] at hremove
          apply hne ((removes_iff hs hs' hlen hc hclient).mp hremove)
        · apply hclient
  · intro username hnone
    by_contra hsome
    obtain ⟨client, hclient⟩ := Option.ne_none_iff_exists'.mp hsome
    obtain ⟨conn, hc, husername, -, hup⟩ := belongs_of_sound hs hsound hclient
    apply hnone conn (List.mem_of_getElem? hc) husername hup

/-- Two connections of one user come online, the second one last. -/
def twoConnections : List Action :=
  comeOnline 0 "bob" ++ comeOnline 1 "bob"

theorem reaches_twoConnections
    (hs : after twoConnections = some s) :
  TransitionSystem.Reaches (step sampleCodec) TransitionSystem.anyAction start s
  := by
  apply TransitionSystem.reaches_any_of_run hs

/-- The entries when a user has two connections. -/
theorem owned_of_reaches_sample :
  ∃ s, after twoConnections = some s ∧ s.Owned sampleCodec
  := by
  have hrun : (after twoConnections).isSome := by
    decide +kernel
  have hlen : ∀ t ∈ after twoConnections, t.connections.length < 2 ^ 64 := by
    decide +kernel
  obtain ⟨s, hs⟩ := Option.isSome_iff_exists.mp hrun
  use s, hs
  apply owned_of_reaches initial_start (reaches_twoConnections hs) (hlen s hs)

/-- The connection of a user that registered last is the one with the entry, until it
cleans up. -/
theorem belongs_of_lastRegistered
    (h₀ : s₀.Initial)
    (h : TransitionSystem.Reaches (step serde) TransitionSystem.anyAction s₀ s)
    (hlen : s.connections.length < 2 ^ 64) {username : String} {c : ℕ} {conn : Connection}
    (hlast : s.lastRegistered username = some c) (hc : s.connections[c]? = some conn)
    (hup : conn.phase.stage = .up) :
  ∃ client, s.activeClients[username]? = some client ∧ client.sender = c
    ∧ s.Belongs username client
  := by
  have hsound := presence_of_reaches h₀ h hlen
  obtain ⟨hs, -⟩ := attended_of_reaches h ⟨h₀.wellformed, h₀.attended⟩
  have hholder : s.presence.holder username = some c := by
    apply (hsound.holder _ _).mpr
    use hlast
    simp [mem_released_iff hc, hup]
  obtain ⟨client, hclient, hsender⟩ := Option.map_eq_some_iff.mp hholder
  use client, hclient, hsender
  apply belongs_of_sound hs hsound hclient

/-- The second connection of a user is the one with the entry. -/
theorem belongs_of_lastRegistered_sample :
  ∃ s client, after twoConnections = some s ∧ s.activeClients["bob"]? = some client
    ∧ client.sender = 1 ∧ s.Belongs "bob" client
  := by
  have hrun : (after twoConnections).isSome := by
    decide +kernel
  have hlen : ∀ t ∈ after twoConnections, t.connections.length < 2 ^ 64 := by
    decide +kernel
  have hlast : ∀ t ∈ after twoConnections, t.lastRegistered "bob" = some 1 := by
    decide +kernel
  have hconn : ∀ t ∈ after twoConnections, t.connections[1]?.isSome := by
    decide +kernel
  have hup : ∀ t ∈ after twoConnections, ∀ conn ∈ t.connections[1]?, conn.phase.stage = .up := by
    decide +kernel
  obtain ⟨s, hs⟩ := Option.isSome_iff_exists.mp hrun
  obtain ⟨conn, hc⟩ := Option.isSome_iff_exists.mp (hconn s hs)
  obtain ⟨client, hclient⟩ := belongs_of_lastRegistered initial_start
    (reaches_twoConnections hs) (hlen s hs) (hlast s hs) hc (hup s hs conn hc)
  use s, client, hs

/-- A connection of `username` has registered and not cleaned up. -/
def IsUp (s : Relay) (username : String) : Prop :=
  ∃ conn ∈ s.connections, conn.username = username ∧ conn.phase.stage = .up

instance (s : Relay) (username : String) : Decidable (s.IsUp username) :=
  inferInstanceAs (Decidable (∃ conn ∈ s.connections, _))

/-- When the connection of a user that registered last goes away, one that registered
before it is up and the user has no entry. -/
theorem not_belongs_of_isUp :
  ¬ ∀ (s : Relay) (username : String),
    TransitionSystem.Reaches (step sampleCodec) TransitionSystem.anyAction start s →
    s.IsUp username →
    ∃ client, s.activeClients[username]? = some client ∧ s.Belongs username client
  := by
  intro hbelongs
  let actions := twoConnections ++
    [.task 1 (.receiveFrame .close), .task 1 .selectReceive, .cleanUp 1]
  have hrun : (after actions).isSome := by
    decide +kernel
  have hup : ∀ t ∈ after actions, t.IsUp "bob" := by
    decide +kernel
  have hnone : ∀ t ∈ after actions, t.activeClients["bob"]? = none := by
    decide +kernel
  obtain ⟨s, hs⟩ := Option.isSome_iff_exists.mp hrun
  obtain ⟨client, hclient, -⟩ : ∃ client, s.activeClients["bob"]? = some client ∧ _ := by
    apply hbelongs s "bob" _ (hup s hs)
    apply TransitionSystem.reaches_any_of_run hs
  rw [hnone s hs] at hclient
  cases hclient

end Relay

end Phantasma
