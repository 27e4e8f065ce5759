import Phantasma.Relay.Answers
import Phantasma.Relay.Written

/-!
# A quiet relay

Where all connections but one have spawned their tasks, no queue is loaded while another one is
(`guarded_of_windsDown`).  Where all of them are torn down, the message that the user of the one
sends to somebody else can be queued (`exists_queued`).
-/

namespace Phantasma.Relay

open TransitionSystem

variable {serde : JsonCodec} {s s' : Relay} {c : ℕ} {conn : Connection}

/-! ### One queue at a time -/

/-- Every connection but `c` has spawned its tasks. -/
def OthersSpawned (s : Relay) (c : ℕ) : Prop :=
  ∀ d conn, d ≠ c → s.connections[d]? = some conn → conn.phase.hasSpawned

/-- A connection whose tasks are spawned does not go back. -/
theorem Step.spawned {a : Action} (h : Step serde s a s') :
  Along (fun conn conn' => conn.phase.hasSpawned → conn'.phase.hasSpawned) s s'
  := by
  cases h with
  | connect => apply along_connect fun _ => id
  | task hc hstep =>
      apply along_setConnection (fun _ => id) hc
      intro hspawned
      cases hstep <;> simp_all [Phase.hasSpawned, Connection.endSend]
  | sendQueued hc hphase =>
      apply along_trans (fun _ _ _ h h' hspawned => h' (h hspawned)) _
        (along_push (fun _ => id) (fun _ _ => id) _ _)
      apply along_setConnection (fun _ => id) hc
      rw [hphase]
      rintro ⟨⟩
  | forward hc =>
      apply along_trans (fun _ _ _ h h' hspawned => h' (h hspawned)) _
        (along_push (fun _ => id) (fun _ _ => id) _ _)
      apply along_setConnection (fun _ => id) hc id
  | refuse => exact fun _ conn hc => ⟨conn, hc, id⟩
  | register hc hphase | loadQueue hc hphase | breakQueued hc hphase | deleteQueued hc hphase =>
      apply along_setConnection (fun _ => id) hc
      rw [hphase]
      rintro ⟨⟩
  | cleanUp hc => apply along_setConnection (fun _ => id) hc fun _ => rfl
  | accept hc | lookUp hc | fallBack hc | enqueue hc =>
      apply along_setConnection (fun _ => id) hc id

theorem rows_of_spawned {phase : Phase} (h : phase.hasSpawned) :
  phase.rows = []
  := by
  cases phase with
  | serving | closing | closed => rfl
  | _ => cases h

/-- Where the other connections have spawned their tasks, a queue is loaded alone. -/
theorem OthersSpawned.loadsAlone
    (hs : s.OthersSpawned c) {a : Action} (hstep : Step serde s a s') :
  s.LoadsAlone a
  := by
  cases hstep with
  | @loadQueue d conn hd hphase =>
      obtain rfl : d = c := by
        by_contra hne
        have hspawned := hs d conn hne hd
        rw [hphase] at hspawned
        cases hspawned
      intro _ _ other hmem _
      obtain ⟨e, he⟩ := List.mem_iff_getElem?.mp hmem
      by_cases hed : e = d
      · subst hed
        obtain rfl := Option.some.inj (hd.symm.trans he)
        rw [hphase]
        rfl
      · apply rows_of_spawned (hs e other hed he)
  | _ => trivial

/-- No connection is new while the relay is wound down. -/
theorem OthersSpawned.step
    (hs : s.OthersSpawned c) {a : Action} (hwinds : s.WindsDown a) (hstep : Step serde s a s') :
  s'.OthersSpawned c
  := by
  intro d conn hne hd
  have hlt : d < s.connections.length := by
    rw [← hstep.length_eq hwinds]
    apply (List.getElem?_eq_some_iff.mp hd).1
  obtain ⟨conn', hd', hspawned⟩ := hstep.spawned d _ (List.getElem?_eq_getElem hlt)
  obtain rfl := Option.some.inj (hd.symm.trans hd')
  apply hspawned (hs d _ hne (List.getElem?_eq_getElem hlt))

/-- Nothing fails while the relay is wound down, and no queue is loaded beside another. -/
theorem guarded_of_windsDown
    (h : Reaches (step serde) WindsDown s s') (hs : s.OthersSpawned c) :
  Reaches (step serde) (fun s a => s.WindsDown a ∧ s.LoadsAlone a) s s'
  := by
  apply h.simulation id (I := fun s => s.OthersSpawned c) _ _ hs
  · intro s a s' hwinds hstep hs
    apply hs.step hwinds (step_of_step hstep)
  · intro s a s' hwinds hstep hs
    exact Or.inr ⟨a, ⟨hwinds, hs.loadsAlone (step_of_step hstep)⟩, hstep⟩

/-! ### Sending -/

/-- A connection stays that of its user. -/
theorem username_of_reaches
    {guard : Relay → Action → Prop} (h : Reaches (step serde) guard s s')
    (hc : s.connections[c]? = some conn) :
  ∃ conn', s'.connections[c]? = some conn' ∧ conn'.username = conn.username
  := by
  apply h.invariant (I := fun s => ∃ conn', s.connections[c]? = some conn'
    ∧ conn'.username = conn.username) _ ⟨conn, hc, rfl⟩
  rintro t a t' - hstep ⟨conn', hc', hname⟩
  obtain ⟨conn'', hc'', hlater⟩ := (step_of_step hstep).later c conn' hc'
  exact ⟨conn'', hc'', hlater.username.trans hname⟩

/-- A message whose tag has not been given is written to nobody. -/
theorem not_written_of_fresh
    (hputs : s.PutsInOrder) (hgiven : s.TagsGiven) (hc : s.connections[c]? = some conn)
    {message : Message} (htag : message.tag = s.nextTag) :
  message ∉ conn.written
  := by
  intro hwritten
  obtain ⟨_, _, hlt⟩ := hgiven.puts _ (hputs.mem_puts hc hwritten)
  apply absurd hlt
  rw [htag]
  apply lt_irrefl

theorem getElem?_accept_self
    (hc : s.connections[c]? = some conn) (bytes : Bytes) (user : String) (payload : Bytes) :
  (s.accept c conn bytes user payload).connections[c]?
    = some { conn with receiveTask := .locking user ⟨s.nextTag, payload⟩ }
  :=
  (getElem?_setConnection hc _ c).trans (if_pos rfl)

theorem getElem?_accept_of_ne
    (hc : s.connections[c]? = some conn) (bytes : Bytes) (user : String) (payload : Bytes)
    {d : ℕ} (hne : d ≠ c) :
  (s.accept c conn bytes user payload).connections[d]? = s.connections[d]?
  :=
  (getElem?_setConnection hc _ d).trans (if_neg (Ne.symm hne))

/-- A message that is written while the relay is wound down, after the connection `c` accepted it,
is written on `c`. -/
theorem eq_of_written_accepted
    (hputs : s.PutsInOrder) (hgiven : s.TagsGiven)
    (hdown : ∀ d conn, d ≠ c → s.connections[d]? = some conn → conn.TornDown)
    (hc : s.connections[c]? = some conn) {bytes payload : Bytes} {user : String}
    (h : Reaches (step serde) WindsDown (s.accept c conn bytes user payload) s')
    {d : ℕ} {target : Connection} (hd : s'.connections[d]? = some target)
    (hwritten : ⟨s.nextTag, payload⟩ ∈ target.written) :
  d = c
  := by
  by_contra hdc
  have hkeeps := windsDown_keeps h
  have hlt : d < (s.accept c conn bytes user payload).connections.length := by
    rw [← hkeeps.1]
    apply (List.getElem?_eq_some_iff.mp hd).1
  obtain ⟨target', hd', hstays⟩ := hkeeps.2 d _ (List.getElem?_eq_getElem hlt)
  obtain rfl := Option.some.inj (hd.symm.trans hd')
  have hold : s.connections[d]? = some _ :=
    (getElem?_accept_of_ne hc bytes user payload hdc).symm.trans (List.getElem?_eq_getElem hlt)
  rw [(hstays (hdown d _ hdc hold)).2] at hwritten
  apply not_written_of_fresh hputs hgiven hold rfl hwritten

/-- Where the other connections are torn down, a message to another user that is accepted on the
connection `c` gets to the queue. -/
theorem exists_queued
    (hs : s.Ready) (hputs : s.PutsInOrder) (hgiven : s.TagsGiven)
    (hdown : ∀ d conn, d ≠ c → s.connections[d]? = some conn → conn.TornDown)
    (hc : s.connections[c]? = some conn) (hwaiting : conn.receiveTask = .waiting)
    (halive : conn.receiveAborted = false) {bytes payload : Bytes} {user : String}
    (hcheck : checkPayload serde conn.username bytes = .ok (.accepted user payload))
    (hne : conn.username ≠ user) :
  s.step serde (.receive c bytes) = some (s.accept c conn bytes user payload)
    ∧ ∃ s', Reaches (step serde) WindsDown (s.accept c conn bytes user payload) s'
      ∧ (∀ conn ∈ s'.connections, conn.TornDown) ∧ s'.Queued user ⟨s.nextTag, payload⟩
  := by
  have hstep : s.step serde (.receive c bytes) = some (s.accept c conn bytes user payload) := by
    rw [step, hc, Option.bind_eq_bind, Option.bind_some, hwaiting]
    dsimp only
    rw [hcheck]
  use hstep
  have haccept := step_of_step hstep
  have hready := haccept.ready hs
  obtain ⟨s', hreach, hall⟩ := exists_tornDown serde hready
  refine ⟨s', hreach, hall, ?_⟩
  have hanswers : (s.accept c conn bytes user payload).AnswersFor user ⟨s.nextTag, payload⟩ :=
    Or.inr ⟨c, _, getElem?_accept_self hc bytes user payload, halive, rfl⟩
  rcases (answersFor_of_reaches hready hreach hanswers).of_tornDown hall with
    hqueued | ⟨target, hmem, hname, hwritten⟩
  · apply hqueued
  · obtain ⟨d, hd⟩ := List.mem_iff_getElem?.mp hmem
    obtain rfl := eq_of_written_accepted hputs hgiven hdown hc hreach hd hwritten
    obtain ⟨target', hd', hsame⟩ :=
      username_of_reaches hreach (getElem?_accept_self hc bytes user payload)
    obtain rfl := Option.some.inj (hd.symm.trans hd')
    apply absurd (hsame.symm.trans hname) hne

end Phantasma.Relay
