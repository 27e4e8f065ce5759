import Phantasma.Base.Counting
import Phantasma.Exchange.Messages
import Phantasma.Exchange.Through

/-!
# At most once

However the connections are lost and however the steps of the clients and the relay are
interleaved, a client displays what a user has sent it, and each message at most once
(`count_displayed_le`).
-/

namespace Phantasma.Exchange

open TransitionSystem

variable {User MessageKey : Type} [DecidableEq User] {d : Deployment User MessageKey}
    {s s' s₀ : State User} {l : Ledger User} {u v : User}

/-! ### What a frame is for -/

omit [DecidableEq User] in
theorem encryption_mem_events
    {client : Client} {encryption : String × String × EncryptedChatMessage}
    (h : encryption ∈ client.encryptions) :
  ∃ publicKey, .encrypted encryption.1 encryption.2.1 publicKey encryption.2.2 ∈ client.events
  := by
  obtain ⟨event, hevent, hkind⟩ := List.mem_filterMap.mp h
  cases event with
  | encrypted recipient body publicKey encrypted =>
      cases hkind
      exact ⟨publicKey, hevent⟩
  | _ => cases hkind

omit [DecidableEq User] in
/-- The frame of a message is for the user that the message was encrypted for, whose client
opens it as that message. -/
theorem opens_frame
    (hs : Sound d s) {encryption : String × String × EncryptedChatMessage}
    (hencryption : encryption ∈ (s.users.terminals u).client.encryptions) {frame payload : Bytes}
    (hframe : d.IsFrameOf u frame encryption)
    (hcheck : checkPayload d.serde (d.name u) frame = .ok (.accepted (d.name v) payload))
    {identity : LoadedIdentity} (hsession : d.InSession s.users v identity) :
  encryption.1 = d.name v
    ∧ openFrame (d.setup v identity) payload
      = .ok (encryption.2.2, ⟨d.name u, d.name v, encryption.2.1⟩)
  := by
  obtain ⟨recipient, body, encrypted⟩ := encryption
  obtain ⟨publicKey, hevent⟩ := encryption_mem_events hencryption
  have hwrote := hs.written.encrypted u _ _ _ _ hevent
  obtain ⟨routed, hrouted, hpayload, -, hto, -⟩ := checkPayload_accepted.mp hcheck
  obtain ⟨frame', hwrite, hread⟩ := fromWire_toWire d.inverts
    (RoutedEncryptedMessage.plain_toJson ⟨d.name u, recipient, encrypted⟩)
    (RoutedEncryptedMessage.ofJson_toJson _)
  obtain rfl := Except.ok.inj (hwrite.symm.trans hframe)
  obtain rfl := Except.ok.inj (hread.symm.trans hrouted)
  obtain rfl : recipient = d.name v := hto
  use rfl
  obtain ⟨payload', hencode, hdecode⟩ := d.inverts _ encrypted.plain_toJson
  obtain rfl := Option.some.inj (hencode.symm.trans (toWire_eq_ok.mp hpayload))
  apply (Deployment.openFrame_of_wrote hs.agrees hsession hwrote hdecode).1

/-! ### What is read was sent -/

omit [DecidableEq User] in
/-- The relay accepts the frame of `u` for `v`, whose client opens it as a message with the
body. -/
def Delivers (d : Deployment User MessageKey) (s : State User) (u v : User) (body : String)
    (frame : Bytes) : Prop :=
  ∃ identity payload encrypted, d.InSession s.users v identity
    ∧ checkPayload d.serde (d.name u) frame = .ok (.accepted (d.name v) payload)
    ∧ openFrame (d.setup v identity) payload = .ok (encrypted, ⟨d.name u, d.name v, body⟩)

theorem mem_acceptedOf {frame : Bytes} : frame ∈ l.acceptedOf u ↔ (u, frame) ∈ l.accepted := by
  simp [Ledger.acceptedOf]

/-- What the relay has accepted, the client of the user has given to its socket. -/
theorem frame_of_accepted (hl : Accounted s l) {frame : Bytes} (h : (u, frame) ∈ l.accepted) :
  frame ∈ (s.users.terminals u).client.frames
  := by
  apply (hl u).subset
  apply List.mem_append_left _ (mem_acceptedOf.mpr h)

/-- What a client has read is in the ledger, with the user whose name it opens with. -/
theorem exists_entry
    (hl : Told d s l) (hs : Sound d s) {message : Message} (hread : message ∈ l.readBy v)
    {displayed : String × String} (hdisplay : IsDisplayOf d s v displayed message) :
  ∃ u frame, l.accepted[message.tag]? = some (u, frame) ∧ displayed.1 = d.name u
    ∧ Delivers d s u v displayed.2 frame
  := by
  obtain ⟨identity, encrypted, hsession, hopen⟩ := hdisplay
  obtain ⟨c, conn, i, hc, hname, -, hwritten⟩ := hl.readOnce.written v message hread
  obtain ⟨conn', hc', u, frame, hget, hcheck⟩ := hl.tagged.routed.puts _
    (hs.inOrder.mem_puts hc (List.mem_of_getElem? hwritten))
  obtain rfl := Option.some.inj (hc.symm.trans hc')
  rw [hname] at hcheck
  have hframe := frame_of_accepted hl.accounted (List.mem_of_getElem? hget)
  obtain ⟨used, hused, hframed⟩ := hs.framed u
  obtain ⟨encryption, hencryption, hframe⟩ := Counting.exists_of_mem_forall₂ hframed hframe
  obtain ⟨-, hopens⟩ := opens_frame hs (hused.subset hencryption) hframe hcheck hsession
  obtain ⟨-, hplaintext⟩ := Prod.mk.inj (Except.ok.inj (hopens.symm.trans hopen))
  injection hplaintext with hfrom hto hbody
  rw [← hfrom] at hopen
  exact ⟨u, frame, hget, hfrom.symm, identity, _, encrypted, hsession, hcheck, hopen⟩

/-! ### Counting -/

section

open Classical in
/-- A message is displayed at most as often as its frames were accepted. -/
theorem count_displayed_le_accepted (hl : Told d s l) (hs : Sound d s) (u v : User)
    (body : String) :
  (s.users.terminals v).client.displayed.count (d.name u, body)
    ≤ (l.acceptedOf u).countP fun frame => Delivers d s u v body frame
  := by
  obtain ⟨opened, hsublist, hopened⟩ := hl.displays v
  calc (s.users.terminals v).client.displayed.count (d.name u, body)
      ≤ opened.countP fun message => IsDisplayOf d s v (d.name u, body) message := by
        apply Counting.countP_le_of_forall₂ hopened
        intro displayed message hmessage hdisplay heq
        rw [eq_of_beq heq] at hdisplay
        apply decide_eq_true hdisplay
    _ ≤ (l.readBy v).countP fun message => IsDisplayOf d s v (d.name u, body) message :=
        hsublist.countP_le
    _ ≤ l.accepted.countP fun entry => entry.1 = u ∧ Delivers d s u v body entry.2 := by
        apply Counting.countP_le_of_numbered (hl.readOnce.nodup v)
        intro message hmessage hdisplay
        obtain ⟨u', frame, hget, hname, hdelivers⟩ :=
          exists_entry hl hs hmessage (of_decide_eq_true hdisplay)
        obtain rfl := d.name_injective hname
        exact ⟨_, hget, decide_eq_true ⟨rfl, hdelivers⟩⟩
    _ = (l.acceptedOf u).countP fun frame => Delivers d s u v body frame := by
        rw [Ledger.acceptedOf, List.countP_map, List.countP_filter]
        apply List.countP_congr
        intro entry _
        simp [and_comm]

omit [DecidableEq User] in
open Classical in
/-- The frames of a message are at most as many as the encryptions of it. -/
theorem countP_frames_le (hs : Sound d s) (u v : User) (body : String) :
  ((s.users.terminals u).client.frames.countP fun frame => Delivers d s u v body frame)
    ≤ (s.users.terminals u).client.encryptions.countP
      fun encryption => encryption.1 = d.name v ∧ encryption.2.1 = body
  := by
  obtain ⟨used, hused, hframed⟩ := hs.framed u
  apply le_trans _ hused.countP_le
  apply Counting.countP_le_of_forall₂ hframed
  intro frame encryption hencryption hframe hdelivers
  obtain ⟨identity, payload, encrypted, hsession, hcheck, hopen⟩ := of_decide_eq_true hdelivers
  obtain ⟨hto, hopens⟩ := opens_frame hs (hused.subset hencryption) hframe hcheck hsession
  obtain ⟨-, hplaintext⟩ := Prod.mk.inj (Except.ok.inj (hopens.symm.trans hopen))
  injection hplaintext with _ _ hbody
  apply decide_eq_true ⟨hto, hbody⟩

end

/-- In every run a client displays messages of users only, and each at most as often as the user
has encrypted it for the user of the client. -/
theorem count_displayed_le
    (hs₀ : Initial d s₀) (h : Reaches (step d) (guard d) s₀ s) (v : User) :
  (∀ displayed ∈ (s.users.terminals v).client.displayed, ∃ u, displayed.1 = d.name u)
    ∧ ∀ u body, (s.users.terminals v).client.displayed.count (d.name u, body)
      ≤ (s.users.terminals u).client.encryptions.countP
        fun encryption => encryption.1 = d.name v ∧ encryption.2.1 = body
  := by
  have hs := sound_of_reaches hs₀ (h.mono usual_of_guard)
  obtain ⟨l, hl⟩ := exists_ledger hs₀ h
  constructor
  · intro displayed hmem
    obtain ⟨opened, hsublist, hopened⟩ := hl.displays v
    obtain ⟨message, hmessage, hdisplay⟩ := Counting.exists_of_mem_forall₂ hopened hmem
    obtain ⟨u, _, -, hname, -⟩ := exists_entry hl hs (hsublist.subset hmessage) hdisplay
    exact ⟨u, hname⟩
  · intro u body
    apply (count_displayed_le_accepted hl hs u v body).trans
    apply le_trans _ (countP_frames_le hs u v body)
    apply List.Subperm.countP_le
    apply (List.sublist_append_left _ _).subperm.trans (hl.accounted u)

/-- `bob` displays a message of `alice`, and not more often than it was encrypted. -/
theorem count_displayed_le_sample :
  ∃ s, Reaches (step Deployment.deployed) (guard Deployment.deployed) fresh s
    ∧ 0 < (s.users.terminals false).client.displayed.count ("alice", "hello")
    ∧ (s.users.terminals false).client.displayed.count ("alice", "hello")
      ≤ (s.users.terminals true).client.encryptions.countP
        fun encryption => encryption.1 = "bob" ∧ encryption.2.1 = "hello"
  := by
  have hcommand : parseCommand "/send bob hello" = .send "bob hello" := by decide +kernel
  have hparse : parseSend "bob hello" = some ("bob", "hello") := by decide +kernel
  have hdown : Down fresh := by
    intro conn hmem
    cases hmem
  obtain ⟨frame, s₁, s₂, s₃, s₄, hthrough⟩ :=
    exists_shown_of_down initial_fresh .refl hdown (Deployment.usable_fresh true)
      (Deployment.usable_fresh false) (by decide) (Deployment.canBeLookedUp_deployed true)
      (Deployment.canBeLookedUp_deployed false) hcommand hparse
  have hsaid : Moves (step Deployment.deployed) (guard Deployment.deployed) s₁ s₂ :=
    ⟨_, (runsAlone_say ..).1, hthrough.say⟩
  have hlast : Moves (step Deployment.deployed) (guard Deployment.deployed) s₃ s₄ := by
    refine ⟨_, guard_of_usual ?_ ?_, hthrough.hear⟩
    · trivial
    · rintro _ ⟨⟩
  have halone : ∀ s a, runsAlone Deployment.deployed s a → guard Deployment.deployed s a :=
    fun _ _ h => h.1
  have hreach : Reaches (step Deployment.deployed) (guard Deployment.deployed) fresh s₄ :=
    (((hthrough.before.mono halone).tail hsaid).trans
      (hthrough.after.mono halone)).tail hlast
  use s₄, hreach
  constructor
  · rw [hthrough.shown]
    apply List.count_pos_iff.mpr
    apply List.mem_append_right _ (List.mem_singleton_self _)
  · apply (count_displayed_le initial_fresh hreach false).2 true "hello"

end Phantasma.Exchange
