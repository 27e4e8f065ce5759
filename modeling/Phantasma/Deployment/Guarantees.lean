import Phantasma.Deployment.Service

/-!
# What the users can rely on

All places have one entry for a user, at all times (`eq_of_has`).  Every message that was
written to a user is displayed, whenever it arrives (`displayed_of_frame`).  And from every state
that the system reaches, two users can write to one another (`exists_displayed`).
-/

namespace Phantasma.Deployment

open TransitionSystem

/-! ### A sample system -/

/-- The store of a user of the sample system. -/
def deployedStore : IdentityStore where
  ed25519 := ⟨id, fun _ => true, fun _ => rfl⟩
  x25519Base := (samplePrimitives fun _ => true).x25519Base
  serde := .strict
  pretty := .strict
  root := "/root/.phantasma"

/-- Two users of the sample relay. -/
def deployed : Deployment Bool (Key × Bytes) where
  primitives := samplePrimitives fun _ => true
  agreeing := agreeing_samplePrimitives
  serde := .compact
  inverts := JsonCodec.inverts_compact
  library _ := ""
  net := sampleNetwork
  fs _ := ⟨false, false, []⟩
  store _ := deployedStore
  writesFiles _ := ⟨sampleStore_writesFiles.inverts, sampleStore_writesFiles.text,
    sampleStore_writesFiles.whole⟩
  x25519Base_store _ := rfl
  name u := if u then "alice" else "bob"
  name_injective := by decide +kernel
  address _ := sampleAddress

/-- Nothing has happened yet. -/
def fresh : State Bool where
  directory := .empty
  terminals _ := ⟨⟨none, ⟨⟨∅, "/root/.phantasma"⟩, none, []⟩⟩, .off⟩
  requests := []

theorem initial_fresh :
  deployed.Initial fresh
  where
  directory u := rfl
  progress u := rfl
  requests := rfl
  contacts u v := rfl
  saved u v book h := by
    obtain ⟨_, _, hnone, -⟩ := h
    cases hnone
  events u := rfl

theorem usable_fresh (u : Bool) :
  deployed.Usable fresh u
  where
  valid := by revert u; decide +kernel
  identity := ⟨.absent, .absent⟩
  contacts := Or.inl rfl

theorem canBeLookedUp_deployed (u : Bool) :
  deployed.CanBeLookedUp u
  := by
  rw [CanBeLookedUp]
  revert u
  decide +kernel

section

variable {User MessageKey : Type} [DecidableEq User] {d : Deployment User MessageKey}
  {s s' : State User} {u v : User}

/-! ### One entry -/

/-- At all times and in all places, a user has one entry: whatever the identity file, in its current
format, a session, a registration, the directory or a contact book has for a user in some state, and
any of them in a later state, is the same. -/
theorem eq_of_has
    {s₀ : State User} {u : User} {entry entry' : PublicKeyEntry} (hs₀ : d.Initial s₀)
    (hreach : Reaches d.step d.guard s₀ s) (hlater : Reaches d.step d.guard s s')
    (h : d.Has s u entry) (h' : d.Has s' u entry') :
  entry = entry'
  := by
  have hs := agrees_of_reaches (agrees_of_initial hs₀) hreach
  have hs' := agrees_of_reaches hs hlater
  obtain ⟨stored, hholds, rfl⟩ := entry_of_has hs h
  obtain ⟨stored', hholds', rfl⟩ := entry_of_has hs' h'
  rw [holds_unique (holdsIdentity_of_reaches hs hholds hlater) hholds']

/-- The keys that a user of the sample system has in its identity file are those in the
directory. -/
theorem eq_of_has_sample :
  ∃ s stored entry, Reaches deployed.step deployed.guard fresh s
    ∧ deployed.HoldsIdentity s true stored
    ∧ s.directory.lookupPublicKey "alice" = some entry
    ∧ entry = ⟨"alice", stored.identityPublicKey, stored.encryptionPublicKey⟩
  := by
  obtain ⟨s, identity, hfollows, hrunning⟩ :=
    exists_running (agrees_of_initial initial_fresh) (usable_fresh true)
  have hs := agrees_of_reaches (agrees_of_initial initial_fresh) hfollows.reaches
  obtain ⟨entry, hentry⟩ := Option.isSome_iff_exists.mp (hs.running true identity hrunning)
  have hidentity : (s.terminals true).progress.identity = some identity := by
    rw [hrunning]
    rfl
  obtain ⟨stored, hholds, -⟩ := (hs.session true identity hidentity).stored
  use s, stored, entry, hfollows.reaches, hholds, hentry
  have hknown : deployed.Has s true entry := .known (v := false) (.directory hentry)
  apply eq_of_has initial_fresh hfollows.reaches .refl hknown (.file hholds rfl)

/-! ### Messages -/

/-- From every state that is reached, two users whose files can be loaded and whose names can be
looked up can write to one another: whatever their clients are doing, there are steps after which
a line that the one types, a command to send a message to the other, gives a frame to the socket,
which the relay accepts, and the other displays the message, as the next one. -/
theorem exists_displayed
    {s₀ : State User} (hs₀ : d.Initial s₀) (hreach : Reaches d.step d.guard s₀ s)
    (hu : d.Usable s u) (hv : d.Usable s v) (hulookup : d.CanBeLookedUp u)
    (hvlookup : d.CanBeLookedUp v) {typed rest body : String}
    (hcommand : parseCommand typed = .send rest)
    (hparse : parseSend rest = some (d.name v, body)) :
  ∃ s₁ s₂ s₃ frame payload, Reaches d.step d.guard s s₁
    ∧ d.step s₁ (.turn u (.line typed workingOutside) true false) = some s₂
    ∧ (s₂.terminals u).client.frames = (s₁.terminals u).client.frames ++ [frame]
    ∧ checkPayload d.serde (d.name u) frame = .ok (.accepted (d.name v) payload)
    ∧ d.step s₂ (.turn v (.binary payload workingOutside) true false) = some s₃
    ∧ (s₃.terminals v).client.displayed
      = (s.terminals v).client.displayed ++ [(d.name u, body)]
  := by
  have hs := agrees_of_reaches (agrees_of_initial hs₀) hreach
  have hwritten := written_of_reaches (agrees_of_initial hs₀) (written_of_initial hs₀) hreach
  obtain ⟨s₁, identity, identity', hboth, hurunning, hvrunning, hdisplayed⟩ :=
    exists_running_running hs hu hv
  have hs₁ := agrees_of_reaches hs hboth
  obtain ⟨s₂, frame, hspeaks⟩ := exists_speaks hs₁ hurunning hvrunning hvlookup hcommand hparse
  have hall := Relation.ReflTransGen.tail hboth ⟨_, by trivial, hspeaks.step⟩
  have hs₂ := agrees_of_reaches hs hall
  obtain ⟨payload, publicKey, encrypted, hwrote, hcheck, hpayload⟩ :=
    hspeaks.exists_payload hs₂ (written_of_reaches hs hwritten hall)
  have hreceiver : (s₂.terminals v).progress = (s₁.terminals v).progress
      ∧ (s₂.terminals v).client.displayed = (s₁.terminals v).client.displayed := by
    by_cases hne : v = u
    · subst hne
      exact ⟨hspeaks.progress, hspeaks.displayed⟩
    · rw [hspeaks.others v hne]
      exact ⟨rfl, rfl⟩
  have hreceives := hreceiver.1.trans hvrunning
  use s₁, s₂, d.takeTurn s₂ v identity' (.binary payload workingOutside) true false, frame, payload,
    hboth, hspeaks.step, hspeaks.frames, hcheck
  constructor
  · rw [step, hreceives]
  · rw [← hdisplayed, ← hreceiver.2]
    apply (displayed_takeTurn hs₂ hreceives hwrote hpayload (fun _ => hulookup) rfl).2

end

/-- In the sample system, a message gets from one user to the other. -/
theorem exists_displayed_sample :
  ∃ s₁ s₂ s₃ frame payload, Reaches deployed.step deployed.guard fresh s₁
    ∧ deployed.step s₁ (.turn true (.line "/send bob hello" workingOutside) true false) = some s₂
    ∧ (s₂.terminals true).client.frames = (s₁.terminals true).client.frames ++ [frame]
    ∧ checkPayload .compact "alice" frame = .ok (.accepted "bob" payload)
    ∧ deployed.step s₂ (.turn false (.binary payload workingOutside) true false) = some s₃
    ∧ (s₃.terminals false).client.displayed = [("alice", "hello")]
  := by
  have hcommand : parseCommand "/send bob hello" = .send "bob hello" := by decide +kernel
  have hparse : parseSend "bob hello" = some ("bob", "hello") := by decide +kernel
  exact exists_displayed initial_fresh .refl (usable_fresh true) (usable_fresh false)
    (canBeLookedUp_deployed true) (canBeLookedUp_deployed false) hcommand hparse

end Phantasma.Deployment
