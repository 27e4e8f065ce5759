import Phantasma.Relay.Duplication
import Phantasma.Relay.Order

/-!
# What is written to the sockets

What was put on the channel of a connection is written in order (`putsInOrder_of_reaches`), and what
a connection has written stays written.  So where no message is put on channels twice, a message is
written to one socket, and once (`SentOnce.eq_of_written`).
-/

namespace Phantasma

namespace Connection

variable {conn conn' : Connection} {puts : List Message}

/-- The messages `puts` are those that were put on the channel of the connection. -/
structure WritesFrom (puts : List Message) (conn : Connection) : Prop where
  isOpen : conn.isOpen → conn.written ++ conn.inHand ++ conn.outbound = puts
  written : conn.written <+: puts

theorem WritesFrom.push (h : conn.WritesFrom puts) (hopen : conn.isOpen) (message : Message) :
  (conn.push message).WritesFrom (puts ++ [message])
  where
  isOpen _ := by
    rw [← h.isOpen hopen, List.append_assoc _ _ [message]]
    rfl
  written := h.written.trans (List.prefix_append _ _)

/-- A step of a connection writes what was to be written next. -/
theorem Step.writesFrom
    {table : QueuedMessages} {a : TaskAction} (hstep : conn.Step a conn') (hfits : conn.Fits table)
    (h : conn.WritesFrom puts) :
  conn'.WritesFrom puts
  := by
  obtain ⟨hopen, hwritten⟩ := h
  cases hstep with
  | spawnTasks hphase =>
      have hsend := (hfits.unspawned (by rw [hphase]; rfl)).1
      simp only [isOpen, inHand, hsend] at hopen
      exact ⟨fun _ => hopen rfl, hwritten⟩
  | takeOutbound hsend houtbound =>
      simp only [isOpen, inHand, hsend, houtbound, List.append_nil] at hopen
      use fun _ => by simpa [inHand] using hopen rfl
  | write hsend =>
      simp only [isOpen, inHand, hsend] at hopen
      have hputs := hopen rfl
      constructor
      · intro _
        simpa [inHand] using hputs
      · rw [← hputs]
        apply List.prefix_append
  | failWrite | dropSend => exact ⟨by rintro ⟨⟩, hwritten⟩
  | _ => exact ⟨hopen, hwritten⟩

end Connection

namespace Relay

open TransitionSystem

variable {serde : JsonCodec} {s s' : Relay} {a : Action}

/-- What a connection has written stays, with more behind it. -/
theorem Step.written (h : Step serde s a s') :
  Along (fun conn conn' => conn.written <+: conn'.written) s s'
  := by
  apply h.along
  · intro conn
    apply List.prefix_refl
  · intro conn conn' conn''
    apply List.IsPrefix.trans
  · intro conn message
    apply List.prefix_refl
  · intro conn phase task _
    apply List.prefix_refl
  · intro c a' conn conn' _ _ hstep
    cases hstep with
    | write => apply List.prefix_append
    | _ => apply List.prefix_refl

/-! ### What was put on the channels -/

/-- What a connection has written, then what it has in hand, and then what is on its channel is what
was put there, in the order in which it was put, until the sending task ends; from then on nothing
is in hand or on the channel, and what was written is the beginning. -/
def PutsInOrder (s : Relay) : Prop :=
  ∀ (c : ℕ) (conn : Connection), s.connections[c]? = some conn →
    conn.WritesFrom (putOn s.puts c)

theorem Initial.putsInOrder (h : s.Initial) :
  s.PutsInOrder
  := by
  intro c conn hc
  rw [h.connections] at hc
  cases hc

/-- Nothing was put on the channel of a connection that was just opened. -/
theorem putsInOrder_connect (hs : s.PutsInOrder) (hgiven : s.TagsGiven) (username : String) :
  (s.connect username).PutsInOrder
  := by
  apply forall_connect (P := fun d conn => conn.WritesFrom (putOn s.puts d)) _ hs
  rw [putOn_eq_nil hgiven (Nat.le_refl _)]
  exact ⟨fun _ => rfl, List.prefix_refl _⟩

theorem putsInOrder_push
    {c : ℕ} {message : Message} (hs : s.PutsInOrder) (hopen : s.isOpen c) :
  (s.push c message).PutsInOrder
  := by
  intro d conn hd
  rw [getElem?_push] at hd
  rw [push]
  split at hd
  · rename_i heq
    subst d
    obtain ⟨conn, hc, rfl⟩ := Option.map_eq_some_iff.mp hd
    rw [putOn_append_self]
    rw [isOpen, hc] at hopen
    apply (hs c conn hc).push hopen
  · rename_i hne
    rw [putOn_append_of_ne _ (Ne.symm hne)]
    apply hs d conn hd

/-- One connection is replaced. -/
theorem PutsInOrder.replace
    {c : ℕ} {conn conn' : Connection} (hs : s.PutsInOrder) (hc : s.connections[c]? = some conn)
    (hconnections : s'.connections = (s.setConnection c conn').connections)
    (hputs : s'.puts = s.puts)
    (hconn : ∀ puts, conn.WritesFrom puts → conn'.WritesFrom puts) :
  s'.PutsInOrder
  := by
  rw [PutsInOrder, hconnections, hputs]
  apply forall_setConnection (P := fun d conn => conn.WritesFrom (putOn s.puts d)) hc hs
  apply hconn _ (hs c conn hc)

/-- A step keeps the order. -/
theorem Step.putsInOrder
    (h : Step serde s a s') (hs : s.Wellformed) (hgiven : s.TagsGiven) (hputs : s.PutsInOrder) :
  s'.PutsInOrder
  := by
  cases h with
  | connect => apply putsInOrder_connect hputs hgiven
  | task hc hstep =>
      apply hputs.replace hc rfl rfl
      exact fun _ => hstep.writesFrom (hs.fits _ _ hc)
  | sendQueued hc hphase hopen =>
      apply putsInOrder_push
      · exact hputs.replace hc rfl rfl fun _ h => ⟨h.isOpen, h.written⟩
      · rw [isOpen, getElem?_setConnection hc, if_pos rfl]
        apply hopen
  | forward hc hreceive hopen =>
      apply putsInOrder_push
      · exact hputs.replace hc rfl rfl fun _ h => ⟨h.isOpen, h.written⟩
      · rw [isOpen, getElem?_setConnection hc]
        split
        · rename_i heq
          rw [isOpen, ← heq, hc] at hopen
          apply hopen
        · apply hopen
  | refuse => apply hputs
  | register hc | loadQueue hc | breakQueued hc | deleteQueued hc | accept hc | lookUp hc
  | fallBack hc | enqueue hc | cleanUp hc =>
      exact hputs.replace hc rfl rfl fun _ h => ⟨h.isOpen, h.written⟩

/-- In every run from the start, what was put on the channel of a connection is what it has written,
what it has in hand and what is on the channel, until its sending task ends. -/
theorem putsInOrder_of_reaches
    {guard : Relay → Action → Prop} (hs : s.Initial) (h : Reaches (step serde) guard s s') :
  s'.PutsInOrder
  := by
  have hboth : s'.TagsGiven ∧ s'.PutsInOrder := by
    apply invariant_of_reaches (I := fun s => s.TagsGiven ∧ s.PutsInOrder) _ h hs.wellformed
      ⟨hs.tagsGiven, hs.putsInOrder⟩
    rintro t a t' - hstep ht ⟨hgiven, hputs⟩
    exact ⟨hstep.tagsGiven ht hgiven, hstep.putsInOrder ht hgiven hputs⟩
  apply hboth.2

/-- What a connection has written was put on its channel. -/
theorem PutsInOrder.mem_puts
    (hs : s.PutsInOrder) {c : ℕ} {conn : Connection} (hc : s.connections[c]? = some conn)
    {message : Message} (h : message ∈ conn.written) :
  (c, message) ∈ s.puts
  := by
  have hput : message ∈ putOn s.puts c := (hs c conn hc).written.subset h
  obtain ⟨put, hfilter, rfl⟩ := List.mem_map.mp hput
  obtain ⟨hmem, heq⟩ := List.mem_filter.mp hfilter
  rw [← of_decide_eq_true heq]
  apply hmem

/-- Where no message is put on channels twice, a message is written in one place. -/
theorem SentOnce.eq_of_written
    (hsent : s.SentOnce) (hs : s.PutsInOrder) {c c' i i' : ℕ} {conn conn' : Connection}
    (hc : s.connections[c]? = some conn) (hc' : s.connections[c']? = some conn')
    {message message' : Message} (hi : conn.written[i]? = some message)
    (hi' : conn'.written[i']? = some message') (htag : message.tag = message'.tag) :
  c = c' ∧ i = i'
  := by
  have hput := hs.mem_puts hc (List.mem_of_getElem? hi)
  have hput' := hs.mem_puts hc' (List.mem_of_getElem? hi')
  have hnodup : (s.puts.map fun put => put.2.tag).Nodup := hsent.puts_nodup
  obtain ⟨rfl, rfl⟩ := Prod.mk.inj (List.inj_on_of_nodup_map hnodup hput hput' htag)
  obtain rfl := Option.some.inj (hc.symm.trans hc')
  have hwritten : (conn.written.map Message.tag).Nodup := by
    have hputs : ((putOn s.puts c).map Message.tag).Nodup := by
      rw [putOn, List.map_map]
      apply (List.filter_sublist.map _).nodup hnodup
    apply (List.Sublist.map _ _).nodup hputs
    apply (hs c conn hc).written.sublist
  use rfl
  have hlt : i < (conn.written.map Message.tag).length := by
    rw [List.length_map]
    apply (List.getElem?_eq_some_iff.mp hi).1
  apply (List.getElem?_inj hlt hwritten).mp
  rw [List.getElem?_map, List.getElem?_map, hi, hi']

end Relay

end Phantasma
