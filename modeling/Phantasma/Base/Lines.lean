import Mathlib.Data.List.Basic
import Mathlib.Logic.Function.Basic

/-!
# Order along lines

An item in some hand is put at the end of a queue, from which the lines take what they
await, or is sent on a line at once, and then it overtakes what that line still awaits.  A
line is the list of the items sent on it, followed by those it awaits.

`InOrder` is kept by these moves.  It relates the lines to a relation `before` in which a
new item is before nothing: of two items on a line, one that the other is before is ahead
just when it has overtaken it (`InOrder.overtakes` and `InOrder.not_overtakes`).
-/

namespace Lines

variable {ι κ μ : Type*}

/-- On the line `line`, the item `ahead` was sent while `behind` was still awaited. -/
structure Overtaking (ι μ : Type*) where
  line : ι
  ahead : μ
  behind : μ
deriving DecidableEq

/-- Two items at ordered positions of a list are a sublist of it. -/
theorem pair_sublist
    {l : List μ} {i j : ℕ} {x y : μ} (hij : i < j) (hi : l[i]? = some x)
    (hj : l[j]? = some y) :
  [x, y].Sublist l
  := by
  have hpairs : l.Pairwise fun a b => [a, b].Sublist l :=
    List.pairwise_iff_forall_sublist.mpr id
  obtain ⟨hlt, rfl⟩ := List.getElem?_eq_some_iff.mp hi
  obtain ⟨hlt', rfl⟩ := List.getElem?_eq_some_iff.mp hj
  apply List.pairwise_iff_getElem.mp hpairs i j hlt hlt' hij

/-! ### The invariant -/

/-- The item is in no place and before nothing. -/
structure New (before : μ → μ → Prop) (queue : List μ) (line : ι → List μ)
    (hand : κ → Option μ) (overtakings : List (Overtaking ι μ)) (m : μ) : Prop where
  queue : m ∉ queue
  line : ∀ d, m ∉ line d
  hand : ∀ c, m ∉ hand c
  overtakings : ∀ o ∈ overtakings, o.ahead ≠ m ∧ o.behind ≠ m
  newest : ∀ p, ¬ before m p

/-- On the line `d`, the item `p` may be ahead of `q`. -/
structure MayLead (before : μ → μ → Prop) (overtakings : List (Overtaking ι μ)) (d : ι)
    (p q : μ) : Prop where
  ne : p ≠ q
  overtakes : before q p → ⟨d, p, q⟩ ∈ overtakings
  not_overtaken : ⟨d, q, p⟩ ∉ overtakings

section MayLead

variable {before : μ → μ → Prop} {queue : List μ} {line : ι → List μ} {hand : κ → Option μ}
variable {overtakings : List (Overtaking ι μ)} {d : ι} {m p q : μ}

/-- A new item may come last. -/
theorem New.last
    (hm : New before queue line hand overtakings m) (hne : p ≠ m) (d : ι) :
  MayLead before overtakings d p m
  where
  ne := hne
  overtakes hbefore := absurd hbefore (hm.newest p)
  not_overtaken hmem := (hm.overtakings _ hmem).1 rfl

/-- More overtakings may be recorded, if the two items are not among them. -/
theorem MayLead.append
    (h : MayLead before overtakings d p q) {more : List (Overtaking ι μ)}
    (hmore : ⟨d, q, p⟩ ∉ more) :
  MayLead before (overtakings ++ more) d p q
  where
  ne := h.ne
  overtakes hbefore := List.mem_append_left _ (h.overtakes hbefore)
  not_overtaken hmem := (List.mem_append.mp hmem).elim h.not_overtaken hmore

/-- Of two items on a line, none overtakes the other when a third one is sent. -/
theorem MayLead.send
    {e : ι} (h : MayLead before overtakings e p q) (hne : q ≠ m)
    (awaited : List μ) :
  MayLead before (overtakings ++ awaited.map (Overtaking.mk d m)) e p q
  := by
  apply h.append
  intro hmem
  obtain ⟨_, -, ⟨⟩⟩ := List.mem_map.mp hmem
  apply hne rfl

/-- The line that a new item is sent on. -/
theorem New.pairwise_send
    {sent awaited : List μ} (hm : New before queue line hand overtakings m)
    (hout : ∀ p ∈ sent ++ awaited, p ≠ m)
    (h : (sent ++ awaited).Pairwise (MayLead before overtakings d)) :
  (sent ++ m :: awaited).Pairwise
    (MayLead before (overtakings ++ awaited.map (Overtaking.mk d m)) d)
  := by
  obtain ⟨hsent, hawaited, hlead⟩ := List.pairwise_append.mp h
  apply List.pairwise_append.mpr
  and_intros
  · apply hsent.imp_of_mem
    intro p q _ hq hpq
    apply hpq.send (hout q (List.mem_append_left _ hq))
  · apply List.pairwise_cons.mpr
    constructor
    · intro q hq
      have hne := hout q (List.mem_append_right _ hq)
      constructor
      · apply hne.symm
      · intro _
        apply List.mem_append_right _ (List.mem_map_of_mem hq)
      · intro hmem
        rcases List.mem_append.mp hmem with hold | hnew
        · apply (hm.overtakings _ hold).2 rfl
        · obtain ⟨_, -, ⟨⟩⟩ := List.mem_map.mp hnew
          apply hne rfl
    · apply hawaited.imp_of_mem
      intro p q _ hq hpq
      apply hpq.send (hout q (List.mem_append_right _ hq))
  · intro p hp q hq
    rcases List.mem_cons.mp hq with rfl | hq
    · apply (hm.last (hout p (List.mem_append_left _ hp)) d).append
      intro hmem
      obtain ⟨_, hp', ⟨⟩⟩ := List.mem_map.mp hmem
      apply (hlead p hp p hp').ne rfl
    · apply (hlead p hp q hq).send (hout q (List.mem_append_right _ hq))

end MayLead

/-- The queue is in order, the lines are up to overtaking, and what is in a hand is new to
the rest. -/
structure InOrder [DecidableEq κ] (before : μ → μ → Prop) (queue : List μ)
    (line : ι → List μ) (hand : κ → Option μ) (overtakings : List (Overtaking ι μ)) :
    Prop where
  hand : ∀ c, ∀ m ∈ hand c,
    New before queue line (Function.update hand c none) overtakings m
  line : ∀ d, (line d).Pairwise (MayLead before overtakings d)
  queue : queue.Pairwise fun p q => p ≠ q ∧ ¬ before q p

section Moves

variable [DecidableEq κ] {before before' : μ → μ → Prop} {queue queue' : List μ}
variable {line line' : ι → List μ} {hand hand' : κ → Option μ}
variable {overtakings : List (Overtaking ι μ)} {c : κ} {d : ι} {m x y : μ}

theorem mem_update {item : Option μ} {e : κ} :
  m ∈ Function.update hand c item e ↔ e = c ∧ m ∈ item ∨ e ≠ c ∧ m ∈ hand e
  := by
  rw [Function.update_apply]
  split <;> simp [*]

/-- The queue, the lines and the hands may lose items, and a line without overtakings may
take its items from the queue. -/
theorem InOrder.mono
    (h : InOrder before queue line hand overtakings) (hqueue : queue'.Sublist queue)
    (hline : ∀ d, (line' d).Sublist (line d)
      ∨ (line' d).Sublist queue ∧ ∀ o ∈ overtakings, o.line ≠ d)
    (hhand : ∀ c, ∀ m ∈ hand' c, m ∈ hand c) :
  InOrder before queue' line' hand' overtakings
  where
  queue := h.queue.sublist hqueue
  line d := by
    rcases hline d with hsub | ⟨hsub, hnone⟩
    · apply (h.line d).sublist hsub
    · apply (h.queue.sublist hsub).imp
      rintro p q ⟨hne, hnot⟩
      constructor
      · apply hne
      · intro hbefore
        apply absurd hbefore hnot
      · intro hmem
        apply hnone _ hmem rfl
  hand c m hm := by
    have hnew := h.hand c m (hhand c m hm)
    constructor
    · intro hmem
      apply hnew.queue (hqueue.subset hmem)
    · intro d hmem
      rcases hline d with hsub | ⟨hsub, -⟩
      · apply hnew.line d (hsub.subset hmem)
      · apply hnew.queue (hsub.subset hmem)
    · intro e hmem
      rcases mem_update.mp hmem with ⟨-, ⟨⟩⟩ | ⟨hne, hmem⟩
      apply hnew.hand e
      apply mem_update.mpr (.inr ⟨hne, hhand e m hmem⟩)
    · apply hnew.overtakings
    · apply hnew.newest

/-- A hand may take a new item, when no item in another hand is before it. -/
theorem InOrder.take
    (h : InOrder before queue line hand overtakings)
    (hm : New before' queue line hand overtakings m)
    (hbefore : ∀ p q, before' p q → before p q ∨ q = m)
    (hothers : ∀ e, e ≠ c → ∀ p ∈ hand e, ¬ before' p m) :
  InOrder before' queue line (Function.update hand c (some m)) overtakings
  where
  queue := by
    apply h.queue.imp_of_mem
    rintro p q hp - ⟨hne, hnot⟩
    use hne
    intro hbefore'
    rcases hbefore q p hbefore' with hold | rfl
    · apply hnot hold
    · apply hm.queue hp
  line d := by
    apply (h.line d).imp_of_mem
    intro p q hp _ hlead
    constructor
    · apply hlead.ne
    · intro hbefore'
      rcases hbefore q p hbefore' with hold | rfl
      · apply hlead.overtakes hold
      · apply absurd hp (hm.line d)
    · apply hlead.not_overtaken
  hand e p hp := by
    rcases mem_update.mp hp with ⟨rfl, ⟨⟩⟩ | ⟨hne, hp'⟩
    · constructor
      · apply hm.queue
      · apply hm.line
      · intro f hmem
        rw [Function.update_idem] at hmem
        rcases mem_update.mp hmem with ⟨-, ⟨⟩⟩ | ⟨-, hmem⟩
        apply hm.hand f hmem
      · apply hm.overtakings
      · apply hm.newest
    · have hnew := h.hand e p hp'
      constructor
      · apply hnew.queue
      · apply hnew.line
      · intro f hmem
        rw [mem_update, mem_update] at hmem
        rcases hmem with ⟨-, ⟨⟩⟩ | ⟨hfe, ⟨rfl, ⟨⟩⟩ | ⟨-, hmem⟩⟩
        · apply hm.hand e hp'
        · apply hnew.hand f
          apply mem_update.mpr (.inr ⟨hfe, hmem⟩)
      · apply hnew.overtakings
      · intro q hbefore'
        rcases hbefore p q hbefore' with hold | rfl
        · apply hnew.newest q hold
        · apply hothers e hne p hp' hbefore'

/-- A new item may be put at the end of the queue, and of the lines that await all of
theirs. -/
theorem InOrder.enqueue
    (h : InOrder before queue line hand overtakings)
    (hm : New before queue line hand overtakings m)
    (hline : ∀ d, line' d = line d ∨ line' d = line d ++ [m]) :
  InOrder before (queue ++ [m]) line' hand overtakings
  where
  queue := by
    apply List.pairwise_append.mpr
    use h.queue, List.pairwise_singleton _ m
    intro p hp q hq
    obtain rfl := List.mem_singleton.mp hq
    use ne_of_mem_of_not_mem hp hm.queue, hm.newest p
  line d := by
    rcases hline d with heq | heq
    · rw [heq]
      apply h.line d
    · rw [heq]
      apply List.pairwise_append.mpr
      use h.line d, List.pairwise_singleton _ m
      intro p hp q hq
      obtain rfl := List.mem_singleton.mp hq
      apply hm.last (ne_of_mem_of_not_mem hp (hm.line d))
  hand c p hp := by
    have hnew := h.hand c p hp
    have hne : p ≠ m := by
      rintro rfl
      apply hm.hand c hp
    constructor
    · simp [hnew.queue, hne]
    · intro d
      rcases hline d with heq | heq
      · rw [heq]
        apply hnew.line d
      · rw [heq]
        simp [hnew.line d, hne]
    · apply hnew.hand
    · apply hnew.overtakings
    · apply hnew.newest

/-- A new item may be sent on a line at once; it overtakes what the line awaits. -/
theorem InOrder.send
    [DecidableEq ι] {sent awaited : List μ}
    (h : InOrder before queue line hand overtakings)
    (hm : New before queue line hand overtakings m) (hd : line d = sent ++ awaited) :
  InOrder before queue (Function.update line d (sent ++ m :: awaited)) hand
    (overtakings ++ awaited.map (Overtaking.mk d m))
  where
  queue := h.queue
  line e := by
    by_cases hne : e = d
    · subst e
      rw [Function.update_self]
      have hout : ∀ p ∈ sent ++ awaited, p ≠ m := by
        intro p hp
        apply ne_of_mem_of_not_mem hp (hd ▸ hm.line d)
      apply hm.pairwise_send hout (hd ▸ h.line d)
    · rw [Function.update_of_ne hne]
      apply (h.line e).imp_of_mem
      intro p q _ hq hpq
      apply hpq.send (ne_of_mem_of_not_mem hq (hm.line e))
  hand c p hp := by
    have hnew := h.hand c p hp
    have hne : p ≠ m := by
      rintro rfl
      apply hm.hand c hp
    have hout : p ∉ sent ++ awaited := hd ▸ hnew.line d
    constructor
    · apply hnew.queue
    · intro e
      by_cases hed : e = d
      · subst e
        rw [Function.update_self]
        rw [List.mem_append, not_or] at hout
        simp [hout.1, hout.2, hne]
      · rw [Function.update_of_ne hed]
        apply hnew.line e
    · apply hnew.hand
    · intro o ho
      rcases List.mem_append.mp ho with hold | hlast
      · apply hnew.overtakings o hold
      · obtain ⟨q, hq, rfl⟩ := List.mem_map.mp hlast
        use hne.symm
        apply ne_of_mem_of_not_mem (List.mem_append_right _ hq) hout
    · apply hnew.newest

/-! ### What the invariant says -/

/-- Where the later of two items is ahead, it has overtaken the earlier one. -/
theorem InOrder.overtakes
    (h : InOrder before queue line hand overtakings) (hbefore : before x y)
    (hsub : [y, x].Sublist (line d)) :
  ⟨d, y, x⟩ ∈ overtakings
  := (List.pairwise_iff_forall_sublist.mp (h.line d) hsub).overtakes hbefore

/-- An item that is ahead was not overtaken. -/
theorem InOrder.not_overtakes
    (h : InOrder before queue line hand overtakings) (hsub : [x, y].Sublist (line d)) :
  ⟨d, y, x⟩ ∉ overtakings
  := (List.pairwise_iff_forall_sublist.mp (h.line d) hsub).not_overtaken

end Moves

end Lines
