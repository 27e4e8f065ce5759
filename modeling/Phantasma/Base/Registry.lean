import Mathlib.Data.List.Nodup
import Mathlib.Data.Set.Insert
import Mathlib.Logic.Function.Basic
import Phantasma.Base.TransitionSystem

/-!
# A registry with one holder for each key

Owners claim keys and release them.  A claim takes the key from whoever held it, and a
release gives the key up only if the owner still holds it.  An owner claims one key once
and releases it at most once, in any order with the claims and releases of others.

`Registry.Sound` says who holds a key in terms of what has happened: the owner that
claimed it last, until it releases it.  It holds of every state that can be reached
(`Registry.sound_of_reaches`).
-/

/-- The holder of each key, the claims made so far, the newest first, and the owners that
have released their key. -/
structure Registry (κ ι : Type*) where
  holder : κ → Option ι
  claims : List (κ × ι)
  released : Set ι

namespace Registry

variable {κ ι : Type*} [DecidableEq κ]

/-- An owner claims or releases a key. -/
inductive Action (κ ι : Type*) where
  | claim (k : κ) (i : ι)
  | release (k : κ) (i : ι)

/-- The registry in which nothing has happened. -/
def empty : Registry κ ι where
  holder _ := none
  claims := []
  released := ∅

/-- The registry after `i` has claimed `k`. -/
def claim (r : Registry κ ι) (k : κ) (i : ι) : Registry κ ι where
  holder := Function.update r.holder k (some i)
  claims := (k, i) :: r.claims
  released := r.released

open Classical in
/-- The registry after `i` has released `k`. -/
noncomputable def release (r : Registry κ ι) (k : κ) (i : ι) : Registry κ ι where
  holder := if r.holder k = some i then Function.update r.holder k none else r.holder
  claims := r.claims
  released := insert i r.released

open Classical in
/-- An owner can claim one key, and release it later. -/
noncomputable def step (r : Registry κ ι) : Action κ ι → Option (Registry κ ι)
  | .claim k i =>
      if i ∉ r.claims.map Prod.snd ∧ i ∉ r.released then some (r.claim k i) else none
  | .release k i =>
      if (k, i) ∈ r.claims ∧ i ∉ r.released then some (r.release k i) else none

/-- The owner that claimed `k` last. -/
def lastClaimant (r : Registry κ ι) (k : κ) : Option ι :=
  (r.claims.find? fun claim => claim.1 = k).map Prod.snd

theorem lastClaimant_claim_self (r : Registry κ ι) (k : κ) (i : ι) :
  (r.claim k i).lastClaimant k = some i
  := by
  simp [lastClaimant, claim]

theorem lastClaimant_claim_of_ne (r : Registry κ ι) {k k' : κ} (hne : k' ≠ k) (i : ι) :
  (r.claim k i).lastClaimant k' = r.lastClaimant k'
  := by
  simp [lastClaimant, claim, hne.symm]

theorem holder_release_of_ne (r : Registry κ ι) {k k' : κ} (hne : k' ≠ k) (i : ι) :
  (r.release k i).holder k' = r.holder k'
  := by
  simp only [release]
  split
  · apply Function.update_of_ne hne
  · rfl

theorem holder_release_self (r : Registry κ ι) (k : κ) (i j : ι) :
  (r.release k i).holder k = some j ↔ r.holder k = some j ∧ j ≠ i
  := by
  simp only [release]
  split
  · rename_i hi
    simp [hi, eq_comm]
  · rename_i hi
    rw [iff_self_and]
    rintro hj rfl
    apply hi hj

/-- The last claimant of a key has claimed it. -/
theorem mem_claims_of_lastClaimant
    {r : Registry κ ι} {k : κ} {i : ι} (h : r.lastClaimant k = some i) :
  (k, i) ∈ r.claims
  := by
  obtain ⟨⟨k', i'⟩, hfind, rfl⟩ := Option.map_eq_some_iff.mp h
  obtain rfl : k' = k := by simpa using List.find?_some hfind
  apply List.mem_of_find?_eq_some hfind

/-- No owner has claimed twice, and a key is held by the owner that claimed it last,
unless that one has released it. -/
structure Sound (r : Registry κ ι) : Prop where
  once : (r.claims.map Prod.snd).Nodup
  holder : ∀ k i, r.holder k = some i ↔ r.lastClaimant k = some i ∧ i ∉ r.released

theorem sound_empty :
  (empty : Registry κ ι).Sound
  where
  once := List.nodup_nil
  holder := by simp [empty, lastClaimant]

theorem Sound.claim
    {r : Registry κ ι} (h : r.Sound) {k : κ} {i : ι} (hclaims : i ∉ r.claims.map Prod.snd)
    (hreleased : i ∉ r.released) :
  (r.claim k i).Sound
  where
  once := List.nodup_cons.mpr ⟨hclaims, h.once⟩
  holder k' j := by
    by_cases hk : k' = k
    · subst k'
      rw [lastClaimant_claim_self]
      simp only [Registry.claim, Function.update_self, Option.some.injEq, iff_self_and]
      rintro rfl
      apply hreleased
    · rw [lastClaimant_claim_of_ne r hk]
      simp only [Registry.claim, Function.update_of_ne hk]
      apply h.holder

/-- Two keys that one owner has claimed are the same key. -/
theorem Sound.key_eq
    {r : Registry κ ι} (h : r.Sound) {k k' : κ} {i : ι} (hk : (k, i) ∈ r.claims)
    (hk' : (k', i) ∈ r.claims) :
  k = k'
  := by
  have := List.inj_on_of_nodup_map h.once hk hk' rfl
  apply congrArg Prod.fst this

theorem Sound.release
    {r : Registry κ ι} (h : r.Sound) {k : κ} {i : ι} (hclaims : (k, i) ∈ r.claims) :
  (r.release k i).Sound
  where
  once := h.once
  holder k' j := by
    have hlast : (r.release k i).lastClaimant k' = r.lastClaimant k' := rfl
    have hreleased : j ∉ (r.release k i).released ↔ j ∉ r.released ∧ j ≠ i := by
      simp [Registry.release, and_comm]
    rw [hlast, hreleased, ← and_assoc, ← h.holder]
    by_cases hk : k' = k
    · subst k'
      apply holder_release_self
    · rw [holder_release_of_ne r hk, iff_self_and]
      rintro hholder rfl
      apply hk
      apply h.key_eq _ hclaims
      apply mem_claims_of_lastClaimant ((h.holder k' j).mp hholder).1

theorem sound_of_step
    {r r' : Registry κ ι} {a : Action κ ι} (h : r.step a = some r') (hr : r.Sound) :
  r'.Sound
  := by
  cases a with
  | claim k i =>
      obtain ⟨⟨hclaims, hreleased⟩, ⟨⟩⟩ := Option.ite_none_right_eq_some.mp h
      apply hr.claim hclaims hreleased
  | release k i =>
      obtain ⟨⟨hclaims, -⟩, ⟨⟩⟩ := Option.ite_none_right_eq_some.mp h
      apply hr.release hclaims

/-- Every state reached from a sound one is sound. -/
theorem sound_of_reaches
    {guard : Registry κ ι → Action κ ι → Prop} {r r' : Registry κ ι}
    (h : TransitionSystem.Reaches step guard r r') (hr : r.Sound) :
  r'.Sound
  := by
  apply h.invariant _ hr
  intro t a t' _ hstep ht
  apply sound_of_step hstep ht

end Registry
