import Mathlib.Data.List.Induction
import Mathlib.Data.List.Perm.Subperm

/-!
# Counting by what things come from

Two ways to bound the number of things by the number of things they come from: they are paired
one by one (`countP_le_of_forall₂`), or each has a number of its own, which leads to what it
comes from in a list of entries (`countP_le_of_numbered`).
-/

namespace Counting

variable {α β : Type} {p : α → Bool} {q : β → Bool} {things : List α} {entries : List β}

theorem exists_of_mem_forall₂
    {R : α → β → Prop} (h : List.Forall₂ R things entries) {thing : α} (hmem : thing ∈ things) :
  ∃ entry ∈ entries, R thing entry
  := by
  induction h with
  | nil => cases hmem
  | @cons thing' entry _ _ hR _ ih =>
      rcases List.mem_cons.mp hmem with rfl | hmem
      · exact ⟨entry, List.mem_cons_self, hR⟩
      · obtain ⟨entry', hentry', hR'⟩ := ih hmem
        exact ⟨entry', List.mem_cons_of_mem _ hentry', hR'⟩

theorem countP_le_of_forall₂
    {R : α → β → Prop} (h : List.Forall₂ R things entries)
    (hpq : ∀ thing, ∀ entry ∈ entries, R thing entry → p thing → q entry) :
  things.countP p ≤ entries.countP q
  := by
  induction h with
  | nil => apply Nat.le_refl
  | @cons thing entry things entries hR _ ih =>
      have hrest : things.countP p ≤ entries.countP q := by
        apply ih
        intro thing entry hentry
        apply hpq thing entry (List.mem_cons_of_mem _ hentry)
      rw [List.countP_cons, List.countP_cons]
      apply Nat.add_le_add hrest
      split
      · rename_i hthing
        apply Nat.le_of_eq (if_pos (hpq thing entry List.mem_cons_self hR hthing)).symm
      · apply Nat.zero_le

/-- A list is counted by its positions. -/
theorem countP_range (entries : List β) :
  (List.range entries.length).countP (fun i => entries[i]?.any q) = entries.countP q
  := by
  induction entries using List.reverseRecOn with
  | nil => rfl
  | append_singleton entries entry ih =>
      have hold : (List.range entries.length).countP (fun i => (entries ++ [entry])[i]?.any q)
          = (List.range entries.length).countP (fun i => entries[i]?.any q) := by
        apply List.countP_congr
        intro i hi
        rw [List.getElem?_append_left (List.mem_range.mp hi)]
      rw [List.length_append, List.length_singleton, List.range_succ, List.countP_append,
        List.countP_append, hold, ih]
      simp

/-- Things with numbers of their own are at most as many as the entries that have these
numbers. -/
theorem countP_le_of_numbered
    {number : α → ℕ} (hnodup : (things.map number).Nodup)
    (h : ∀ thing ∈ things, p thing → ∃ entry, entries[number thing]? = some entry ∧ q entry) :
  things.countP p ≤ entries.countP q
  := by
  have hnumbers : ((things.filter p).map number).Nodup :=
    (List.filter_sublist.map number).nodup hnodup
  have hsubset : (things.filter p).map number
      ⊆ (List.range entries.length).filter (fun i => entries[i]?.any q) := by
    intro i hi
    obtain ⟨thing, hthing, rfl⟩ := List.mem_map.mp hi
    obtain ⟨hmem, hp⟩ := List.mem_filter.mp hthing
    obtain ⟨entry, hentry, hq⟩ := h thing hmem hp
    apply List.mem_filter.mpr
    constructor
    · apply List.mem_range.mpr (List.getElem?_eq_some_iff.mp hentry).1
    · rw [hentry]
      apply hq
  calc things.countP p
      = ((things.filter p).map number).length := by
        rw [List.length_map, List.countP_eq_length_filter]
    _ ≤ ((List.range entries.length).filter (fun i => entries[i]?.any q)).length :=
        (hnumbers.subperm hsubset).length_le
    _ = entries.countP q := by
        rw [← List.countP_eq_length_filter, countP_range]

end Counting
