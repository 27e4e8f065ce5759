import Mathlib.Data.List.DropRight

/-!
# Blanks around words

Which elements of a list are blanks is given by a predicate.  A list is trimmed when no blank
is at either end; to trim a list is to take the blanks off, and `trim_eq_iff` says that the
trimmed list between blanks is the only one.  `cut` cuts a list at the first separator.
-/

namespace Words

variable {α : Type} {blank : α → Bool} {list core before after : List α}

/-- There are only blanks in the list. -/
def IsBlank (blank : α → Bool) (list : List α) : Prop :=
  ∀ a ∈ list, blank a

theorem isBlank_nil :
  IsBlank blank []
  := by
  intro a ha
  cases ha

theorem IsBlank.append (hbefore : IsBlank blank before) (hafter : IsBlank blank after) :
  IsBlank blank (before ++ after)
  := by
  intro a ha
  rcases List.mem_append.mp ha with ha | ha
  · apply hbefore a ha
  · apply hafter a ha

theorem IsBlank.cons {a : α} (ha : blank a) (hlist : IsBlank blank list) :
  IsBlank blank (a :: list)
  := by
  intro b hb
  rcases List.mem_cons.mp hb with rfl | hb
  · apply ha
  · apply hlist b hb

/-- The list does not start or end with a blank. -/
structure IsTrimmed (blank : α → Bool) (list : List α) : Prop where
  head : ∀ a ∈ list.head?, ¬ blank a
  last : ∀ a ∈ list.getLast?, ¬ blank a

/-- Only the two ends matter. -/
theorem isTrimmed_append
    (hhead : ∀ a ∈ before.head?, ¬ blank a) (hne : before ≠ [])
    (hlast : ∀ a ∈ after.getLast?, ¬ blank a) (hne' : after ≠ []) :
  IsTrimmed blank (before ++ after)
  where
  head := by
    rw [List.head?_append_of_ne_nil _ hne]
    apply hhead
  last := by
    rw [List.getLast?_append_of_ne_nil _ hne']
    apply hlast

/-- A trimmed list does not end in blanks. -/
theorem IsTrimmed.not_isBlank (h : IsTrimmed blank (before ++ after)) (hne : after ≠ []) :
  ¬ IsBlank blank after
  := by
  intro hafter
  apply h.last (after.getLast hne)
  · rw [List.getLast?_append_of_ne_nil _ hne]
    apply List.getLast?_eq_some_getLast hne
  · apply hafter _ (List.getLast_mem hne)

/-! ### Trimming -/

/-- The list without the blanks at its ends. -/
def trim (blank : α → Bool) (list : List α) : List α :=
  (list.dropWhile blank).rdropWhile blank

theorem isTrimmed_trim (blank : α → Bool) (list : List α) :
  IsTrimmed blank (trim blank list)
  where
  head a ha := by
    obtain ⟨after, hafter⟩ := List.rdropWhile_prefix blank (list.dropWhile blank)
    have hhead : (list.dropWhile blank).head? = some a := by
      rw [← hafter, List.head?_append, ← trim, Option.mem_def.mp ha, Option.some_or]
    have hnot := List.head?_dropWhile_not blank list
    rw [hhead] at hnot
    simpa using hnot
  last a ha := by
    obtain ⟨hne, rfl⟩ := List.mem_getLast?_eq_getLast ha
    apply List.rdropWhile_last_not

theorem exists_blanks (blank : α → Bool) (list : List α) :
  ∃ before after, list = before ++ trim blank list ++ after
    ∧ IsBlank blank before ∧ IsBlank blank after
  := by
  use list.takeWhile blank, (list.dropWhile blank).rtakeWhile blank
  refine ⟨?_, ?_, ?_⟩
  · rw [List.append_assoc, trim, List.rdropWhile_append_rtakeWhile,
      List.takeWhile_append_dropWhile]
  · intro a ha
    apply List.mem_takeWhile_imp ha
  · intro a ha
    apply List.mem_rtakeWhile_imp ha

/-- Blanks in front of a list that does not start with one are taken off. -/
theorem dropWhile_append (hbefore : IsBlank blank before) (hhead : ∀ a ∈ list.head?, ¬ blank a) :
  (before ++ list).dropWhile blank = list
  := by
  rw [List.dropWhile_append_of_pos hbefore]
  cases list with
  | nil => rfl
  | cons a list => rw [List.dropWhile_cons_of_neg (hhead a rfl)]

/-- Blanks behind a list that does not end with one are taken off. -/
theorem rdropWhile_append (hafter : IsBlank blank after) (hlast : ∀ a ∈ list.getLast?, ¬ blank a) :
  (list ++ after).rdropWhile blank = list
  := by
  rw [List.rdropWhile, List.reverse_append, dropWhile_append, List.reverse_reverse]
  · intro a ha
    apply hafter a (List.mem_reverse.mp ha)
  · rw [List.head?_reverse]
    apply hlast

theorem trim_append
    (hcore : IsTrimmed blank core) (hbefore : IsBlank blank before)
    (hafter : IsBlank blank after) :
  trim blank (before ++ core ++ after) = core
  := by
  cases core with
  | nil =>
      have hblank : (before ++ after).dropWhile blank = [] :=
        List.dropWhile_eq_nil_iff.mpr (hbefore.append hafter)
      rw [trim, List.append_nil, hblank, List.rdropWhile_nil]
  | cons a core =>
      rw [trim, List.append_assoc, dropWhile_append hbefore, rdropWhile_append hafter hcore.last]
      apply hcore.head

theorem trim_eq_iff :
  trim blank list = core ↔ IsTrimmed blank core
    ∧ ∃ before after, list = before ++ core ++ after
      ∧ IsBlank blank before ∧ IsBlank blank after
  := by
  constructor
  · rintro rfl
    exact ⟨isTrimmed_trim blank list, exists_blanks blank list⟩
  · rintro ⟨hcore, before, after, rfl, hbefore, hafter⟩
    apply trim_append hcore hbefore hafter

/-! ### Cutting -/

section

variable [DecidableEq α] {separator : α} {front rest : List α}

/-- What is in front of the first separator, and what is behind it. -/
def cut (separator : α) (list : List α) : Option (List α × List α) :=
  match list.dropWhile (· ≠ separator) with
  | [] => none
  | _ :: rest => some (list.takeWhile (· ≠ separator), rest)

theorem cut_eq_some_iff :
  cut separator list = some (front, rest)
    ↔ list = front ++ separator :: rest ∧ separator ∉ front
  := by
  constructor
  · intro h
    rw [cut] at h
    rcases hdrop : list.dropWhile (· ≠ separator) with _ | ⟨a, rest'⟩ <;> rw [hdrop] at h
    · cases h
    · cases h
      have hhead := List.head?_dropWhile_not (· ≠ separator) list
      rw [hdrop, List.head?_cons] at hhead
      obtain rfl : a = separator := by simpa using hhead
      constructor
      · rw [← hdrop, List.takeWhile_append_dropWhile]
      · intro hmem
        simpa using List.mem_takeWhile_imp hmem
  · rintro ⟨rfl, hfront⟩
    have hkept : ∀ a ∈ front, decide (a ≠ separator) := by
      intro a ha
      apply decide_eq_true
      rintro rfl
      apply hfront ha
    have hdrop : (front ++ separator :: rest).dropWhile (· ≠ separator) = separator :: rest := by
      rw [List.dropWhile_append_of_pos hkept]
      simp
    have htake : (front ++ separator :: rest).takeWhile (· ≠ separator) = front := by
      rw [List.takeWhile_append_of_pos hkept]
      simp
    rw [cut, hdrop, htake]

end

end Words
