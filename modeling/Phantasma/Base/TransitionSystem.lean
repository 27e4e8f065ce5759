import Mathlib.Logic.Relation

/-!
# Labelled partial steps

A system is a partial step `step : σ → α → Option σ`; an action is enabled in a state
when the step gives some state.  `Reaches step guard` relates a state to those reached
from it by actions that meet `guard` in the states where they are taken, so a condition
on the steps of a run is a guard.  `Reaches.invariant` is the induction rule for
invariants, `Reaches.simulation` the one for a map onto another system that may
stutter, and `reaches_of_run` and `reaches_of_run_guarded` turn a list of actions that
can be executed into a run.  `recorded` carries along a record of what happens in a run.
-/

namespace TransitionSystem

variable {σ α τ β : Type*} {step : σ → α → Option σ} {guard guard' : σ → α → Prop}

/-- One step from `s` to `s'`, by an action that meets `guard` in `s`. -/
def Moves (step : σ → α → Option σ) (guard : σ → α → Prop) (s s' : σ) : Prop :=
  ∃ a, guard s a ∧ step s a = some s'

/-- Finitely many steps from `s` to `s'`, each by an action that meets `guard`. -/
def Reaches (step : σ → α → Option σ) (guard : σ → α → Prop) : σ → σ → Prop :=
  Relation.ReflTransGen (Moves step guard)

/-- The guard that every action meets. -/
def anyAction : σ → α → Prop :=
  fun _ _ => True

/-- The state after a list of actions, taken from the left. -/
def run (step : σ → α → Option σ) : σ → List α → Option σ
  | s, [] => some s
  | s, a :: as => (step s a).bind fun s' => run step s' as

/-- A run whose actions meet a guard is a run whose actions meet a weaker guard. -/
theorem Reaches.mono
    (hguard : ∀ s a, guard s a → guard' s a) {s s' : σ} (h : Reaches step guard s s') :
  Reaches step guard' s s'
  := by
  apply Relation.ReflTransGen.mono _ _ _ h
  rintro t t' ⟨a, ha, hstep⟩
  use a, hguard t a ha

/-- A predicate preserved by every guarded step is preserved by every guarded run. -/
theorem Reaches.invariant
    {I : σ → Prop} (hI : ∀ s a s', guard s a → step s a = some s' → I s → I s')
    {s s' : σ} (h : Reaches step guard s s') (hs : I s) :
  I s'
  := by
  induction h with
  | refl => apply hs
  | tail _ hmove ih =>
      obtain ⟨a, ha, hstep⟩ := hmove
      apply hI _ a _ ha hstep ih

/-- A map onto the states of another system sends runs to runs, when every guarded step
from a state with the invariant `I` is sent to a step of the other system or to none. -/
theorem Reaches.simulation
    {step' : τ → β → Option τ} {guard' : τ → β → Prop} (f : σ → τ) {I : σ → Prop}
    (hI : ∀ s a s', guard s a → step s a = some s' → I s → I s')
    (hf : ∀ s a s', guard s a → step s a = some s' → I s →
      f s' = f s ∨ Moves step' guard' (f s) (f s'))
    {s s' : σ} (h : Reaches step guard s s') (hs : I s) :
  Reaches step' guard' (f s) (f s')
  := by
  induction h with
  | refl => apply Relation.ReflTransGen.refl
  | tail hreach hmove ih =>
      obtain ⟨a, ha, hstep⟩ := hmove
      rcases hf _ a _ ha hstep (Reaches.invariant hI hreach hs) with heq | hmove'
      · rw [heq]
        apply ih
      · apply Relation.ReflTransGen.tail ih hmove'

/-- A list of actions that can be executed, each of which meets the guard in every state,
is a guarded run. -/
theorem reaches_of_run
    {as : List α} {s s' : σ} (hguard : ∀ a ∈ as, ∀ t, guard t a)
    (h : run step s as = some s') :
  Reaches step guard s s'
  := by
  induction as generalizing s with
  | nil =>
      obtain rfl := Option.some.inj h
      apply Relation.ReflTransGen.refl
  | cons a as ih =>
      obtain ⟨t, hstep, hrest⟩ := Option.bind_eq_some_iff.mp h
      apply Relation.ReflTransGen.head (b := t)
      · use a, hguard a List.mem_cons_self s
      · apply ih (fun b hb => hguard b (List.mem_cons_of_mem a hb)) hrest

theorem reaches_any_of_run {as : List α} {s s' : σ} (h : run step s as = some s') :
  Reaches step anyAction s s'
  := by
  apply reaches_of_run _ h
  intro a _ t
  trivial

/-- The step, taken only where the guard is met. -/
def guarded (step : σ → α → Option σ) (guard : σ → α → Prop)
    [∀ s a, Decidable (guard s a)] (s : σ) (a : α) : Option σ :=
  if guard s a then step s a else none

/-- A list of actions that can be executed where the guard is met is a guarded run. -/
theorem reaches_of_run_guarded
    [∀ s a, Decidable (guard s a)] {as : List α} {s s' : σ}
    (h : run (guarded step guard) s as = some s') :
  Reaches step guard s s'
  := by
  induction as generalizing s with
  | nil =>
      obtain rfl := Option.some.inj h
      apply Relation.ReflTransGen.refl
  | cons a as ih =>
      obtain ⟨t, hstep, hrest⟩ := Option.bind_eq_some_iff.mp h
      obtain ⟨hguard, hstep⟩ := Option.ite_none_right_eq_some.mp hstep
      apply Relation.ReflTransGen.head (b := t)
      · use a, hguard, hstep
      · apply ih hrest

/-- What is executed where the guard is met is executed without it. -/
theorem run_of_run_guarded
    [∀ s a, Decidable (guard s a)] {as : List α} {s s' : σ}
    (h : run (guarded step guard) s as = some s') :
  run step s as = some s'
  := by
  induction as generalizing s with
  | nil => apply h
  | cons a as ih =>
      obtain ⟨t, hstep, hrest⟩ := Option.bind_eq_some_iff.mp h
      obtain ⟨-, hstep⟩ := Option.ite_none_right_eq_some.mp hstep
      apply Option.bind_eq_some_iff.mpr
      use t, hstep, ih hrest

/-! ### Along a list of actions -/

/-- Every action of the list meets the guard where it is taken. -/
def Always (step : σ → α → Option σ) (guard : σ → α → Prop) : σ → List α → Prop
  | _, [] => True
  | s, a :: as => ∀ s' ∈ step s a, guard s a ∧ Always step guard s' as

instance decidableAlways [∀ s a, Decidable (guard s a)] :
    ∀ (s : σ) (as : List α), Decidable (Always step guard s as)
  | _, [] => .isTrue trivial
  | s, a :: as =>
      have : ∀ s', Decidable (Always step guard s' as) := fun s' => decidableAlways s' as
      inferInstanceAs (Decidable (∀ s' ∈ step s a, guard s a ∧ Always step guard s' as))

/-- Every state that the list of actions leads through has the property. -/
def Throughout (step : σ → α → Option σ) (I : σ → Prop) : σ → List α → Prop
  | s, [] => I s
  | s, a :: as => I s ∧ ∀ s' ∈ step s a, Throughout step I s' as

/-- If a step keeps a property just when it meets a guard, then a run keeps the property
throughout just when its steps always meet the guard. -/
theorem throughout_iff_always
    {I : σ → Prop}
    (hstep : ∀ s a s', guard' s a → step s a = some s' → I s → (I s' ↔ guard s a))
    {as : List α} {s : σ} (hguard : Always step guard' s as) (hs : I s) :
  Throughout step I s as ↔ Always step guard s as
  := by
  induction as generalizing s with
  | nil => apply iff_of_true hs trivial
  | cons a as ih =>
      constructor
      · rintro ⟨-, hrest⟩ s' hs'
        have hI : I s' := by
          have hhead := hrest s' hs'
          cases as with
          | nil => apply hhead
          | cons _ _ => apply hhead.1
        exact ⟨(hstep s a s' (hguard s' hs').1 hs' hs).mp hI,
          (ih (hguard s' hs').2 hI).mp (hrest s' hs')⟩
      · intro halways
        use hs
        intro s' hs'
        have hI : I s' := (hstep s a s' (hguard s' hs').1 hs' hs).mpr (halways s' hs').1
        apply (ih (hguard s' hs').2 hI).mpr (halways s' hs').2

/-! ### Records of a run -/

variable {ℓ : Type*} {record : σ → α → σ → ℓ → ℓ}

/-- The step of a state that is carried along with a record of what has happened. -/
def recorded (step : σ → α → Option σ) (record : σ → α → σ → ℓ → ℓ) (t : σ × ℓ) (a : α) :
    Option (σ × ℓ) :=
  (step t.1 a).map fun s' => (s', record t.1 a s' t.2)

theorem recorded_eq_some {t t' : σ × ℓ} {a : α} :
  recorded step record t a = some t' ↔ step t.1 a = some t'.1 ∧ t'.2 = record t.1 a t'.1 t.2
  := by
  rw [recorded, Option.map_eq_some_iff]
  constructor
  · rintro ⟨s', hstep, rfl⟩
    exact ⟨hstep, rfl⟩
  · rintro ⟨hstep, hrecord⟩
    use t'.1, hstep
    rw [← hrecord]

/-- A recorded run is a run. -/
theorem Reaches.of_recorded
    {guard' : σ × ℓ → α → Prop} (hguard : ∀ t a, guard' t a → guard t.1 a) {t t' : σ × ℓ}
    (h : Reaches (recorded step record) guard' t t') :
  Reaches step guard t.1 t'.1
  := by
  apply h.simulation Prod.fst (I := fun _ => True) _ _ trivial
  · intro _ _ _ _ _ _
    trivial
  · intro t a t' ha hstep _
    right
    use a, hguard t a ha, (recorded_eq_some.mp hstep).1

/-- Every run can be recorded. -/
theorem Reaches.exists_recorded
    {guard' : σ × ℓ → α → Prop} (hguard : ∀ t a, guard t.1 a → guard' t a) {s s' : σ}
    (h : Reaches step guard s s') (l : ℓ) :
  ∃ l', Reaches (recorded step record) guard' (s, l) (s', l')
  := by
  induction h with
  | refl =>
      use l
      apply Relation.ReflTransGen.refl
  | @tail t t' _ hmove ih =>
      obtain ⟨a, ha, hstep⟩ := hmove
      obtain ⟨l', hl'⟩ := ih
      use record t a t' l'
      apply hl'.tail
      use a, hguard _ a ha
      apply recorded_eq_some.mpr ⟨hstep, rfl⟩

end TransitionSystem
