import Mathlib.Data.Nat.Notation
import Mathlib.Logic.Relation
import Phantasma.Base.Program

/-!
# Procedures that are cut off and run again

A procedure is a list of atomic steps, each of which may fail.  `Stopped` relates a state to
those in which a run that ends before any of the steps leaves it.  A procedure is
`Restartable` when every step achieves something that it finds achieved when it is taken
again, and that the steps after it keep; then it makes no difference where earlier runs have
been cut off (`runSteps_of_stopped`).

`Performs` connects such a procedure with a program that makes one call after another, to a
store that stops to answer after some number of calls.
-/

namespace Restart

variable {σ ε α : Type}

/-- All of the steps, one after another. -/
def runSteps : List (σ → Option σ) → σ → Option σ
  | [], s => some s
  | step :: steps, s => (step s).bind (runSteps steps)

/-- `Stopped steps s t`: a run of the steps from `s` that is cut off leaves `t`. -/
inductive Stopped : List (σ → Option σ) → σ → σ → Prop where
  | here (steps : List (σ → Option σ)) (s : σ) : Stopped steps s s
  | next {step : σ → Option σ} {steps : List (σ → Option σ)} {s s' t : σ} :
      step s = some s' → Stopped steps s' t → Stopped (step :: steps) s t

/-- A step achieves `P`, and does nothing where `P` is achieved. -/
structure Achieves (step : σ → Option σ) (P : σ → Prop) : Prop where
  done : ∀ s s', step s = some s' → P s'
  again : ∀ s, P s → step s = some s

/-- A step keeps `P`. -/
def StepKeeps (P : σ → Prop) (step : σ → Option σ) : Prop :=
  ∀ s s', step s = some s' → P s → P s'

/-- Each step achieves something that the later ones keep. -/
inductive Restartable : List (σ → Option σ) → Prop where
  | nil : Restartable []
  | cons {step : σ → Option σ} {steps : List (σ → Option σ)} (P : σ → Prop) :
      Achieves step P → (∀ later ∈ steps, StepKeeps P later) → Restartable steps →
      Restartable (step :: steps)

/-! ### Runs that are cut off -/

/-- A complete run is one that is cut off at its end. -/
theorem stopped_of_runSteps
    {steps : List (σ → Option σ)} {s t : σ} (h : runSteps steps s = some t) :
  Stopped steps s t
  := by
  induction steps generalizing s with
  | nil =>
      cases h
      apply Stopped.here
  | cons step steps ih =>
      obtain ⟨s', hstep, hrest⟩ := Option.bind_eq_some_iff.mp h
      apply Stopped.next hstep (ih hrest)

/-- A run of a single step takes it or not. -/
theorem stopped_singleton {step : σ → Option σ} {s t : σ} :
  Stopped [step] s t ↔ t = s ∨ step s = some t
  := by
  constructor
  · intro h
    cases h with
    | here =>
        left
        rfl
    | next hstep hrest =>
        cases hrest
        right
        apply hstep
  · rintro (rfl | hstep)
    · apply Stopped.here
    · apply Stopped.next hstep (Stopped.here _ _)

theorem Stopped.append
    {steps : List (σ → Option σ)} {s t : σ} (h : Stopped steps s t)
    (later : List (σ → Option σ)) :
  Stopped (steps ++ later) s t
  := by
  induction h with
  | here => apply Stopped.here
  | next hstep _ ih => apply Stopped.next hstep ih

/-- A run that is complete goes on with the steps that follow. -/
theorem Stopped.of_runSteps
    {steps later : List (σ → Option σ)} {s s' t : σ} (hrun : runSteps steps s = some s')
    (h : Stopped later s' t) :
  Stopped (steps ++ later) s t
  := by
  induction steps generalizing s with
  | nil =>
      cases hrun
      apply h
  | cons step steps ih =>
      obtain ⟨u, hstep, hrest⟩ := Option.bind_eq_some_iff.mp hrun
      apply Stopped.next hstep (ih hrest)

theorem runSteps_append (steps later : List (σ → Option σ)) (s : σ) :
  runSteps (steps ++ later) s = (runSteps steps s).bind (runSteps later)
  := by
  induction steps generalizing s with
  | nil => rfl
  | cons step steps ih =>
      rw [List.cons_append, runSteps, runSteps, Option.bind_assoc]
      congr
      funext s'
      apply ih

/-- What every step keeps is kept by a run, wherever it is cut off. -/
theorem Stopped.keeps
    {P : σ → Prop} {steps : List (σ → Option σ)} (hsteps : ∀ step ∈ steps, StepKeeps P step)
    {s t : σ} (h : Stopped steps s t) (hs : P s) :
  P t
  := by
  induction h with
  | here => apply hs
  | @next step _ s s' _ hstep _ ih =>
      rw [List.forall_mem_cons] at hsteps
      apply ih hsteps.2 (hsteps.1 s s' hstep hs)

/-- What relates every two states of a step relates the ends of a run, wherever it is cut
off. -/
theorem Stopped.related
    {R : σ → σ → Prop} (hrefl : ∀ s, R s s) (htrans : ∀ s t u, R s t → R t u → R s u)
    {steps : List (σ → Option σ)} (hsteps : ∀ step ∈ steps, ∀ s s', step s = some s' → R s s')
    {s t : σ} (h : Stopped steps s t) :
  R s t
  := by
  induction h with
  | here => apply hrefl
  | @next _ _ s s' t hstep _ ih =>
      rw [List.forall_mem_cons] at hsteps
      apply htrans s s' t (hsteps.1 s s' hstep) (ih hsteps.2)

/-- After a run that is cut off, a run does what it does without it. -/
theorem runSteps_of_stopped
    {steps : List (σ → Option σ)} (hsteps : Restartable steps) {s t : σ}
    (h : Stopped steps s t) :
  runSteps steps t = runSteps steps s
  := by
  induction h with
  | here => rfl
  | @next step steps s s' t hstep hstopped ih =>
      cases hsteps with
      | cons P hachieves hkeeps hsteps =>
          have ht : P t := hstopped.keeps hkeeps (hachieves.done s s' hstep)
          rw [runSteps, runSteps, hachieves.again t ht, hstep, Option.bind_some, Option.bind_some,
            ih hsteps]

/-- So does a run after any number of them. -/
theorem runSteps_of_stopped_many
    {steps : List (σ → Option σ)} (hsteps : Restartable steps) {s t : σ}
    (h : Relation.ReflTransGen (Stopped steps) s t) :
  runSteps steps t = runSteps steps s
  := by
  induction h with
  | refl => rfl
  | tail _ hstopped ih => rw [runSteps_of_stopped hsteps hstopped, ih]

/-- After a complete run there is nothing left to do, -/
theorem runSteps_of_runSteps
    {steps : List (σ → Option σ)} (hsteps : Restartable steps) {s t : σ}
    (h : runSteps steps s = some t) :
  runSteps steps t = some t
  := by
  rw [runSteps_of_stopped hsteps (stopped_of_runSteps h), h]

/-- not even for a run that is cut off. -/
theorem eq_of_stopped
    {steps : List (σ → Option σ)} (hsteps : Restartable steps) {s t : σ}
    (hs : runSteps steps s = some s) (h : Stopped steps s t) :
  t = s
  := by
  induction h with
  | here => rfl
  | @next step steps s s' t hstep hstopped ih =>
      cases hsteps with
      | cons P hachieves hkeeps hsteps =>
          obtain ⟨u, hu, hrest⟩ := Option.bind_eq_some_iff.mp hs
          have hPs : P s :=
            (stopped_of_runSteps hrest).keeps hkeeps (hachieves.done s u hu)
          obtain rfl : s = s' := by
            rw [hachieves.again s hPs] at hstep
            apply Option.some.inj hstep
          rw [hachieves.again s hPs] at hu
          cases hu
          apply ih hsteps hrest

/-! ### Programs that call a store -/

/-- A store with the number of calls that it still answers. -/
structure Metered (σ : Type) where
  store : σ
  left : ℕ

/-- A call that changes the store, with the error `err` when it fails. -/
def execute (err : ε) (step : σ → Option σ) : Program (Metered σ) ε Unit := do
  let metered ← get
  match metered.left, step metered.store with
  | left + 1, some store => modify fun _ => ⟨store, left⟩
  | _, _ => throw err

/-- A call that reads the store, with the error `err` when it fails. -/
def fetch (err : ε) (query : σ → Option α) : Program (Metered σ) ε α := do
  let metered ← get
  match metered.left, query metered.store with
  | left + 1, some a => do
      modify fun metered => { metered with left := left }
      return a
  | _, _ => throw err

/-- `Performs program steps calls`: the program takes the steps, and is cut off where it
fails; it does not fail when the steps do not and the store answers `calls` calls. -/
structure Performs (program : Program (Metered σ) ε Unit) (steps : List (σ → Option σ))
    (calls : ℕ) : Prop where
  stopped : ∀ metered : Metered σ,
    Stopped steps metered.store (program.outcome metered).2.store
  complete : ∀ metered : Metered σ, (program.outcome metered).1 = .ok () →
    runSteps steps metered.store = some (program.outcome metered).2.store
  succeeds : ∀ metered : Metered σ, calls ≤ metered.left →
    (runSteps steps metered.store).isSome →
      (program.outcome metered).1 = .ok ()
        ∧ metered.left ≤ (program.outcome metered).2.left + calls

/-- A call that changes the store fails and changes nothing, or takes its step. -/
theorem execute_cases (err : ε) (step : σ → Option σ) (metered : Metered σ) :
  (execute err step).outcome metered = (.error err, metered)
      ∧ (metered.left = 0 ∨ step metered.store = none)
    ∨ ∃ left store, metered.left = left + 1 ∧ step metered.store = some store
      ∧ (execute err step).outcome metered = (.ok (), ⟨store, left⟩)
  := by
  obtain ⟨store, left⟩ := metered
  rw [execute, Program.outcome_bind, Program.outcome_get]
  dsimp only
  cases left with
  | zero => exact Or.inl ⟨rfl, Or.inl rfl⟩
  | succ left =>
      cases step store with
      | none => exact Or.inl ⟨rfl, Or.inr rfl⟩
      | some store' => exact Or.inr ⟨left, store', rfl, rfl, rfl⟩

/-- A call that reads the store fails or returns what it reads, and leaves the store. -/
theorem fetch_cases (err : ε) (query : σ → Option α) (metered : Metered σ) :
  (fetch err query).outcome metered = (.error err, metered)
      ∧ (metered.left = 0 ∨ query metered.store = none)
    ∨ ∃ left a, metered.left = left + 1 ∧ query metered.store = some a
      ∧ (fetch err query).outcome metered = (.ok a, ⟨metered.store, left⟩)
  := by
  obtain ⟨store, left⟩ := metered
  rw [fetch, Program.outcome_bind, Program.outcome_get]
  dsimp only
  cases left with
  | zero => exact Or.inl ⟨rfl, Or.inl rfl⟩
  | succ left =>
      cases query store with
      | none => exact Or.inl ⟨rfl, Or.inr rfl⟩
      | some a => exact Or.inr ⟨left, a, rfl, rfl, rfl⟩

theorem outcome_execute_zero (err : ε) (step : σ → Option σ) (s : σ) :
  (execute err step).outcome ⟨s, 0⟩ = (.error err, ⟨s, 0⟩)
  := rfl

theorem outcome_execute_succ {err : ε} {step : σ → Option σ} {s s' : σ} (h : step s = some s')
    (left : ℕ) :
  (execute err step).outcome ⟨s, left + 1⟩ = (.ok (), ⟨s', left⟩)
  := by
  rw [execute, Program.outcome_bind, Program.outcome_get]
  dsimp only
  rw [h]
  rfl

theorem outcome_execute_none {err : ε} {step : σ → Option σ} {s : σ} (h : step s = none)
    (left : ℕ) :
  (execute err step).outcome ⟨s, left⟩ = (.error err, ⟨s, left⟩)
  := by
  rw [execute, Program.outcome_bind, Program.outcome_get]
  dsimp only
  rw [h]
  cases left <;> rfl

@[simp]
theorem outcome_fetch_zero (err : ε) (query : σ → Option α) (s : σ) :
  (fetch err query).outcome ⟨s, 0⟩ = (.error err, ⟨s, 0⟩)
  := rfl

theorem outcome_fetch_succ {err : ε} {query : σ → Option α} {s : σ} {a : α} (h : query s = some a)
    (left : ℕ) :
  (fetch err query).outcome ⟨s, left + 1⟩ = (.ok a, ⟨s, left⟩)
  := by
  rw [fetch, Program.outcome_bind, Program.outcome_get]
  dsimp only
  rw [h]
  rfl

theorem performs_execute (err : ε) (step : σ → Option σ) :
  Performs (execute err step) [step] 1
  where
  stopped metered := by
    rcases execute_cases err step metered with ⟨hrun, -⟩ | ⟨left, store, -, hstep, hrun⟩
    · rw [hrun]
      apply Stopped.here
    · rw [hrun]
      exact stopped_singleton.mpr (Or.inr hstep)
  complete metered hok := by
    rcases execute_cases err step metered with ⟨hrun, -⟩ | ⟨left, store, -, hstep, hrun⟩
    · rw [hrun] at hok
      cases hok
    · rw [hrun, runSteps, hstep]
      rfl
  succeeds metered hleft hsome := by
    rcases execute_cases err step metered with ⟨-, hzero | hnone⟩ | ⟨left, store, hsucc, -, hrun⟩
    · omega
    · rw [runSteps, hnone] at hsome
      cases hsome
    · rw [hrun, hsucc]
      exact ⟨rfl, Nat.le_refl _⟩

theorem performs_pure :
  Performs (pure () : Program (Metered σ) ε Unit) [some] 0
  where
  stopped _ := Stopped.here _ _
  complete _ _ := rfl
  succeeds _ _ _ := ⟨rfl, Nat.le_refl _⟩

theorem Performs.mono
    {program : Program (Metered σ) ε Unit} {steps : List (σ → Option σ)} {calls calls' : ℕ}
    (h : Performs program steps calls) (hcalls : calls ≤ calls') :
  Performs program steps calls'
  where
  stopped := h.stopped
  complete := h.complete
  succeeds metered hleft hsome := by
    obtain ⟨hok, hleft'⟩ := h.succeeds metered (Nat.le_trans hcalls hleft) hsome
    use hok
    omega

/-- A step that depends on what a call has read. -/
theorem performs_fetch
    (err : ε) (query : σ → Option α) {next : α → Program (Metered σ) ε Unit}
    {step : α → σ → Option σ} {calls : ℕ} (h : ∀ a, Performs (next a) [step a] calls) :
  Performs (fetch err query >>= next) [fun s => (query s).bind fun a => step a s] (calls + 1)
  where
  stopped metered := by
    rw [Program.outcome_bind]
    rcases fetch_cases err query metered with ⟨hrun, -⟩ | ⟨left, a, -, hquery, hrun⟩
    · rw [hrun]
      apply Stopped.here
    · rw [hrun]
      rw [stopped_singleton, hquery]
      apply stopped_singleton.mp ((h a).stopped ⟨metered.store, left⟩)
  complete metered hok := by
    rw [Program.outcome_bind] at hok ⊢
    rcases fetch_cases err query metered with ⟨hrun, -⟩ | ⟨left, a, -, hquery, hrun⟩
    · rw [hrun] at hok
      cases hok
    · rw [hrun] at hok ⊢
      dsimp only at hok ⊢
      rw [runSteps, hquery]
      apply (h a).complete ⟨metered.store, left⟩ hok
  succeeds metered hleft hsome := by
    rw [Program.outcome_bind]
    rcases fetch_cases err query metered with ⟨-, hzero | hnone⟩ | ⟨left, a, hsucc, hquery, hrun⟩
    · omega
    · rw [runSteps, hnone] at hsome
      cases hsome
    · rw [hrun]
      rw [runSteps, hquery] at hsome
      have hcalls : calls ≤ left := by omega
      obtain ⟨hok, hleft'⟩ := (h a).succeeds ⟨metered.store, left⟩ hcalls hsome
      use hok
      dsimp only at hleft' ⊢
      omega

/-- One program after another. -/
theorem Performs.bind
    {first second : Program (Metered σ) ε Unit} {steps later : List (σ → Option σ)}
    {calls calls' : ℕ} (hfirst : Performs first steps calls)
    (hsecond : Performs second later calls') :
  Performs (first >>= fun _ => second) (steps ++ later) (calls + calls')
  where
  stopped metered := by
    have hstopped := hfirst.stopped metered
    have hcomplete := hfirst.complete metered
    rw [Program.outcome_bind]
    rcases hrun : first.outcome metered with ⟨_ | ⟨⟩, metered'⟩
    · rw [hrun] at hstopped
      apply hstopped.append
    · rw [hrun] at hcomplete
      apply Stopped.of_runSteps (hcomplete rfl) (hsecond.stopped metered')
  complete metered hok := by
    have hcomplete := hfirst.complete metered
    rw [Program.outcome_bind] at hok ⊢
    rcases hrun : first.outcome metered with ⟨_ | ⟨⟩, metered'⟩
    · rw [hrun] at hok
      cases hok
    · rw [hrun] at hok hcomplete
      rw [runSteps_append, hcomplete rfl]
      apply hsecond.complete metered' hok
  succeeds metered hleft hsome := by
    obtain ⟨t, ht⟩ := Option.isSome_iff_exists.mp hsome
    rw [runSteps_append] at ht
    obtain ⟨s', hsteps, hlater⟩ := Option.bind_eq_some_iff.mp ht
    have hcalls : calls ≤ metered.left := by omega
    obtain ⟨hok, hleft'⟩ := hfirst.succeeds metered hcalls (Option.isSome_of_eq_some hsteps)
    have hcomplete := hfirst.complete metered hok
    rw [Program.outcome_bind]
    rcases hrun : first.outcome metered with ⟨_ | ⟨⟩, metered'⟩
    · rw [hrun] at hok
      cases hok
    · rw [hrun] at hleft' hcomplete
      rw [hsteps] at hcomplete
      obtain rfl := Option.some.inj hcomplete
      have hcalls' : calls' ≤ metered'.left := by
        dsimp only at hleft'
        omega
      obtain ⟨hok', hleft''⟩ :=
        hsecond.succeeds metered' hcalls' (Option.isSome_of_eq_some hlater)
      use hok'
      dsimp only at hleft' hleft'' ⊢
      omega

end Restart
