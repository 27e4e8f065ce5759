import Mathlib.Init

/-!
# Programs that fail and have a state

A program over states `σ` with errors `ε` is run in a state and leaves one, also when it
fails.  `outcome` is what it ends with and the state it leaves, and its lemmas run a
program step by step.  `Keeps` says that a program preserves a property of states,
`Ensures` what holds after it when it ends and when it fails, and `LooksLike` that it does
what another one does, over states of which only a part is seen; the lemmas of each follow
the program.
-/

/-- A program over states `σ` with errors `ε`. -/
abbrev Program (σ ε : Type) := ExceptT ε (StateM σ)

namespace Program

variable {σ ε α β : Type}

/-- What the program ends with in the state `s`, and the state it leaves. -/
def outcome (x : Program σ ε α) (s : σ) : Except ε α × σ :=
  x.run.run s

/-- The program that ends with the given result and leaves the state as it is. -/
def ofExcept (x : Except ε α) : Program σ ε α :=
  ExceptT.mk (pure x)

@[simp]
theorem outcome_pure (a : α) (s : σ) :
  outcome (pure a : Program σ ε α) s = (.ok a, s)
  := rfl

@[simp]
theorem outcome_ofExcept (x : Except ε α) (s : σ) :
  outcome (ofExcept x) s = (x, s)
  := rfl

@[simp]
theorem outcome_throw (err : ε) (s : σ) :
  outcome (throw err : Program σ ε α) s = (.error err, s)
  := rfl

@[simp]
theorem outcome_modify (f : σ → σ) (s : σ) :
  outcome (modify f : Program σ ε Unit) s = (.ok (), f s)
  := rfl

@[simp]
theorem outcome_get (s : σ) :
  outcome (get : Program σ ε σ) s = (.ok s, s)
  := rfl

/-- A program goes on where the one before it has left the state, if that one has not
failed. -/
theorem outcome_bind (x : Program σ ε α) (f : α → Program σ ε β) (s : σ) :
  outcome (x >>= f) s = match outcome x s with
    | (.ok a, s') => outcome (f a) s'
    | (.error err, s') => (.error err, s')
  := by
  rcases hx : outcome x s with ⟨_ | _, s'⟩
  all_goals
    simp only [outcome, ExceptT.run_bind, StateT.run_bind] at hx ⊢
    rw [hx]
    rfl

/-- A program fails where a part of it does, or else goes on from there. -/
theorem bind_cases
    {x : Program σ ε α} {f : α → Program σ ε β} {s s' : σ} {result : Except ε β}
    (h : outcome (x >>= f) s = (result, s')) :
  (∃ err, outcome x s = (.error err, s') ∧ result = .error err)
    ∨ ∃ a t, outcome x s = (.ok a, t) ∧ outcome (f a) t = (result, s')
  := by
  rw [outcome_bind] at h
  rcases hx : outcome x s with ⟨err | a, t⟩
  · rw [hx] at h
    cases h
    exact Or.inl ⟨err, rfl, rfl⟩
  · rw [hx] at h
    exact Or.inr ⟨a, t, rfl, h⟩

/-- A program succeeds when its parts do, one after the other. -/
theorem bind_eq_ok_iff
    {x : Program σ ε α} {f : α → Program σ ε β} {s s' : σ} {b : β} :
  outcome (x >>= f) s = (.ok b, s')
    ↔ ∃ a t, outcome x s = (.ok a, t) ∧ outcome (f a) t = (.ok b, s')
  := by
  constructor
  · intro h
    obtain ⟨err, -, ⟨⟩⟩ | hparts := bind_cases h
    apply hparts
  · rintro ⟨a, t, hx, hf⟩
    rw [outcome_bind, hx]
    apply hf

/-- A result that is known does not touch the state. -/
theorem ofExcept_bind_eq_ok_iff
    {x : Except ε α} {f : α → Program σ ε β} {s s' : σ} {b : β} :
  outcome (ofExcept x >>= f) s = (.ok b, s')
    ↔ ∃ a, x = .ok a ∧ outcome (f a) s = (.ok b, s')
  := by
  rw [bind_eq_ok_iff]
  constructor
  · rintro ⟨a, t, hx, hf⟩
    obtain ⟨rfl, rfl⟩ := Prod.mk.inj hx
    exact ⟨a, rfl, hf⟩
  · rintro ⟨a, rfl, hf⟩
    exact ⟨a, s, rfl, hf⟩

/-- A program that is caught goes on with the handler where it has left the state. -/
theorem outcome_tryCatch (x : Program σ ε α) (handle : ε → Program σ ε α) (s : σ) :
  outcome (tryCatch x handle) s = match outcome x s with
    | (.ok a, s') => (.ok a, s')
    | (.error err, s') => outcome (handle err) s'
  := by
  rcases hx : outcome x s with ⟨_ | _, s'⟩
  all_goals
    simp only [outcome, ExceptT.run_tryCatch, StateT.run_bind] at hx ⊢
    rw [hx]
    rfl

/-- The program with its errors changed by `f`, `map_err`. -/
def mapError {ε' : Type} (f : ε → ε') (x : Program σ ε α) : Program σ ε' α :=
  ExceptT.adapt f x

theorem outcome_mapError {ε' : Type} (f : ε → ε') (x : Program σ ε α) (s : σ) :
  outcome (mapError f x) s = ((outcome x s).1.mapError f, (outcome x s).2)
  := rfl

theorem throw_bind (err : ε) (k : α → Program σ ε β) :
  (throw err >>= k : Program σ ε β) = throw err
  := rfl

theorem ofExcept_bind (x : Except ε α) (k : α → Except ε β) :
  (ofExcept (x >>= k) : Program σ ε β) = ofExcept x >>= fun a => ofExcept (k a)
  := by
  cases x with
  | error err => rfl
  | ok a => rfl

theorem ofExcept_pure (a : α) :
  (ofExcept (pure a) : Program σ ε α) = pure a
  := rfl

theorem ofExcept_throw (err : ε) :
  (ofExcept (throw err) : Program σ ε α) = throw err
  := rfl

theorem ofExcept_ite (p : Prop) [Decidable p] (x y : Except ε α) :
  (ofExcept (if p then x else y) : Program σ ε α) = if p then ofExcept x else ofExcept y
  := by
  split <;> rfl

theorem ite_bind (p : Prop) [Decidable p] (x y : Program σ ε α) (k : α → Program σ ε β) :
  (if p then x else y) >>= k = if p then x >>= k else y >>= k
  := by
  split <;> rfl

theorem modify_comp (f g : σ → σ) :
  (modify fun s => g (f s) : Program σ ε PUnit) = (do modify f; modify g)
  := rfl

/-! ### Programs over a part of the state -/

/-- The program over the part of the state that `part` reads and `put` replaces. -/
def zoom {τ : Type} (part : τ → σ) (put : σ → τ → τ) (x : Program σ ε α) : Program τ ε α := do
  let (result, s) := x.outcome (part (← get))
  modify (put s)
  ofExcept result

@[simp]
theorem outcome_zoom
    {τ : Type} (part : τ → σ) (put : σ → τ → τ) (x : Program σ ε α) (t : τ) :
  outcome (zoom part put x) t = ((outcome x (part t)).1, put (outcome x (part t)).2 t)
  := by
  simp only [zoom, outcome_bind, outcome_get, outcome_modify, outcome_ofExcept]

/-! ### What a program keeps -/

/-- The program leaves a state with `I` when it is run in one, also when it fails. -/
structure Keeps (I : σ → Prop) (x : Program σ ε α) : Prop where
  outcome : ∀ s, I s → I (outcome x s).2

variable {I : σ → Prop}

theorem keeps_pure (a : α) :
  Keeps I (pure a : Program σ ε α)
  where
  outcome _ hs := hs

theorem keeps_ofExcept (x : Except ε α) :
  Keeps I (ofExcept x)
  where
  outcome _ hs := hs

theorem keeps_throw (err : ε) :
  Keeps I (throw err : Program σ ε α)
  where
  outcome _ hs := hs

theorem keeps_get :
  Keeps I (get : Program σ ε σ)
  where
  outcome _ hs := hs

theorem keeps_modify {f : σ → σ} (hf : ∀ s, I s → I (f s)) :
  Keeps I (modify f : Program σ ε Unit)
  where
  outcome := hf

theorem Keeps.bind
    {x : Program σ ε α} {f : α → Program σ ε β} (hx : Keeps I x) (hf : ∀ a, Keeps I (f a)) :
  Keeps I (x >>= f)
  where
  outcome s hs := by
    have hs' := hx.outcome s hs
    rw [outcome_bind]
    rcases hx : Program.outcome x s with ⟨_ | a, s'⟩
    · rw [hx] at hs'
      apply hs'
    · rw [hx] at hs'
      apply (hf a).outcome s' hs'

/-- What follows a result that is known keeps what it keeps for that result. -/
theorem keeps_ofExcept_bind
    {x : Except ε α} {f : α → Program σ ε β} (hf : ∀ a, x = .ok a → Keeps I (f a)) :
  Keeps I (ofExcept x >>= f)
  where
  outcome s hs := by
    rw [outcome_bind, outcome_ofExcept]
    cases hx : x with
    | error err => apply hs
    | ok a => apply (hf a hx).outcome s hs

theorem Keeps.ite
    {x y : Program σ ε α} (p : Prop) [Decidable p] (hx : Keeps I x) (hy : Keeps I y) :
  Keeps I (if p then x else y)
  := by
  split
  · apply hx
  · apply hy

/-- A check that throws keeps what the rest keeps. -/
theorem Keeps.unless
    {y : Program σ ε α} (p : Prop) [Decidable p] (err : ε) (hy : Keeps I y) :
  Keeps I (if p then do (throw err : Program σ ε Unit); y else y)
  := by
  apply Keeps.ite
  · apply Keeps.bind
    · apply keeps_throw
    · intro _
      apply hy
  · apply hy

/-! ### What a program establishes -/

/-- The program leaves a state with `I` wherever it is run, also when it fails. -/
structure Establishes (I : σ → Prop) (x : Program σ ε α) : Prop where
  outcome : ∀ s, I (outcome x s).2

theorem Establishes.bind
    {x : Program σ ε α} {f : α → Program σ ε β} (hx : Establishes I x)
    (hf : ∀ a, Keeps I (f a)) :
  Establishes I (x >>= f)
  where
  outcome s := by
    have hs := hx.outcome s
    rw [outcome_bind]
    rcases hx : Program.outcome x s with ⟨_ | a, s'⟩
    · rw [hx] at hs
      apply hs
    · rw [hx] at hs
      apply (hf a).outcome s' hs

theorem establishes_ofExcept_bind
    {x : Except ε α} {f : α → Program σ ε β} {a : α} (hx : x = .ok a)
    (hf : Establishes I (f a)) :
  Establishes I (ofExcept x >>= f)
  where
  outcome s := by
    rw [outcome_bind, outcome_ofExcept, hx]
    apply hf.outcome s

/-! ### What a program ensures -/

/-- Run in a state with `I`, the program leaves a state with `J a` when it ends with `a`, and one
with `E` when it fails. -/
structure Ensures (I : σ → Prop) (x : Program σ ε α) (J : α → σ → Prop) (E : σ → Prop) :
    Prop where
  ok : ∀ s a s', I s → outcome x s = (.ok a, s') → J a s'
  error : ∀ s err s', I s → outcome x s = (.error err, s') → E s'

variable {J : α → σ → Prop} {E : σ → Prop}

theorem ensures_throw {err : ε} (hI : ∀ s, I s → E s) :
  Ensures I (throw err : Program σ ε α) J E
  where
  ok := by
    rintro s a s' - ⟨⟩
  error := by
    rintro s err' s' hs ⟨⟩
    apply hI s hs

theorem ensures_ofExcept {x : Except ε α} (hI : ∀ s, I s → E s) :
  Ensures I (ofExcept x) (fun a s => x = .ok a ∧ I s) E
  where
  ok := by
    rintro s a s' hs heq
    cases heq
    exact ⟨rfl, hs⟩
  error := by
    rintro s err s' hs heq
    cases heq
    apply hI s hs

theorem ensures_modify {f : σ → σ} {J : Unit → σ → Prop} (hf : ∀ s, I s → J () (f s)) :
  Ensures I (modify f : Program σ ε Unit) J E
  where
  ok := by
    rintro s a s' hs ⟨⟩
    apply hf s hs
  error := by
    rintro s err s' hs ⟨⟩

/-- What comes after may count on what was ensured before. -/
theorem Ensures.bind
    {x : Program σ ε α} {f : α → Program σ ε β} {K : β → σ → Prop} (hx : Ensures I x J E)
    (hf : ∀ a, Ensures (J a) (f a) K E) :
  Ensures I (x >>= f) K E
  where
  ok s b s'' hs h := by
    obtain ⟨a, s', hxs, hfs⟩ := bind_eq_ok_iff.mp h
    apply (hf a).ok s' b s'' (hx.ok s a s' hs hxs) hfs
  error s err s'' hs h := by
    obtain ⟨err', hxs, -⟩ | ⟨a, s', hxs, hfs⟩ := bind_cases h
    · apply hx.error s err' s'' hs hxs
    · apply (hf a).error s' err s'' (hx.ok s a s' hs hxs) hfs

theorem Ensures.mono
    {x : Program σ ε α} {K : α → σ → Prop} (h : Ensures I x J E) (hJ : ∀ a s, J a s → K a s) :
  Ensures I x K E
  where
  ok s a s' hs hx := hJ a s' (h.ok s a s' hs hx)
  error := h.error

/-- A check that throws ensures what the rest ensures. -/
theorem Ensures.unless
    {y : Program σ ε α} (p : Prop) [Decidable p] (err : ε) (hI : ∀ s, I s → E s)
    (hy : Ensures I y J E) :
  Ensures I (if p then do (throw err : Program σ ε Unit); y else y) J E
  := by
  split
  · apply Ensures.bind (J := fun _ => I)
    · apply ensures_throw hI
    · intro _
      apply hy
  · apply hy

/-- A program that keeps a property ensures what follows from it. -/
theorem Keeps.ensures
    {x : Program σ ε α} (h : Keeps I x) {J : σ → Prop} (hJ : ∀ s, I s → J s)
    (hE : ∀ s, I s → E s) :
  Ensures I x (fun _ => J) E
  where
  ok s a s' hs heq := by
    have hs' := h.outcome s hs
    rw [heq] at hs'
    apply hJ s' hs'
  error s err s' hs heq := by
    have hs' := h.outcome s hs
    rw [heq] at hs'
    apply hE s' hs'

/-- What is ensured however the program ends is kept. -/
theorem Ensures.keeps {x : Program σ ε α} (h : Ensures I x (fun _ => I) I) :
  Keeps I x
  where
  outcome s hs := by
    rcases hx : Program.outcome x s with ⟨err | a, s'⟩
    · apply h.error s err s' hs hx
    · apply h.ok s a s' hs hx

/-! ### What a program looks like -/

/-- In every state that looks like `s`, the program `x` ends with what `y` ends with in `s`,
and leaves a state that looks like the one `y` leaves. -/
structure LooksLike {τ : Type} (view : τ → σ) (s : σ) (x : Program τ ε α) (y : Program σ ε α) :
    Prop where
  outcome : ∀ t, view t = s → Prod.map id view (x.outcome t) = y.outcome s

variable {τ : Type} {view : τ → σ} {s : σ}

theorem looksLike_pure (a : α) :
  LooksLike view s (pure a : Program τ ε α) (pure a)
  where
  outcome := by
    rintro t rfl
    rfl

theorem looksLike_throw (err : ε) :
  LooksLike view s (throw err : Program τ ε α) (throw err)
  where
  outcome := by
    rintro t rfl
    rfl

theorem LooksLike.ofExcept
    {k : α → Program τ ε β} {l : α → Program σ ε β} (x : Except ε α)
    (h : ∀ a, LooksLike view s (k a) (l a)) :
  LooksLike view s (ofExcept x >>= k) (ofExcept x >>= l)
  where
  outcome := by
    rintro t rfl
    rw [outcome_bind, outcome_bind]
    cases x with
    | error err => rfl
    | ok a => apply (h a).outcome t rfl

/-- The state is read by the one, -/
theorem LooksLike.get_left
    {k : τ → Program τ ε β} {y : Program σ ε β}
    (h : ∀ t, view t = s → LooksLike view s (k t) y) :
  LooksLike view s (get >>= k) y
  where
  outcome t ht := (h t ht).outcome t ht

/-- or by the other. -/
theorem LooksLike.get_right
    {x : Program τ ε β} {l : σ → Program σ ε β} (h : LooksLike view s x (l s)) :
  LooksLike view s x (get >>= l)
  where
  outcome := h.outcome

/-- The state is changed in a way that is not seen, -/
theorem LooksLike.modify_left
    {g : τ → τ} {k : PUnit → Program τ ε β} {y : Program σ ε β}
    (hg : ∀ t, view t = s → view (g t) = s) (h : LooksLike view s (k ()) y) :
  LooksLike view s (modify g >>= k) y
  where
  outcome t ht := h.outcome (g t) (hg t ht)

/-- or in a way that is. -/
theorem LooksLike.modify
    {g : τ → τ} {f : σ → σ} {k : PUnit → Program τ ε β} {l : PUnit → Program σ ε β}
    (hg : ∀ t, view t = s → view (g t) = f s) (h : LooksLike view (f s) (k ()) (l ())) :
  LooksLike view s (modify g >>= k) (modify f >>= l)
  where
  outcome t ht := h.outcome (g t) (hg t ht)

theorem LooksLike.ite
    {x x' : Program τ ε α} {y y' : Program σ ε α} (p : Prop) [Decidable p]
    (h : LooksLike view s x y) (h' : LooksLike view s x' y') :
  LooksLike view s (if p then x else x') (if p then y else y')
  := by
  split
  · apply h
  · apply h'

end Program
