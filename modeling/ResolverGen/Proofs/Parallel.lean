import ResolverGen.Proofs.Steady

/-!
# Work side by side

Two pieces of work run in parallel if from each state they come to the same failure, or to values in
a relation, and end in the same state. The rules follow the ways in which work is put together. Work
that runs in parallel with equal values is the same work.
-/
namespace ResolverGen

variable {σ ε α β γ δ : Type}

/-- The same failure, or values in a relation. -/
inductive Matches (R : α → β → Prop) : Except ε α → Except ε β → Prop
  | error (e : ε) : Matches R (.error e) (.error e)
  | ok {a : α} {b : β} (h : R a b) : Matches R (.ok a) (.ok b)

/-- From each state two pieces of work come to results that match, and to the same state. -/
def Parallel (R : α → β → Prop) (x : ExceptT ε (StateM σ) α) (y : ExceptT ε (StateM σ) β) : Prop :=
  ∀ s, Matches R (x.run s).1 (y.run s).1 ∧ (x.run s).2 = (y.run s).2

variable {R : α → β → Prop} {S : γ → δ → Prop}

theorem Matches.bind {x : Except ε α} {y : Except ε β} {f : α → Except ε γ} {g : β → Except ε δ}
    (h : Matches R x y) (hf : ∀ a b, R a b → Matches S (f a) (g b)) :
    Matches S (x >>= f) (y >>= g) := by
  cases h with
  | error e => exact .error e
  | ok h => exact hf _ _ h

theorem Matches.refl (x : Except ε α) : Matches Eq x x := by
  cases x with
  | error e => exact .error e
  | ok a => exact .ok rfl

theorem Matches.mono {T : α → β → Prop} {x : Except ε α} {y : Except ε β} (h : Matches R x y)
    (hRT : ∀ a b, R a b → T a b) : Matches T x y := by
  cases h with
  | error e => exact .error e
  | ok h => exact .ok (hRT _ _ h)

theorem parallel_pure {a : α} {b : β} (h : R a b) :
    Parallel R (pure a : ExceptT ε (StateM σ) α) (pure b) :=
  fun _ => ⟨.ok h, rfl⟩

theorem parallel_throw (e : ε) :
    Parallel R (throw e : ExceptT ε (StateM σ) α) (throw e : ExceptT ε (StateM σ) β) :=
  fun _ => ⟨.error e, rfl⟩

theorem Parallel.refl (x : ExceptT ε (StateM σ) α) : Parallel Eq x x :=
  fun _ => ⟨.refl _, rfl⟩

theorem Parallel.bind {x : ExceptT ε (StateM σ) α} {y : ExceptT ε (StateM σ) β}
    {f : α → ExceptT ε (StateM σ) γ} {g : β → ExceptT ε (StateM σ) δ} (h : Parallel R x y)
    (hf : ∀ a b, R a b → Parallel S (f a) (g b)) : Parallel S (x >>= f) (y >>= g) := by
  intro s
  obtain ⟨hvalues, hstates⟩ := h s
  rw [run_bind, run_bind]
  rcases hx : x.run s with ⟨r, t⟩
  rcases hy : y.run s with ⟨r', t'⟩
  rw [hx, hy] at hvalues hstates
  obtain rfl : t = t' := hstates
  cases hvalues with
  | error e => exact ⟨.error e, rfl⟩
  | ok h => exact hf _ _ h t

/-- Work that comes to a value is gone on with in the same way on both sides. -/
theorem Parallel.bind_same {x : ExceptT ε (StateM σ) α} {f : α → ExceptT ε (StateM σ) γ}
    {g : α → ExceptT ε (StateM σ) δ} (hf : ∀ a, Parallel S (f a) (g a)) :
    Parallel S (x >>= f) (x >>= g) := by
  refine (Parallel.refl x).bind ?_
  rintro a b rfl
  exact hf a

theorem Parallel.ite {c : Prop} [Decidable c] {x x' : ExceptT ε (StateM σ) α}
    {y y' : ExceptT ε (StateM σ) β} (h : Parallel R x y) (h' : Parallel R x' y') :
    Parallel R (if c then x else x') (if c then y else y') := by
  split
  · exact h
  · exact h'

/-- Work that always comes to equal results is the same. -/
theorem Parallel.eq {x y : ExceptT ε (StateM σ) α} (h : Parallel Eq x y) : x = y := by
  funext s
  obtain ⟨hvalues, hstates⟩ := h s
  refine Prod.ext ?_ hstates
  change (x.run s).1 = (y.run s).1
  generalize (x.run s).1 = r, (y.run s).1 = r' at hvalues
  cases hvalues with
  | error e => rfl
  | ok h => rw [h]

end ResolverGen
