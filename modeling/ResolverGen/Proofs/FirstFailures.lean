import Mathlib.Data.List.Forall2
import ResolverGen.Proofs.Steady

/-!
# The first failure

Work on one thing after another ends with the first failure, and what comes behind is not looked at.
For work whose state does not show, this can be said of results alone: those of its parts, each from
the same state, put together give that of the whole.
-/
namespace ResolverGen

variable {σ ε α β : Type}

theorem bind_eq_error_iff {x : Except ε α} {f : α → Except ε β} {e : ε} :
    x >>= f = .error e ↔ x = .error e ∨ ∃ a, x = .ok a ∧ f a = .error e := by
  cases x with
  | error e' => simp [bind, Except.bind]
  | ok a => simp [bind, Except.bind]

theorem bind_eq_ok_iff {x : Except ε α} {f : α → Except ε β} {b : β} :
    x >>= f = .ok b ↔ ∃ a, x = .ok a ∧ f a = .ok b := by
  cases x with
  | error e => simp [bind, Except.bind]
  | ok a => simp [bind, Except.bind]

@[simp] theorem mapError_ok (f : ε → β) (a : α) : (Except.ok a).mapError f = .ok a := rfl

@[simp] theorem mapError_error (f : ε → β) (e : ε) :
    (Except.error e : Except ε α).mapError f = .error (f e) := rfl

theorem mapError_eq_error_iff {x : Except ε α} {f : ε → β} {b : β} :
    x.mapError f = .error b ↔ ∃ e, x = .error e ∧ f e = b := by
  cases x <;> simp

theorem mapError_eq_ok_iff {x : Except ε α} {f : ε → β} {a : α} :
    x.mapError f = .ok a ↔ x = .ok a := by
  cases x <;> simp

theorem exists_of_isOk {x : Except ε α} (h : x.isOk = true) : ∃ a, x = .ok a := by
  cases x with
  | error e => exact absurd h Bool.false_ne_true
  | ok a => exact ⟨a, rfl⟩

theorem exists_run_of_isOk {x : ExceptT ε (StateM σ) α} {s : σ} (h : (x.run s).1.isOk = true) :
    ∃ a s', x.run s = (.ok a, s') := by
  obtain ⟨a, ha⟩ := exists_of_isOk h
  exact ⟨a, (x.run s).2, Prod.ext ha rfl⟩

/-- Checks on a list pass if each of them does. -/
theorem forM_eq_ok_iff {f : α → Except ε Unit} {xs : List α} :
    xs.forM f = .ok () ↔ ∀ x ∈ xs, f x = .ok () := by
  induction xs with
  | nil => exact iff_of_true rfl (by simp)
  | cons x rest ih =>
    change (f x >>= fun _ => rest.forM f) = .ok () ↔ _
    rw [bind_eq_ok_iff, List.forall_mem_cons, ← ih]
    exact ⟨fun ⟨_, hboth⟩ => hboth, fun hboth => ⟨(), hboth⟩⟩

/-- Work on a list comes to a list of what it comes to on each member. -/
theorem mapM_eq_ok_iff {f : α → Except ε β} {xs : List α} {ys : List β} :
    xs.mapM f = .ok ys ↔ List.Forall₂ (fun x y => f x = .ok y) xs ys := by
  induction xs generalizing ys with
  | nil => cases ys <;> simp [pure, Except.pure]
  | cons x rest ih =>
    rw [List.mapM_cons, bind_eq_ok_iff, List.forall₂_cons_left_iff]
    constructor
    · rintro ⟨y, hy, h⟩
      obtain ⟨ys, hys, h⟩ := bind_eq_ok_iff.mp h
      cases h
      exact ⟨y, ys, hy, ih.mp hys, rfl⟩
    · rintro ⟨y, ys, hy, hys, rfl⟩
      exact ⟨y, hy, bind_eq_ok_iff.mpr ⟨ys, ih.mpr hys, rfl⟩⟩

/-- Work on a list fails if it fails on a member. -/
theorem exists_mapM_eq_error_iff {f : α → Except ε β} {xs : List α} :
    (∃ e, xs.mapM f = .error e) ↔ ∃ x ∈ xs, ∃ e, f x = .error e := by
  induction xs with
  | nil => simp [pure, Except.pure]
  | cons x rest ih =>
    rw [List.mapM_cons, List.exists_mem_cons_iff, ← ih]
    cases hx : f x with
    | error e => simp [bind, Except.bind]
    | ok y => cases hrest : rest.mapM f <;> simp [bind, Except.bind, pure, Except.pure]

theorem mapM_congr_of_mem {m : Type → Type} [Monad m] [LawfulMonad m] {α β : Type} {f g : α → m β}
    {xs : List α} (h : ∀ x ∈ xs, f x = g x) : xs.mapM f = xs.mapM g := by
  induction xs with
  | nil => rfl
  | cons x rest ih =>
    obtain ⟨hx, hrest⟩ := List.forall_mem_cons.mp h
    rw [List.mapM_cons, List.mapM_cons, hx, ih hrest]

/-- A property of the first member of a list at which work does not come to a value. -/
def AtFirst (f : α → Except ε β) (xs : List α) (P : α → Prop) : Prop :=
  ∃ before x after, xs = before ++ x :: after ∧ (∀ y ∈ before, ∃ b, f y = .ok b) ∧ P x

section

variable {f : α → Except ε β} {P : α → Prop}

theorem not_atFirst_nil : ¬AtFirst f [] P := by
  rintro ⟨before, x, after, h, _⟩
  simp at h

theorem atFirst_cons {x : α} {rest : List α} :
    AtFirst f (x :: rest) P ↔ P x ∨ (∃ b, f x = .ok b) ∧ AtFirst f rest P := by
  constructor
  · rintro ⟨before, y, after, h, hbefore, hy⟩
    rcases List.cons_eq_append_iff.mp h with ⟨rfl, h⟩ | ⟨before', rfl, rfl⟩
    · obtain ⟨rfl, -⟩ := List.cons.inj h
      exact Or.inl hy
    · obtain ⟨hx, hbefore⟩ := List.forall_mem_cons.mp hbefore
      exact Or.inr ⟨hx, before', y, after, rfl, hbefore, hy⟩
  · rintro (hx | ⟨hx, before, y, after, rfl, hbefore, hy⟩)
    · exact ⟨[], x, rest, rfl, by simp, hx⟩
    · exact ⟨x :: before, y, after, rfl, List.forall_mem_cons.mpr ⟨hx, hbefore⟩, hy⟩

/-- A list is worked through up to the first member that fails. -/
theorem mapM_eq_error_iff {xs : List α} {e : ε} :
    xs.mapM f = .error e ↔ AtFirst f xs fun x => f x = .error e := by
  induction xs with
  | nil => exact iff_of_false (by simp [pure, Except.pure]) not_atFirst_nil
  | cons x rest ih =>
    rw [List.mapM_cons, bind_eq_error_iff, atFirst_cons, ← ih]
    refine or_congr_right ?_
    constructor
    · rintro ⟨b, hx, h⟩
      rcases bind_eq_error_iff.mp h with h | ⟨bs, -, h⟩
      · exact ⟨⟨b, hx⟩, h⟩
      · cases h
    · rintro ⟨⟨b, hx⟩, h⟩
      exact ⟨b, hx, bind_eq_error_iff.mpr (Or.inl h)⟩

end

/-! ## Work with a state -/

theorem run_bind_eq_ok_iff {x : ExceptT ε (StateM σ) α} {f : α → ExceptT ε (StateM σ) β}
    {s s' : σ} {b : β} :
    (x >>= f).run s = (.ok b, s') ↔ ∃ a r, x.run s = (.ok a, r) ∧ (f a).run r = (.ok b, s') := by
  rw [run_bind]
  rcases x.run s with ⟨e | a, r⟩
  · constructor
    · intro h
      cases h
    · rintro ⟨a, r', hx, -⟩
      cases hx
  · constructor
    · intro h
      exact ⟨a, r, rfl, h⟩
    · rintro ⟨a', r', hx, h⟩
      cases hx
      exact h

/-- Work on a list that comes to a value comes to one on each member, from some state. -/
theorem forall₂_of_mapM_run {f : α → ExceptT ε (StateM σ) β} {xs : List α} {ys : List β}
    {s s' : σ} (h : (xs.mapM f).run s = (.ok ys, s')) :
    List.Forall₂ (fun x y => ∃ r r', (f x).run r = (.ok y, r')) xs ys := by
  induction xs generalizing ys s with
  | nil =>
    cases h
    exact .nil
  | cons x rest ih =>
    rw [List.mapM_cons] at h
    obtain ⟨y, r, hy, h⟩ := run_bind_eq_ok_iff.mp h
    obtain ⟨ys, r', hys, h⟩ := run_bind_eq_ok_iff.mp h
    cases h
    exact .cons ⟨s, r, hy⟩ (ih hys)

theorem map_run_eq_error_iff {x : ExceptT ε (StateM σ) α} {f : α → β} {s s' : σ} {e : ε} :
    (f <$> x).run s = (.error e, s') ↔ x.run s = (.error e, s') := by
  rw [map_eq_pure_bind, run_bind]
  rcases x.run s with ⟨e' | a, r⟩
  · constructor
    · intro h
      cases h
      rfl
    · intro h
      cases h
      rfl
  · constructor
    · intro h
      cases h
    · intro h
      cases h

/-- Steps on a common draft end with the first that fails, from where those before it have led to. -/
theorem foldlM_run_eq_error_iff {f : β → α → ExceptT ε (StateM σ) β} {xs : List α} {d : β}
    {s s' : σ} {e : ε} :
    (xs.foldlM f d).run s = (.error e, s') ↔
      ∃ before x after, xs = before ++ x :: after ∧
        ∃ d' r, (before.foldlM f d).run s = (.ok d', r) ∧ (f d' x).run r = (.error e, s') := by
  constructor
  · intro h
    induction xs generalizing d s with
    | nil => cases h
    | cons x rest ih =>
      rw [List.foldlM_cons, run_bind] at h
      rcases hx : (f d x).run s with ⟨e' | d₁, r₁⟩
      · rw [hx] at h
        exact ⟨[], x, rest, rfl, d, s, rfl, hx.trans h⟩
      · rw [hx] at h
        obtain ⟨before, y, after, rfl, d', r, hbefore, hy⟩ := ih h
        refine ⟨x :: before, y, after, rfl, d', r, ?_, hy⟩
        rw [List.foldlM_cons, run_bind, hx]
        exact hbefore
  · rintro ⟨before, x, after, rfl, d', r, hbefore, hx⟩
    rw [List.foldlM_append, run_bind, hbefore]
    change ((x :: after).foldlM f d').run r = _
    rw [List.foldlM_cons, run_bind, hx]

/-! ## Results of steady work -/

section

variable {I : σ → Prop} {s : σ}

theorem Steady.result_bind {x : ExceptT ε (StateM σ) α} {f : α → ExceptT ε (StateM σ) β}
    (hx : Steady I x) (hf : ∀ a, Steady I (f a)) (hs : I s) :
    ((x >>= f).run s).1 = (x.run s).1 >>= fun a => ((f a).run s).1 := by
  have hsettles := hx.settles hs
  cases hresult : (x.run s).1 with
  | error e =>
    rw [hresult] at hsettles
    exact hsettles.bind_error.result hs
  | ok a =>
    rw [hresult] at hsettles
    exact (hsettles.bind ((hf a).settles hs)).result hs

theorem Steady.result_mapM {f : α → ExceptT ε (StateM σ) β} (hf : ∀ x, Steady I (f x)) (hs : I s)
    (xs : List α) : ((xs.mapM f).run s).1 = xs.mapM fun x => ((f x).run s).1 := by
  induction xs with
  | nil => rfl
  | cons x rest ih =>
    rw [List.mapM_cons, List.mapM_cons,
      (hf x).result_bind (fun _ => (Steady.mapM hf rest).bind fun _ => steady_pure _) hs]
    refine congrArg _ (funext fun b => ?_)
    rw [(Steady.mapM hf rest).result_bind (fun _ => steady_pure _) hs, ih]
    rfl

end

end ResolverGen
