/-!
# Work whose state does not show

A generator keeps a sanitizer and a log while it works. A predicate `I` says which states can be
met. Work settles on a result if it comes to that result from every such state and ends in one
again, so neither what was asked before nor what was recorded shows in the result. The rules below
follow the ways in which work is put together.
-/
namespace ResolverGen

variable {σ ε α β : Type} {I : σ → Prop}

/-- From every state in `I` the work comes to `r`, and it ends in a state in `I`. -/
def Settles (I : σ → Prop) (x : ExceptT ε (StateM σ) α) (r : Except ε α) : Prop :=
  ∀ s, I s → ∃ s', I s' ∧ x.run s = (r, s')

/-- The work has one result for all states in `I`. -/
def Steady (I : σ → Prop) (x : ExceptT ε (StateM σ) α) : Prop := ∃ r, Settles I x r

theorem Settles.steady {x : ExceptT ε (StateM σ) α} {r : Except ε α} (h : Settles I x r) :
    Steady I x := ⟨r, h⟩

theorem Settles.result {x : ExceptT ε (StateM σ) α} {r : Except ε α} (h : Settles I x r) {s : σ}
    (hs : I s) : (x.run s).1 = r := by
  obtain ⟨s', _, hx⟩ := h s hs
  rw [hx]

/-- A steady result can be read off at any one state. -/
theorem Steady.settles {x : ExceptT ε (StateM σ) α} (h : Steady I x) {s : σ} (hs : I s) :
    Settles I x (x.run s).1 := by
  obtain ⟨r, hr⟩ := h
  rwa [hr.result hs]

theorem Steady.settles_iff {x : ExceptT ε (StateM σ) α} {r : Except ε α} (h : Steady I x) {s : σ}
    (hs : I s) : Settles I x r ↔ (x.run s).1 = r := by
  constructor
  · intro hr
    exact hr.result hs
  · rintro rfl
    exact h.settles hs

theorem settles_pure (a : α) : Settles I (pure a : ExceptT ε (StateM σ) α) (.ok a) :=
  fun s hs => ⟨s, hs, rfl⟩

theorem settles_throw (e : ε) : Settles I (throw e : ExceptT ε (StateM σ) α) (.error e) :=
  fun s hs => ⟨s, hs, rfl⟩

theorem run_bind (x : ExceptT ε (StateM σ) α) (f : α → ExceptT ε (StateM σ) β) (s : σ) :
    (x >>= f).run s = match x.run s with
      | (.ok a, s') => (f a).run s'
      | (.error e, s') => (.error e, s') := by
  change (StateT.bind x (ExceptT.bindCont f)) s = _
  unfold StateT.bind
  change (match x s with | (a, s') => ExceptT.bindCont f a s') = _
  rcases h : x s with ⟨e | a, s'⟩
  · have hrun : x.run s = (.error e, s') := h
    rw [hrun]
    rfl
  · have hrun : x.run s = (.ok a, s') := h
    rw [hrun]
    rfl

theorem tryCatch_run (x : ExceptT ε (StateM σ) α) (handle : ε → ExceptT ε (StateM σ) α) (s : σ) :
    (tryCatch x handle).run s = match x.run s with
      | (.ok a, s') => (.ok a, s')
      | (.error e, s') => (handle e).run s' := by
  change (match x s with
    | (res, s') => (match res with
      | .ok a => (pure (Except.ok a) : StateM σ (Except ε α))
      | .error e => handle e) s') = _
  rcases h : x s with ⟨e | a, s'⟩
  · have hrun : x.run s = (.error e, s') := h
    rw [hrun]
    rfl
  · have hrun : x.run s = (.ok a, s') := h
    rw [hrun]
    rfl

theorem Settles.bind {x : ExceptT ε (StateM σ) α} {f : α → ExceptT ε (StateM σ) β} {a : α}
    {r : Except ε β} (hx : Settles I x (.ok a)) (hf : Settles I (f a) r) :
    Settles I (x >>= f) r := by
  intro s hs
  obtain ⟨t, ht, hxt⟩ := hx s hs
  obtain ⟨u, hu, hfu⟩ := hf t ht
  exact ⟨u, hu, by rw [run_bind, hxt]; exact hfu⟩

theorem Settles.bind_error {x : ExceptT ε (StateM σ) α} {f : α → ExceptT ε (StateM σ) β} {e : ε}
    (hx : Settles I x (.error e)) : Settles I (x >>= f) (.error e) := by
  intro s hs
  obtain ⟨t, ht, hxt⟩ := hx s hs
  exact ⟨t, ht, by rw [run_bind, hxt]⟩

theorem steady_pure (a : α) : Steady I (pure a : ExceptT ε (StateM σ) α) := ⟨_, settles_pure a⟩

theorem steady_throw (e : ε) : Steady I (throw e : ExceptT ε (StateM σ) α) :=
  ⟨_, settles_throw e⟩

theorem Steady.bind {x : ExceptT ε (StateM σ) α} {f : α → ExceptT ε (StateM σ) β}
    (hx : Steady I x) (hf : ∀ a, Steady I (f a)) : Steady I (x >>= f) := by
  obtain ⟨r, hr⟩ := hx
  cases r with
  | error e => exact ⟨_, hr.bind_error⟩
  | ok a =>
    obtain ⟨r', hr'⟩ := hf a
    exact ⟨r', hr.bind hr'⟩

theorem Steady.ite {c : Prop} [Decidable c] {x y : ExceptT ε (StateM σ) α} (hx : Steady I x)
    (hy : Steady I y) : Steady I (if c then x else y) := by
  split
  · exact hx
  · exact hy

/-- What each member of a list comes to, in order. -/
theorem Settles.mapM {f : α → ExceptT ε (StateM σ) β} {g : α → β} :
    ∀ {xs : List α}, (∀ x ∈ xs, Settles I (f x) (.ok (g x))) →
      Settles I (xs.mapM f) (.ok (xs.map g))
  | [], _ => by
    rw [List.mapM_nil]
    exact settles_pure _
  | x :: rest, h => by
    rw [List.mapM_cons]
    refine (h x List.mem_cons_self).bind ?_
    refine (Settles.mapM fun y hy => h y (List.mem_cons_of_mem x hy)).bind ?_
    exact settles_pure _

theorem Steady.mapM {f : α → ExceptT ε (StateM σ) β} (h : ∀ x, Steady I (f x)) (xs : List α) :
    Steady I (xs.mapM f) := by
  induction xs with
  | nil =>
    rw [List.mapM_nil]
    exact steady_pure _
  | cons x rest ih =>
    rw [List.mapM_cons]
    exact (h x).bind fun _ => ih.bind fun _ => steady_pure _

/-! ## Back from a result -/

/-- Work settles on one result, if there is a state to start from. -/
theorem Settles.unique {x : ExceptT ε (StateM σ) α} {r r' : Except ε α} {s : σ}
    (h : Settles I x r) (h' : Settles I x r') (hs : I s) : r = r' := by
  rw [← h.result hs, h'.result hs]

/-- Work that comes to a value did so in its first part, and from there in the rest. -/
theorem Settles.of_bind {x : ExceptT ε (StateM σ) α} {f : α → ExceptT ε (StateM σ) β} {b : β}
    {s : σ} (h : Settles I (x >>= f) (.ok b)) (hs : I s) (hx : Steady I x)
    (hf : ∀ a, Steady I (f a)) : ∃ a, Settles I x (.ok a) ∧ Settles I (f a) (.ok b) := by
  obtain ⟨r, hr⟩ := hx
  cases r with
  | error e => cases h.unique hr.bind_error hs
  | ok a =>
    obtain ⟨r', hr'⟩ := hf a
    obtain rfl := h.unique (hr.bind hr') hs
    exact ⟨a, hr, hr'⟩

/-- If the first part is known to come to a value, the rest comes to the result. -/
theorem Settles.of_bind_ok {x : ExceptT ε (StateM σ) α} {f : α → ExceptT ε (StateM σ) β} {a : α}
    {b : β} {s : σ} (h : Settles I (x >>= f) (.ok b)) (hs : I s) (hx : Settles I x (.ok a))
    (hf : Steady I (f a)) : Settles I (f a) (.ok b) := by
  obtain ⟨r, hr⟩ := hf
  obtain rfl := h.unique (hx.bind hr) hs
  exact hr

/-- If a list is worked through, each member comes to a value. -/
theorem Settles.of_mapM {f : α → ExceptT ε (StateM σ) β} {s : σ} :
    ∀ {xs : List α} {ys : List β}, Settles I (xs.mapM f) (.ok ys) → I s →
      (∀ x, Steady I (f x)) → ∀ x ∈ xs, ∃ y, Settles I (f x) (.ok y)
  | x :: rest, ys, h, hs, hf, z, hz => by
    rw [List.mapM_cons] at h
    have hrest : Steady I (rest.mapM f) := Steady.mapM hf rest
    obtain ⟨y, hy, h⟩ := h.of_bind hs (hf x) fun y => hrest.bind fun ys => steady_pure _
    obtain ⟨ys', hys, _⟩ := h.of_bind hs hrest fun ys => steady_pure _
    rcases List.mem_cons.mp hz with rfl | hz
    · exact ⟨y, hy⟩
    · exact hys.of_mapM hs hf z hz

end ResolverGen
