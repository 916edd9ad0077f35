import ResolverGen.Proofs.Template.Steadiness
import ResolverGen.Proofs.Template.Writing

/-!
# What templates that come to a text have written

If statements come to a text, so does each part of them that is reached, and every value that they
write has a text. The rules go from the statements to their parts, where those for writing go from
the parts to the statements.
-/
namespace ResolverGen.Template

variable {I : Sanitizer → Prop} {c : Surroundings} {names : Table Value} {e : Expr} {v : Value}
  {rest : List Stmt} {s : Sanitizer}

/-- Statements come to a text in all states that can be met. -/
def Runs (I : Sanitizer → Prop) (c : Surroundings) (names : Table Value) (body : List Stmt) :
    Prop :=
  ∃ out, Settles I (runBody c names body) (.ok out)

theorem Writes.runs {body : List Stmt} {text : String} (h : Writes I c names body text) :
    Runs I c names body := ⟨_, h⟩

/-- What was taken over without fault is what it was taken from. -/
theorem eq_of_settles_ofExcept {α : Type} {x : Except Fault α} {a : α} (hs : I s)
    (h : Settles I (Eval.ofExcept x) (.ok a)) : x = .ok a := by
  cases x with
  | ok b => rw [Except.ok.inj (h.unique (settles_ofExcept rfl) hs)]
  | error fault => cases h.unique (settles_throw fault) hs

section

variable (hc : c.IsSteady I) (hs : I s)

include hc hs

theorem Runs.of_cons {st : Stmt} (h : Runs I c names (st :: rest)) :
    ∃ first, Settles I (st.run c names) (.ok first) ∧ Runs I c first.2 rest := by
  obtain ⟨out, h⟩ := h
  rw [runBody] at h
  obtain ⟨first, hfirst, h⟩ := h.of_bind hs (Stmt.steady hc names st) fun first =>
    (runBody_steady hc first.2 rest).bind fun others => steady_pure _
  obtain ⟨others, hothers, _⟩ := h.of_bind hs (runBody_steady hc first.2 rest) fun others =>
    steady_pure _
  exact ⟨first, hfirst, others, hothers⟩

theorem Runs.of_text {text : String} (h : Runs I c names (.text text :: rest)) :
    Runs I c names rest := by
  obtain ⟨first, hfirst, hrest⟩ := h.of_cons hc hs
  rw [Stmt.run] at hfirst
  obtain rfl := Except.ok.inj ((settles_pure _).unique hfirst hs)
  exact hrest

/-- A value that was written has a text. -/
theorem Runs.of_output (he : Evaluates I c names e v) (h : Runs I c names (.output e :: rest)) :
    (∃ text, textOf v = .ok text) ∧ Runs I c names rest := by
  obtain ⟨first, hfirst, hrest⟩ := h.of_cons hc hs
  rw [Stmt.run] at hfirst
  have hout := hfirst.of_bind_ok hs he ((steady_ofExcept _).bind fun text => steady_pure _)
  obtain ⟨text, htext, hout⟩ := hout.of_bind hs (steady_ofExcept _) fun text => steady_pure _
  obtain rfl := Except.ok.inj ((settles_pure _).unique hout hs)
  exact ⟨⟨text, eq_of_settles_ofExcept hs htext⟩, hrest⟩

theorem Runs.of_branch {p : Prop} [Decidable p] {yes no : List Stmt} (he : Evaluates I c names e v)
    (hv : truth v = .ok (decide p)) (h : Runs I c names (.branch e yes no :: rest)) (hp : p) :
    Runs I c names yes := by
  obtain ⟨first, hfirst, _⟩ := h.of_cons hc hs
  rw [Stmt.run] at hfirst
  have hyes := runBody_steady hc names yes
  have hno := runBody_steady hc names no
  have htaken := hfirst.of_bind_ok hs he ((steady_ofExcept _).bind fun taken => hyes.ite hno)
  have hbody := htaken.of_bind_ok hs (settles_ofExcept hv) (hyes.ite hno)
  rw [if_pos (decide_eq_true hp)] at hbody
  exact ⟨first, hbody⟩

omit hc in
theorem runs_of_repeatBody {α : Type} {value : α → Value} {body : Value → Nat → Eval String}
    (hbody : ∀ v i, Steady I (body v i)) :
    ∀ {items : List α} {i : Nat} {parts : List String},
      Settles I (repeatBody body i (items.map value)) (.ok parts) →
        ∀ a ∈ items, ∃ i part, Settles I (body (value a) i) (.ok part)
  | a :: items, i, parts, h, b, hb => by
    rw [List.map_cons, repeatBody] at h
    have hrest := repeatBody_steady hbody (items.map value) (i + 1)
    obtain ⟨part, hpart, h⟩ := h.of_bind hs (hbody (value a) i) fun part =>
      hrest.bind fun parts => steady_pure _
    obtain ⟨parts, hparts, _⟩ := h.of_bind hs hrest fun parts => steady_pure _
    rcases List.mem_cons.mp hb with rfl | hb
    · exact ⟨i, part, hpart⟩
    · exact runs_of_repeatBody hbody hparts b hb

/-- The body of a loop over a name was run for each item. -/
theorem Runs.of_loop {α : Type} {value : α → Value} {x y : String} {b : List Stmt} {items : List α}
    (hy : lookupName names y = .list (items.map value)) (hp : bodyMentions placeName b = false)
    (h : Runs I c names (.loop (.name x) (.name y) none b [] :: rest)) :
    ∀ a ∈ items, Runs I c (names.put x (value a)) b := by
  obtain ⟨first, hfirst, _⟩ := h.of_cons hc hs
  rw [Stmt.run, Expr.eval, hy, hp] at hfirst
  have hitem : ∀ v (i : Nat), Steady I (do
      let inner ← Eval.ofExcept (Target.assign names v (.name x))
      return (← runBody c inner b).1) := fun v i =>
    (steady_ofExcept _).bind fun inner => (runBody_steady hc inner b).bind fun p => steady_pure _
  obtain ⟨parts, hparts, _⟩ := Settles.of_bind (f := fun parts => do
      if (items.map value).isEmpty then
        return ((← runBody c names []).1, names)
      return (String.join parts, names)) hfirst hs (repeatBody_steady hitem (items.map value) 0)
    fun parts => ((runBody_steady hc names []).bind fun p => steady_pure _).ite (steady_pure _)
  intro a ha
  obtain ⟨i, part, hpart⟩ := runs_of_repeatBody hs hitem hparts a ha
  obtain ⟨out, hout, _⟩ := Settles.of_bind (x := runBody c (names.put x (value a)) b) hpart hs
    (runBody_steady hc _ b) fun p => steady_pure _
  exact ⟨out, hout⟩

/-- What follows an assignment is run with the name in sight. -/
theorem Runs.of_assign {x : String} (he : Evaluates I c names e v)
    (h : Runs I c names (.assign (.name x) e :: rest)) : Runs I c (names.put x v) rest := by
  obtain ⟨first, hfirst, hrest⟩ := h.of_cons hc hs
  rw [Stmt.run] at hfirst
  have hout : Settles I (pure ("", names.put x v) : Eval (String × Table Value)) (.ok first) :=
    Settles.of_bind_ok (f := fun v => do
      return ("", ← Eval.ofExcept (Target.assign names v (.name x)))) hfirst hs he (steady_pure _)
  obtain rfl := Except.ok.inj ((settles_pure _).unique hout hs)
  exact hrest

end

/-! ## Templates -/

/-- What is around the statements of a template does not show what the sanitizer remembers. -/
theorem Engine.isSteady_surroundings {e : Engine} (he : ∀ f ∈ e.ownFilters, f.IsSteady I)
    (depth : Nat) (templateName? : Option String) :
    Surroundings.IsSteady I
      { filters := e.filters
        templateName?
        renderOther := fun v mayBeMissing names =>
          match e.select v with
          | .ok (name, source) => e.renderNested depth (some name) source names
          | .error fault =>
            if mayBeMissing && isAbsence fault then return "" else throw fault } where
  filters := by
    intro f hf
    rcases List.mem_append.mp hf with hf | hf
    · exact he f hf
    · exact isSteady_commonFilters f hf
  others := by
    intro v mayBeMissing names
    dsimp only
    cases e.select v with
    | ok found => exact Engine.steady_renderNested he depth _ _ _
    | error fault => exact Steady.ite (steady_pure _) (steady_throw _)

/-- A template that comes to a text has run the statements that it is read as. -/
theorem runs_of_render {e : Engine} {source text : String} {body : List Stmt}
    {context : Table Value} (he : ∀ f ∈ e.ownFilters, f.IsSteady I) (hs : I s)
    (hc : e.compile source = .ok body) (hself : context.has "self" = false)
    (h : Settles I (e.render source context) (.ok text)) :
    ∃ other, Surroundings.IsSteady I ⟨e.filters, none, other⟩ ∧
      Runs I ⟨e.filters, none, other⟩ context body := by
  unfold Engine.render at h
  rw [hc, hself] at h
  change Settles I (e.renderNested (899 + 1) none source context) (.ok text) at h
  rw [Engine.renderNested, hc] at h
  have hsteady := Engine.isSteady_surroundings he 899 none
  obtain ⟨out, hout, _⟩ := h.of_bind hs (runBody_steady hsteady context body) fun p => steady_pure _
  exact ⟨_, hsteady, out, hout⟩

end ResolverGen.Template
