import ResolverGen.Failure.Basic
import ResolverGen.Proofs.Steady

/-!
# Rules for runs

What the parts of a run come to when what the sanitizer remembers does not show. A predicate on
sanitizers tells which ones can be met; the log is never asked. What a run can fail with is said for
all states.
-/
namespace ResolverGen

open Template

/-- A state of a run whose sanitizer can be met. -/
def Remembering (I : Sanitizer → Prop) (s : RunState) : Prop := I s.sanitizer

/-- A failure with its place told, where it is one to find or to render a template. -/
def Failure.tagged (l : Location) : Failure → Failure
  | .generation (.resolution e) => .generation (.resolution (e.tag l))
  | .generation (.rendering e) => .generation (.rendering (e.tag l))
  | failure => failure

/-- The failure of a template that cannot be rendered. -/
def renderFailure (templateName : String) (fault : Fault) : Failure :=
  .generation (.rendering { cause := ⟨templateName, fault⟩ })

variable {I : Sanitizer → Prop} {α : Type}

theorem settles_record (records : Log) : Settles (Remembering I) (Run.record records) (.ok ()) :=
  fun s hs => ⟨{ s with log := s.log ++ records }, hs, rfl⟩

theorem Settles.render {work : Eval α} {r : Except Fault α} (h : Settles I work r)
    (templateName : String) :
    Settles (Remembering I) (Run.render templateName work)
      (r.mapError (renderFailure templateName)) := by
  intro s hs
  obtain ⟨sanitizer, hsanitizer, hrun⟩ := h s.sanitizer hs
  refine ⟨{ s with sanitizer }, hsanitizer, ?_⟩
  change Run.render templateName work s = _
  unfold Run.render
  rw [hrun]
  cases r with
  | ok a => rfl
  | error fault => rfl

theorem steady_found (scope : TemplateScope) (variant : String)
    (lookup : Except Text.Undecodable (Option α)) :
    Steady (Remembering I) (Run.found scope variant lookup) := by
  unfold Run.found
  cases lookup with
  | error cause => exact steady_throw _
  | ok found =>
    cases found with
    | none => exact steady_throw _
    | some body => exact steady_pure body

theorem settles_found {scope : TemplateScope} {variant : String}
    {lookup : Except Text.Undecodable (Option α)} {body : α} (h : lookup = .ok (some body)) :
    Settles (Remembering I) (Run.found scope variant lookup) (.ok body) := by
  subst h
  exact settles_pure body

/-- What is done with a template matters for the one that is found only. -/
theorem found_bind_congr {β : Type} {scope : TemplateScope} {variant : String}
    {lookup : Except Text.Undecodable (Option α)} {k k' : α → Run β}
    (h : ∀ body, lookup = .ok (some body) → k body = k' body) :
    (Run.found scope variant lookup >>= k) = (Run.found scope variant lookup >>= k') := by
  cases lookup with
  | error cause => rfl
  | ok found =>
    cases found with
    | none => rfl
    | some body => simp only [Run.found, pure_bind, h body rfl]

theorem tagged_run (l : Location) (work : Run α) (s : RunState) :
    (Run.tagged l work).run s = ((work.run s).1.mapError (Failure.tagged l), (work.run s).2) := by
  unfold Run.tagged
  rw [tryCatch_run]
  rcases work.run s with ⟨failure | a, s'⟩
  · cases failure with
    | generation error => cases error <;> rfl
    | breakdown cause => rfl
  · rfl

/-- The place of work is the place of each of its parts. -/
theorem tagged_bind {β : Type} (l : Location) (work : Run α) (next : α → Run β) :
    Run.tagged l (work >>= next) = Run.tagged l work >>= fun a => Run.tagged l (next a) := by
  funext s
  change (Run.tagged l (work >>= next)).run s = (Run.tagged l work >>= _).run s
  rw [tagged_run, run_bind, run_bind, tagged_run]
  rcases work.run s with ⟨failure | a, s'⟩
  · rfl
  · exact (tagged_run l (next a) s').symm

@[simp] theorem tagged_pure (l : Location) (a : α) : Run.tagged l (pure a) = pure a := rfl

theorem Settles.tagged {J : RunState → Prop} {work : Run α} {r : Except Failure α}
    (h : Settles J work r) (l : Location) :
    Settles J (Run.tagged l work) (r.mapError (Failure.tagged l)) := by
  intro s hs
  obtain ⟨s', hs', hrun⟩ := h s hs
  exact ⟨s', hs', by rw [tagged_run, hrun]⟩

theorem Steady.render {work : Eval α} (h : Steady I work) (templateName : String) :
    Steady (Remembering I) (Run.render templateName work) := by
  obtain ⟨r, hr⟩ := h
  exact ⟨_, hr.render templateName⟩

theorem Steady.tagged {J : RunState → Prop} {work : Run α} (h : Steady J work) (l : Location) :
    Steady J (Run.tagged l work) := by
  obtain ⟨r, hr⟩ := h
  exact ⟨_, hr.tagged l⟩

theorem steady_fail {J : RunState → Prop} (error : GenerationError) :
    Steady J (Run.fail error : Run α) :=
  steady_throw _

/-! ## Failures -/

/-- Whatever state the work begins in, a failure of it has a property. -/
def FailsOnly (P : Failure → Prop) (work : Run α) : Prop :=
  ∀ s failure s', work.run s = (.error failure, s') → P failure

section

variable {P : Failure → Prop}

theorem failsOnly_pure (a : α) : FailsOnly P (pure a : Run α) := by
  intro s failure s' h
  cases h

theorem failsOnly_throw {failure : Failure} (h : P failure) :
    FailsOnly P (throw failure : Run α) := by
  intro s failure' s' hrun
  obtain rfl : failure = failure' := Except.error.inj (Prod.mk.inj hrun).1
  exact h

theorem FailsOnly.bind {β : Type} {work : Run α} {next : α → Run β} (h : FailsOnly P work)
    (hnext : ∀ a, FailsOnly P (next a)) : FailsOnly P (work >>= next) := by
  intro s failure s' hrun
  rw [run_bind] at hrun
  rcases hwork : work.run s with ⟨failure' | a, r⟩
  · rw [hwork] at hrun
    obtain rfl : failure' = failure := Except.error.inj (Prod.mk.inj hrun).1
    exact h s failure' r hwork
  · rw [hwork] at hrun
    exact hnext a r failure s' hrun

theorem FailsOnly.tagged {work : Run α} {l : Location}
    (h : FailsOnly (fun failure => P (failure.tagged l)) work) :
    FailsOnly P (Run.tagged l work) := by
  intro s failure s' hrun
  rw [tagged_run] at hrun
  rcases hwork : work.run s with ⟨failure' | a, r⟩
  · rw [hwork] at hrun
    obtain rfl : failure'.tagged l = failure := Except.error.inj (Prod.mk.inj hrun).1
    exact h s failure' r hwork
  · rw [hwork] at hrun
    cases hrun

theorem failsOnly_found {scope : TemplateScope} {variant : String}
    {lookup : Except Text.Undecodable (Option α)}
    (hmissing : P (.generation
      (.resolution { cause := scope, location := { variant? := some variant } })))
    (hunreadable : ∀ cause, P (.breakdown (.undecodable cause))) :
    FailsOnly P (Run.found scope variant lookup) := by
  unfold Run.found
  cases lookup with
  | error cause => exact failsOnly_throw (hunreadable cause)
  | ok found =>
    cases found with
    | none => exact failsOnly_throw hmissing
    | some body => exact failsOnly_pure body

theorem failsOnly_render {templateName : String} (work : Eval α)
    (h : ∀ fault, P (renderFailure templateName fault)) :
    FailsOnly P (Run.render templateName work) := by
  intro s failure s' hrun
  change Run.render templateName work s = _ at hrun
  unfold Run.render at hrun
  rcases hwork : work.run s.sanitizer with ⟨fault | a, sanitizer⟩
  · rw [hwork] at hrun
    obtain rfl : renderFailure templateName fault = failure :=
      Except.error.inj (Prod.mk.inj hrun).1
    exact h fault
  · rw [hwork] at hrun
    cases hrun

end

/-! ## Back from a result -/

variable {s : RunState}

theorem Settles.of_render {work : Eval α} {templateName : String} {a : α}
    (h : Settles (Remembering I) (Run.render templateName work) (.ok a)) (hs : Remembering I s)
    (hwork : Steady I work) :
    Settles I work (.ok a) := by
  obtain ⟨r, hr⟩ := hwork
  have hresult := h.unique (hr.render templateName) hs
  cases r with
  | error fault => cases hresult
  | ok b =>
    obtain rfl := Except.ok.inj hresult
    exact hr

theorem Settles.of_tagged {J : RunState → Prop} {work : Run α} {l : Location} {a : α}
    (h : Settles J (Run.tagged l work) (.ok a)) (hs : J s) (hwork : Steady J work) :
    Settles J work (.ok a) := by
  obtain ⟨r, hr⟩ := hwork
  have hresult := h.unique (hr.tagged l) hs
  cases r with
  | error failure => cases hresult
  | ok b =>
    obtain rfl := Except.ok.inj hresult
    exact hr

end ResolverGen
