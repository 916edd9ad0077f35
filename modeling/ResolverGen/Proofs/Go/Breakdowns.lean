import ResolverGen.Proofs.FirstFailures
import ResolverGen.Proofs.Go.GenerateRuns

/-!
# Where generation breaks down

A generator reports most of what goes wrong as an error of its own. What it does not look for ends
the run in another way: a configured Go type that is no text, imports that cannot be compared, and
template files that hold no text. The predicates below say for a field, a type and a run when such a
thing is the first to go wrong, and the main statements, that a run breaks down exactly then.
-/
namespace ResolverGen.Go.Generator

open Template

variable (g : Generator) (files : Files) (programs : Programs)

/-! ## What the parts of a type come to by themselves -/

/-- What one variant of a field comes to. -/
def variantResult (f : SchemaField) (owner : SchemaType) (goType : String) (v : Variant) :
    Except Failure (String × String) :=
  ((g.renderFieldVariant files f owner goType v).run (initialState [])).1

/-- What a field comes to under the settings of its type. -/
def fieldResult (t : SchemaType) (f : SchemaField) : Except Failure RenderedField :=
  ((g.renderField files f t (g.settings.type t.name)).run (initialState [])).1

/-- What one variant of a type comes to around fields. -/
def typeVariantResult (t : SchemaType) (fields : List RenderedField) (v : Variant) :
    Except Failure String :=
  ((g.renderTypeVariant files t fields v).run (initialState [])).1

/-! ## What is not looked for -/

/-- A field whose Go type is configured as something other than a text, or whose first variant that
fails does so because a file of its templates holds no text. -/
inductive FieldBreaks (t : SchemaType) (f : SchemaField) : Breakdown → Prop
  | goType : typeExpression g.scalars f.type = .error .goTypeNotText → FieldBreaks t f .wrongKind
  | template {goType : String} {cause : Text.Undecodable} :
    typeExpression g.scalars f.type = .ok goType →
      AtFirst (g.variantResult files f t goType)
        ((g.settings.type t.name).field f.name).templates
        (fun v => g.store.fieldTemplate? files v.name = .error cause) →
      FieldBreaks t f (.undecodable cause)

/-- A type with a field that breaks down, with imports that cannot be compared, or whose first
variant that fails does so because its template file holds no text. -/
inductive TypeBreaks (t : SchemaType) : Breakdown → Prop
  | field {cause : Breakdown} :
    AtFirst (g.fieldResult files t) t.fields (fun f => g.FieldBreaks files t f cause) →
      TypeBreaks t cause
  | imports {fields : List RenderedField} :
    t.fields.mapM (g.fieldResult files t) = .ok fields →
      (fields.flatMap (·.imports)).all isComparable = false → TypeBreaks t .wrongKind
  | template {fields : List RenderedField} {cause : Text.Undecodable} :
    t.fields.mapM (g.fieldResult files t) = .ok fields →
      (fields.flatMap (·.imports)).all isComparable = true →
      AtFirst (g.typeVariantResult files t fields) (g.settings.type t.name).templates
        (fun v => g.store.typeTemplate? files v.name = .error cause) →
      TypeBreaks t (.undecodable cause)

/-- The types that get a file, up to the first that cannot have one, which breaks down. -/
def RunBreaks (schema : Schema) (cause : Breakdown) : Prop :=
  ∃ before t after, g.eligible schema.types = before ++ t :: after ∧
    HaveFiles (g.rendered files programs (initialState [])) before ∧
    (∀ u ∈ before, lowerName u ≠ lowerName t) ∧ g.TypeBreaks files t cause

/-! ## The parts of a type -/

section

variable {g : Generator} (hg : ∀ f ∈ g.store.ownFilters, f.IsSteady Faithful) {files : Files}

theorem tagged_eq_breakdown {l : Location} {failure : Failure} {cause : Breakdown} :
    Failure.tagged l failure = .breakdown cause ↔ failure = .breakdown cause := by
  cases failure with
  | breakdown other => rfl
  | generation error => cases error <;> simp [Failure.tagged]

theorem mapError_eq_breakdown {α : Type} {l : Location} {r : Except Failure α}
    {cause : Breakdown} :
    r.mapError (Failure.tagged l) = .error (.breakdown cause) ↔
      r = .error (.breakdown cause) := by
  cases r with
  | ok a => simp
  | error failure => simpa using tagged_eq_breakdown

theorem found_eq_breakdown {α : Type} {scope : TemplateScope} {variant : String}
    {lookup : Except Text.Undecodable (Option α)} {s : RunState} {cause : Breakdown} :
    ((Run.found scope variant lookup).run s).1 = .error (.breakdown cause) ↔
      ∃ u, lookup = .error u ∧ cause = .undecodable u := by
  cases lookup with
  | error u =>
    change (Except.error (Failure.breakdown (.undecodable u)) : Except Failure α) = _ ↔ _
    simp [eq_comm]
  | ok body? =>
    cases body? with
    | none =>
      change (Except.error (Failure.generation _) : Except Failure α) = _ ↔ _
      simp
    | some body =>
      change (Except.ok body : Except Failure α) = _ ↔ _
      simp

/-- Whatever goes wrong while a template is rendered is an error of the run. -/
theorem render_ne_breakdown {α : Type} {templateName : String} {work : Eval α} {s : RunState}
    {cause : Breakdown} :
    ((Run.render templateName work).run s).1 ≠ .error (.breakdown cause) := by
  change (Run.render templateName work s).1 ≠ _
  unfold Run.render
  rcases work.run s.sanitizer with ⟨fault | a, sanitizer⟩ <;> simp

include hg in
theorem variantResult_eq_breakdown {f : SchemaField} {owner : SchemaType} {goType : String}
    {v : Variant} {cause : Breakdown} :
    g.variantResult files f owner goType v = .error (.breakdown cause) ↔
      ∃ u, g.store.fieldTemplate? files v.name = .error u ∧ cause = .undecodable u := by
  have hs := isFaithful_initialState []
  have hrender : ∀ name source context,
      Steady IsFaithful (Run.render name ((g.store.engine files).render source context)) :=
    fun name source context => (steady_engine hg files source context).render name
  unfold variantResult renderFieldVariant
  rw [tagged_run, mapError_eq_breakdown, (steady_found _ _ _).result_bind
    (fun _ => (hrender _ _ _).bind fun _ => (hrender _ _ _).bind fun _ => steady_pure _) hs,
    bind_eq_error_iff, found_eq_breakdown]
  refine or_iff_left ?_
  rintro ⟨template, -, h⟩
  rw [(hrender _ _ _).result_bind (fun _ => (hrender _ _ _).bind fun _ => steady_pure _) hs] at h
  rcases bind_eq_error_iff.mp h with h | ⟨declaration, -, h⟩
  · exact render_ne_breakdown h
  · rw [(hrender _ _ _).result_bind (fun _ => steady_pure _) hs] at h
    rcases bind_eq_error_iff.mp h with h | ⟨method, -, h⟩
    · exact render_ne_breakdown h
    · cases h

include hg in
theorem typeVariantResult_eq_breakdown {t : SchemaType} {fields : List RenderedField}
    {v : Variant} {cause : Breakdown} :
    g.typeVariantResult files t fields v = .error (.breakdown cause) ↔
      ∃ u, g.store.typeTemplate? files v.name = .error u ∧ cause = .undecodable u := by
  unfold typeVariantResult renderTypeVariant
  rw [tagged_run, mapError_eq_breakdown, (steady_found _ _ _).result_bind
    (fun _ => (steady_engine hg files _ _).render _) (isFaithful_initialState []),
    bind_eq_error_iff, found_eq_breakdown]
  refine or_iff_left ?_
  rintro ⟨body, -, h⟩
  exact render_ne_breakdown h

include hg in
/-- Variants break down at the first that fails, if a file of its templates holds no text. -/
theorem renderVariants_eq_breakdown {f : SchemaField} {owner : SchemaType} {goType : String}
    {cause : Breakdown} (variants : List Variant) :
    ((g.renderVariants files f owner goType variants).run (initialState [])).1 =
        .error (.breakdown cause) ↔
      ∃ u, cause = .undecodable u ∧ AtFirst (g.variantResult files f owner goType) variants
        fun v => g.store.fieldTemplate? files v.name = .error u := by
  have hs := isFaithful_initialState []
  induction variants with
  | nil =>
    rw [renderVariants]
    refine iff_of_false (by rintro ⟨⟩) ?_
    rintro ⟨u, -, h⟩
    exact not_atFirst_nil h
  | cons v rest ih =>
    have hrest := steady_renderVariants hg files f owner goType rest
    rw [renderVariants, (steady_renderFieldVariant hg files f owner goType v).result_bind
      (fun _ => hrest.bind fun _ => steady_pure _) hs, bind_eq_error_iff]
    have htail : ∀ p : String × String, ((g.renderVariants files f owner goType rest >>=
        fun others => (pure
          { declaration := p.1 ++ others.declaration
            method := p.2 ++ others.method
            imports := importsFor g.scalars f.type ++ others.imports } : Run RenderedField)).run
          (initialState [])).1 = .error (.breakdown cause) ↔
        ((g.renderVariants files f owner goType rest).run (initialState [])).1 =
          .error (.breakdown cause) := by
      intro p
      rw [hrest.result_bind (fun _ => steady_pure _) hs, bind_eq_error_iff]
      refine or_iff_left ?_
      rintro ⟨others, -, ⟨⟩⟩
    simp only [htail, ih, atFirst_cons]
    rw [show ((g.renderFieldVariant files f owner goType v).run (initialState [])).1 =
      g.variantResult files f owner goType v from rfl, variantResult_eq_breakdown hg]
    constructor
    · rintro (⟨u, hu, rfl⟩ | ⟨p, hp, u, rfl, h⟩)
      · exact ⟨u, rfl, Or.inl hu⟩
      · exact ⟨u, rfl, Or.inr ⟨⟨p, hp⟩, h⟩⟩
    · rintro ⟨u, rfl, hu | ⟨⟨p, hp⟩, h⟩⟩
      · exact Or.inl ⟨u, hu, rfl⟩
      · exact Or.inr ⟨p, hp, u, rfl, h⟩

/-- What the Go type of a reference comes to within a run. -/
theorem fieldType_run (ref : TypeRef) (s : RunState) : ((g.fieldType ref).run s).1 =
    match typeExpression g.scalars ref with
    | .ok goType => .ok goType
    | .error (.schema fault) => .error (.generation (.schema fault))
    | .error .goTypeNotText => .error (.breakdown .wrongKind) := by
  unfold fieldType
  cases typeExpression g.scalars ref with
  | ok goType => rfl
  | error fault => cases fault <;> rfl

include hg in
theorem fieldResult_eq_breakdown {t : SchemaType} {f : SchemaField} {cause : Breakdown} :
    g.fieldResult files t f = .error (.breakdown cause) ↔ g.FieldBreaks files t f cause := by
  unfold fieldResult renderField
  rw [(steady_fieldType f.type).result_bind
    (fun _ => steady_renderVariants hg files f t _ _) (isFaithful_initialState []),
    bind_eq_error_iff, fieldType_run]
  simp only [renderVariants_eq_breakdown hg]
  constructor
  · rintro (h | ⟨goType, htype, u, rfl, h⟩)
    · cases htype : typeExpression g.scalars f.type with
      | ok goType => simp [htype] at h
      | error fault =>
        cases fault with
        | schema fault => simp [htype] at h
        | goTypeNotText =>
          obtain rfl : .wrongKind = cause := by simpa [htype] using h
          exact .goType htype
    · suffices hexpr : typeExpression g.scalars f.type = .ok goType from .template hexpr h
      cases hexpr : typeExpression g.scalars f.type with
      | ok other => simpa [hexpr] using htype
      | error fault => cases fault <;> simp [hexpr] at htype
  · rintro (htype | ⟨htype, h⟩)
    · exact Or.inl (by simp [htype])
    · exact Or.inr ⟨_, by rw [htype], _, rfl, h⟩

/-! ## Types and runs -/

theorem checkImports_eq_breakdown {imports : List Json} {s : RunState} {cause : Breakdown} :
    ((checkImports imports).run s).1 = .error (.breakdown cause) ↔
      imports.all isComparable = false ∧ cause = .wrongKind := by
  unfold checkImports
  cases h : imports.all isComparable with
  | true =>
    change (Except.ok () : Except Failure Unit) = _ ↔ _
    simp
  | false =>
    change (Except.error (Failure.breakdown .wrongKind) : Except Failure Unit) = _ ↔ _
    simp [eq_comm]

/-- A formatter refuses a text with an error of the run. -/
theorem formatCode_ne_breakdown {programs : Programs} {code : String} {typeName? : Option String}
    {s : RunState} {cause : Breakdown} :
    ((g.formatCode programs code typeName?).run s).1 ≠ .error (.breakdown cause) := by
  unfold formatCode
  cases g.formatter.format programs code with
  | ok text => rintro ⟨⟩
  | error fault => rintro ⟨⟩

theorem checkImports_eq_ok {imports : List Json} {s : RunState} {u : Unit} :
    ((checkImports imports).run s).1 = .ok u ↔ imports.all isComparable = true := by
  unfold checkImports
  cases h : imports.all isComparable with
  | true => exact iff_of_true rfl rfl
  | false => exact iff_of_false (by rintro ⟨⟩) (by simp)

/-- The work on a type once its fields are there. -/
def aroundFields (g : Generator) (files : Files) (programs : Programs) (t : SchemaType)
    (fields : List RenderedField) : Run String := do
  checkImports (fields.flatMap (·.imports))
  let parts ← (g.settings.type t.name).templates.mapM (g.renderTypeVariant files t fields)
  g.formatCode programs (String.join parts) (some t.name)

include hg in
theorem steady_aroundFields (programs : Programs) (t : SchemaType) (fields : List RenderedField) :
    Steady IsFaithful (g.aroundFields files programs t fields) :=
  (steady_checkImports _).bind fun _ =>
    (Steady.mapM (fun v => steady_renderTypeVariant hg files t fields v) _).bind fun _ =>
      steady_formatCode programs _ _

include hg in
theorem aroundFields_eq_breakdown {programs : Programs} {t : SchemaType}
    {fields : List RenderedField} {cause : Breakdown} :
    ((g.aroundFields files programs t fields).run (initialState [])).1 =
        .error (.breakdown cause) ↔
      (fields.flatMap (·.imports)).all isComparable = false ∧ cause = .wrongKind ∨
      (fields.flatMap (·.imports)).all isComparable = true ∧ ∃ u, cause = .undecodable u ∧
        AtFirst (g.typeVariantResult files t fields) (g.settings.type t.name).templates
          fun v => g.store.typeTemplate? files v.name = .error u := by
  have hs := isFaithful_initialState []
  have hvariant := fun v => steady_renderTypeVariant hg files t fields v
  have hparts := Steady.mapM hvariant (g.settings.type t.name).templates
  have hresult : (((g.settings.type t.name).templates.mapM
        (g.renderTypeVariant files t fields)).run (initialState [])).1 =
      (g.settings.type t.name).templates.mapM (g.typeVariantResult files t fields) :=
    Steady.result_mapM hvariant hs _
  unfold aroundFields
  rw [(steady_checkImports _).result_bind
      (fun _ => hparts.bind fun _ => steady_formatCode programs _ _) hs,
    bind_eq_error_iff, checkImports_eq_breakdown]
  simp only [checkImports_eq_ok, exists_const,
    hparts.result_bind (fun _ => steady_formatCode programs _ _) hs, bind_eq_error_iff,
    formatCode_ne_breakdown, and_false, or_false, hresult, mapM_eq_error_iff,
    typeVariantResult_eq_breakdown hg]
  refine or_congr_right (and_congr_right fun _ => ?_)
  constructor
  · rintro ⟨before, v, after, hv, hbefore, u, hu, rfl⟩
    exact ⟨u, rfl, before, v, after, hv, hbefore, hu⟩
  · rintro ⟨u, rfl, before, v, after, hv, hbefore, hu⟩
    exact ⟨before, v, after, hv, hbefore, u, hu, rfl⟩

include hg in
theorem rendered_eq_breakdown {programs : Programs} {t : SchemaType} {cause : Breakdown} :
    g.rendered files programs (initialState []) t = .error (.breakdown cause) ↔
      g.TypeBreaks files t cause := by
  have hs := isFaithful_initialState []
  have hfield := fun f => steady_renderField hg files f t (g.settings.type t.name)
  have hfields : ((t.fields.mapM fun f =>
        g.renderField files f t (g.settings.type t.name)).run (initialState [])).1 =
      t.fields.mapM (g.fieldResult files t) := Steady.result_mapM hfield hs _
  have hrendered : g.rendered files programs (initialState []) t =
      t.fields.mapM (g.fieldResult files t) >>= fun fields =>
        ((g.aroundFields files programs t fields).run (initialState [])).1 := by
    rw [← hfields, ← (Steady.mapM hfield t.fields).result_bind
      (steady_aroundFields hg programs t) hs]
    rfl
  rw [hrendered, bind_eq_error_iff, mapM_eq_error_iff]
  simp only [aroundFields_eq_breakdown hg, fieldResult_eq_breakdown hg]
  constructor
  · rintro (h | ⟨fields, hok, ⟨himports, rfl⟩ | ⟨himports, u, rfl, h⟩⟩)
    · exact .field h
    · exact .imports hok himports
    · exact .template hok himports h
  · rintro (h | ⟨hok, himports⟩ | ⟨hok, himports, h⟩)
    · exact Or.inl h
    · exact Or.inr ⟨_, hok, Or.inl ⟨himports, rfl⟩⟩
    · exact Or.inr ⟨_, hok, Or.inr ⟨himports, _, rfl, h⟩⟩

/-- Behind types that get files of their own, the failure of a type ends the work. -/
theorem fileWork_append_error {render : SchemaType → Except Failure String} {t : SchemaType}
    {after : List SchemaType} {failure : Failure} (ht : render t = .error failure) :
    ∀ {before done : List SchemaType}, HaveFiles render before →
      (∀ u ∈ before, ∀ v ∈ done, lowerName v ≠ lowerName u) →
      (∀ u ∈ done ++ before, lowerName u ≠ lowerName t) →
      g.fileWork render done (before ++ t :: after) = .error failure
  | [], done, _, _, hfree => by
    have hfind : done.find? (fun u => lowerName u = lowerName t) = none := by
      rw [List.append_nil] at hfree
      simpa using hfree
    rw [List.nil_append, fileWork, hfind, ht]
    rfl
  | u :: rest, done, hhave, hdone, hfree => by
    obtain ⟨text, htext⟩ := hhave.2 u List.mem_cons_self
    have hnames := hhave.1
    rw [List.map_cons, List.nodup_cons] at hnames
    have hrest : g.fileWork render (done ++ [u]) (rest ++ t :: after) = .error failure := by
      refine fileWork_append_error ht ⟨hnames.2, fun v hv => hhave.2 v (List.mem_cons_of_mem u hv)⟩
        ?_ (by simpa using hfree)
      intro v hv w hw
      rcases List.mem_append.mp hw with hw | hw
      · exact hdone v (List.mem_cons_of_mem u hv) w hw
      · obtain rfl := List.mem_singleton.mp hw
        exact fun hsame => hnames.1 (hsame ▸ List.mem_map_of_mem hv)
    have hfind : done.find? (fun v => lowerName v = lowerName u) = none := by
      simpa using hdone u List.mem_cons_self
    rw [List.cons_append, fileWork, hfind, htext, hrest]
    rfl

include hg in
/-- A run breaks down exactly if a type does that is the first not to have a file. -/
theorem generate_eq_breakdown {programs : Programs} {schema : Schema} {s : RunState}
    (hs : IsFaithful s) {cause : Breakdown} :
    ((g.generate files programs schema).run s).1 = .error (.breakdown cause) ↔
      g.RunBreaks files programs schema cause := by
  rw [generate_run hg files programs schema hs (isFaithful_initialState [])]
  constructor
  · intro h
    obtain ⟨before, t, after, htypes, hhave, ⟨owner, -, -, hcollision⟩ | ⟨hfree, hfailure⟩⟩ :=
      failsFirst_of_fileWork h
    · cases hcollision
    · exact ⟨before, t, after, htypes, hhave, hfree, (rendered_eq_breakdown hg).mp hfailure⟩
  · rintro ⟨before, t, after, htypes, hhave, hfree, hbreaks⟩
    rw [htypes]
    exact fileWork_append_error ((rendered_eq_breakdown hg).mpr hbreaks) hhave (by simp)
      (by simpa using hfree)

end

end ResolverGen.Go.Generator
