import ResolverGen.Proofs.Go.Rendering
import ResolverGen.Proofs.Go.VariantTexts

/-!
# Rendering with the packaged variants

A type that is configured with packaged variants only, in any order and number, comes to what these
write one after another, in its final form. That is told from both sides: each field has a Go type,
imports can be told apart, and what is written as configured has a text; and without one of these
the type cannot be rendered.
-/
namespace ResolverGen.Go

open Template

/-- The Go type of a reference that has one. -/
def goTypeOf (table : ScalarTable) (t : TypeRef) : String :=
  match typeExpression table t with
  | .ok text => text
  | .error _ => ""

theorem goTypeOf_eq {table : ScalarTable} {t : TypeRef} {text : String}
    (h : typeExpression table t = .ok text) : goTypeOf table t = text := by
  unfold goTypeOf
  rw [h]

namespace Generator

variable {g : Generator} (files : Files)

/-! ## Looking templates up -/

theorem IsPackaged.source (h : g.IsPackaged) (name source : String) (pieces : List String)
    (hpieces : Shelf.pieces? name = some pieces)
    (hsource : packagedTemplates.get? ("/".intercalate pieces) = some source) :
    g.store.source files name = .ok (some source) := by
  rw [h.store, source_of_noDirectory files h.noDirectory, hpieces, Option.bind_some, hsource]

theorem IsPackaged.setterTemplate (h : g.IsPackaged) :
    g.store.fieldTemplate? files "setter" =
      .ok (some ⟨TemplateStore.trimBody fieldSetter, fieldSetterMethod⟩) := by
  have hfile : g.store.fileName .field "setter" = "field/setter.go.j2" := by
    rw [h.store]
    change "field" ++ "/" ++ "setter" ++ (".go" ++ ".j2") = _
    rfl
  have hmethodFile : g.store.fileName .field ("setter" ++ TemplateStore.methodSuffix) =
      "field/setter.method.go.j2" := by
    rw [h.store]
    change "field" ++ "/" ++ ("setter" ++ ".method") ++ (".go" ++ ".j2") = _
    rfl
  have hdeclaration := h.source files "field/setter.go.j2" fieldSetter
    ["field", "setter.go.j2"] rfl (by
      rw [show "/".intercalate ["field", "setter.go.j2"] = "field/setter.go.j2" by rfl]
      rfl)
  have hmethod := h.source files "field/setter.method.go.j2" fieldSetterMethod
    ["field", "setter.method.go.j2"] rfl (by
      rw [show "/".intercalate ["field", "setter.method.go.j2"] = "field/setter.method.go.j2" by
        rfl]
      rfl)
  unfold TemplateStore.fieldTemplate?
  rw [hfile, hmethodFile, hdeclaration, hmethod]
  rfl

theorem IsPackaged.constructorTemplate (h : g.IsPackaged) :
    g.store.typeTemplate? files "constructor" =
      .ok (some (TemplateStore.trimBody typeConstructor)) := by
  have hfile : g.store.fileName .type "constructor" = "type/constructor.go.j2" := by
    rw [h.store]
    change "type" ++ "/" ++ "constructor" ++ (".go" ++ ".j2") = _
    rfl
  have hsource := h.source files "type/constructor.go.j2" typeConstructor
    ["type", "constructor.go.j2"] rfl (by
      rw [show "/".intercalate ["type", "constructor.go.j2"] = "type/constructor.go.j2" by
        rfl]
      rfl)
  unfold TemplateStore.typeTemplate?
  rw [hfile, hsource]
  rfl

theorem IsPackaged.isSteady (h : g.IsPackaged) :
    ∀ f ∈ g.store.ownFilters, f.IsSteady Faithful := by
  rw [h.store]
  exact isSteady_filters

/-! ## Variants -/

/-- The variants of types that come with the generator. -/
def typeVariants : List String := ["default", "constructor"]

/-- The variants of fields that come with the generator. -/
def fieldVariants : List String := ["default", "setter"]

/-- A type and its fields are configured with packaged variants only. -/
structure UsesPackaged (g : Generator) (t : SchemaType) : Prop where
  types : ∀ v ∈ (g.settings.type t.name).templates, v.name ∈ typeVariants
  fields : ∀ f ∈ t.fields, ∀ v ∈ ((g.settings.type t.name).field f.name).templates,
    v.name ∈ fieldVariants

/-! ## Fields -/

/-- What a packaged variant of a field declares. -/
def variantDeclaration (g : Generator) (owner : SchemaType) (f : SchemaField) (goType : String)
    (v : Variant) : String :=
  if v.name = "setter" then ""
  else declarationText g.settings.addComments.isGiven owner.kind f goType

/-- The method that a packaged variant of a field gives it; there are none in an interface. -/
def variantMethod (owner : SchemaType) (f : SchemaField) (goType : String) (v : Variant) : String :=
  if owner.kind ≠ .interface then
    if v.name = "setter" then setterText owner.name f.name goType
    else accessorText owner.name f.name goType
  else ""

/-- What packaged variants of a field write one after another. -/
def variantField (g : Generator) (owner : SchemaType) (f : SchemaField) (goType : String)
    (variants : List Variant) : RenderedField where
  declaration := String.join (variants.map (variantDeclaration g owner f goType))
  method := String.join (variants.map (variantMethod owner f goType))
  imports := variants.flatMap fun _ => importsFor g.scalars f.type

/-- The fields of a type as the variants configured for them are written. -/
def variantFields (g : Generator) (t : SchemaType) : List RenderedField :=
  t.fields.map fun f => variantField g t f (goTypeOf g.scalars f.type)
    ((g.settings.type t.name).field f.name).templates

theorem variantField_cons (g : Generator) (owner : SchemaType) (f : SchemaField) (goType : String)
    (v : Variant) (rest : List Variant) :
    variantField g owner f goType (v :: rest) =
      { declaration := variantDeclaration g owner f goType v ++
          (variantField g owner f goType rest).declaration
        method := variantMethod owner f goType v ++ (variantField g owner f goType rest).method
        imports :=
          importsFor g.scalars f.type ++ (variantField g owner f goType rest).imports } := by
  unfold variantField
  simp [String.join_cons]

variable (f : SchemaField) (owner : SchemaType) (goType : String)

theorem IsPackaged.settles_setter (h : g.IsPackaged) {v : Variant} (hv : v.name = "setter") :
    Settles IsFaithful (g.renderFieldVariant files f owner goType v)
      (.ok ("", if owner.kind ≠ .interface then setterText owner.name f.name goType else "")) := by
  have hfilters := h.ownFilters files
  have hknown (other) : KnowsFilters ⟨(g.store.engine files).filters, none, other⟩ := by
    unfold KnowsFilters Engine.filters
    rw [hfilters]
  have hdeclaration : Settles Faithful ((g.store.engine files).render
      (TemplateStore.trimBody fieldSetter) (g.declarationContext f owner.kind goType v)) (.ok "") :=
    settles_render (readsPackaged hfilters).ofSetter (by rfl) fun other => Writes.nil
  have hmethod := settles_render (readsPackaged hfilters).ofSetterMethod (by rfl)
    fun other => writes_setterMethodBody (hknown other) g f owner goType v
  unfold renderFieldVariant
  refine Settles.tagged (r := .ok _) ?_ _
  rw [hv]
  refine (settles_found (h.setterTemplate files)).bind ?_
  refine (hdeclaration.render _).bind ?_
  refine (hmethod.render _).bind ?_
  exact settles_pure _

theorem IsPackaged.settles_variant (h : g.IsPackaged) {v : Variant} (hv : v.name ∈ fieldVariants) :
    Settles IsFaithful (g.renderFieldVariant files f owner goType v)
      (.ok (variantDeclaration g owner f goType v, variantMethod owner f goType v)) := by
  unfold variantDeclaration variantMethod
  rcases List.mem_cons.mp hv with hdefault | hsetter
  · have hne : v.name ≠ "setter" := by
      rw [hdefault]
      decide
    rw [if_neg hne, if_neg hne]
    exact h.settles_fieldVariantOf files f owner goType hdefault
  · have hsetter : v.name = "setter" := List.mem_singleton.mp hsetter
    rw [if_pos hsetter, if_pos hsetter]
    exact h.settles_setter files f owner goType hsetter

theorem IsPackaged.settles_variants (h : g.IsPackaged) {variants : List Variant}
    (hv : ∀ v ∈ variants, v.name ∈ fieldVariants) :
    Settles IsFaithful (g.renderVariants files f owner goType variants)
      (.ok (variantField g owner f goType variants)) := by
  induction variants with
  | nil => exact settles_pure _
  | cons v rest ih =>
    rw [renderVariants, variantField_cons]
    refine (h.settles_variant files f owner goType (hv v List.mem_cons_self)).bind ?_
    exact (ih fun w hw => hv w (List.mem_cons_of_mem v hw)).bind (settles_pure _)

variable {t : SchemaType} {s : RunState}

theorem settles_fieldType {goType : String} {ref : TypeRef}
    (h : typeExpression g.scalars ref = .ok goType) :
    Settles IsFaithful (g.fieldType ref) (.ok goType) := by
  unfold fieldType
  rw [h]
  exact settles_pure goType

theorem typeExpression_of_settles {goType : String} {ref : TypeRef} (hs : IsFaithful s)
    (h : Settles IsFaithful (g.fieldType ref) (.ok goType)) :
    typeExpression g.scalars ref = .ok goType := by
  unfold fieldType at h
  cases htype : typeExpression g.scalars ref with
  | ok text =>
    rw [htype] at h
    exact congrArg Except.ok (Except.ok.inj ((settles_pure text).unique h hs))
  | error fault =>
    rw [htype] at h
    cases fault with
    | schema fault => cases h.unique (settles_throw _) hs
    | goTypeNotText => cases h.unique (settles_throw _) hs

/-- The fields of a type can be rendered if and only if each has a Go type. -/
theorem IsPackaged.settles_fields_iff (h : g.IsPackaged) (hv : g.UsesPackaged t) (hs : IsFaithful s)
    (fields : List RenderedField) :
    Settles IsFaithful
        (t.fields.mapM fun f => g.renderField files f t (g.settings.type t.name)) (.ok fields) ↔
      (∀ f ∈ t.fields, ∃ goType, typeExpression g.scalars f.type = .ok goType) ∧
        fields = variantFields g t := by
  have hforward : (∀ f ∈ t.fields, ∃ goType, typeExpression g.scalars f.type = .ok goType) →
      Settles IsFaithful (t.fields.mapM fun f => g.renderField files f t (g.settings.type t.name))
        (.ok (variantFields g t)) := by
    intro htypes
    refine Settles.mapM fun f hf => ?_
    obtain ⟨goType, htype⟩ := htypes f hf
    rw [goTypeOf_eq htype]
    unfold renderField
    exact (settles_fieldType htype).bind (h.settles_variants files f t goType (hv.fields f hf))
  constructor
  · intro hfields
    have htypes : ∀ f ∈ t.fields, ∃ goType, typeExpression g.scalars f.type = .ok goType := by
      intro f hf
      obtain ⟨field, hfield⟩ := hfields.of_mapM hs
        (fun f => steady_renderField h.isSteady files f t _) f hf
      unfold renderField at hfield
      obtain ⟨goType, htype, _⟩ := hfield.of_bind hs (steady_fieldType f.type) fun goType =>
        steady_renderVariants h.isSteady files f t goType _
      exact ⟨goType, typeExpression_of_settles hs htype⟩
    exact ⟨htypes, Except.ok.inj (hfields.unique (hforward htypes) hs)⟩
  · rintro ⟨htypes, rfl⟩
    exact hforward htypes

/-! ## Types -/

/-- What a packaged variant of a type writes as it is configured. -/
def configuredParts (g : Generator) (t : SchemaType) (v : Variant) : List Json :=
  if v.name = "constructor" then [constructorName t.name v.params]
  else g.settings.packageName :: distinctImports ((variantFields g t).flatMap (·.imports))

/-- What a packaged variant of a type writes. -/
def variantText (g : Generator) (t : SchemaType) (v : Variant) : String :=
  if v.name = "constructor" then constructorText t.name (constructorName t.name v.params).plain
  else typeText g.settings.packageName.plain g.settings.addComments.isGiven t
    (distinctImports ((variantFields g t).flatMap (·.imports)))
    ((variantFields g t).map (·.declaration)) ((variantFields g t).map (·.method))

theorem IsPackaged.knowsFilters (h : g.IsPackaged)
    (other : Value → Bool → Table Value → Eval String) :
    KnowsFilters ⟨(g.store.engine files).filters, none, other⟩ := by
  unfold KnowsFilters Engine.filters
  rw [h.ownFilters files]

/-- A variant of a type that was rendered has run the statements of its template. -/
theorem IsPackaged.runs_of_typeVariant (h : g.IsPackaged) (hs : IsFaithful s) {v : Variant}
    {fields : List RenderedField} {source text : String} {body : List Stmt}
    (htemplate : g.store.typeTemplate? files v.name = .ok (some source))
    (hbody : (g.store.engine files).compile source = .ok body)
    (hrun : Settles IsFaithful (g.renderTypeVariant files t fields v) (.ok text)) :
    ∃ c : Surroundings, c.IsSteady Faithful ∧ KnowsFilters c ∧
      Runs Faithful c (g.typeContext t fields v) body := by
  have hrender (source : String) (context : Table Value) :
      Steady Faithful ((g.store.engine files).render source context) :=
    steady_engine h.isSteady files source context
  unfold renderTypeVariant at hrun
  have hwork := hrun.of_tagged hs ((steady_found _ _ _).bind fun body => (hrender _ _).render _)
  have hrendered := hwork.of_bind_ok hs (settles_found htemplate) ((hrender _ _).render _)
  have htext := hrendered.of_render hs (hrender _ _)
  obtain ⟨other, hsteady, hruns⟩ := runs_of_render h.isSteady hs hbody (by rfl) htext
  exact ⟨_, hsteady, h.knowsFilters files other, hruns⟩

/-- A packaged variant of a type comes to its text if and only if what it writes as configured has
a text. -/
theorem IsPackaged.settles_typeVariant_iff (h : g.IsPackaged) (hs : IsFaithful s) {v : Variant}
    (hv : v.name ∈ typeVariants) (text : String) :
    Settles IsFaithful (g.renderTypeVariant files t (variantFields g t) v) (.ok text) ↔
      (∀ j ∈ configuredParts g t v, j.IsWritable) ∧ text = variantText g t v := by
  have hfilters := h.ownFilters files
  have hforward : (∀ j ∈ configuredParts g t v, j.IsWritable) →
      Settles IsFaithful (g.renderTypeVariant files t (variantFields g t) v)
        (.ok (variantText g t v)) := by
    unfold configuredParts variantText
    intro hwritable
    by_cases hconstructor : v.name = "constructor"
    · rw [if_pos hconstructor] at hwritable ⊢
      have hwrites := settles_render_of_runBody (readsPackaged hfilters).ofConstructor (by rfl)
        fun other => settles_constructorBody (h.knowsFilters files other) g t (variantFields g t) v
          (hwritable _ List.mem_cons_self)
      unfold renderTypeVariant
      refine Settles.tagged (r := .ok _) ?_ _
      rw [hconstructor]
      exact (settles_found (h.constructorTemplate files)).bind (hwrites.render _)
    · rw [if_neg hconstructor] at hwritable ⊢
      have hdefault : v.name = defaultVariant.name :=
        (List.mem_cons.mp hv).resolve_right (mt List.mem_singleton.mp hconstructor)
      exact h.settles_typeVariantOf files hdefault _ (hwritable _ List.mem_cons_self)
        fun j hj => hwritable j (List.mem_cons_of_mem _ hj)
  constructor
  · intro hrun
    have hwritable : ∀ j ∈ configuredParts g t v, j.IsWritable := by
      unfold configuredParts
      by_cases hconstructor : v.name = "constructor"
      · rw [if_pos hconstructor]
        obtain ⟨c, hsteady, hknown, hruns⟩ := h.runs_of_typeVariant files hs
          (by rw [hconstructor]; exact h.constructorTemplate files)
          (readsPackaged hfilters).ofConstructor hrun
        intro j hj
        rw [List.mem_singleton.mp hj]
        exact isWritable_of_runs_constructorBody hknown g t _ v hsteady hruns
      · rw [if_neg hconstructor]
        have hdefault : v.name = defaultVariant.name :=
          (List.mem_cons.mp hv).resolve_right (mt List.mem_singleton.mp hconstructor)
        obtain ⟨c, hsteady, _, hruns⟩ := h.runs_of_typeVariant files hs
          (by rw [hdefault]; exact h.typeTemplate files) (readsPackaged hfilters).ofType hrun
        obtain ⟨hpackage, himports⟩ := isWritable_of_runs_typeBody g t _ v hsteady hruns
        intro j hj
        rcases List.mem_cons.mp hj with rfl | hj
        · exact hpackage
        · exact himports j hj
    exact ⟨hwritable, Except.ok.inj (hrun.unique (hforward hwritable) hs)⟩
  · rintro ⟨hwritable, rfl⟩
    exact hforward hwritable

/-- What packaged variants of a type write one after another, before its final form. -/
def variantCode (g : Generator) (t : SchemaType) : String :=
  String.join ((g.settings.type t.name).templates.map (variantText g t))

/-- Whether all parts of a type can be written: its fields have Go types, their imports can be told
apart, and what is written as configured has a text. -/
structure HasParts (g : Generator) (t : SchemaType) : Prop where
  types : ∀ f ∈ t.fields, ∃ goType, typeExpression g.scalars f.type = .ok goType
  imports : ((variantFields g t).flatMap (·.imports)).all isComparable = true
  configured : ∀ v ∈ (g.settings.type t.name).templates, ∀ j ∈ configuredParts g t v, j.IsWritable

theorem isOk_typeExpression_iff (table : ScalarTable) (ref : TypeRef) :
    (typeExpression table ref).isOk = true ↔ ∃ goType, typeExpression table ref = .ok goType := by
  cases typeExpression table ref with
  | ok text => exact ⟨fun _ => ⟨text, rfl⟩, fun _ => rfl⟩
  | error fault =>
    constructor
    · intro h
      cases h
    · rintro ⟨_, h⟩
      cases h

theorem hasParts_iff (g : Generator) (t : SchemaType) :
    g.HasParts t ↔
      (∀ f ∈ t.fields, (typeExpression g.scalars f.type).isOk = true) ∧
        ((variantFields g t).flatMap (·.imports)).all isComparable = true ∧
        ∀ v ∈ (g.settings.type t.name).templates, ∀ j ∈ configuredParts g t v, j.IsWritable := by
  simp only [isOk_typeExpression_iff]
  exact ⟨fun h => ⟨h.types, h.imports, h.configured⟩, fun ⟨ht, hi, hc⟩ => ⟨ht, hi, hc⟩⟩

instance (g : Generator) (t : SchemaType) : Decidable (g.HasParts t) :=
  decidable_of_iff' _ (hasParts_iff g t)

theorem settles_checkImports_iff (hs : IsFaithful s) (imports : List Json) :
    Settles IsFaithful (checkImports imports) (.ok ()) ↔ imports.all isComparable = true := by
  unfold checkImports
  split
  · exact ⟨fun _ => by assumption, fun _ => settles_pure ()⟩
  · constructor
    · intro h
      cases h.unique (settles_throw _) hs
    · intro h
      contradiction

theorem settles_formatCode_iff (hs : IsFaithful s) (programs : Programs) (code text : String)
    (typeName? : Option String) :
    Settles IsFaithful (g.formatCode programs code typeName?) (.ok text) ↔
      g.formatter.format programs code = .ok text := by
  unfold formatCode
  cases g.formatter.format programs code with
  | ok out =>
    constructor
    · intro h
      exact congrArg Except.ok (Except.ok.inj ((settles_pure out).unique h hs))
    · intro h
      obtain rfl := Except.ok.inj h
      exact settles_pure out
  | error fault =>
    constructor
    · intro h
      cases h.unique ((settles_record _).bind (settles_throw _)) hs
    · intro h
      cases h

/-- A type that uses packaged variants comes to a text if and only if all its parts can be written
and the text is what they come to in its final form. -/
theorem IsPackaged.settles_type_iff (h : g.IsPackaged) (hv : g.UsesPackaged t) (hs : IsFaithful s)
    (programs : Programs) (text : String) :
    Settles IsFaithful (g.renderType files programs t) (.ok text) ↔
      g.HasParts t ∧ g.formatter.format programs (g.variantCode t) = .ok text := by
  have hparts (fields : List RenderedField) := Steady.mapM (I := IsFaithful)
    (f := g.renderTypeVariant files t fields)
    (fun v => steady_renderTypeVariant h.isSteady files t fields v)
    (g.settings.type t.name).templates
  unfold renderType
  constructor
  · intro hrun
    obtain ⟨fields, hfields, hrun⟩ := hrun.of_bind hs
      (Steady.mapM (fun f => steady_renderField h.isSteady files f t _) _) fun fields =>
        (steady_checkImports _).bind fun _ => (hparts fields).bind fun parts =>
          steady_formatCode programs _ _
    obtain ⟨htypes, rfl⟩ := (h.settles_fields_iff files hv hs fields).mp hfields
    obtain ⟨_, himports, hrun⟩ := hrun.of_bind hs (steady_checkImports _) fun _ =>
      (hparts _).bind fun parts => steady_formatCode programs _ _
    obtain ⟨parts, hwritten, hrun⟩ := hrun.of_bind hs (hparts _) fun parts =>
      steady_formatCode programs _ _
    have hconfigured : ∀ v ∈ (g.settings.type t.name).templates,
        ∀ j ∈ configuredParts g t v, j.IsWritable := by
      intro v hmem
      obtain ⟨part, hpart⟩ := hwritten.of_mapM hs
        (fun v => steady_renderTypeVariant h.isSteady files t _ v) v hmem
      exact ((h.settles_typeVariant_iff files hs (hv.types v hmem) part).mp hpart).1
    have hall : Settles IsFaithful ((g.settings.type t.name).templates.mapM
        (g.renderTypeVariant files t (variantFields g t)))
        (.ok ((g.settings.type t.name).templates.map (variantText g t))) :=
      Settles.mapM fun v hmem =>
        (h.settles_typeVariant_iff files hs (hv.types v hmem) _).mpr ⟨hconfigured v hmem, rfl⟩
    obtain rfl := Except.ok.inj (hwritten.unique hall hs)
    exact ⟨⟨htypes, (settles_checkImports_iff hs _).mp himports, hconfigured⟩,
      (settles_formatCode_iff hs programs _ text _).mp hrun⟩
  · rintro ⟨hhas, hformat⟩
    refine ((h.settles_fields_iff files hv hs _).mpr ⟨hhas.types, rfl⟩).bind ?_
    refine ((settles_checkImports_iff hs _).mpr hhas.imports).bind ?_
    refine (Settles.mapM (g := variantText g t) fun v hmem => ?_).bind ?_
    · exact (h.settles_typeVariant_iff files hs (hv.types v hmem) _).mpr
        ⟨hhas.configured v hmem, rfl⟩
    · exact (settles_formatCode_iff hs programs _ text _).mpr hformat

/-- Whatever was rendered before, a type comes to a text if and only if its parts can be written and
come to the text. -/
theorem IsPackaged.renderType_ok_iff (h : g.IsPackaged) (hv : g.UsesPackaged t) (hs : IsFaithful s)
    (programs : Programs) (text : String) :
    ((g.renderType files programs t).run s).1 = .ok text ↔
      g.HasParts t ∧ g.formatter.format programs (g.variantCode t) = .ok text := by
  rw [← (steady_renderType h.isSteady files programs t).settles_iff hs]
  exact h.settles_type_iff files hv hs programs text

end Generator

end ResolverGen.Go
