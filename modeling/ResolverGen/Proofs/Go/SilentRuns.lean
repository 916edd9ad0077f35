import ResolverGen.Proofs.Go.PackagedTexts
import ResolverGen.Proofs.Go.Rendering
import ResolverGen.Proofs.Template.GuardedNames

/-!
# Runs without comments

The packaged templates look at descriptions and deprecations where comments are wanted only. Without
comments, a run over a schema is the run over the schema without these, be it to files or to a
failure, and whichever variants its types and fields are configured with.
-/
namespace ResolverGen

/-! ## Schemas without annotations -/

/-- A field without its description and its deprecation. -/
def SchemaField.unannotated (f : SchemaField) : SchemaField :=
  { f with description? := none, deprecation? := none }

/-- A type without what is said about it and its fields. -/
def SchemaType.unannotated (t : SchemaType) : SchemaType :=
  { t with description? := none, fields := t.fields.map SchemaField.unannotated }

/-- A schema without what is said about its types. -/
def Schema.unannotated (s : Schema) : Schema :=
  { s with types := s.types.map SchemaType.unannotated }

namespace Go

open Template Go.Generator

/-! ## Templates -/

/-- What templates may look at where comments are wanted only. -/
def commentVeil : Veil where
  hidden := ["type_description", "field_description", "field_deprecated"]
  record := "config"
  flag := "add_comments"
  visible := by decide
  place := by decide

/-- Each packaged template keeps descriptions and deprecations behind the flag for comments. -/
theorem isGuarded_packaged {e : Engine} (he : e.ownFilters = filters) {entry : String × String}
    (h : entry ∈ packagedTemplates) {body : List Stmt}
    (hbody : e.compile (TemplateStore.trimBody entry.2) = .ok body) :
    bodyIsGuarded commentVeil body = true :=
  have hguarded : ∀ b ∈ packagedBodies, bodyIsGuarded commentVeil b = true := by decide
  hguarded body (mem_packagedBodies he h hbody)

variable {g : Generator} {files : Files}

/-- Every source that a generator with the packaged templates finds is one of them. -/
theorem mem_of_source (h : g.IsPackaged) {name source : String}
    (hsource : g.store.source files name = .ok (some source)) :
    ∃ entry ∈ packagedTemplates, entry.2 = source := by
  rw [h.store, source_of_noDirectory files h.noDirectory] at hsource
  obtain ⟨pieces, _, hget⟩ := Option.bind_eq_some_iff.mp (Except.ok.inj hsource)
  exact ⟨_, Table.mem_of_get? hget, rfl⟩

theorem mem_of_typeTemplate (h : g.IsPackaged) {variant body : String}
    (hbody : g.store.typeTemplate? files variant = .ok (some body)) :
    ∃ entry ∈ packagedTemplates, body = TemplateStore.trimBody entry.2 := by
  unfold TemplateStore.typeTemplate? at hbody
  cases hsource : g.store.source files (g.store.fileName .type variant) with
  | error cause =>
    rw [hsource] at hbody
    cases hbody
  | ok found =>
    rw [hsource] at hbody
    obtain ⟨source, rfl, rfl⟩ := Option.map_eq_some_iff.mp (Except.ok.inj hbody)
    obtain ⟨entry, hentry, rfl⟩ := mem_of_source h hsource
    exact ⟨entry, hentry, rfl⟩

theorem mem_of_fieldTemplate (h : g.IsPackaged) {variant : String}
    {template : TemplateStore.FieldTemplate}
    (htemplate : g.store.fieldTemplate? files variant = .ok (some template)) :
    ∃ entry ∈ packagedTemplates, template.declaration = TemplateStore.trimBody entry.2 := by
  unfold TemplateStore.fieldTemplate? at htemplate
  cases hsource : g.store.source files (g.store.fileName .field variant) with
  | error cause =>
    rw [hsource] at htemplate
    cases htemplate
  | ok found =>
    rw [hsource] at htemplate
    cases found with
    | none => cases htemplate
    | some source =>
      obtain ⟨entry, hentry, rfl⟩ := mem_of_source h hsource
      refine ⟨entry, hentry, ?_⟩
      cases hmethod : g.store.source files
          (g.store.fileName .field (variant ++ TemplateStore.methodSuffix)) with
      | error cause =>
        simp only [hmethod] at htemplate
        cases htemplate
      | ok method? =>
        simp only [hmethod] at htemplate
        obtain rfl := Option.some.inj (Except.ok.inj htemplate)
        rfl

/-! ## Contexts -/

section

variable (hsilent : g.settings.addComments.isGiven = false)

include hsilent

/-- A field with and without annotations looks the same to a template that keeps them behind the
flag. -/
theorem veiled_declarationContext (f : SchemaField) (kind : TypeKind) (goType : String)
    (variant : Variant) :
    Veiled commentVeil (g.declarationContext f.unannotated kind goType variant)
      (g.declarationContext f kind goType variant) where
  agrees := by
    intro x hx
    simp only [commentVeil, List.mem_cons, List.not_mem_nil, or_false, not_or] at hx
    obtain ⟨_, hdescription, hdeprecated⟩ := hx
    simp only [declarationContext, lookupName_cons, SchemaField.unannotated,
      if_neg (Ne.symm hdescription), if_neg (Ne.symm hdeprecated)]
  asked := by
    intro x hx
    simp only [commentVeil, List.mem_cons, List.not_mem_nil, or_false] at hx
    rcases hx with rfl | rfl | rfl
    · simp only [declarationContext, lookupName_cons, String.reduceEq, if_false]
      exact (Matches.refl _).mono fun _ _ _ => trivial
    · simp only [declarationContext, lookupName_cons, String.reduceEq, if_false, if_true]
      exact .ok trivial
    · simp only [declarationContext, lookupName_cons, String.reduceEq, if_false, if_true,
        SchemaField.unannotated]
      cases f.deprecation? <;> exact .ok trivial
  off := ⟨.ofJson g.settings.addComments, rfl, by rw [truth_ofJson, hsilent]⟩

/-- So does a type. -/
theorem veiled_typeContext (t : SchemaType) (fields : List RenderedField) (variant : Variant) :
    Veiled commentVeil (g.typeContext t.unannotated fields variant)
      (g.typeContext t fields variant) where
  agrees := by
    intro x hx
    simp only [commentVeil, List.mem_cons, List.not_mem_nil, or_false, not_or] at hx
    simp only [typeContext, lookupName_cons, SchemaType.unannotated, SchemaType.possibleNames,
      if_neg (Ne.symm hx.1)]
  asked := by
    intro x hx
    simp only [commentVeil, List.mem_cons, List.not_mem_nil, or_false] at hx
    rcases hx with rfl | rfl | rfl
    · simp only [typeContext, lookupName_cons, String.reduceEq, if_false, if_true]
      exact .ok trivial
    · simp only [typeContext, lookupName_cons, String.reduceEq, if_false]
      exact (Matches.refl _).mono fun _ _ _ => trivial
    · simp only [typeContext, lookupName_cons, String.reduceEq, if_false]
      exact (Matches.refl _).mono fun _ _ _ => trivial
  off := ⟨.ofJson g.settings.addComments, rfl, by rw [truth_ofJson, hsilent]⟩

/-! ## Runs -/

variable (h : g.IsPackaged)

include h

/-- Without comments a variant of a field is rendered in the same way without annotations. -/
theorem renderFieldVariant_unannotated (f : SchemaField) (owner : SchemaType) (goType : String)
    (variant : Variant) :
    g.renderFieldVariant files f.unannotated owner.unannotated goType variant =
      g.renderFieldVariant files f owner goType variant := by
  have hmethod : g.methodContext f.unannotated owner.unannotated goType variant =
      g.methodContext f owner goType variant := rfl
  unfold renderFieldVariant
  rw [hmethod]
  refine congrArg (Run.tagged _) (found_bind_congr fun template htemplate => ?_)
  obtain ⟨entry, hentry, hdeclaration⟩ := mem_of_fieldTemplate h htemplate
  have hrender : (g.store.engine files).render template.declaration
      (g.declarationContext f.unannotated owner.unannotated.kind goType variant) =
      (g.store.engine files).render template.declaration
        (g.declarationContext f owner.kind goType variant) := by
    refine Engine.render_veiled ?_ (veiled_declarationContext hsilent f owner.kind _ _) rfl
    intro body hbody
    rw [hdeclaration] at hbody
    exact isGuarded_packaged (h.ownFilters files) hentry hbody
  simp only [hrender]

theorem renderField_unannotated (f : SchemaField) (owner : SchemaType)
    (typeSettings : TypeSettings) :
    g.renderField files f.unannotated owner.unannotated typeSettings =
      g.renderField files f owner typeSettings := by
  have htype : f.unannotated.type = f.type := rfl
  exact renderField_congr rfl htype rfl fun goType variant _ =>
    renderFieldVariant_unannotated hsilent h f owner goType variant

/-- Without comments a variant of a type is rendered in the same way without annotations. -/
theorem renderTypeVariant_unannotated (t : SchemaType) (fields : List RenderedField)
    (variant : Variant) :
    g.renderTypeVariant files t.unannotated fields variant =
      g.renderTypeVariant files t fields variant := by
  unfold renderTypeVariant
  refine congrArg (Run.tagged _) (found_bind_congr fun body hbody => ?_)
  obtain ⟨entry, hentry, rfl⟩ := mem_of_typeTemplate h hbody
  have hrender : (g.store.engine files).render (TemplateStore.trimBody entry.2)
      (g.typeContext t.unannotated fields variant) =
      (g.store.engine files).render (TemplateStore.trimBody entry.2)
        (g.typeContext t fields variant) := by
    refine Engine.render_veiled ?_ (veiled_typeContext hsilent t fields variant) rfl
    intro stmts hstmts
    exact isGuarded_packaged (h.ownFilters files) hentry hstmts
  simp only [hrender]

/-- Without comments a type comes to the same file or failure without annotations. -/
theorem renderType_unannotated (programs : Programs) (t : SchemaType) :
    g.renderType files programs t.unannotated = g.renderType files programs t := by
  have hvariant (fields : List RenderedField) : g.renderTypeVariant files t.unannotated fields =
      g.renderTypeVariant files t fields :=
    funext fun variant => renderTypeVariant_unannotated hsilent h t fields variant
  have hname : t.unannotated.name = t.name := rfl
  have hfields : t.unannotated.fields = t.fields.map SchemaField.unannotated := rfl
  simp only [renderType, hvariant, hname, hfields, List.mapM_map, Function.comp_def,
    renderField_unannotated hsilent h]

/-- A run over types does not depend on what is said about them. -/
theorem generateFrom_unannotated (programs : Programs) (types : List SchemaType)
    (owners : Table String) :
    g.generateFrom files programs owners (types.map SchemaType.unannotated) =
      g.generateFrom files programs owners types := by
  induction types generalizing owners with
  | nil => rfl
  | cons t rest ih =>
    have hname : t.unannotated.name = t.name := rfl
    have hkind : t.unannotated.kind = t.kind := rfl
    have hskipped : g.isSilent t.unannotated = g.isSilent t := rfl
    rw [List.map_cons, generateFrom, generateFrom]
    simp only [hname, hkind, hskipped, ih, renderType_unannotated hsilent h]

/-- Without comments, a run does not depend on descriptions and deprecations: over schemas that
differ in these only it comes to the same files or to the same failure, from any state. -/
theorem generate_of_unannotated_eq {schema schema' : Schema}
    (hsame : schema.unannotated = schema'.unannotated) (files : Files) (programs : Programs) :
    g.generate files programs schema = g.generate files programs schema' := by
  have hrun (schema : Schema) : g.generate files programs schema =
      g.generate files programs schema.unannotated :=
    (generateFrom_unannotated hsilent h programs schema.types []).symm
  rw [hrun schema, hrun schema', hsame]

end

/-- Settings without comments, with a constructor for a type and a variant that is not there. -/
def silentSettings : Settings where
  addComments := .bool false
  types :=
    [("Post", { templates := [defaultVariant, { name := "constructor" }] }),
      ("User", { fields := [("name", { templates := [{ name := "unknown" }] })] })]

/-- A schema in which a remark is made about each type and field. -/
def remarkedSchema (remark : String) : Schema where
  types :=
    [{ kind := .interface, name := "Post", description? := some remark,
       fields :=
         [{ name := "url", type := .named .scalar "String", owner := "Post",
            description? := some remark, deprecation? := some remark }] },
      { kind := .object, name := "User", description? := some remark,
        fields :=
          [{ name := "name", type := .named .scalar "String", owner := "User",
             deprecation? := some remark }] }]

/-- A remark that would end a comment early does not show in a run over the schema. -/
theorem generate_remarkedSchema :
    (make silentSettings .passthrough).generate {} [] (remarkedSchema "Old\n\x7d") =
      (make silentSettings .passthrough).generate {} [] (remarkedSchema "") := by
  have hsilent : silentSettings.addComments.isGiven = false := rfl
  have hsame : (remarkedSchema "Old\n\x7d").unannotated = (remarkedSchema "").unannotated := by
    simp [Schema.unannotated, remarkedSchema, SchemaType.unannotated, SchemaField.unannotated]
  exact generate_of_unannotated_eq hsilent (isPackaged_make rfl .passthrough) hsame {} []

end Go

end ResolverGen
