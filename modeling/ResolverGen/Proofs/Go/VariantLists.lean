import ResolverGen.Proofs.FirstFailures
import ResolverGen.Proofs.Go.HiddenVariants
import ResolverGen.Proofs.Go.ObjectFile
import ResolverGen.Proofs.Go.RenderingSteps
import ResolverGen.Proofs.Go.StepFailures

/-!
# Variants one after another

A type under two lists of variants, one after the other, comes to what it comes to under the first
and then what it comes to under the second, or to the first failure of these; a field does likewise.
That is so for templates that do not show which variants are configured.
-/
namespace ResolverGen.Go.Generator

open Template

variable {g : Generator} {files : Files} {programs : Programs} {s : RunState} {t : SchemaType}
  {f : SchemaField} {vs ws variants : List Variant}

/-- What a type comes to with variants that are configured for it. -/
def resultUnder (g : Generator) (files : Files) (programs : Programs) (s : RunState)
    (t : SchemaType) (variants : List Variant) : Except Failure String :=
  (((g.withTypes (g.settings.typesUnder t.name variants)).renderType files programs t).run s).1

/-- What a field comes to with variants in settings of its type that are given for it. -/
def fieldResultIn (g : Generator) (files : Files) (s : RunState) (t : SchemaType)
    (f : SchemaField) (typeSettings : TypeSettings) (variants : List Variant) :
    Except Failure RenderedField :=
  ((g.renderField files f t (typeSettings.withFieldVariants f.name variants)).run s).1

/-- What a field comes to with variants that are configured for it. -/
def fieldResultUnder (g : Generator) (files : Files) (s : RunState) (t : SchemaType)
    (f : SchemaField) (variants : List Variant) : Except Failure RenderedField :=
  let g' := g.withTypes (g.settings.typesUnderField t.name f.name variants)
  ((g'.renderField files f t (g'.settings.type t.name)).run s).1

/-! ## Rendering -/

/-- Without a formatter a type is what its variants write around the fields, and under any other
variants of the type they would write the same. -/
theorem renderType_typesUnder (base : List Variant) (hformatter : g.formatter = .passthrough)
    (hne : variants ≠ [])
    (htype : ∀ v ∈ variants, g.VariantIgnores files (g.settings.typesUnder t.name) v)
    (hfields : ∀ f ∈ t.fields, ∀ v ∈ ((g.settings.type t.name).field f.name).templates,
      g.FieldVariantIgnores files (g.settings.typesUnder t.name) v) :
    let g₀ := g.withTypes (g.settings.typesUnder t.name base)
    (g.withTypes (g.settings.typesUnder t.name variants)).renderType files programs t = (do
      let fields ← t.fields.mapM fun f => g₀.renderField files f t (g.settings.type t.name)
      checkImports (fields.flatMap (·.imports))
      let parts ← variants.mapM (g₀.renderTypeVariant files t fields)
      return String.join parts) := by
  intro g₀
  generalize hg' : g.withTypes (g.settings.typesUnder t.name variants) = g'
  have hsettings : g'.settings.type t.name = ⟨variants, (g.settings.type t.name).fields⟩ := by
    rw [← hg']
    exact g.settings.type_typesUnder t.name hne
  have hrendered : (t.fields.mapM fun f =>
      g'.renderField files f t ⟨variants, (g.settings.type t.name).fields⟩) =
        t.fields.mapM fun f => g₀.renderField files f t (g.settings.type t.name) := by
    refine mapM_congr_of_mem fun f hf => ?_
    rw [← hg']
    exact renderField_configured variants base (hfields f hf) t
  have hparts (fields) : variants.mapM (g'.renderTypeVariant files t fields) =
      variants.mapM (g₀.renderTypeVariant files t fields) := by
    refine mapM_congr_of_mem fun v hv => ?_
    rw [← hg']
    exact renderTypeVariant_configured variants base (htype v hv) t fields
  have hformat (code : String) : g'.formatCode programs code (some t.name) = pure code := by
    have hsame : g'.formatter = .passthrough := by
      rw [← hg']
      exact hformatter
    rw [formatCode, hsame]
    rfl
  unfold renderType
  simp only [hsettings, hrendered, hparts, hformat]

theorem mapM_join_append {α ε : Type} (k : α → Except ε String) (xs ys : List α) :
    (String.join <$> (xs ++ ys).mapM k) = (do
      let first ← String.join <$> xs.mapM k
      let second ← String.join <$> ys.mapM k
      return first ++ second) := by
  rw [List.mapM_append]
  simp only [map_eq_pure_bind, bind_assoc, pure_bind, String.join_append]

/-- Variants one after another write what they write under two lists, one after the other. -/
theorem renderVariants_append (f : SchemaField) (owner : SchemaType) (goType : String)
    (vs ws : List Variant) :
    g.renderVariants files f owner goType (vs ++ ws) = (do
      let first ← g.renderVariants files f owner goType vs
      let second ← g.renderVariants files f owner goType ws
      return first.append second) := by
  induction vs with
  | nil =>
    have hempty : RenderedField.append {} = id := funext RenderedField.empty_append
    simp [renderVariants, hempty]
  | cons v rest ih =>
    rw [List.cons_append, renderVariants, renderVariants, ih]
    simp only [bind_assoc, pure_bind, RenderedField.append, String.append_assoc, List.append_assoc]

/-- A field under two lists of variants in given settings of its type. -/
theorem renderField_append (f : SchemaField) (owner : SchemaType) (typeSettings : TypeSettings)
    (hvs : vs ≠ []) (hws : ws ≠ []) :
    g.renderField files f owner (typeSettings.withFieldVariants f.name (vs ++ ws)) = (do
      let first ← g.renderField files f owner (typeSettings.withFieldVariants f.name vs)
      let second ← g.renderField files f owner (typeSettings.withFieldVariants f.name ws)
      return first.append second) := by
  have hboth : vs ++ ws ≠ [] := by simp [hvs]
  simp only [renderField, TypeSettings.field_withFieldVariants _ _ hboth,
    TypeSettings.field_withFieldVariants _ _ hvs, TypeSettings.field_withFieldVariants _ _ hws,
    renderVariants_append]
  -- the Go type is asked for before each list, and comes to the same
  unfold fieldType
  cases typeExpression g.scalars f.type with
  | ok goType => simp only [pure_bind]
  | error fault => cases fault <;> rfl

/-! ## Results -/

section

variable (hg : ∀ f ∈ g.store.ownFilters, f.IsSteady Faithful) (hs : IsFaithful s)

include hg hs

/-- The result of a type is put together of those of its parts. -/
theorem resultUnder_eq (base : List Variant) (hformatter : g.formatter = .passthrough)
    (hne : variants ≠ [])
    (htype : ∀ v ∈ variants, g.VariantIgnores files (g.settings.typesUnder t.name) v)
    (hfields : ∀ f ∈ t.fields, ∀ v ∈ ((g.settings.type t.name).field f.name).templates,
      g.FieldVariantIgnores files (g.settings.typesUnder t.name) v) :
    let g₀ := g.withTypes (g.settings.typesUnder t.name base)
    g.resultUnder files programs s t variants = (do
      let fields ←
        ((t.fields.mapM fun f => g₀.renderField files f t (g.settings.type t.name)).run s).1
      ((checkImports (fields.flatMap (·.imports))).run s).1
      let parts ← variants.mapM fun v => ((g₀.renderTypeVariant files t fields v).run s).1
      return String.join parts) := by
  intro g₀
  have hg₀ : ∀ f ∈ g₀.store.ownFilters, f.IsSteady Faithful := hg
  have hfield := Steady.mapM
    (fun f => steady_renderField hg₀ files f t (g.settings.type t.name)) t.fields
  have hvariant := fun fields v => steady_renderTypeVariant hg₀ files t fields v
  have hparts := fun fields => Steady.mapM (hvariant fields) variants
  rw [resultUnder, renderType_typesUnder base hformatter hne htype hfields, hfield.result_bind
    (fun fields => (steady_checkImports _).bind fun _ => (hparts fields).bind fun _ =>
      steady_pure _) hs]
  refine bind_congr fun fields => ?_
  rw [(steady_checkImports _).result_bind (fun _ => (hparts fields).bind fun _ => steady_pure _) hs]
  refine bind_congr fun _ => ?_
  rw [(hparts fields).result_bind (fun _ => steady_pure _) hs,
    Steady.result_mapM (hvariant fields) hs]
  rfl

/-- A type under two lists of variants is what it is under the first and then what it is under the
second, or the first failure of these. -/
theorem resultUnder_append (hvs : vs ≠ []) (hws : ws ≠ []) (hformatter : g.formatter = .passthrough)
    (htype : ∀ v ∈ vs ++ ws, g.VariantIgnores files (g.settings.typesUnder t.name) v)
    (hfields : ∀ f ∈ t.fields, ∀ v ∈ ((g.settings.type t.name).field f.name).templates,
      g.FieldVariantIgnores files (g.settings.typesUnder t.name) v) :
    g.resultUnder files programs s t (vs ++ ws) = (do
      let first ← g.resultUnder files programs s t vs
      let second ← g.resultUnder files programs s t ws
      return first ++ second) := by
  obtain ⟨hvs', hws'⟩ := List.forall_mem_append.mp htype
  rw [resultUnder_eq hg hs vs hformatter (by simp [hvs]) htype hfields,
    resultUnder_eq hg hs vs hformatter hvs hvs' hfields,
    resultUnder_eq hg hs vs hformatter hws hws' hfields]
  generalize g.withTypes (g.settings.typesUnder t.name vs) = g₀
  -- the fields and the check come to the same in front of either list
  cases ((t.fields.mapM fun f => g₀.renderField files f t (g.settings.type t.name)).run s).1 with
  | error failure => rfl
  | ok fields =>
    cases hcheck : ((checkImports (fields.flatMap (·.imports))).run s).1 with
    | error failure => simp only [hcheck, bind, Except.bind]
    | ok _ =>
      have happend := mapM_join_append
        (fun v => ((g₀.renderTypeVariant files t fields v).run s).1) vs ws
      simp only [map_eq_pure_bind] at happend
      simpa only [hcheck, bind, Except.bind] using happend

theorem fieldResultIn_append (hvs : vs ≠ []) (hws : ws ≠ []) (f : SchemaField)
    (typeSettings : TypeSettings) :
    g.fieldResultIn files s t f typeSettings (vs ++ ws) = (do
      let first ← g.fieldResultIn files s t f typeSettings vs
      let second ← g.fieldResultIn files s t f typeSettings ws
      return first.append second) := by
  have hfield := fun variants =>
    steady_renderField hg files f t (typeSettings.withFieldVariants f.name variants)
  rw [fieldResultIn, renderField_append f t typeSettings hvs hws, (hfield vs).result_bind
    (fun _ => (hfield ws).bind fun _ => steady_pure _) hs]
  refine bind_congr fun first => ?_
  rw [(hfield ws).result_bind (fun _ => steady_pure _) hs]
  rfl

omit hg hs in
/-- A field with variants that are configured for it comes to what it comes to with these in given
settings of its type, whichever variants are configured instead. -/
theorem fieldResultUnder_eq (base : List Variant) (hne : variants ≠ [])
    (h : ∀ v ∈ variants,
      g.FieldVariantIgnores files (g.settings.typesUnderField t.name f.name) v) :
    g.fieldResultUnder files s t f variants =
      (g.withTypes (g.settings.typesUnderField t.name f.name base)).fieldResultIn files s t f
        (g.settings.type t.name) variants := by
  have hvariants : ∀ v ∈ (((g.settings.type t.name).withFieldVariants f.name variants).field
      f.name).templates,
      g.FieldVariantIgnores files (g.settings.typesUnderField t.name f.name) v := by
    rw [TypeSettings.field_withFieldVariants _ _ hne]
    exact h
  have hsettings : (g.withTypes (g.settings.typesUnderField t.name f.name variants)).settings.type
      t.name = (g.settings.type t.name).withFieldVariants f.name variants :=
    g.settings.type_withTypes_put _ _ _
  simp only [fieldResultUnder, fieldResultIn, hsettings,
    renderField_configured variants base hvariants t]

theorem fieldResultUnder_append (hvs : vs ≠ []) (hws : ws ≠ [])
    (h : ∀ v ∈ vs ++ ws,
      g.FieldVariantIgnores files (g.settings.typesUnderField t.name f.name) v) :
    g.fieldResultUnder files s t f (vs ++ ws) = (do
      let first ← g.fieldResultUnder files s t f vs
      let second ← g.fieldResultUnder files s t f ws
      return first.append second) := by
  obtain ⟨hvs', hws'⟩ := List.forall_mem_append.mp h
  rw [fieldResultUnder_eq vs (by simp [hvs]) h, fieldResultUnder_eq vs hvs hvs',
    fieldResultUnder_eq vs hws hws']
  exact fieldResultIn_append (g := g.withTypes (g.settings.typesUnderField t.name f.name vs)) hg hs
    hvs hws f (g.settings.type t.name)

end

/-- With templates that do not show which variants are configured, variants write what they write by
themselves: under two lists, one after the other, a type without a formatter and a field come to
what they come to under the first and then what they come to under the second, or to the first
failure of these. For a field in given settings of its type that is so for all templates. -/
theorem results_append (hg : ∀ f ∈ g.store.ownFilters, f.IsSteady Faithful) (hs : IsFaithful s)
    (files : Files) (programs : Programs) (t : SchemaType) (hvs : vs ≠ []) (hws : ws ≠ []) :
    (g.formatter = .passthrough →
      (∀ v ∈ vs ++ ws, g.VariantIgnores files (g.settings.typesUnder t.name) v) →
      (∀ f ∈ t.fields, ∀ v ∈ ((g.settings.type t.name).field f.name).templates,
        g.FieldVariantIgnores files (g.settings.typesUnder t.name) v) →
      g.resultUnder files programs s t (vs ++ ws) = (do
        let first ← g.resultUnder files programs s t vs
        let second ← g.resultUnder files programs s t ws
        return first ++ second)) ∧
    ∀ f : SchemaField,
      (∀ typeSettings, g.fieldResultIn files s t f typeSettings (vs ++ ws) = (do
        let first ← g.fieldResultIn files s t f typeSettings vs
        let second ← g.fieldResultIn files s t f typeSettings ws
        return first.append second)) ∧
      ((∀ v ∈ vs ++ ws,
          g.FieldVariantIgnores files (g.settings.typesUnderField t.name f.name) v) →
        g.fieldResultUnder files s t f (vs ++ ws) = (do
          let first ← g.fieldResultUnder files s t f vs
          let second ← g.fieldResultUnder files s t f ws
          return first.append second)) :=
  ⟨resultUnder_append hg hs hvs hws, fun f =>
    ⟨fieldResultIn_append hg hs hvs hws f, fieldResultUnder_append hg hs hvs hws⟩⟩

/-- A generator without settings whose files stay as they are rendered. -/
def unformattedGenerator : Generator := make {} .passthrough

def tagsField : SchemaField :=
  { name := "tags", type := .listOf (.nonNull (.named .scalar "String")), owner := "Post" }

/-- The packaged variants are such, so that a type with a constructor is what it is by default and
then the constructor; and a setter, which is none of the variants of types, is refused as by
itself. -/
theorem results_append_postType :
    unformattedGenerator.resultUnder {} [] (initialState []) postType
        ([defaultVariant] ++ [{ name := "constructor" }]) = (do
      let first ← unformattedGenerator.resultUnder {} [] (initialState []) postType [defaultVariant]
      let second ← unformattedGenerator.resultUnder {} [] (initialState []) postType
        [{ name := "constructor" }]
      return first ++ second) ∧
    unformattedGenerator.resultUnder {} [] (initialState []) postType
        ([defaultVariant] ++ [{ name := "setter" }]) = (do
      let first ← unformattedGenerator.resultUnder {} [] (initialState []) postType [defaultVariant]
      let second ← unformattedGenerator.resultUnder {} [] (initialState []) postType
        [{ name := "setter" }]
      return first ++ second) ∧
    unformattedGenerator.fieldResultUnder {} (initialState []) postType tagsField
        ([defaultVariant] ++ [{ name := "setter" }]) = (do
      let first ← unformattedGenerator.fieldResultUnder {} (initialState []) postType tagsField
        [defaultVariant]
      let second ← unformattedGenerator.fieldResultUnder {} (initialState []) postType tagsField
        [{ name := "setter" }]
      return first.append second) := by
  have hpackaged : unformattedGenerator.IsPackaged := isPackaged_make rfl .passthrough
  have hfields : ∀ f ∈ postType.fields,
      ∀ v ∈ ((unformattedGenerator.settings.type postType.name).field f.name).templates,
        unformattedGenerator.FieldVariantIgnores {}
          (unformattedGenerator.settings.typesUnder postType.name) v := by
    intro f _ v hv
    rw [List.mem_singleton.mp hv]
    exact hpackaged.fieldVariantIgnores (by decide)
  have happend (name : String) := results_append hpackaged.isSteady (isFaithful_initialState []) {}
    [] postType (List.cons_ne_nil defaultVariant []) (List.cons_ne_nil { name } [])
  have htype (name : String) := (happend name).1 rfl (fun v _ => hpackaged.variantIgnores v) hfields
  refine ⟨htype "constructor", htype "setter", ((happend "setter").2 tagsField).2 fun v hv => ?_⟩
  have hnames : ∀ v ∈ [defaultVariant, { name := "setter" }], v.name ∈ fieldVariants := by decide
  exact hpackaged.fieldVariantIgnores (hnames v hv)

/-! ## Templates that do -/

/-- A variant that counts the variants configured for a type. -/
def countingVariant : Variant := { name := "count" }

def countingFiles : Files :=
  ⟨(["t", "type", "count.go.j2"], .file (Text.toFile
    "\x7b\x7b config.types[\"Post\"].templates | length \x7d\x7d")) :: blankFiles.nodes⟩

def countingGenerator : Generator := make { templateDir := .str "t" } .passthrough

/-- A template may count the variants that are configured, and then two of them differ from one and
another one. -/
theorem resultUnder_countingVariant :
    countingGenerator.formatter = .passthrough ∧
    countingGenerator.resultUnder countingFiles [] (initialState []) postType [countingVariant] =
      .ok "1" ∧
    countingGenerator.resultUnder countingFiles [] (initialState []) postType
      ([countingVariant] ++ [countingVariant]) = .ok "22" ∧
    countingGenerator.resultUnder countingFiles [] (initialState []) postType
        ([countingVariant] ++ [countingVariant]) ≠ (do
      let first ← countingGenerator.resultUnder countingFiles [] (initialState []) postType
        [countingVariant]
      let second ← countingGenerator.resultUnder countingFiles [] (initialState []) postType
        [countingVariant]
      return first ++ second) := by
  have hone : countingGenerator.resultUnder countingFiles [] (initialState []) postType
      [countingVariant] = .ok "1" := by decide +kernel
  have htwo : countingGenerator.resultUnder countingFiles [] (initialState []) postType
      ([countingVariant] ++ [countingVariant]) = .ok "22" := by decide +kernel
  refine ⟨rfl, hone, htwo, ?_⟩
  rw [hone, htwo]
  decide

end ResolverGen.Go.Generator
