import ResolverGen.Proofs.Go.FaithfulSanitizer
import ResolverGen.Proofs.Runs
import ResolverGen.Proofs.Template.Steadiness
import ResolverGen.Go.Generator

/-!
# Rendering does not depend on earlier rendering

Whatever a generator for Go has rendered before, a type comes to the same file or to the same
failure, with any templates and with any filters that do not show what a faithful sanitizer
remembers. The sanitizer stays faithful throughout, also past a failure.
-/
namespace ResolverGen.Go

open Template

/-- A state of a run whose sanitizer gives each name its identifier. -/
abbrev IsFaithful : RunState → Prop := Remembering Faithful

theorem isSteady_identifierFilter : identifierFilter.IsSteady Faithful := by
  intro args
  unfold identifierFilter
  dsimp only
  split
  · refine (steady_ofExcept _).bind fun name => ?_
    exact (settles_identifier name).steady.bind fun answer => steady_pure _
  · exact steady_pure _

/-- The filters for Go do not show what a faithful sanitizer remembers. -/
theorem isSteady_filters : ∀ f ∈ filters, f.IsSteady Faithful := by
  intro f hf
  unfold filters at hf
  rw [List.mem_cons, List.mem_singleton] at hf
  rcases hf with rfl | rfl
  · exact isSteady_identifierFilter
  · exact isSteady_textFilter _ _ _ _

namespace Generator

/-- A generator starts in a faithful state. -/
theorem isFaithful_initialState (log : Log) : IsFaithful (initialState log) := faithful_sanitizer

variable {g : Generator} (hg : ∀ f ∈ g.store.ownFilters, f.IsSteady Faithful) (files : Files)
  (programs : Programs)

include hg

theorem steady_engine (source : String) (context : Table Value) :
    Steady Faithful ((g.store.engine files).render source context) :=
  Engine.steady_render (e := g.store.engine files) hg source context

theorem steady_renderFieldVariant (f : SchemaField) (owner : SchemaType) (goType : String)
    (variant : Variant) :
    Steady IsFaithful (g.renderFieldVariant files f owner goType variant) := by
  unfold renderFieldVariant
  refine Steady.tagged ?_ _
  refine (steady_found _ _ _).bind fun template => ?_
  refine ((steady_engine hg files _ _).render _).bind fun declaration => ?_
  exact ((steady_engine hg files _ _).render _).bind fun method => steady_pure _

theorem steady_renderVariants (f : SchemaField) (owner : SchemaType) (goType : String)
    (variants : List Variant) :
    Steady IsFaithful (g.renderVariants files f owner goType variants) := by
  induction variants with
  | nil =>
    rw [renderVariants]
    exact steady_pure _
  | cons variant rest ih =>
    rw [renderVariants]
    refine (steady_renderFieldVariant hg files f owner goType variant).bind fun p => ?_
    exact ih.bind fun others => steady_pure _

omit hg in
theorem steady_fieldType (ref : TypeRef) : Steady IsFaithful (g.fieldType ref) := by
  unfold fieldType
  cases typeExpression g.scalars ref with
  | ok text => exact steady_pure text
  | error fault =>
    cases fault with
    | schema fault => exact steady_fail _
    | goTypeNotText => exact steady_throw _

theorem steady_renderField (f : SchemaField) (owner : SchemaType) (typeSettings : TypeSettings) :
    Steady IsFaithful (g.renderField files f owner typeSettings) := by
  unfold renderField
  exact (steady_fieldType f.type).bind fun goType =>
    steady_renderVariants hg files f owner goType _

omit hg in
theorem steady_checkImports (imports : List Json) : Steady IsFaithful (checkImports imports) := by
  unfold checkImports
  exact Steady.ite (steady_pure _) (steady_throw _)

theorem steady_renderTypeVariant (t : SchemaType) (fields : List RenderedField)
    (variant : Variant) : Steady IsFaithful (g.renderTypeVariant files t fields variant) := by
  unfold renderTypeVariant
  refine Steady.tagged ?_ _
  refine (steady_found _ _ _).bind fun body => ?_
  exact (steady_engine hg files _ _).render _

omit hg in
theorem steady_formatCode (code : String) (typeName? : Option String) :
    Steady IsFaithful (g.formatCode programs code typeName?) := by
  unfold formatCode
  cases g.formatter.format programs code with
  | ok text => exact steady_pure text
  | error fault => exact (settles_record _).steady.bind fun _ => steady_fail _

/-- A type comes to the same file or failure whatever was rendered before. -/
theorem steady_renderType (t : SchemaType) :
    Steady IsFaithful (g.renderType files programs t) := by
  unfold renderType
  refine (Steady.mapM (fun f => steady_renderField hg files f t _) _).bind fun fields => ?_
  refine (steady_checkImports _).bind fun _ => ?_
  refine (Steady.mapM (fun v => steady_renderTypeVariant hg files t fields v) _).bind ?_
  intro parts
  exact steady_formatCode programs _ _

end Generator

end ResolverGen.Go
