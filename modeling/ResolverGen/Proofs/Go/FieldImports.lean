import ResolverGen.Proofs.Go.Breakdowns
import ResolverGen.Proofs.Go.InterfaceVariants
import ResolverGen.Proofs.Go.TypeReadings

/-!
# Imports of a type

A field brings the import path of its named type once for each of its variants. What a template of the
type is given are the paths of the fields in their order, each where it is used first. So it does not
show how many variants a field has, as long as there is one, or which they are.
-/
namespace ResolverGen.Go

open Template

/-! ## Paths of references -/

/-- The import path of a reference: that of the scalar at its end, unless it is empty. -/
def importPath? (table : ScalarTable) (ref : TypeRef) : Option Json :=
  ref.namedType.name?.bind fun name =>
    ((table.get? name).map (·.importPath)).filter (·.isGiven)

/-- The import paths that the fields of a type use, field by field. -/
def fieldPaths (table : ScalarTable) (t : SchemaType) : List Json :=
  t.fields.filterMap fun f => importPath? table f.type

theorem importsFor_layered (table : ScalarTable) {ref : TypeRef} (h : ref.IsLayered) :
    importsFor table ref = (importPath? table ref).toList := by
  obtain ⟨base, name, layers, hnamed, rfl⟩ := h
  rw [importsFor_under, importsFor_named hnamed, importPath?, TypeRef.namedType_under hnamed,
    hnamed.name_eq, Option.bind_some]

namespace Generator

variable {g : Generator} {files : Files} {t : SchemaType} {fields : List RenderedField}
  {s s' : RunState}

/-! ## First uses -/

/-- Imports that can be told apart count as themselves. -/
theorem isSameImport_self {j : Json} (h : isComparable j = true) : isSameImport j j = true := by
  cases j with
  | arr items => cases h
  | obj entries => cases h
  | str text => simp
  | null => simp [isSameImport, Value.ofJson, Value.same]
  | float x => simp [isSameImport]
  | _ => simp [isSameImport, Value.ofJson, Value.same, Value.asNumber?, Number.compare?]

/-- Each of a list where it comes first. -/
def firstUses (paths : List Json) : List Json :=
  paths.eraseDupsBy fun later earlier => isSameImport earlier later

theorem distinctImports_eq_firstUses (paths : List Json) :
    distinctImports paths = firstUses paths := by
  -- what was met is kept last first
  have hloop : ∀ met, paths.foldl noteImport met.reverse =
      List.eraseDupsBy.loop (fun later earlier => isSameImport earlier later) paths met := by
    induction paths with
    | nil =>
      intro met
      rfl
    | cons path rest ih =>
      intro met
      rw [List.foldl_cons, List.eraseDupsBy.loop, noteImport, List.any_reverse]
      cases met.any (isSameImport · path) with
      | true => exact ih met
      | false => simpa using ih (path :: met)
  exact hloop []

/-- Where imports are noted one after another, no two are the same. -/
theorem pairwise_foldl_noteImport (paths : List Json) {met : List Json}
    (h : met.Pairwise fun a b => isSameImport a b = false) :
    (paths.foldl noteImport met).Pairwise fun a b => isSameImport a b = false := by
  induction paths generalizing met with
  | nil => exact h
  | cons path rest ih =>
    refine ih ?_
    unfold noteImport
    split
    · exact h
    · rename_i hnew
      rw [Bool.not_eq_true, List.any_eq_false] at hnew
      refine List.pairwise_append.mpr ⟨h, List.pairwise_singleton _ _, fun a ha b hb => ?_⟩
      rw [List.mem_singleton.mp hb]
      exact Bool.eq_false_iff.mpr (hnew a ha)

theorem pairwise_firstUses (paths : List Json) :
    (firstUses paths).Pairwise fun a b => isSameImport a b = false := by
  rw [← distinctImports_eq_firstUses]
  exact pairwise_foldl_noteImport paths .nil

/-! ## What fields bring -/

/-- Each variant brings the imports of the field. -/
theorem imports_of_renderVariants {f : SchemaField} {owner : SchemaType} {goType : String}
    {variants : List Variant} {r : RenderedField}
    (h : (g.renderVariants files f owner goType variants).run s = (.ok r, s')) :
    r.imports = variants.flatMap fun _ => importsFor g.scalars f.type := by
  induction variants generalizing r s with
  | nil =>
    cases h
    rfl
  | cons variant rest ih =>
    rw [renderVariants] at h
    obtain ⟨text, r₁, -, h⟩ := run_bind_eq_ok_iff.mp h
    obtain ⟨others, r₂, hothers, h⟩ := run_bind_eq_ok_iff.mp h
    cases h
    rw [List.flatMap_cons, ← ih hothers]

theorem imports_of_renderField {f : SchemaField} {typeSettings : TypeSettings} {r : RenderedField}
    (h : (g.renderField files f t typeSettings).run s = (.ok r, s')) :
    r.imports =
      (typeSettings.field f.name).templates.flatMap fun _ => importsFor g.scalars f.type := by
  obtain ⟨goType, r₁, -, h⟩ := run_bind_eq_ok_iff.mp h
  exact imports_of_renderVariants h

theorem flatMap_eq_of_forall₂ {α β γ : Type} {F : α → List γ} {G : β → List γ} {xs : List α}
    {ys : List β} (h : List.Forall₂ (fun x y => G y = F x) xs ys) : ys.flatMap G = xs.flatMap F := by
  induction h with
  | nil => rfl
  | cons hhead _ ih => rw [List.flatMap_cons, List.flatMap_cons, hhead, ih]

/-- What the fields bring, as often as they have variants. -/
theorem imports_of_renderFields (hrefs : ∀ f ∈ t.fields, f.type.IsLayered)
    (hfields : (t.fields.mapM fun f => g.renderField files f t (g.settings.type t.name)).run s =
      (.ok fields, s')) :
    fields.flatMap (·.imports) = t.fields.flatMap fun f =>
      ((g.settings.type t.name).field f.name).templates.flatMap fun _ =>
        (importPath? g.scalars f.type).toList := by
  have hbrought : fields.flatMap (·.imports) = t.fields.flatMap fun f =>
      ((g.settings.type t.name).field f.name).templates.flatMap fun _ =>
        importsFor g.scalars f.type :=
    flatMap_eq_of_forall₂ ((forall₂_of_mapM_run hfields).imp fun f r ⟨_, _, hr⟩ =>
      imports_of_renderField hr)
  rw [hbrought]
  exact List.flatMap_congr fun f hf => by rw [importsFor_layered _ (hrefs f hf)]

theorem flatMap_toList_eq_fieldPaths (table : ScalarTable) (t : SchemaType) :
    (t.fields.flatMap fun f => (importPath? table f.type).toList) = fieldPaths table t :=
  (List.filterMap_eq_flatMap_toList _ _).symm

section

variable (hvariants : ∀ f ∈ t.fields, ((g.settings.type t.name).field f.name).templates ≠ [])
  (hrefs : ∀ f ∈ t.fields, f.type.IsLayered)
  (hfields : (t.fields.mapM fun f => g.renderField files f t (g.settings.type t.name)).run s =
    (.ok fields, s'))

include hvariants hrefs hfields

theorem mem_imports_iff {j : Json} :
    j ∈ fields.flatMap (·.imports) ↔ j ∈ fieldPaths g.scalars t := by
  rw [imports_of_renderFields hrefs hfields, ← flatMap_toList_eq_fieldPaths]
  simp only [List.mem_flatMap]
  constructor
  · rintro ⟨f, hf, _, _, hj⟩
    exact ⟨f, hf, hj⟩
  · rintro ⟨f, hf, hj⟩
    obtain ⟨v, hv⟩ := List.exists_mem_of_ne_nil _ (hvariants f hf)
    exact ⟨f, hf, v, hv, hj⟩

theorem all_isComparable_imports :
    (fields.flatMap (·.imports)).all isComparable = (fieldPaths g.scalars t).all isComparable := by
  rw [Bool.eq_iff_iff, List.all_eq_true, List.all_eq_true]
  simp only [mem_imports_iff hvariants hrefs hfields]

theorem distinctImports_fields (hcomparable : (fieldPaths g.scalars t).all isComparable = true) :
    distinctImports (fields.flatMap (·.imports)) = firstUses (fieldPaths g.scalars t) := by
  rw [List.all_eq_true] at hcomparable
  rw [imports_of_renderFields hrefs hfields, distinctImports_repeated _ hvariants,
    flatMap_toList_eq_fieldPaths, distinctImports_eq_firstUses]
  intro f hf j hj
  apply isSameImport_self
  apply hcomparable
  rw [← flatMap_toList_eq_fieldPaths]
  exact List.mem_flatMap.mpr ⟨f, hf, hj⟩

omit hvariants hrefs in
/-- What follows the fields goes on from the state that they leave. -/
theorem run_renderType (programs : Programs) :
    (g.renderType files programs t).run s = (g.aroundFields files programs t fields).run s' := by
  change ((t.fields.mapM fun f => g.renderField files f t (g.settings.type t.name)) >>=
    g.aroundFields files programs t).run s = _
  rw [run_bind, hfields]

/-- Once the fields of a type are rendered, by whatever variants, each template of the type is given
the import paths that the fields use, in order and each where it is first used; no two of them are the
same. If a path is a list or an object, which cannot be told from others, the work ends there. -/
theorem renderType_imports (programs : Programs) :
    (firstUses (fieldPaths g.scalars t)).Pairwise (fun a b => isSameImport a b = false) ∧
      ((fieldPaths g.scalars t).all isComparable = true →
        (∀ variant, (g.typeContext t fields variant).get? "imports" =
          some (.list ((firstUses (fieldPaths g.scalars t)).map Value.ofJson))) ∧
        (g.renderType files programs t).run s = (do
          let parts ← (g.settings.type t.name).templates.mapM (g.renderTypeVariant files t fields)
          g.formatCode programs (String.join parts) (some t.name) : Run String).run s') ∧
      ((fieldPaths g.scalars t).all isComparable = false →
        (g.renderType files programs t).run s = (.error (.breakdown .wrongKind), s')) := by
  have hrun := run_renderType hfields programs
  have hall := all_isComparable_imports hvariants hrefs hfields
  refine ⟨pairwise_firstUses _, fun hcomparable => ⟨fun variant => ?_, ?_⟩, fun hcomparable => ?_⟩
  · rw [← distinctImports_fields hvariants hrefs hfields hcomparable]
    rfl
  · rw [hrun, aroundFields, checkImports, hall, hcomparable]
    rfl
  · rw [hrun, aroundFields, checkImports, hall, hcomparable]
    rfl

end

/-- Settings with a scalar that has an import, and with setters for fields. -/
def eventSettings : Settings where
  scalars := [("Date", { type := .str "time.Time", importPath := .str "time" })]
  types :=
    [("Event",
      { fields :=
          [("id", { templates := [defaultVariant, { name := "setter" }, { name := "setter" }] }),
            ("days", { templates := [{ name := "setter" }] })] })]

/-- A type of which two fields use one import and two another. -/
def eventType : SchemaType where
  kind := .object
  name := "Event"
  fields :=
    [{ name := "title", type := .named .scalar "String", owner := "Event" },
      { name := "id", type := .nonNull (.named .scalar "ID"), owner := "Event" },
      { name := "days", type := .listOf (.nonNull (.named .scalar "Date")), owner := "Event" },
      { name := "parent", type := .named .scalar "ID", owner := "Event" },
      { name := "seen", type := .named .scalar "Date", owner := "Event" }]

/-- The fields of a type are rendered if they use packaged variants and have types in Go. -/
theorem IsPackaged.exists_fields (h : g.IsPackaged) (hv : g.UsesPackaged t)
    (htypes : ∀ f ∈ t.fields, (typeExpression g.scalars f.type).isOk = true) :
    ∃ fields s', (t.fields.mapM fun f =>
      g.renderField {} f t (g.settings.type t.name)).run (initialState []) = (.ok fields, s') := by
  simp only [isOk_typeExpression_iff] at htypes
  obtain ⟨s', -, hfields⟩ := (h.settles_fields_iff {} hv (isFaithful_initialState []) _).mpr
    ⟨htypes, rfl⟩ _ (isFaithful_initialState [])
  exact ⟨_, s', hfields⟩

theorem isLayered_named {name : String} (h : name ≠ "") :
    (TypeRef.named .scalar name).IsLayered :=
  ⟨_, name, [], TypeRef.isNamed_named rfl h, rfl⟩

theorem renderType_imports_eventType :
    ∃ fields s',
      (eventType.fields.mapM fun f => (make eventSettings .passthrough).renderField {} f eventType
        (eventSettings.type "Event")).run (initialState []) = (.ok fields, s') ∧
      ∀ variant,
        ((make eventSettings .passthrough).typeContext eventType fields variant).get? "imports" =
          some (.list [.str graphqlImport, .str "time"]) := by
  have hpackaged : (make eventSettings .passthrough).IsPackaged := ⟨rfl, rfl⟩
  have huses : (make eventSettings .passthrough).UsesPackaged eventType :=
    ⟨by decide +kernel, by decide +kernel⟩
  obtain ⟨fields, s', hfields⟩ := hpackaged.exists_fields huses (by decide +kernel)
  have hvariants : ∀ f ∈ eventType.fields,
      ((eventSettings.type eventType.name).field f.name).templates ≠ [] := by decide +kernel
  have hrefs : ∀ f ∈ eventType.fields, f.type.IsLayered := by
    have hnamed : ∀ name : String, name ≠ "" → (TypeRef.named .scalar name).IsNamed name :=
      fun name hname => TypeRef.isNamed_named rfl hname
    simp only [eventType, List.forall_mem_cons]
    exact ⟨isLayered_named (by decide), ⟨_, _, [.nonNull], hnamed "ID" (by decide), rfl⟩,
      ⟨_, _, [.list, .nonNull], hnamed "Date" (by decide), rfl⟩, isLayered_named (by decide),
      isLayered_named (by decide), by simp⟩
  have hpaths : fieldPaths (make eventSettings .passthrough).scalars eventType =
      [.str graphqlImport, .str "time", .str graphqlImport, .str "time"] := by rfl
  have hfirst : firstUses [.str graphqlImport, .str "time", .str graphqlImport, .str "time"] =
      [.str graphqlImport, .str "time"] := by
    simp [firstUses, List.eraseDupsBy_cons, graphqlImport]
  obtain ⟨-, himports, -⟩ := renderType_imports (g := make eventSettings .passthrough)
    hvariants hrefs hfields []
  rw [hpaths, hfirst] at himports
  exact ⟨fields, s', hfields, (himports rfl).1⟩

/-- Settings with a scalar whose import is a list of paths. -/
def listedSettings : Settings where
  scalars := [("Url", { type := .str "string", importPath := .arr [.str "a"] })]

def listedType : SchemaType where
  kind := .object
  name := "Post"
  fields := [{ name := "url", type := .named .scalar "Url", owner := "Post" }]

/-- A list where a path is meant does not hinder the field, but ends the work on the type: its
templates are given no imports, and nothing else either. -/
theorem renderType_listedImport :
    ∃ fields s',
      (listedType.fields.mapM fun f => (make listedSettings .passthrough).renderField {} f
        listedType (listedSettings.type "Post")).run (initialState []) = (.ok fields, s') ∧
      fieldPaths (make listedSettings .passthrough).scalars listedType = [.arr [.str "a"]] ∧
      ((make listedSettings .passthrough).renderType {} [] listedType).run (initialState []) =
        (.error (.breakdown .wrongKind), s') := by
  have hpackaged : (make listedSettings .passthrough).IsPackaged := ⟨rfl, rfl⟩
  have huses : (make listedSettings .passthrough).UsesPackaged listedType :=
    ⟨by decide +kernel, by decide +kernel⟩
  obtain ⟨fields, s', hfields⟩ := hpackaged.exists_fields huses (by decide +kernel)
  have hvariants : ∀ f ∈ listedType.fields,
      ((listedSettings.type listedType.name).field f.name).templates ≠ [] := by decide +kernel
  have hrefs : ∀ f ∈ listedType.fields, f.type.IsLayered := by
    simpa [listedType] using isLayered_named (by decide)
  have hall := all_isComparable_imports hvariants hrefs hfields
  refine ⟨fields, s', hfields, rfl, ?_⟩
  rw [run_renderType hfields [], aroundFields, checkImports, hall]
  rfl

end Generator

end ResolverGen.Go
