import ResolverGen.Proofs.Go.InterfaceFile
import ResolverGen.Proofs.Go.VariantRendering

/-!
# Variants in an interface

The fields of an interface may be configured with setters beside their default variant. A setter
declares nothing and gives an interface no method; the imports that each variant brings count once.
So the file of the interface is that of one whose fields are not configured.
-/
namespace ResolverGen.Go

open Formatter Go.Generator

/-! ## Imports that come again -/

namespace Generator

/-- Imports with one more, unless it is there already. -/
def noteImport (acc : List Json) (item : Json) : List Json :=
  if acc.any (isSameImport · item) then acc else acc ++ [item]

theorem distinctImports_eq (imports : List Json) :
    distinctImports imports = imports.foldl noteImport [] := rfl

variable {acc imports : List Json} {j : Json}

theorem any_noteImport (h : acc.any (isSameImport · j) = true) (item : Json) :
    (noteImport acc item).any (isSameImport · j) = true := by
  unfold noteImport
  split
  · exact h
  · simp [List.any_append, h]

theorem any_foldl_noteImport (h : acc.any (isSameImport · j) = true) (imports : List Json) :
    (imports.foldl noteImport acc).any (isSameImport · j) = true := by
  induction imports generalizing acc with
  | nil => exact h
  | cons item rest ih => exact ih (any_noteImport h item)

/-- An import that counts as itself is there once it was noted. -/
theorem any_of_mem (hself : isSameImport j j = true) (h : j ∈ imports) :
    (imports.foldl noteImport acc).any (isSameImport · j) = true := by
  induction imports generalizing acc with
  | nil => cases h
  | cons item rest ih =>
    rcases List.mem_cons.mp h with rfl | h
    · refine any_foldl_noteImport ?_ rest
      unfold noteImport
      split
      · assumption
      · simp [hself]
    · exact ih h

/-- Imports that are there already add nothing. -/
theorem foldl_noteImport_of_any (h : ∀ j ∈ imports, acc.any (isSameImport · j) = true) :
    imports.foldl noteImport acc = acc := by
  induction imports with
  | nil => rfl
  | cons item rest ih =>
    have hitem : noteImport acc item = acc := if_pos (h item List.mem_cons_self)
    rw [List.foldl_cons, hitem]
    exact ih fun j hj => h j (List.mem_cons_of_mem item hj)

/-- Imports that come more than once in a row add what they add once. -/
theorem foldl_noteImport_repeated {α : Type} (hself : ∀ j ∈ imports, isSameImport j j = true)
    {xs : List α} (hxs : xs ≠ []) :
    (xs.flatMap fun _ => imports).foldl noteImport acc = imports.foldl noteImport acc := by
  cases xs with
  | nil => contradiction
  | cons x rest =>
    rw [List.flatMap_cons, List.foldl_append]
    apply foldl_noteImport_of_any
    intro j hj
    obtain ⟨_, _, hj⟩ := List.mem_flatMap.mp hj
    exact any_of_mem (hself j hj) hj

/-- The imports of fields do not depend on how often each field brings its own. -/
theorem distinctImports_repeated {α : Type} {fields : List SchemaField}
    {imports : SchemaField → List Json} {variants : SchemaField → List α}
    (hself : ∀ f ∈ fields, ∀ j ∈ imports f, isSameImport j j = true)
    (hvariants : ∀ f ∈ fields, variants f ≠ []) :
    distinctImports (fields.flatMap fun f => (variants f).flatMap fun _ => imports f) =
      distinctImports (fields.flatMap imports) := by
  have hfold : ∀ acc,
      (fields.flatMap fun f => (variants f).flatMap fun _ => imports f).foldl noteImport acc =
        (fields.flatMap imports).foldl noteImport acc := by
    induction fields with
    | nil => simp
    | cons f rest ih =>
      intro acc
      simp only [List.forall_mem_cons] at hself hvariants
      simp only [List.flatMap_cons, List.foldl_append]
      rw [foldl_noteImport_repeated hself.1 hvariants.1, ih hself.2 hvariants.2]
  rw [distinctImports_eq, distinctImports_eq, hfold]

end Generator

/-! ## Fields -/

variable {g : Generator} {t : SchemaType}

/-- Variants with the default one once among them declare a field once. -/
theorem join_variantDeclaration (owner : SchemaType) (f : SchemaField) (goType : String)
    {variants : List Variant} (h : ∀ v ∈ variants, v.name ∈ fieldVariants) :
    String.join (variants.map (variantDeclaration g owner f goType)) =
      String.join (List.replicate (variants.countP (·.name = "default"))
        (declarationText g.settings.addComments.isGiven owner.kind f goType)) := by
  induction variants with
  | nil => rfl
  | cons v rest ih =>
    have hrest := ih fun w hw => h w (List.mem_cons_of_mem v hw)
    rcases List.mem_cons.mp (h v List.mem_cons_self) with hdefault | hsetter
    · simp [variantDeclaration, hdefault, hrest, List.replicate_succ, String.join_cons]
    · have hsetter : v.name = "setter" := List.mem_singleton.mp hsetter
      simp [variantDeclaration, hsetter, hrest, String.join_cons]

/-- No variant gives a field of an interface a method. -/
theorem join_variantMethod {owner : SchemaType} (hkind : owner.kind = .interface)
    (f : SchemaField) (goType : String) (variants : List Variant) :
    String.join (variants.map (variantMethod owner f goType)) = "" := by
  induction variants with
  | nil => rfl
  | cons v rest ih => simp [variantMethod, hkind, ih, String.join_cons]

/-! ## Types -/

/-- A type has the default variant, and each of its fields has packaged ones, the default one once
among them. -/
structure DeclaresOnce (g : Generator) (t : SchemaType) : Prop where
  type : ∃ v : Variant, (g.settings.type t.name).templates = [v] ∧ v.name = "default"
  fields : ∀ f ∈ t.fields, ∀ v ∈ ((g.settings.type t.name).field f.name).templates,
    v.name ∈ fieldVariants
  once : ∀ f ∈ t.fields,
    ((g.settings.type t.name).field f.name).templates.countP (·.name = "default") = 1

namespace DeclaresOnce

variable (h : DeclaresOnce g t)

include h

theorem usesPackaged : g.UsesPackaged t := by
  obtain ⟨v, hv, hname⟩ := h.type
  refine ⟨?_, h.fields⟩
  rw [hv]
  intro w hw
  rw [List.mem_singleton.mp hw, hname]
  decide

theorem fields_ne_nil :
    ∀ f ∈ t.fields, ((g.settings.type t.name).field f.name).templates ≠ [] := by
  intro f hf hnil
  have honce := h.once f hf
  rw [hnil] at honce
  contradiction

theorem declarations_eq :
    (variantFields g t).map (·.declaration) =
      (packagedFields g t fun f => goTypeOf g.scalars f.type).map (·.declaration) := by
  unfold variantFields packagedFields
  rw [List.map_map, List.map_map]
  refine List.map_congr_left fun f hf => ?_
  simp only [Function.comp_apply, packagedField_declaration, variantField]
  rw [join_variantDeclaration t f _ (h.fields f hf), h.once f hf]
  simp

omit h in
theorem methods_eq (hkind : t.kind = .interface) :
    (variantFields g t).map (·.method) =
      (packagedFields g t fun f => goTypeOf g.scalars f.type).map (·.method) := by
  unfold variantFields packagedFields
  rw [List.map_map, List.map_map]
  refine List.map_congr_left fun f _ => ?_
  simp [variantField, packagedField, join_variantMethod hkind, hkind]

theorem imports_eq (hclean : g.scalars.IsClean) :
    distinctImports ((variantFields g t).flatMap (·.imports)) = g.fieldImports t := by
  unfold variantFields fieldImports
  rw [List.flatMap_map]
  refine distinctImports_repeated ?_ h.fields_ne_nil
  intro f _ j hj
  obtain ⟨s, rfl, _⟩ := isLineEnd_import hclean hj
  simp

/-- What the variants write for an interface is what the default ones write alone. -/
theorem variantCode_eq (hkind : t.kind = .interface) (hclean : g.scalars.IsClean) :
    g.variantCode t =
      g.packagedCode g.settings.packageName.plain t fun f => goTypeOf g.scalars f.type := by
  obtain ⟨v, hv, hname⟩ := h.type
  have hne : v.name ≠ "constructor" := by simp [hname]
  unfold variantCode variantText packagedCode
  rw [hv, h.declarations_eq, methods_eq hkind, h.imports_eq hclean]
  simp [hne, String.join_cons]

end DeclaresOnce

/-! ## Files -/

/-- A generator without its settings for types. -/
def Generator.unconfigured (g : Generator) : Generator :=
  { g with settings := { g.settings with types := [] } }

/-- The file of an interface without comments on its members. -/
def bareInterfaceText (package : String) (imports : List Json) (t : SchemaType)
    (goType : SchemaField → String) : String :=
  "package " ++ package ++ "\n" ++ importText imports ++ "\ntype " ++ t.name ++
    " interface \x7b\n" ++
    String.join (t.fields.map fun f => "\t" ++ accessorName f.name ++ "() " ++ goType f ++ "\n") ++
    "\x7d\n\n// " ++ resolverName t.name ++ " wraps a concrete " ++ t.name ++
    " implementation.\ntype " ++ resolverName t.name ++ " struct \x7b\n\t" ++ t.name ++
    "\n\x7d\n" ++ String.join (t.possibleNames.map (conversionText t.name))

theorem memberBlock_of_silent (formatter : Formatter) (f : SchemaField) (line : String) :
    memberBlock formatter false f line = "\t" ++ line ++ "\n" := by
  have hcomment : formatter.leaves (commentLines false f) = [] := by
    cases formatter <;> simp [commentLines, descriptionLines, deprecationLines, leaves, tidyLines]
  unfold memberBlock
  simp [hcomment]

theorem interfaceFileText_of_silent (formatter : Formatter) (package : String)
    (imports : List Json) (t : SchemaType) (goType : SchemaField → String) :
    interfaceFileText formatter package false imports t goType =
      bareInterfaceText package imports t goType := by
  unfold interfaceFileText bareInterfaceText
  simp only [memberBlock_of_silent, descriptionText, Bool.and_false, Bool.false_eq_true, if_false,
    String.append_assoc, String.empty_append]
  rfl

variable {package : String} {goType : SchemaField → String}

theorem DeclaresOnce.hasParts (h : DeclaresOnce g t)
    (hplain : IsPlain g.unconfigured package t goType) : g.HasParts t := by
  have hclean : g.scalars.IsClean := hplain.clean
  obtain ⟨v, hv, hname⟩ := h.type
  have hne : v.name ≠ "constructor" := by simp [hname]
  refine ⟨fun f hf => ⟨goType f, hplain.types f hf⟩, ?_, ?_⟩
  · rw [List.all_eq_true]
    intro j hj
    obtain ⟨field, hfield, hj⟩ := List.mem_flatMap.mp hj
    obtain ⟨f, _, rfl⟩ := List.mem_map.mp hfield
    obtain ⟨_, _, hj⟩ := List.mem_flatMap.mp hj
    exact (isPlainImport_of_isClean hclean hj).1
  · rw [hv]
    intro w hw j hj
    rw [List.mem_singleton.mp hw] at hj
    unfold configuredParts at hj
    rw [if_neg hne, h.imports_eq hclean] at hj
    rcases List.mem_cons.mp hj with rfl | hj
    · have hpackage : g.settings.packageName = .str package := hplain.packageName
      rw [hpackage]
      rfl
    · obtain ⟨f, _, hj⟩ := List.mem_flatMap.mp (mem_of_mem_distinctImports hj)
      exact (isPlainImport_of_isClean hclean hj).2

/-- An interface whose fields have setters beside their default variant comes to the package clause,
its imports, its methods in order, the struct that wraps it, and its conversions; nothing is written
for the setters. -/
theorem renderType_interface (h : DeclaresOnce g t) (hkind : t.kind = .interface)
    (hplain : IsPlain g.unconfigured package t goType) (hname : IsSchemaName t.name)
    (hpossible : ∀ n ∈ t.possibleNames, '\n' ∉ n.toList)
    (hsilent : g.settings.addComments.isGiven = false) (files : Files) (programs : Programs)
    {s : RunState} (hs : IsFaithful s) :
    ((g.renderType files programs t).run s).1 =
      .ok (bareInterfaceText package (g.fieldImports t) t goType) := by
  have hpackaged : g.IsPackaged := ⟨hplain.packaged.store, hplain.packaged.noDirectory⟩
  have hpackage : g.settings.packageName.plain = package := by
    rw [show g.settings.packageName = .str package from hplain.packageName]
    rfl
  have hfields : packagedFields g t (fun f => goTypeOf g.scalars f.type) =
      packagedFields g t goType := by
    unfold packagedFields
    refine List.map_congr_left fun f hf => ?_
    have htype : typeExpression g.scalars f.type = .ok (goType f) := hplain.types f hf
    simp only [goTypeOf_eq htype]
  have hcode : g.variantCode t = g.packagedCode package t goType := by
    rw [h.variantCode_eq hkind hplain.clean, hpackage]
    unfold packagedCode
    rw [hfields]
  have htidy := isTidy_interfaceLayout hplain hkind hname hpossible false
  have hlines : (g.packagedCode package t goType).toList =
      Text.ended ((interfaceLayout package false (g.fieldImports t) t goType).lines id) := by
    have hwritten := toList_packagedCode_interface hplain hkind
    rw [← hsilent]
    exact hwritten
  have hformat := htidy.format programs hplain.formatter hlines
    (toList_interfaceFileText g.formatter package false _ t goType)
  rw [hpackaged.renderType_ok_iff files h.usesPackaged hs, hcode, ← interfaceFileText_of_silent]
  exact ⟨h.hasParts hplain, hformat⟩

/-- Settings without comments and with setters for the fields of an interface. -/
def interfaceSettings : Settings where
  addComments := .bool false
  types :=
    [("Node",
      { fields :=
          [("id", { templates := [{ name := "setter" }, defaultVariant] }),
            ("url",
              { templates := [defaultVariant, { name := "setter" }, { name := "setter" }] })] })]

/-- An interface with two possible types. -/
def nodeType : SchemaType where
  kind := .interface
  name := "Node"
  fields :=
    [{ name := "id", type := .nonNull (.named .scalar "ID"), owner := "Node" },
      { name := "url", type := .named .scalar "String", owner := "Node",
        description? := some "Where it is." }]
  possible? := some ["Post", "User"]

theorem renderType_nodeType :
    (((make interfaceSettings (.basic defaultMaxBlankLines)).renderType {} [] nodeType).run
      (initialState [])).1 =
      .ok ("package resolvers\n\nimport (\n\tgraphql \"github.com/neelance/graphql-go\"\n)\n\n" ++
        "type Node interface \x7b\n\tID() graphql.ID\n\tUrl() *string\n\x7d\n\n" ++
        "// NodeResolver wraps a concrete Node implementation.\n" ++
        "type NodeResolver struct \x7b\n\tNode\n\x7d\n\n" ++
        "// ToPost returns the Post behind the interface, if any.\n" ++
        "func (r *NodeResolver) ToPost() (*PostResolver, bool) \x7b\n" ++
        "\tc, ok := r.Node.(*PostResolver)\n\treturn c, ok\n\x7d\n\n" ++
        "// ToUser returns the User behind the interface, if any.\n" ++
        "func (r *NodeResolver) ToUser() (*UserResolver, bool) \x7b\n" ++
        "\tc, ok := r.Node.(*UserResolver)\n\treturn c, ok\n\x7d\n") := by
  have hdeclares : DeclaresOnce (make interfaceSettings (.basic defaultMaxBlankLines)) nodeType :=
    ⟨⟨defaultVariant, rfl, rfl⟩, by decide, by decide⟩
  have hplain : IsPlain (make interfaceSettings (.basic defaultMaxBlankLines)).unconfigured
      "resolvers" nodeType fun f => if f.name = "id" then "graphql.ID" else "*string" :=
    { packaged := ⟨rfl, rfl⟩
      clean := isClean_ofCustom (by decide)
      formatter := Or.inr rfl
      packageName := rfl
      package := by decide
      unset := rfl
      name := by decide
      fields := by decide
      references := by decide
      types := by decide +kernel }
  rw [renderType_interface hdeclares rfl hplain (by decide) (by decide) rfl {} []
    (isFaithful_initialState [])]
  decide +kernel

end ResolverGen.Go
