import ResolverGen.Proofs.Go.DeprecationReasons
import ResolverGen.Proofs.Go.FileRows

/-!
# Stored fields in the text of a type

An object type under packaged variants comes to its file and its constructors. Read row by row, its
artifact declares each struct field that a method in it uses, if the settings draw no warning and
what is given for the type stays on its lines. The reason of a deprecation that goes on to a further
line can close the struct before its fields.
-/
namespace ResolverGen.Go

open Text Formatter Go.Generator

/-! ## Types -/

variable {g : Generator} {t : SchemaType}

/-- What is written of a type as it is configured or given stays on its line: the package name,
imports, Go types, the reasons of deprecations that are written, and the names of constructors. -/
structure StaysOnLines (g : Generator) (t : SchemaType) : Prop where
  package : '\n' ∉ g.settings.packageName.plain.toList
  imports : ∀ f ∈ t.fields, ∀ j ∈ importsFor g.scalars f.type, '\n' ∉ j.plain.toList
  goTypes : ∀ f ∈ t.fields, '\n' ∉ (goTypeOf g.scalars f.type).toList
  reasons : ∀ f ∈ t.fields, g.settings.addComments.isGiven = true →
    '\n' ∉ (f.deprecation?.getD "").toList
  constructors : ∀ v ∈ (g.settings.type t.name).templates, v.name = "constructor" →
    '\n' ∉ (constructorName t.name v.params).plain.toList

theorem isLinewise_memberOf (h : StaysOnLines g t) {f : SchemaField} (hf : f ∈ t.fields)
    (hn : IsSchemaName f.name) : (memberOf g f (goTypeOf g.scalars f.type)).IsLinewise where
  comment := by
    rw [comment_memberOf]
    exact (isComment_descriptionText _ _).append (isComment_deprecationText (h.reasons f hf))
  name := by
    rw [name_memberOf]
    exact hn.storageName
  goType := by
    rw [goType_memberOf]
    exact h.goTypes f hf

theorem isLinewise_methodOf (h : StaysOnLines g t) (hname : IsSchemaName t.name) {f : SchemaField}
    (hf : f ∈ t.fields) (hn : IsSchemaName f.name) (v : Variant) :
    (methodOf t f (goTypeOf g.scalars f.type) v).IsLinewise where
  typeName := by
    rw [typeName_methodOf]
    exact hname.not_mem_newline
  fieldName := by
    rw [fieldName_methodOf]
    exact hn
  goType := by
    rw [goType_methodOf]
    exact h.goTypes f hf
  storage := by
    rw [storage_methodOf]
    exact hn.storageName

/-- The file of a type stays on its lines if what is configured and given for it does. -/
theorem isLinewise_resolverFile (h : StaysOnLines g t) (hname : IsSchemaName t.name)
    (hfields : ∀ f ∈ t.fields, IsSchemaName f.name) : (resolverFile g t).IsLinewise := by
  refine ⟨h.package, ?_, isComment_descriptionText _ _, hname.not_mem_newline, ?_, ?_⟩
  · intro j hj
    obtain ⟨field, hfield, hj⟩ := List.mem_flatMap.mp (mem_of_mem_distinctImports hj)
    obtain ⟨f, hf, rfl⟩ := List.mem_map.mp hfield
    obtain ⟨-, -, hj⟩ := List.mem_flatMap.mp hj
    exact h.imports f hf j hj
  · intro p hp m hm
    obtain ⟨f, hf, rfl⟩ := List.mem_map.mp hp
    rw [members_partsOf] at hm
    obtain ⟨v, -, hm⟩ := List.mem_flatMap.mp hm
    unfold membersOf at hm
    split at hm
    · cases hm
    · rw [List.mem_singleton.mp hm]
      exact isLinewise_memberOf h hf (hfields f hf)
  · intro p hp m hm
    obtain ⟨f, hf, rfl⟩ := List.mem_map.mp hp
    rw [methods_partsOf] at hm
    obtain ⟨v, -, rfl⟩ := List.mem_map.mp hm
    refine ⟨isLinewise_methodOf h hname hf (hfields f hf) v, ?_⟩
    unfold methodOf resolverFile
    rfl

section Parts

variable (h : StaysOnLines g t) (hname : IsSchemaName t.name)
  (hfields : ∀ f ∈ t.fields, IsSchemaName f.name)

include h hname hfields

theorem endsLine_partText : ∀ v ∈ (g.settings.type t.name).templates,
    EndsLine (partText g t v).toList := by
  intro v hv
  unfold partText
  split
  · rename_i hconstructor
    exact endsLine_constructorText hname.not_mem_newline (h.constructors v hv hconstructor)
  · exact (isLinewise_resolverFile h hname hfields).endsLine_text

/-- Each part of a type that is no constructor declares the fields that are stored in its file. -/
theorem structFields_parts :
    structFields t.name (String.join ((g.settings.type t.name).templates.map (partText g t))) =
      (g.settings.type t.name).templates.flatMap fun v =>
        if v.name = "constructor" then [] else (resolverFile g t).storages.map String.toList := by
  have hfile := isLinewise_resolverFile h hname hfields
  have hblocks : Encloses (· == structLine t.name)
      ((g.settings.type t.name).templates.flatMap fun v => rowsOf (partText g t v).toList)
      ((g.settings.type t.name).templates.flatMap fun v => if v.name = "constructor" then []
        else (resolverFile g t).memberRows) := by
    refine encloses_flatMap fun v hv => ?_
    unfold partText
    split
    · rename_i hconstructor
      rw [rowsOf_constructorText hname.not_mem_newline (h.constructors v hv hconstructor)]
      exact (isFunction_constructor t.name _).encloses_struct t.name
    · exact hfile.encloses_struct
  unfold structFields
  rw [rowsOf_join (endsLine_partText h hname hfields), hblocks.blockRows_eq, List.map_flatMap]
  refine List.flatMap_congr fun v _ => ?_
  split
  · rfl
  · unfold ResolverFile.storages ResolverFile.memberRows
    rw [List.map_flatMap, List.map_flatMap]
    refine List.flatMap_congr fun p hp => ?_
    rw [List.map_map, List.map_map]
    exact List.map_congr_left fun m hm => (hfile.members p hp m hm).firstWord_row

/-- Each part of a type that is no constructor uses the fields that its methods read or replace. -/
theorem usedFields_parts :
    usedFields t.name (String.join ((g.settings.type t.name).templates.map (partText g t))) =
      (g.settings.type t.name).templates.flatMap fun v =>
        if v.name = "constructor" then []
        else (resolverFile g t).methods.map fun m => m.storage.toList := by
  have hfile := isLinewise_resolverFile h hname hfields
  have hblocks : Encloses (isMethodLine t.name)
      ((g.settings.type t.name).templates.flatMap fun v => rowsOf (partText g t v).toList)
      ((g.settings.type t.name).templates.flatMap fun v =>
        if v.name = "constructor" then
          if isMethodLine t.name
              (constructorHead t.name (constructorName t.name v.params).plain) then
            ['\t' :: constructorReturn t.name] else []
        else (resolverFile g t).methods.map fun m => '\t' :: m.use) := by
    refine encloses_flatMap fun v hv => ?_
    unfold partText
    split
    · rename_i hconstructor
      rw [rowsOf_constructorText hname.not_mem_newline (h.constructors v hv hconstructor)]
      exact (isFunction_constructor t.name _).encloses_method t.name
    · exact hfile.encloses_uses
  unfold usedFields
  rw [rowsOf_join (endsLine_partText h hname hfields), hblocks.blockRows_eq, List.filterMap_flatMap]
  refine List.flatMap_congr fun v _ => ?_
  split
  · split
    · rw [List.filterMap_cons, usedField?_constructorReturn]
      rfl
    · rfl
  · rw [List.filterMap_map, ← List.filterMap_eq_map]
    refine List.filterMap_congr fun m hm => ?_
    obtain ⟨p, hp, hm⟩ := List.mem_flatMap.mp hm
    exact (hfile.methods p hp m hm).1.usedField?_use

end Parts

/-- A formatter keeps the fields that a text declares for a type and those that its methods use. -/
structure KeepsFields (f : Formatter) (programs : Programs) (typeName code : String) :
    Prop where
  stored : ∀ text, f.format programs code = .ok text →
    ∀ x ∈ structFields typeName code, x ∈ structFields typeName text
  used : ∀ text, f.format programs code = .ok text →
    ∀ x, x ∈ usedFields typeName text ↔ x ∈ usedFields typeName code

/-- Tidying keeps all rows. -/
theorem keepsFields_of_rowsOf {f : Formatter} {programs : Programs} {code : String}
    (h : ∀ text, f.format programs code = .ok text → rowsOf text.toList = rowsOf code.toList)
    (typeName : String) : KeepsFields f programs typeName code where
  stored text htext x hx := by
    unfold structFields at hx ⊢
    rwa [h text htext]
  used text htext x := by
    unfold usedFields
    rw [h text htext]

theorem keepsFields_of_not_program {f : Formatter}
    (h : ∀ name timeout?, f ≠ .program name timeout?) (programs : Programs)
    (typeName code : String) : KeepsFields f programs typeName code := by
  refine keepsFields_of_rowsOf (fun text htext => ?_) typeName
  cases f with
  | passthrough =>
    cases htext
    rfl
  | basic max =>
    have htidied : onChars (tidyChars max) code = text := Except.ok.inj htext
    rw [← htidied, toList_onChars, rowsOf_tidyChars]
  | program name timeout? => exact absurd rfl (h name timeout?)

/-- If the settings draw no warning for the fields of an object type, each struct field that a
method in its artifact uses is declared in its struct there, as long as what is configured or given
for the type stays on its lines and an external formatter keeps the fields. -/
theorem renderType_storedFields (h : g.IsPackaged) (hkind : t.kind = .object)
    (hv : g.UsesPackaged t)
    (hdefault : ∃ v ∈ (g.settings.type t.name).templates, v.name = "default")
    (hwarnings : ∀ f ∈ t.fields, ∀ names,
      .noStorage t.name f.name names ∉ storageWarnings g.settings)
    (hname : IsSchemaName t.name) (hfields : ∀ f ∈ t.fields, IsSchemaName f.name)
    (hlines : StaysOnLines g t) (files : Files) (programs : Programs)
    (hprogram : ∀ name timeout?, g.formatter = .program name timeout? →
      KeepsFields g.formatter programs t.name
        (String.join ((g.settings.type t.name).templates.map (partText g t))))
    {s : RunState} (hs : IsFaithful s) {text : String}
    (hrun : ((g.renderType files programs t).run s).1 = .ok text) :
    (∀ m ∈ (resolverFile g t).methods, m.storage.toList ∈ usedFields t.name text) ∧
      ∀ x ∈ usedFields t.name text, x ∈ structFields t.name text := by
  have hformat := format_parts h hkind hv hs hrun
  have hkeeps : KeepsFields g.formatter programs t.name
      (String.join ((g.settings.type t.name).templates.map (partText g t))) := by
    by_cases hexternal : ∃ name timeout?, g.formatter = .program name timeout?
    · obtain ⟨name, timeout?, hexternal⟩ := hexternal
      exact hprogram name timeout? hexternal
    · exact keepsFields_of_not_program (fun name timeout? hexternal' =>
        hexternal ⟨name, timeout?, hexternal'⟩) programs _ _
  have hused := hkeeps.used text hformat
  have hstored := hkeeps.stored text hformat
  rw [structFields_parts hlines hname hfields] at hstored
  rw [usedFields_parts hlines hname hfields] at hused
  constructor
  · intro m hm
    obtain ⟨v, hv, hvname⟩ := hdefault
    refine (hused _).mpr (List.mem_flatMap.mpr ⟨v, hv, ?_⟩)
    rw [if_neg (by rw [hvname]; decide)]
    exact List.mem_map_of_mem hm
  · intro x hx
    obtain ⟨v, hv, hx⟩ := List.mem_flatMap.mp ((hused x).mp hx)
    refine hstored x (List.mem_flatMap.mpr ⟨v, hv, ?_⟩)
    by_cases hconstructor : v.name = "constructor"
    · rw [if_pos hconstructor] at hx
      cases hx
    · rw [if_neg hconstructor] at hx ⊢
      obtain ⟨m, hm, rfl⟩ := List.mem_map.mp hx
      exact List.mem_map_of_mem (storage_mem_storages hwarnings hm)

/-- Settings with a constructor for a type and a setter for one of its fields. -/
def setterSettings : Settings where
  types :=
    [("Post",
      { templates := [defaultVariant, { name := "constructor" }]
        fields := [("url", { templates := [{ name := "setter" }, defaultVariant] })] })]

/-- A type with a field that has a setter and one that is not configured. -/
def storedType : SchemaType where
  kind := .object
  name := "Post"
  fields :=
    [{ name := "url", type := .named .scalar "String", owner := "Post" },
      { name := "type", type := .nonNull (.named .scalar "ID"), owner := "Post" }]

theorem renderType_storedFields_storedType :
    ∃ text, (((make setterSettings .passthrough).renderType {} [] storedType).run
        (initialState [])).1 = .ok text ∧
      (resolverFile (make setterSettings .passthrough) storedType).methods.map (·.storage) =
        ["url", "url", "type_"] ∧
      (∀ m ∈ (resolverFile (make setterSettings .passthrough) storedType).methods,
        m.storage.toList ∈ usedFields "Post" text) ∧
      ∀ x ∈ usedFields "Post" text, x ∈ structFields "Post" text := by
  have hpackaged : (make setterSettings .passthrough).IsPackaged := isPackaged_make rfl _
  have huses : (make setterSettings .passthrough).UsesPackaged storedType :=
    ⟨by decide, by decide⟩
  have hparts : (make setterSettings .passthrough).HasParts storedType := by
    refine ⟨?_, by decide +kernel, by decide +kernel⟩
    intro f hf
    rcases List.mem_cons.mp hf with rfl | hf
    · exact ⟨_, rfl⟩
    · rw [List.mem_singleton.mp hf]
      exact ⟨_, rfl⟩
  have hrun := (hpackaged.renderType_ok_iff {} huses (isFaithful_initialState []) [] _).mpr
    ⟨hparts, rfl⟩
  have hdefault :
      ∃ v ∈ ((make setterSettings .passthrough).settings.type storedType.name).templates,
        v.name = "default" := by
    change ∃ v ∈ [defaultVariant, { name := "constructor" }], v.name = "default"
    exact ⟨defaultVariant, List.mem_cons_self, rfl⟩
  have hwarnings : ∀ f ∈ storedType.fields, ∀ names,
      .noStorage storedType.name f.name names ∉
        storageWarnings (make setterSettings .passthrough).settings := by
    have hnone : storageWarnings (make setterSettings .passthrough).settings = [] := by
      decide
    intro f _ names
    rw [hnone]
    exact List.not_mem_nil
  have hlines : StaysOnLines (make setterSettings .passthrough) storedType :=
    ⟨by decide +kernel, by decide +kernel, by decide +kernel, by decide +kernel,
      by decide +kernel⟩
  refine ⟨_, hrun, by decide +kernel, ?_⟩
  refine renderType_storedFields hpackaged rfl huses hdefault hwarnings (by decide) (by decide)
    hlines {} [] ?_ (isFaithful_initialState []) hrun
  intro name timeout? hexternal
  have hformatter : Formatter.passthrough = .program name timeout? := hexternal
  cases hformatter

/-- A reason that goes on with a brace closes the struct before the field that an accessor uses. -/
theorem renderType_retiredType_lacksField :
    plainGenerator.IsPackaged ∧
    plainGenerator.UsesPackaged (retiredType "Old\n\x7d\ntype Other struct \x7b") ∧
    storageWarnings plainGenerator.settings = [] ∧
    ∃ text, ((plainGenerator.renderType {} []
        (retiredType "Old\n\x7d\ntype Other struct \x7b")).run (initialState [])).1 = .ok text ∧
      "url".toList ∈ usedFields "Post" text ∧ "url".toList ∉ structFields "Post" text := by
  have hpackaged : plainGenerator.IsPackaged := isPackaged_make rfl _
  have huses : plainGenerator.UsesPackaged (retiredType "Old\n\x7d\ntype Other struct \x7b") :=
    ⟨by decide, by decide⟩
  have hrun := ((isPlain_retiredType "Old\n\x7d\ntype Other struct \x7b").settles_object rfl {}
    []).result (isFaithful_initialState [])
  exact ⟨hpackaged, huses, by decide, _, hrun, by decide +kernel⟩

end ResolverGen.Go
