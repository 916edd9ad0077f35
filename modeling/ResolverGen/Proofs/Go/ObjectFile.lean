import ResolverGen.Proofs.Go.TypeFile

/-!
# The file of an object type

The file of an object type that is not configured, rendered with the packaged templates: the package
clause, the imports, the resolver struct with a field for each field of the type, and an accessor
for each.
-/
namespace ResolverGen.Go

open Text Formatter Go.Generator Template

/-- The file of an object type. -/
def objectText (formatter : Formatter) (package : String) (comments : Bool) (imports : List Json)
    (t : SchemaType) (goType : SchemaField → String) : String :=
  "package " ++ package ++ "\n" ++ importText imports ++ "\n" ++
    descriptionText comments (t.description?.getD "") ++ "type " ++ resolverName t.name ++
    " struct \x7b\n" ++
    String.join (t.fields.map fun f =>
      memberBlock formatter comments f (storageName f.name ++ " " ++ goType f)) ++ "\x7d\n" ++
    String.join (t.fields.map fun f => accessorText t.name f.name (goType f))

/-- The lines of an accessor with an empty one before. -/
def methodLines (typeName fieldName goType : String) : List (List Char) :=
  [] :: (accessorLines typeName fieldName goType ++ [['\x7d']])

section

variable {typeName fieldName goType : String}

/-- The accessors that default variants write for a field, one for each. -/
def accessorsText (typeName fieldName goType : String) (variants : List Variant) : String :=
  String.join (variants.map fun _ => accessorText typeName fieldName goType)

theorem toList_accessorsText (typeName fieldName goType : String) (variants : List Variant) :
    (accessorsText typeName fieldName goType variants).toList =
      ended (variants.flatMap fun _ => methodLines typeName fieldName goType) :=
  toList_join fun _ _ => toList_accessorText typeName fieldName goType

/-- Accessors behind a brace end in one. -/
theorem exists_brace_last (typeName fieldName goType : String) (variants : List Variant) :
    ∃ ls, ['\x7d'] :: (variants.flatMap fun _ => methodLines typeName fieldName goType) =
      ls ++ [['\x7d']] := by
  induction variants with
  | nil => exact ⟨[], rfl⟩
  | cons v rest ih =>
    obtain ⟨ls, hls⟩ := ih
    refine ⟨['\x7d'] :: [] :: (accessorLines typeName fieldName goType ++ ls), ?_⟩
    rw [List.flatMap_cons]
    generalize (rest.flatMap fun _ => methodLines typeName fieldName goType) = more at hls ⊢
    unfold methodLines
    rw [List.cons_append, List.append_assoc, List.singleton_append, hls]
    simp

/-- Accessors stand after their type as they are written. -/
theorem methodText_accessorsText (variants : List Variant) :
    methodText (accessorsText typeName fieldName goType variants) =
      accessorsText typeName fieldName goType variants := by
  cases variants with
  | nil => rfl
  | cons v rest =>
    obtain ⟨ls, hls⟩ := exists_brace_last typeName fieldName goType rest
    have hsolid : IsSolid ['\x7d'] := isSolid_of_getLast rfl (by decide)
    have hhead : ∀ c, (ended (accessorLines typeName fieldName goType ++ ls)).head? = some c →
        isBlank c = false := by
      intro c hc
      unfold accessorLines accessorComment at hc
      obtain rfl : '/' = c := by simpa using hc
      decide
    have hbare : IsBare (ended (accessorLines typeName fieldName goType ++ ls) ++ ['\x7d']) :=
      hsolid.isBare_append hhead fun c hc => hsolid.isBlank_of_getLast hc
    refine methodText_eq_self ?_ hbare (List.append_ne_nil_of_right_ne_nil _ hsolid.2)
    rw [toList_accessorsText, List.flatMap_cons]
    generalize (rest.flatMap fun _ => methodLines typeName fieldName goType) = more at hls ⊢
    unfold methodLines
    rw [List.cons_append, List.append_assoc, List.singleton_append, hls]
    simp

/-- An accessor stands after its type as it is written. -/
theorem methodText_accessorText (typeName fieldName goType : String) :
    methodText (accessorText typeName fieldName goType) =
      accessorText typeName fieldName goType := by
  have hone : accessorsText typeName fieldName goType [defaultVariant] =
      accessorText typeName fieldName goType := by
    unfold accessorsText
    simp [String.join_cons]
  rw [← hone]
  exact methodText_accessorsText [defaultVariant]

end

/-- What the file of an object type is put together of. -/
def objectLayout (package : String) (comments : Bool) (imports : List Json) (t : SchemaType)
    (goType : SchemaField → String) : Layout where
  package
  comments
  imports
  description := t.description?.getD ""
  opening := "type " ++ resolverName t.name ++ " struct \x7b"
  fields := t.fields
  member f := storageName f.name ++ " " ++ goType f
  after := t.fields.flatMap fun f => methodLines t.name f.name (goType f)

variable {g : Generator} {package : String} {t : SchemaType} {goType : SchemaField → String}

theorem toList_accessors (t : SchemaType) (goType : SchemaField → String) :
    (String.join (t.fields.map fun f => accessorText t.name f.name (goType f))).toList =
      ended (t.fields.flatMap fun f => methodLines t.name f.name (goType f)) :=
  toList_join fun f _ => toList_accessorText t.name f.name (goType f)

/-- The file of an object type is made of the lines of its layout. -/
theorem toList_objectText (formatter : Formatter) (package : String) (comments : Bool)
    (imports : List Json) (t : SchemaType) (goType : SchemaField → String) :
    (objectText formatter package comments imports t goType).toList =
      ended ((objectLayout package comments imports t goType).lines formatter.leaves) := by
  have hmembers : (String.join (t.fields.map fun f =>
      memberBlock formatter comments f (storageName f.name ++ " " ++ goType f))).toList =
      ended (t.fields.flatMap fun f =>
        memberLines formatter.leaves comments f (storageName f.name ++ " " ++ goType f)) :=
    toList_join fun f _ => toList_memberBlock formatter comments f _
  unfold objectText objectLayout Layout.lines
  simp only [String.toList_append]
  rw [hmembers, toList_accessors, toList_importText, toList_descriptionText]
  simp

/-- What the packaged templates write for an object type is made of the lines of its layout. -/
theorem toList_packagedCode_object (h : IsPlain g package t goType) (hkind : t.kind = .object) :
    (g.packagedCode package t goType).toList =
      ended ((objectLayout package g.settings.addComments.isGiven (g.fieldImports t) t goType).lines
        id) := by
  have hinterface : ¬t.kind = .interface := by
    rw [hkind]
    decide
  have hscalar : ¬t.kind = .scalar := by
    rw [hkind]
    decide
  have hmembers := toList_members (g := g) h.fields h.isLineEnd
  unfold declaredText at hmembers
  simp only [if_neg hinterface] at hmembers
  have haccessors : ((packagedFields g t goType).map (·.method)).map methodText =
      t.fields.map fun f => accessorText t.name f.name (goType f) := by
    unfold packagedFields
    rw [List.map_map, List.map_map]
    apply List.map_congr_left
    intro f _
    rw [Function.comp_apply, Function.comp_apply, packagedField_method _ _ _ _ hinterface,
      methodText_accessorText]
  unfold packagedCode typeText
  rw [if_neg hinterface, if_neg hscalar]
  unfold structText objectLayout Layout.lines
  rw [haccessors]
  simp only [String.toList_append]
  rw [hmembers, toList_accessors, toList_importText, toList_descriptionText]
  simp

theorem isTidy_objectLayout (h : IsPlain g package t goType) (hkind : t.kind = .object)
    (comments : Bool) : (objectLayout package comments (g.fieldImports t) t goType).IsTidy where
  package := h.package
  imports := h.imports
  opening := by
    have hbrace : IsLine " struct \x7b".toList :=
      ⟨isSolid_of_getLast (c := '\x7b') rfl (by decide), by decide⟩
    have hname : '\n' ∉ ("type " ++ resolverName t.name).toList := by
      unfold resolverName resolverSuffix
      simp [h.name]
    unfold objectLayout IsLineEnd
    rw [String.toList_append]
    exact hbrace.prepend hname
  members := by
    have hmembers := h.members t.kind
    unfold declaredText at hmembers
    rwa [hkind] at hmembers
  settled := Settled.flatMap fun f hf => settled_accessorLines (h.fields f hf)
  after := by
    intro l hl
    obtain ⟨f, hf, hl⟩ := List.mem_flatMap.mp hl
    unfold methodLines at hl
    rcases List.mem_cons.mp hl with hl | hl
    · simp [hl]
    · rcases List.mem_append.mp hl with hl | hl
      · exact not_mem_accessorLines h.name (h.fields f hf) (h.isLineEnd f hf).2 hl
      · rw [List.mem_singleton.mp hl]
        decide

/-- An object type comes to its file, whatever was rendered before. -/
theorem IsPlain.settles_object (h : IsPlain g package t goType) (hkind : t.kind = .object)
    (files : Files) (programs : Programs) :
    Settles IsFaithful (g.renderType files programs t)
      (.ok (objectText g.formatter package g.settings.addComments.isGiven (g.fieldImports t) t
        goType)) :=
  h.settles (isTidy_objectLayout h hkind _) (toList_packagedCode_object h hkind)
    (toList_objectText _ _ _ _ _ _) files programs

/-- An object type that is not configured comes to the package clause, its imports, its struct with
the fields in order, and their accessors. -/
theorem renderType_object (h : IsPlain g package t goType) (hkind : t.kind = .object)
    (files : Files) (programs : Programs) {s : RunState} (hs : IsFaithful s) :
    ((g.renderType files programs t).run s).1 =
      .ok (objectText g.formatter package g.settings.addComments.isGiven (g.fieldImports t) t
        goType) :=
  (h.settles_object hkind files programs).result hs

/-- A type with a field that brings an import and one that may be null. -/
def postType : SchemaType where
  kind := .object
  name := "Post"
  fields :=
    [{ name := "id", type := .nonNull (.named .scalar "ID"), owner := "Post" },
      { name := "tags", type := .listOf (.nonNull (.named .scalar "String")), owner := "Post" }]

theorem renderType_postType :
    ((plainGenerator.renderType {} [] postType).run (initialState [])).1 =
      .ok ("package resolvers\n\nimport (\n\tgraphql \"github.com/neelance/graphql-go\"\n)\n\n" ++
        "type PostResolver struct \x7b\n\tid graphql.ID\n\ttags *[]string\n\x7d\n\n" ++
        "// ID resolves Post.id.\nfunc (r *PostResolver) ID() graphql.ID \x7b\n" ++
        "\treturn r.id\n\x7d\n\n// Tags resolves Post.tags.\n" ++
        "func (r *PostResolver) Tags() *[]string \x7b\n\treturn r.tags\n\x7d\n") := by
  have hplain : IsPlain plainGenerator "resolvers" postType
      fun f => if f.name = "id" then "graphql.ID" else "*[]string" :=
    isPlain_plainGenerator (by decide) (by decide) (by decide) (by decide +kernel)
  rw [renderType_object hplain rfl {} [] (isFaithful_initialState [])]
  decide +kernel

/-- A type with a field whose deprecation has a reason that ends in a blank. -/
def linkType : SchemaType where
  kind := .object
  name := "Post"
  fields :=
    [{ name := "url", type := .named .scalar "String", owner := "Post",
       deprecation? := some "Use link " }]

/-- A comment does not always stand as it was written: a blank at the end of its line is gone. -/
theorem renderType_linkType :
    ((plainGenerator.renderType {} [] linkType).run (initialState [])).1 ≠
      .ok ("package resolvers\n\ntype PostResolver struct \x7b\n" ++
        "\t// Deprecated: Use link \n\turl *string\n\x7d\n\n" ++
        "// Url resolves Post.url.\nfunc (r *PostResolver) Url() *string \x7b\n" ++
        "\treturn r.url\n\x7d\n") := by
  have hplain : IsPlain plainGenerator "resolvers" linkType fun _ => "*string" :=
    isPlain_plainGenerator (by decide) (by decide) (by decide) (by decide +kernel)
  rw [(hplain.settles_object rfl {} []).result (isFaithful_initialState [])]
  decide +kernel

end ResolverGen.Go
