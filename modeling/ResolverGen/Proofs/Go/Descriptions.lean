import ResolverGen.Proofs.Go.MemberBlocks
import ResolverGen.Proofs.Go.RewordedTypes
import ResolverGen.Proofs.Go.SameCode
import ResolverGen.Proofs.Go.TypeLines

/-!
# Descriptions

A description is written as comments: that of a type stands before the line that opens the type,
that of a field before the field, or before the comment of its deprecation. So types that differ in
descriptions only come to files with the same code.
-/
namespace ResolverGen.Go

open Text Formatter Go.Generator

/-- A type without its description and those of its fields. -/
def undescribed (t : SchemaType) : SchemaType :=
  reworded none (fun f => { f with description? := none }) t

theorem keepsTypes_undescribed :
    KeepsTypes fun f : SchemaField => { f with description? := none } :=
  fun _ => ⟨rfl, rfl⟩

section

variable {g : Generator} {t : SchemaType}

theorem rendersByDefault_undescribed_iff :
    RendersByDefault g (undescribed t) ↔ RendersByDefault g t :=
  rendersByDefault_reworded_iff keepsTypes_undescribed

theorem hasParts_undescribed_iff : g.HasParts (undescribed t) ↔ g.HasParts t :=
  hasParts_reworded_iff keepsTypes_undescribed

theorem fieldNames_undescribed_iff :
    (∀ f ∈ (undescribed t).fields, IsSchemaName f.name) ↔ ∀ f ∈ t.fields, IsSchemaName f.name :=
  forall_mem_reworded fun f => IsSchemaName f.name

end

/-! ## What stands behind a description -/

/-- Texts with different descriptions before a line that is not blank hold the same code. -/
theorem sameCode_description (comments : Bool) (d d' : String) (before : List Char) {c : Char}
    (hc : isBlank c = false) (s : List Char) :
    SameCode (lines (before ++ '\n' :: (ended (descriptionLines comments d) ++ c :: s)))
      (lines (before ++ '\n' :: (ended (descriptionLines comments d') ++ c :: s))) := by
  have hlines (d : String) :
      lines (before ++ '\n' :: (ended (descriptionLines comments d) ++ c :: s)) =
        lines before ++ (descriptionLines comments d ++ lines (c :: s)) := by
    rw [lines_append, lines_ended_append fun l hl => not_mem_of_mem_descriptionLines hl]
  obtain ⟨l, ms, hfirst, hl⟩ := exists_kept_first hc s
  rw [hlines, hlines, hfirst]
  exact (SameCode.refl _).append (.comments (fun _ => isCommentLine_of_mem_descriptionLines)
    (fun _ => isCommentLine_of_mem_descriptionLines) hl (.refl ms))

variable {g : Generator} {t : SchemaType} {f : SchemaField} {goType : SchemaField → String}

/-- The comment of a deprecation and the field behind it open with a line that is not blank. -/
theorem exists_kept_member (comments : Bool) (kind : TypeKind) (goType : String)
    (hn : IsSchemaName f.name) :
    ∃ l ms, (deprecationLines comments (f.deprecation?.getD "")).map movedIn ++
      declaredLines kind f goType = l :: ms ∧ IsKept l := by
  unfold deprecationLines
  split
  · obtain ⟨l, ms, hlines, hl⟩ := exists_kept_first (c := '/') (by decide)
      ("/ Deprecated: ".toList ++ (f.deprecation?.getD "").toList)
    refine ⟨movedIn l, ms.map movedIn ++ declaredLines kind f goType, ?_, isKept_movedIn hl⟩
    rw [String.toList_append]
    change (lines ('/' :: ("/ Deprecated: ".toList ++ _))).map movedIn ++ _ = _
    rw [hlines]
    rfl
  · obtain ⟨l, ms, hopens, hl⟩ := (isBlock_declaredLines kind goType hn).opens
    exact ⟨l, ms, hopens, hl⟩

/-- A field with and without its description holds the same code. -/
theorem sameCode_memberBlockOf (comments : Bool) (kind : TypeKind)
    (hgo : goType { f with description? := none } = goType f) (hn : IsSchemaName f.name) :
    SameCode (memberBlockOf comments kind goType f).lines
      (memberBlockOf comments kind goType { f with description? := none }).lines := by
  obtain ⟨l, ms, hopens, hl⟩ := exists_kept_member comments kind (goType f) hn
  have hdescribed : (memberBlockOf comments kind goType f).lines =
      (descriptionLines comments (f.description?.getD "")).map movedIn ++ l :: ms := by
    rw [← hopens]
    simp [memberBlockOf, Block.lines, commentLines]
  have hbare : (memberBlockOf comments kind goType { f with description? := none }).lines =
      l :: ms := by
    rw [← hopens, ← hgo]
    simp [memberBlockOf, Block.lines, commentLines, descriptionLines, declaredLines]
  rw [hdescribed, hbare]
  refine .comments ?_ (by simp : ∀ d ∈ [], isCommentLine d = true) hl (.refl ms)
  simp only [List.forall_mem_map, isCommentLine_movedIn]
  exact fun _ => isCommentLine_of_mem_descriptionLines

/-! ## Types -/

/-- What a type with members opens with is the same but for its description. -/
theorem sameCode_headText (package : String) (comments : Bool) (t : SchemaType)
    (imports : List Json) :
    SameCode (lines (headText package comments t imports).toList)
      (lines (headText package comments (undescribed t) imports).toList) := by
  have htext : ∃ s, ∀ u : SchemaType, u.kind = t.kind → u.name = t.name →
      (headText package comments u imports).toList =
        ("package " ++ package ++ "\n" ++ importText imports).toList ++
          '\n' :: (ended (descriptionLines comments (u.description?.getD "")) ++ 't' :: s) := by
    refine ⟨("ype " ++ (if t.kind = .interface then t.name ++ " interface"
      else resolverName t.name ++ " struct") ++ " \x7b").toList, fun u hkind hname => ?_⟩
    unfold headText
    rw [hkind, hname]
    split <;> simp [toList_descriptionText]
  obtain ⟨s, htext⟩ := htext
  rw [htext t rfl rfl, htext (undescribed t) rfl rfl]
  exact sameCode_description comments _ _ _ (by decide) s

/-- A scalar is the same but for its description. -/
theorem sameCode_scalarText (before : List Char) (comments : Bool) (t : SchemaType) :
    SameCode (lines (before ++ (scalarText comments t).toList))
      (lines (before ++ (scalarText comments (undescribed t)).toList)) := by
  obtain ⟨s, hs⟩ : ∃ s, ended [structLine t.name] ++ ended (scalarLines t.name) = 't' :: s := by
    unfold structLine
    rw [String.toList_append, String.toList_append]
    exact ⟨_, rfl⟩
  have htext : ∀ u : SchemaType, u.name = t.name → (scalarText comments u).toList =
      '\n' :: (ended (descriptionLines comments (u.description?.getD "")) ++ 't' :: s) := by
    intro u hname
    rw [toList_scalarText, toList_descriptionText, hname, hs]
    rfl
  rw [htext t rfl, htext (undescribed t) rfl]
  exact sameCode_description comments _ _ _ (by decide) s

/-- A type and the type without descriptions are written with the same code. -/
theorem sameCode_packagedCode (hfields : ∀ f ∈ t.fields, IsSchemaName f.name) (package : String)
    (hgo : ∀ f : SchemaField, goType { f with description? := none } = goType f) :
    SameCode (lines (g.packagedCode package t goType).toList)
      (lines (g.packagedCode package (undescribed t) goType).toList) := by
  have himports : g.fieldImports (undescribed t) = g.fieldImports t :=
    fieldImports_reworded keepsTypes_undescribed
  have hmethods : (packagedFields g (undescribed t) goType).map (·.method) =
      (packagedFields g t goType).map (·.method) := methods_reworded keepsTypes_undescribed hgo
  have hbareFields := fieldNames_undescribed_iff.mpr hfields
  have hbare : (undescribed t).kind = t.kind := rfl
  by_cases hkind : t.kind = .scalar
  · have hinterface : ¬t.kind = .interface := by simp [hkind]
    have hcode (u : SchemaType) : ("package " ++ package ++ "\n" ++ importText (g.fieldImports t) ++
        scalarText g.settings.addComments.isGiven u).toList =
          ("package " ++ package ++ "\n" ++ importText (g.fieldImports t)).toList ++
            (scalarText g.settings.addComments.isGiven u).toList := String.toList_append
    unfold packagedCode typeText
    rw [himports, hbare, if_neg hinterface, if_neg hinterface, if_pos hkind, if_pos hkind, hcode,
      hcode]
    exact sameCode_scalarText _ _ t
  · have hapart {t : SchemaType} (hfields : ∀ f ∈ t.fields, IsSchemaName f.name) :
        ∀ b ∈ t.fields.map (memberBlockOf g.settings.addComments.isGiven t.kind goType),
          b.IsApart := by
      intro b hb
      obtain ⟨f, hf, rfl⟩ := List.mem_map.mp hb
      exact isApart_memberBlockOf _ _ _ (hfields f hf)
    rw [lines_of_blocks (hapart hfields) (toList_packagedCode_blocks hkind hfields package goType),
      lines_of_blocks (hapart hbareFields)
        (toList_packagedCode_blocks (t := undescribed t) hkind hbareFields package goType),
      himports, hmethods]
    refine (sameCode_headText package _ t _).append (.append ?_ (.refl _))
    unfold undescribed reworded
    rw [List.flatMap_map, List.flatMap_map, List.flatMap_map]
    exact .flatMap fun f hf => sameCode_memberBlockOf _ t.kind (hgo f) (hfields f hf)

/-! ## Files -/

variable {s : RunState}

/-- If its parts can be written, a type comes to a file, and without descriptions it comes to one
with the same code. -/
theorem exists_undescribed_file (h : g.IsPackaged) (hdefault : RendersByDefault g t)
    (hformatter : TidiesOnly g.formatter) (hfields : ∀ f ∈ t.fields, IsSchemaName f.name)
    (files : Files) (programs : Programs) (hs : IsFaithful s) (hparts : g.HasParts t) :
    ∃ file bare, ((g.renderType files programs t).run s).1 = .ok file ∧
      ((g.renderType files programs (undescribed t)).run s).1 = .ok bare ∧
      codeLines file = codeLines bare := by
  have hbareDefault := rendersByDefault_undescribed_iff.mpr hdefault
  have hbareParts := hasParts_undescribed_iff.mpr hparts
  have hsame : SameCode (lines (g.packagedCode g.settings.packageName.plain t
      fun f => goTypeOf g.scalars f.type).toList) _ :=
    sameCode_packagedCode hfields g.settings.packageName.plain fun _ => rfl
  obtain ⟨file, bare, hfile, hbare, hcode⟩ := hsame.codeLines_format hformatter programs
  refine ⟨file, bare, ?_, ?_, hcode⟩
  · rw [h.renderType_ok_iff files hdefault.usesPackaged hs, hdefault.variantCode_eq]
    exact ⟨hparts, hfile⟩
  · rw [h.renderType_ok_iff files hbareDefault.usesPackaged hs, hbareDefault.variantCode_eq]
    exact ⟨hbareParts, hbare⟩

/-- Types that differ in descriptions only come to files with the same code, apart from comments. -/
theorem renderType_descriptions {u : SchemaType} (h : g.IsPackaged)
    (hdefault : RendersByDefault g t) (hformatter : TidiesOnly g.formatter)
    (hfields : ∀ f ∈ t.fields, IsSchemaName f.name) (hsame : undescribed t = undescribed u)
    (files : Files) (programs : Programs) (hs : IsFaithful s) {file : String}
    (hrun : ((g.renderType files programs t).run s).1 = .ok file) :
    ∃ file', ((g.renderType files programs u).run s).1 = .ok file' ∧
      codeLines file = codeLines file' := by
  have hparts := ((h.renderType_ok_iff files hdefault.usesPackaged hs programs file).mp hrun).1
  have hdefault' : RendersByDefault g u := by
    rw [← rendersByDefault_undescribed_iff, ← hsame, rendersByDefault_undescribed_iff]
    exact hdefault
  have hparts' : g.HasParts u := by
    rw [← hasParts_undescribed_iff, ← hsame, hasParts_undescribed_iff]
    exact hparts
  have hfields' : ∀ f ∈ u.fields, IsSchemaName f.name := by
    rw [← fieldNames_undescribed_iff, ← hsame, fieldNames_undescribed_iff]
    exact hfields
  obtain ⟨out, bare, hout, hbare, hcode⟩ :=
    exists_undescribed_file h hdefault hformatter hfields files programs hs hparts
  obtain ⟨file', bare', hfile', hbare', hcode'⟩ :=
    exists_undescribed_file h hdefault' hformatter hfields' files programs hs hparts'
  obtain rfl : out = file := Except.ok.inj (hout.symm.trans hrun)
  rw [hsame, hbare'] at hbare
  obtain rfl := Except.ok.inj hbare
  exact ⟨file', hfile', hcode.trans hcode'.symm⟩

/-- An interface with a description for itself and for a field that is deprecated. -/
def describedType (description fieldDescription : Option String) : SchemaType where
  kind := .interface
  name := "Post"
  description? := description
  fields :=
    [{ name := "url", type := .named .scalar "String", owner := "Post",
       description? := fieldDescription, deprecation? := some "Old\nlegacy() *string" },
      { name := "id", type := .nonNull (.named .scalar "ID"), owner := "Post" }]

/-- Blank lines in descriptions leave the code alone, also where a reason brings a line of code. -/
theorem renderType_descriptions_describedType :
    ∃ file file',
      ((plainGenerator.renderType {} []
        (describedType (some " A post.\n\n\x7d\n") (some " \n"))).run (initialState [])).1 =
          .ok file ∧
      ((plainGenerator.renderType {} [] (describedType none none)).run (initialState [])).1 =
        .ok file' ∧
      codeLines file = codeLines file' := by
  have hpackaged : plainGenerator.IsPackaged := isPackaged_make rfl _
  have hdefault : RendersByDefault plainGenerator
      (describedType (some " A post.\n\n\x7d\n") (some " \n")) := rendersByDefault_of_unset rfl
  have hparts : plainGenerator.HasParts
      (describedType (some " A post.\n\n\x7d\n") (some " \n")) := by
    refine ⟨?_, by decide +kernel, by decide +kernel⟩
    intro f hf
    rcases List.mem_cons.mp hf with rfl | hf
    · exact ⟨_, rfl⟩
    · rw [List.mem_singleton.mp hf]
      exact ⟨_, rfl⟩
  have hrun := (hpackaged.renderType_ok_iff {} hdefault.usesPackaged (isFaithful_initialState []) []
    _).mpr ⟨hparts, rfl⟩
  obtain ⟨file', hrun', hcode⟩ := renderType_descriptions (u := describedType none none) hpackaged
    hdefault (Or.inr rfl) (by decide) rfl {} [] (isFaithful_initialState []) hrun
  exact ⟨_, file', hrun, hrun', hcode⟩

end ResolverGen.Go
