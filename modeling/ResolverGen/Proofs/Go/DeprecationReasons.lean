import ResolverGen.Proofs.Go.MemberBlocks
import ResolverGen.Proofs.Go.ObjectFile
import ResolverGen.Proofs.Go.RewordedTypes

/-!
# Reasons of deprecations

The reason of a deprecation is written behind a mark as it is. The first of its lines is a comment;
the others stand in the type as lines of their own, and a file holds the same code with and without
the reason if and only if all of them are comments too.
-/
namespace ResolverGen.Go

open Text Formatter Go.Generator

variable {g : Generator} {t : SchemaType}

/-! ## Types without reasons -/

/-- A type without the deprecations of its fields. -/
def quiet (t : SchemaType) : SchemaType :=
  { t with fields := t.fields.map fun f => { f with deprecation? := none } }

theorem keepsTypes_quiet :
    KeepsTypes fun f : SchemaField => { f with deprecation? := none } :=
  fun _ => ⟨rfl, rfl⟩

theorem RendersByDefault.quiet (h : RendersByDefault g t) : RendersByDefault g (quiet t) :=
  (rendersByDefault_reworded_iff keepsTypes_quiet).mpr h

theorem hasParts_quiet_iff : g.HasParts (quiet t) ↔ g.HasParts t :=
  hasParts_reworded_iff keepsTypes_quiet

/-! ## Reasons -/

/-- All lines of a reason but the first are comments. -/
def IsQuietReason (reason : String) : Prop :=
  ∀ l ∈ (lines reason.toList).tail, isCommentLine l = true

instance (reason : String) : Decidable (IsQuietReason reason) :=
  inferInstanceAs (Decidable (∀ l ∈ (lines reason.toList).tail, isCommentLine l = true))

/-- The comment of a field holds nothing but comments if and only if the reason of its deprecation
does behind its first line. -/
theorem commentLines_iff (f : SchemaField) :
    (∀ l ∈ (commentLines true f).map movedIn, isCommentLine l = true) ↔
      IsQuietReason (f.deprecation?.getD "") := by
  have hmoved : (∀ l ∈ (commentLines true f).map movedIn, isCommentLine l = true) ↔
      ∀ l ∈ deprecationLines true (f.deprecation?.getD ""), isCommentLine l = true := by
    unfold commentLines
    simp only [List.forall_mem_map, isCommentLine_movedIn, List.forall_mem_append]
    exact and_iff_right fun l hl => isCommentLine_of_mem_descriptionLines hl
  rw [hmoved]
  unfold deprecationLines IsQuietReason
  by_cases hempty : f.deprecation?.getD "" = ""
  · rw [hempty]
    simp [lines, splitAt]
  · have hmark : '\n' ∉ "// Deprecated: ".toList := by decide
    obtain ⟨first, rest, hlines, hmarked⟩ :=
      exists_lines_append hmark (f.deprecation?.getD "").toList
    have hfirst : isCommentLine ("// Deprecated: ".toList ++ first) = true :=
      isCommentLine_iff.mpr ⟨[], " Deprecated: ".toList ++ first, by simp, rfl⟩
    rw [if_pos (by simpa using hempty), String.toList_append, hmarked, hlines]
    simp only [List.forall_mem_cons, List.tail_cons, hfirst, true_and]

/-- Lists put together of parts before others are those of the others if and only if the parts are
empty. -/
theorem flatMap_append_eq_iff {α β : Type} (p q : α → List β) (xs : List α) :
    (xs.flatMap fun x => p x ++ q x) = xs.flatMap q ↔ ∀ x ∈ xs, p x = [] := by
  constructor
  · intro h
    have hlength := congrArg List.length h
    have hle : ∀ ys : List α, (ys.flatMap q).length ≤ (ys.flatMap fun x => p x ++ q x).length := by
      intro ys
      induction ys with
      | nil => simp
      | cons y ys ih =>
        simp only [List.flatMap_cons, List.length_append]
        omega
    clear h
    induction xs with
    | nil => simp
    | cons x xs ih =>
      have hrest := hle xs
      simp only [List.flatMap_cons, List.length_append] at hlength
      rw [List.forall_mem_cons]
      exact ⟨List.length_eq_zero_iff.mp (by omega), ih (by omega)⟩
  · intro h
    rw [List.flatMap_def, List.flatMap_def]
    exact congrArg List.flatten
      (List.map_congr_left fun x hx => by rw [h x hx, List.nil_append])

/-- Without reasons a type has the same imports. -/
theorem fieldImports_quiet : g.fieldImports (quiet t) = g.fieldImports t :=
  fieldImports_reworded keepsTypes_quiet

/-- Without reasons a scalar is written in the same way. -/
theorem packagedCode_quiet_of_scalar (hkind : t.kind = .scalar) (package : String)
    (goType : SchemaField → String) :
    g.packagedCode package (quiet t) goType = g.packagedCode package t goType := by
  have hscalar : (quiet t).kind = .scalar := hkind
  unfold packagedCode typeText
  rw [fieldImports_quiet, if_neg (by rw [hscalar]; decide), if_pos hscalar,
    if_neg (by rw [hkind]; decide), if_pos hkind]
  rfl

/-- What formatting leaves of the code of a field. -/
def codeOfField (g : Generator) (t : SchemaType) (goType : SchemaField → String)
    (f : SchemaField) : List (List Char) :=
  codeOf (g.formatter.leaves (declaredLines t.kind f (goType f)))

/-- What formatting leaves of the comment of a field beside comments. -/
def codeOfComment (g : Generator) (f : SchemaField) : List (List Char) :=
  codeOf (g.formatter.leaves ((commentLines g.settings.addComments.isGiven f).map movedIn))

/-- The code of a type with members and that of the type without reasons differ in what the comments
of the fields bring. -/
theorem exists_codeLines_members (hkind : t.kind ≠ .scalar) (hformatter : TidiesOnly g.formatter)
    (hfields : ∀ f ∈ t.fields, IsSchemaName f.name) (package : String)
    (goType : SchemaField → String)
    (hgo : ∀ f : SchemaField, goType { f with deprecation? := none } = goType f)
    (programs : Programs) :
    ∃ before after file quietFile,
      g.formatter.format programs (g.packagedCode package t goType) = .ok file ∧
      g.formatter.format programs (g.packagedCode package (quiet t) goType) = .ok quietFile ∧
      codeLines file =
        before ++ (t.fields.flatMap fun f => codeOfComment g f ++ codeOfField g t goType f) ++
          after ∧
      codeLines quietFile =
        before ++
          (t.fields.flatMap fun f =>
            codeOfComment g { f with deprecation? := none } ++ codeOfField g t goType f) ++
          after := by
  obtain ⟨before, after, hcode⟩ := exists_codeLines hformatter
    (exists_last_headText package g.settings.addComments.isGiven t (g.fieldImports t))
    (exists_first_tailText t ((packagedFields g t goType).map (·.method))) programs
  have hquietFields : ∀ f ∈ (quiet t).fields, IsSchemaName f.name :=
    (forall_mem_reworded fun f => IsSchemaName f.name).mpr hfields
  have hmethods : (packagedFields g (quiet t) goType).map (·.method) =
      (packagedFields g t goType).map (·.method) := methods_reworded keepsTypes_quiet hgo
  have htext := toList_packagedCode_blocks hkind hfields (g := g) package goType
  have hquietText :=
    toList_packagedCode_blocks (t := quiet t) hkind hquietFields (g := g) package goType
  rw [hmethods, fieldImports_quiet] at hquietText
  have hblocks {t : SchemaType} (hfields : ∀ f ∈ t.fields, IsSchemaName f.name) :
      ∀ b ∈ t.fields.map (memberBlockOf g.settings.addComments.isGiven t.kind goType),
        b.IsApart := by
    intro b hb
    obtain ⟨f, hf, rfl⟩ := List.mem_map.mp hb
    exact isApart_memberBlockOf _ _ _ (hfields f hf)
  obtain ⟨file, hformat, hlines⟩ := hcode (hblocks hfields) htext
  obtain ⟨quietFile, hquietFormat, hquietLines⟩ := hcode (hblocks hquietFields) hquietText
  refine ⟨before, after, file, quietFile, hformat, hquietFormat, ?_, ?_⟩
  · rw [hlines, List.flatMap_map]
    rfl
  · rw [hquietLines, quiet, List.flatMap_map, List.flatMap_map]
    simp only [memberBlockOf, hgo]
    rfl

/-- A type comes to a file without the reasons of its deprecations too. Both hold the same code,
apart from comments, if and only if the type is a scalar or its reasons bring only comments. -/
theorem renderType_reasons (h : g.IsPackaged) (hdefault : RendersByDefault g t)
    (hcomments : g.settings.addComments.isGiven = true) (hformatter : TidiesOnly g.formatter)
    (hfields : ∀ f ∈ t.fields, IsSchemaName f.name) (files : Files) (programs : Programs)
    {s : RunState} (hs : IsFaithful s) {file : String}
    (hrun : ((g.renderType files programs t).run s).1 = .ok file) :
    ∃ quietFile, ((g.renderType files programs (quiet t)).run s).1 = .ok quietFile ∧
      (codeLines file = codeLines quietFile ↔
        t.kind = .scalar ∨ ∀ f ∈ t.fields, IsQuietReason (f.deprecation?.getD "")) := by
  obtain ⟨hparts, hfile⟩ :=
    (h.renderType_ok_iff files hdefault.usesPackaged hs programs file).mp hrun
  have hquiet (out : String) := (h.renderType_ok_iff files hdefault.quiet.usesPackaged hs programs
    out).mpr
  rw [hdefault.quiet.variantCode_eq] at hquiet
  rw [hdefault.variantCode_eq] at hfile
  have hquietParts := hasParts_quiet_iff.mpr hparts
  let goType := fun f : SchemaField => goTypeOf g.scalars f.type
  by_cases hkind : t.kind = .scalar
  · rw [packagedCode_quiet_of_scalar hkind] at hquiet
    exact ⟨file, hquiet file ⟨hquietParts, hfile⟩, by simp [hkind]⟩
  · obtain ⟨before, after, file', quietFile, hformat, hquietFormat, hlines, hquietLines⟩ :=
      exists_codeLines_members hkind hformatter hfields g.settings.packageName.plain
        goType (fun _ => rfl) programs
    obtain rfl : file' = file := Except.ok.inj (hformat.symm.trans hfile)
    refine ⟨quietFile, hquiet quietFile ⟨hquietParts, hquietFormat⟩, ?_⟩
    have hcomment (f : SchemaField) :
        codeOfComment g f = [] ↔ IsQuietReason (f.deprecation?.getD "") := by
      unfold codeOfComment
      rw [codeOf_leaves_eq_nil_iff hformatter, hcomments, commentLines_iff]
    have hnone : (t.fields.flatMap fun f =>
        codeOfComment g { f with deprecation? := none } ++ codeOfField g t goType f) =
          t.fields.flatMap (codeOfField g t goType) := by
      rw [flatMap_append_eq_iff]
      intro f _
      rw [hcomment]
      change IsQuietReason ""
      decide
    rw [hlines, hquietLines, hnone, List.append_left_inj, List.append_right_inj,
      flatMap_append_eq_iff, or_iff_right hkind]
    simp only [hcomment]

/-- A type with a field whose deprecation has a reason. -/
def retiredType (reason : String) : SchemaType where
  kind := .object
  name := "Post"
  fields :=
    [{ name := "url", type := .named .scalar "String", owner := "Post",
       deprecation? := some reason }]

theorem isPlain_retiredType (reason : String) :
    IsPlain plainGenerator "resolvers" (retiredType reason) fun _ => "*string" := by
  have hname : '\n' ∉ "Post".toList := by decide
  have hfield : IsSchemaName "url" := by decide
  have htype : typeExpression plainGenerator.scalars (.named .scalar "String") = .ok "*string" := by
    decide +kernel
  refine isPlain_plainGenerator hname ?_ ?_ ?_
  · intro f hf
    rw [List.mem_singleton.mp hf]
    exact hfield
  · intro f hf
    rw [List.mem_singleton.mp hf]
    change ∀ n ∈ ["String"], '\n' ∉ n.toList
    decide
  · intro f hf
    rw [List.mem_singleton.mp hf]
    exact htype

theorem renderType_reasons_retiredType :
    ∃ file quietFile,
      ((plainGenerator.renderType {} [] (retiredType "Old\n// Use link")).run
        (initialState [])).1 = .ok file ∧
      ((plainGenerator.renderType {} [] (quiet (retiredType "Old\n// Use link"))).run
        (initialState [])).1 = .ok quietFile ∧
      codeLines file = codeLines quietFile := by
  have hrun := ((isPlain_retiredType "Old\n// Use link").settles_object rfl {} []).result
    (isFaithful_initialState [])
  obtain ⟨quietFile, hquiet, hcode⟩ := renderType_reasons (isPackaged_make rfl _)
    (rendersByDefault_of_unset rfl) rfl (Or.inr rfl) (by decide) {} [] (isFaithful_initialState [])
    hrun
  exact ⟨_, quietFile, hrun, hquiet, hcode.mpr (Or.inr (by decide +kernel))⟩

/-- A second line of a reason stands in the struct: two types that differ in reasons only come to
different code. -/
theorem renderType_retiredType_differ :
    quiet (retiredType "Old") = quiet (retiredType "Old\nlegacy *string") ∧
    ∃ file file',
      ((plainGenerator.renderType {} [] (retiredType "Old")).run (initialState [])).1 = .ok file ∧
      ((plainGenerator.renderType {} [] (retiredType "Old\nlegacy *string")).run
        (initialState [])).1 = .ok file' ∧
      codeLines file ≠ codeLines file' := by
  have hrun (reason : String) := ((isPlain_retiredType reason).settles_object rfl {} []).result
    (isFaithful_initialState [])
  refine ⟨rfl, _, _, hrun "Old", hrun "Old\nlegacy *string", ?_⟩
  -- the second line of the reason is code in one file and not in the other
  refine ne_of_mem_of_not_mem' (a := "\tlegacy *string".toList) ?_ ?_ |>.symm
  · decide +kernel
  · decide +kernel

end ResolverGen.Go
