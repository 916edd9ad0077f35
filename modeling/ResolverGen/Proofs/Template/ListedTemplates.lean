import ResolverGen.Proofs.Tables
import ResolverGen.Proofs.Template.Shelves

/-!
# Listed templates

The listing of a store takes the names of files apart into variants, and a variant is looked up under
the name that it is put together to. Both agree for files at any depth: what is listed are the variants
that have a file on some shelf, and of each one the copy on the first such shelf is found.
-/
namespace ResolverGen.TemplateStore

open Text

variable {s : TemplateStore} {files : Files} {shelves : List Shelf} {scope : TemplateScope}
  {name text v : String}

/-! ## First copies -/

/-- The copy of a file on the first shelf that has it. -/
inductive FirstCopy (files : Files) (name : String) : List Shelf → String → Prop
  | here {shelf : Shelf} {rest : List Shelf} {text : String} :
      shelf.Holds files name text → FirstCopy files name (shelf :: rest) text
  | later {shelf : Shelf} {rest : List Shelf} {text : String} :
      (∀ other, ¬shelf.Holds files name other) → FirstCopy files name rest text →
        FirstCopy files name (shelf :: rest) text

theorem exists_firstCopy_iff :
    (∃ text, FirstCopy files name shelves text) ↔
      ∃ shelf ∈ shelves, ∃ text, shelf.Holds files name text := by
  induction shelves with
  | nil =>
    refine ⟨?_, by simp⟩
    rintro ⟨text, h⟩
    cases h
  | cons shelf rest ih =>
    rw [List.exists_mem_cons_iff, ← ih]
    constructor
    · rintro ⟨text, h⟩
      cases h with
      | here hholds => exact Or.inl ⟨text, hholds⟩
      | later _ hrest => exact Or.inr ⟨text, hrest⟩
    · intro h
      by_cases hholds : ∃ text, shelf.Holds files name text
      · obtain ⟨text, hholds⟩ := hholds
        exact ⟨text, .here hholds⟩
      · obtain ⟨text, hrest⟩ := h.resolve_left hholds
        exact ⟨text, .later (not_exists.mp hholds) hrest⟩

theorem sourceOn_of_firstCopy (htree : files.IsTree) (hsound : ∀ shelf ∈ shelves, shelf.IsSound files)
    (hname : IsDownward name) (h : FirstCopy files name shelves text) :
    sourceOn files name shelves = .ok (some text) := by
  induction h with
  | here hholds =>
    rw [sourceOn, Shelf.source_of_holds htree hname hholds]
    rfl
  | later hnot _ ih =>
    obtain ⟨hshelf, hrest⟩ := List.forall_mem_cons.mp hsound
    rw [sourceOn, Shelf.source_of_not_holds htree hshelf hname hnot]
    exact ih hrest

theorem sourceOn_of_not_held (htree : files.IsTree) (hsound : ∀ shelf ∈ shelves, shelf.IsSound files)
    (hname : IsDownward name) (h : ∀ shelf ∈ shelves, ∀ text, ¬shelf.Holds files name text) :
    sourceOn files name shelves = .ok none := by
  induction shelves with
  | nil => rfl
  | cons shelf rest ih =>
    obtain ⟨hshelf, hrest⟩ := List.forall_mem_cons.mp hsound
    obtain ⟨hnot, hothers⟩ := List.forall_mem_cons.mp h
    rw [sourceOn, Shelf.source_of_not_holds htree hshelf hname hnot]
    exact ih hrest hothers

/-! ## Names of variants -/

theorem slash_not_mem_label (scope : TemplateScope) : '/' ∉ scope.label.toList := by
  cases scope <;> decide

theorem toList_fileName (s : TemplateStore) (scope : TemplateScope) (v : String) :
    (s.fileName scope v).toList =
      scope.label.toList ++ '/' :: (v.toList ++ s.extension.toList) := by
  simp [fileName]

theorem opens_fileName (s : TemplateStore) (scope : TemplateScope) (v : String) :
    Shelf.Opens scope (s.fileName scope v) :=
  ⟨_, toList_fileName s scope v⟩

/-- The part before the first slash and the part behind it, which is not empty, are the whole name. -/
theorem takeWhile_slash_iff {name front back : List Char} (hfront : '/' ∉ front) (hback : back ≠ []) :
    name.takeWhile (· ≠ '/') = front ∧ (name.dropWhile (· ≠ '/')).drop 1 = back ↔
      name = front ++ '/' :: back := by
  constructor
  · rintro ⟨rfl, rfl⟩
    cases hrest : name.dropWhile (· ≠ '/') with
    | nil =>
      rw [hrest] at hback
      exact absurd rfl hback
    | cons c rest =>
      have hslash := List.head?_dropWhile_not (fun d : Char => decide (d ≠ '/')) name
      rw [hrest] at hslash
      obtain rfl : c = '/' := by simpa using hslash
      have hsplit := List.takeWhile_append_dropWhile (p := (· ≠ '/')) (l := name)
      rw [hrest] at hsplit
      exact hsplit.symm
  · rintro rfl
    have hpass : ∀ c ∈ front, decide (c ≠ '/') = true := by
      intro c hc
      simp only [decide_eq_true_eq]
      rintro rfl
      exact hfront hc
    rw [List.takeWhile_append_of_pos hpass, List.dropWhile_append_of_pos hpass]
    simp

/-- A name that is marked as that of a method. -/
def IsMethodName (v : String) : Prop := ∃ base, v = base ++ methodSuffix

theorem isSuffixOf_methodSuffix_iff :
    methodSuffix.toList.isSuffixOf v.toList = true ↔ IsMethodName v := by
  rw [List.isSuffixOf_iff_suffix]
  constructor
  · rintro ⟨base, hbase⟩
    exact ⟨String.ofList base, String.toList_injective (by simp [← hbase])⟩
  · rintro ⟨base, rfl⟩
    exact ⟨base.toList, by simp⟩

instance (v : String) : Decidable (IsMethodName v) :=
  decidable_of_iff _ isSuffixOf_methodSuffix_iff

/-- A name stands for a variant just if the variant has that file name and is none of a method. -/
theorem variantOf?_eq_some_iff (hext : s.extension ≠ "") :
    variantOf? s.extension scope name = some v ↔
      name = s.fileName scope v ∧ ¬IsMethodName v := by
  have hending : s.extension.toList ≠ [] := by simpa using hext
  have hlabel := slash_not_mem_label scope
  have hstem : ∀ stem ending : List Char,
      (stem ++ ending).take ((stem ++ ending).length - ending.length) = stem := by
    simp
  unfold variantOf?
  dsimp only
  rw [if_neg hending]
  constructor
  · intro h
    split at h
    · rename_i hmatch
      obtain ⟨hfirst, hsuffix⟩ := Bool.and_eq_true_iff.mp hmatch
      obtain ⟨stem, hfile⟩ := List.isSuffixOf_iff_suffix.mp hsuffix
      have hname := (takeWhile_slash_iff hlabel (by simp [hending])).mp
        ⟨of_decide_eq_true hfirst, hfile.symm⟩
      rw [← hfile, hstem] at h
      split at h
      · cases h
      · rename_i hmethod
        obtain rfl := Option.some.inj h
        refine ⟨String.toList_injective ?_, ?_⟩
        · rw [hname, toList_fileName, String.toList_ofList]
        · rwa [← isSuffixOf_methodSuffix_iff, String.toList_ofList]
    · cases h
  · rintro ⟨rfl, hmethod⟩
    obtain ⟨hfirst, hfile⟩ := (takeWhile_slash_iff hlabel (by simp [hending])).mpr
      (toList_fileName s scope v)
    have hsuffix : s.extension.toList.isSuffixOf (v.toList ++ s.extension.toList) = true :=
      List.isSuffixOf_iff_suffix.mpr (List.suffix_append _ _)
    have hnone : ¬methodSuffix.toList.isSuffixOf v.toList = true :=
      mt isSuffixOf_methodSuffix_iff.mp hmethod
    rw [hfirst, hfile, hsuffix, if_pos (by simp), hstem, if_neg hnone, String.ofList_toList]

/-- The method of a field variant has a name that leads down if the field has. -/
theorem isDownward_method (h : IsDownward (s.fileName scope v)) :
    IsDownward (s.fileName scope (v ++ methodSuffix)) := by
  have hname : (s.fileName scope v).toList =
      (scope.label ++ "/" ++ v).toList ++ s.extension.toList := by
    simp [fileName]
  have hmethod : (s.fileName scope (v ++ methodSuffix)).toList =
      (scope.label ++ "/" ++ v).toList ++ (methodSuffix.toList ++ s.extension.toList) := by
    simp [fileName]
  exact h.insert hname hmethod (by decide) (by decide)

/-! ## The listing -/

theorem mem_sorted {names : List String} : name ∈ sorted names ↔ name ∈ names := by
  rw [sorted, List.mem_mergeSort, Table.mem_distinct]

theorem isBefore_iff {a b : String} : isBefore a b = true ↔ a ≤ b := by
  rw [isBefore, Bool.not_eq_true', decide_eq_false_iff_not, String.not_lt]

theorem pairwise_sorted (names : List String) : (sorted names).Pairwise (· < ·) := by
  have hle : (sorted names).Pairwise fun a b => isBefore a b = true := by
    refine List.pairwise_mergeSort ?_ ?_ _
    · intro a b c hab hbc
      exact isBefore_iff.mpr (String.le_trans (isBefore_iff.mp hab) (isBefore_iff.mp hbc))
    · intro a b
      rw [Bool.or_eq_true, isBefore_iff, isBefore_iff]
      exact String.le_total a b
  have hnodup : (sorted names).Nodup :=
    (List.mergeSort_perm _ _).nodup_iff.mpr (Table.nodup_distinct names)
  refine (hle.and hnodup).imp ?_
  rintro a b ⟨hbefore, hne⟩
  by_contra hnot
  exact hne (String.le_antisymm (isBefore_iff.mp hbefore) (String.not_lt.mp hnot))

theorem mem_variants_iff (htree : files.IsTree) (hsound : ∀ shelf ∈ s.shelves, shelf.IsSound files)
    (hext : s.extension ≠ "") :
    v ∈ s.variants files scope ↔
      (∃ shelf ∈ s.shelves, ∃ text, shelf.Holds files (s.fileName scope v) text) ∧
        ¬IsMethodName v := by
  unfold variants
  rw [mem_sorted, List.mem_filterMap]
  simp only [variantOf?_eq_some_iff hext, List.mem_flatMap]
  constructor
  · rintro ⟨name, ⟨shelf, hshelf, hname⟩, rfl, hmethod⟩
    refine ⟨⟨shelf, hshelf, ?_⟩, hmethod⟩
    exact (Shelf.mem_names_iff htree (hsound shelf hshelf) (opens_fileName s scope v)).mp hname
  · rintro ⟨⟨shelf, hshelf, hholds⟩, hmethod⟩
    refine ⟨_, ⟨shelf, hshelf, ?_⟩, rfl, hmethod⟩
    exact (Shelf.mem_names_iff htree (hsound shelf hshelf) (opens_fileName s scope v)).mpr hholds

theorem listing_eq (hsound : ∀ shelf ∈ s.shelves, shelf.IsSound files) :
    s.listing files = .ok (s.list files) := by
  have hchecks : s.shelves.forM Shelf.checkName = .ok () :=
    forM_eq_ok_iff.mpr fun shelf hshelf => (hsound shelf hshelf).checkName
  unfold listing
  rw [hchecks]
  rfl

/-- The method that goes with a field variant: the copy on the first shelf that has one, or nothing. -/
def IsMethodOf (s : TemplateStore) (files : Files) (v method : String) : Prop :=
  FirstCopy files (s.fileName .field (v ++ methodSuffix)) s.shelves method ∨
    (∀ shelf ∈ s.shelves, ∀ text, ¬shelf.Holds files (s.fileName .field (v ++ methodSuffix)) text) ∧
      method = ""

theorem exists_isMethodOf (htree : files.IsTree) (hsound : ∀ shelf ∈ s.shelves, shelf.IsSound files)
    (hname : IsDownward (s.fileName .field v)) :
    ∃ method? : Option String,
      s.source files (s.fileName .field (v ++ methodSuffix)) = .ok method? ∧
        s.IsMethodOf files v (method?.getD "") := by
  have hmethod := isDownward_method hname
  by_cases hheld : ∃ text, FirstCopy files (s.fileName .field (v ++ methodSuffix)) s.shelves text
  · obtain ⟨text, hfirst⟩ := hheld
    exact ⟨some text, sourceOn_of_firstCopy htree hsound hmethod hfirst, Or.inl hfirst⟩
  · have hnone : ∀ shelf ∈ s.shelves, ∀ text,
        ¬shelf.Holds files (s.fileName .field (v ++ methodSuffix)) text := by
      intro shelf hshelf text hholds
      exact hheld (exists_firstCopy_iff.mpr ⟨shelf, hshelf, text, hholds⟩)
    exact ⟨none, sourceOn_of_not_held htree hsound hmethod hnone, Or.inr ⟨hnone, rfl⟩⟩

/-- A listed variant has a first copy, which is what is read under its name. -/
theorem exists_firstCopy_of_listed (htree : files.IsTree)
    (hsound : ∀ shelf ∈ s.shelves, shelf.IsSound files) (hext : s.extension ≠ "")
    (hv : v ∈ s.variants files scope) :
    IsDownward (s.fileName scope v) ∧
      ∃ text, FirstCopy files (s.fileName scope v) s.shelves text ∧
        s.source files (s.fileName scope v) = .ok (some text) := by
  obtain ⟨⟨shelf, hshelf, text, hholds⟩, -⟩ := (mem_variants_iff htree hsound hext).mp hv
  have hname : IsDownward (s.fileName scope v) :=
    Shelf.isDownward_of_holds (hsound shelf hshelf) (opens_fileName s scope v) hholds
  obtain ⟨first, hfirst⟩ := exists_firstCopy_iff.mpr ⟨shelf, hshelf, text, hholds⟩
  exact ⟨hname, first, hfirst, sourceOn_of_firstCopy htree hsound hname hfirst⟩

/-- The listing gives the variants of both scopes in order and each once: those that have a file on
some shelf and are none of a method. Every listed variant is found, with the copy on the first shelf
that has one; blanks and tabs around it are left away. The method of a field variant is chosen by
itself in the same way, and is empty if no shelf has one. -/
theorem listing_variants (htree : files.IsTree) (hsound : ∀ shelf ∈ s.shelves, shelf.IsSound files)
    (hext : s.extension ≠ "") :
    s.listing files =
        .ok [(.type, s.variants files .type), (.field, s.variants files .field)] ∧
      (∀ scope, (s.variants files scope).Pairwise (· < ·) ∧
        ∀ v, v ∈ s.variants files scope ↔
          (∃ shelf ∈ s.shelves, ∃ text, shelf.Holds files (s.fileName scope v) text) ∧
            ¬IsMethodName v) ∧
      (∀ v ∈ s.variants files .type, ∃ text,
        FirstCopy files (s.fileName .type v) s.shelves text ∧
          s.typeTemplate? files v = .ok (some (trimBody text))) ∧
      ∀ v ∈ s.variants files .field, ∃ text method,
        FirstCopy files (s.fileName .field v) s.shelves text ∧ s.IsMethodOf files v method ∧
          s.fieldTemplate? files v = .ok (some ⟨trimBody text, method⟩) := by
  refine ⟨listing_eq hsound, fun scope => ⟨pairwise_sorted _, fun v => ?_⟩, fun v hv => ?_,
    fun v hv => ?_⟩
  · exact mem_variants_iff htree hsound hext
  · obtain ⟨-, text, hfirst, hsource⟩ := exists_firstCopy_of_listed htree hsound hext hv
    refine ⟨text, hfirst, ?_⟩
    rw [typeTemplate?, hsource]
    rfl
  · obtain ⟨hname, text, hfirst, hsource⟩ := exists_firstCopy_of_listed htree hsound hext hv
    obtain ⟨method?, hlookup, hmethod⟩ := exists_isMethodOf htree hsound hname
    refine ⟨text, _, hfirst, hmethod, ?_⟩
    rw [fieldTemplate?, hsource]
    change (s.source files (s.fileName .field (v ++ methodSuffix)) >>= _) = _
    rw [hlookup]
    rfl

/-! ## A store over two directories -/

def layeredFiles : Files :=
  ⟨[(["mine"], .directory), (["mine", "type"], .directory), (["mine", "type", "wide"], .directory),
    (["mine", "type", "wide", "page.go.j2"], .file [32, 109, 9]),
    (["mine", "field"], .directory),
    (["mine", "field", "tag.method.go.j2"], .file [110]),
    (["shared"], .directory), (["shared", "type"], .directory),
    (["shared", "type", "wide"], .directory),
    (["shared", "type", "wide", "page.go.j2"], .file [111]),
    (["shared", "field"], .directory), (["shared", "field", "tag.go.j2"], .file [112])]⟩

def layeredStore : TemplateStore where
  shelves := [.directory ⟨"", ["mine"]⟩, .directory ⟨"", ["shared"]⟩, .packaged Go.packagedTemplates]
  extension := ".go.j2"

theorem isSound_layeredStore : ∀ shelf ∈ layeredStore.shelves, shelf.IsSound layeredFiles := by
  have htexts : ∀ entry ∈ layeredFiles.nodes, entry.2.isText = true := by decide
  intro shelf hshelf
  simp only [layeredStore, List.mem_cons, List.not_mem_nil, or_false] at hshelf
  rcases hshelf with rfl | rfl | rfl
  · exact Shelf.isSound_directory (by decide) htexts
  · exact Shelf.isSound_directory (by decide) htexts
  · exact Go.isSound_packagedTemplates layeredFiles

/-- A page in a directory of its own has two copies, of which the first one counts; a field and its
method stand on different shelves. -/
theorem listing_variants_layered :
    layeredFiles.IsTree ∧ (∀ shelf ∈ layeredStore.shelves, shelf.IsSound layeredFiles) ∧
      layeredStore.extension ≠ "" ∧
      "wide/page" ∈ layeredStore.variants layeredFiles .type ∧
      (∃ text, FirstCopy layeredFiles "type/wide/page.go.j2" layeredStore.shelves text ∧
        layeredStore.typeTemplate? layeredFiles "wide/page" = .ok (some (trimBody text))) ∧
      "tag" ∈ layeredStore.variants layeredFiles .field ∧
      "tag.method" ∉ layeredStore.variants layeredFiles .field ∧
      ∃ text method, FirstCopy layeredFiles "field/tag.go.j2" layeredStore.shelves text ∧
        layeredStore.IsMethodOf layeredFiles "tag" method ∧
          layeredStore.fieldTemplate? layeredFiles "tag" = .ok (some ⟨trimBody text, method⟩) := by
  have htree : layeredFiles.IsTree := by decide
  have hext : layeredStore.extension ≠ "" := by decide
  obtain ⟨-, hvariants, htypes, hfields⟩ := listing_variants htree isSound_layeredStore hext
  have hpage : "wide/page" ∈ layeredStore.variants layeredFiles .type := by
    have hbelow : layeredFiles.HoldsBelow ⟨"", ["mine"]⟩ ["type", "wide", "page.go.j2"]
        [32, 109, 9] := ⟨by decide, ["mine"], by rfl, by decide⟩
    have hholds : (Shelf.directory ⟨"", ["mine"]⟩).Holds layeredFiles "type/wide/page.go.j2"
        " m\t" := .directory hbelow (by decide) (by rfl)
    exact ((hvariants .type).2 _).mpr ⟨⟨_, by simp [layeredStore], _, hholds⟩, by decide⟩
  have htag : "tag" ∈ layeredStore.variants layeredFiles .field := by
    have hbelow : layeredFiles.HoldsBelow ⟨"", ["shared"]⟩ ["field", "tag.go.j2"] [112] :=
      ⟨by decide, ["shared"], by rfl, by decide⟩
    have hholds : (Shelf.directory ⟨"", ["shared"]⟩).Holds layeredFiles "field/tag.go.j2" "p" :=
      .directory hbelow (by decide) (by rfl)
    exact ((hvariants .field).2 _).mpr ⟨⟨_, by simp [layeredStore], _, hholds⟩, by decide⟩
  have hmethod : "tag.method" ∉ layeredStore.variants layeredFiles .field := by
    intro hlisted
    exact (((hvariants .field).2 _).mp hlisted).2 (by decide)
  exact ⟨htree, isSound_layeredStore, hext, hpage, htypes _ hpage, htag, hmethod, hfields _ htag⟩

end ResolverGen.TemplateStore
