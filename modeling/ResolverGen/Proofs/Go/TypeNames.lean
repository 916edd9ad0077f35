import Mathlib.Data.List.Pairwise
import ResolverGen.Proofs.Go.DeclaredTypes
import ResolverGen.Proofs.Go.Implementations

/-!
# Names of Go types

The files of a run form one Go package, in which no two types may have one name and none that of a
reserved word. Resolver types are told apart by the types they belong to, but an interface brings
its own name into the package as it is. It is told which interfaces spoil a package.
-/
namespace ResolverGen.Go

open Text Formatter Go.Generator

variable {g : Generator} {t u : SchemaType} {n : String}

/-! ## Names in lines -/

/-- The name that a line declares, between the keyword and the blank after it. -/
def declaredName (l : List Char) : String := String.ofList ((l.drop 5).takeWhile (· ≠ ' '))

/-- The names of the Go types that a file declares. -/
def typeNames (text : String) : List String := (typeLines text).map declaredName

/-- The names of the Go types that belong to a type: an interface has its own beside. -/
def goNames (t : SchemaType) : List String :=
  if t.kind = .interface then [t.name, resolverName t.name] else [resolverName t.name]

theorem declaredName_of_line {word rest : String} (h : ' ' ∉ word.toList)
    (hrest : rest.toList.head? = some ' ') :
    declaredName ("type " ++ word ++ rest).toList = word := by
  obtain ⟨chars, hchars⟩ : ∃ chars, rest.toList = ' ' :: chars := by
    cases hr : rest.toList with
    | nil =>
      rw [hr] at hrest
      cases hrest
    | cons c chars =>
      rw [hr] at hrest
      obtain rfl : c = ' ' := Option.some.inj hrest
      exact ⟨chars, rfl⟩
  have hdrop : ("type " ++ word ++ rest).toList.drop 5 = word.toList ++ rest.toList := by
    rw [String.toList_append, String.toList_append, List.append_assoc]
    rfl
  have hword : ∀ c ∈ word.toList, decide (c ≠ ' ') = true := by
    intro c hc
    rw [decide_eq_true_iff]
    rintro rfl
    exact h hc
  unfold declaredName
  rw [hdrop, List.takeWhile_append_of_pos hword, hchars, List.takeWhile_cons_of_neg (by decide),
    List.append_nil, String.ofList_toList]

theorem IsSchemaName.not_mem_blank (h : IsSchemaName n) : ' ' ∉ n.toList := by
  intro hm
  have hblank := not_isBlank_of_isPlainChar (isPlainChar_of_mem h _ hm)
  exact absurd hblank (by decide)

theorem map_declaredName_typeHeads (h : IsSchemaName t.name) :
    (typeHeads t).map declaredName = goNames t := by
  have hresolver : ' ' ∉ (resolverName t.name).toList := by
    unfold resolverName resolverSuffix
    simp [h.not_mem_blank]
  have hstruct : declaredName (structLine t.name) = resolverName t.name :=
    declaredName_of_line hresolver (by decide)
  have hinterface : declaredName (interfaceLine t.name) = t.name :=
    declaredName_of_line h.not_mem_blank (by decide)
  unfold typeHeads goNames
  split
  · rw [List.map_cons, List.map_singleton, hinterface, hstruct]
  · rw [List.map_singleton, hstruct]

/-! ## Names that meet -/

theorem resolverName_inj {m n : String} : resolverName m = resolverName n ↔ m = n := by
  unfold resolverName
  rw [String.append_left_inj]

theorem ne_resolverName (n : String) : n ≠ resolverName n := by
  intro h
  have hlength := congrArg String.length h
  unfold resolverName resolverSuffix at hlength
  rw [String.length_append] at hlength
  have hsuffix : "Resolver".length = 8 := by decide
  omega

/-- No reserved word ends as the name of a resolver does. -/
theorem resolverName_not_mem (n : String) : resolverName n ∉ reservedWords := by
  have hmark : ∀ word ∈ reservedWords, 'R' ∉ word.toList := by decide
  intro h
  apply hmark _ h
  unfold resolverName
  rw [String.toList_append]
  exact List.mem_append_right _ (by decide)

theorem nodup_goNames (t : SchemaType) : (goNames t).Nodup := by
  unfold goNames
  split
  · rw [List.nodup_cons, List.mem_singleton]
    exact ⟨ne_resolverName t.name, List.nodup_singleton _⟩
  · exact List.nodup_singleton _

theorem mem_goNames :
    n ∈ goNames t ↔ (t.kind = .interface ∧ n = t.name) ∨ n = resolverName t.name := by
  unfold goNames
  split
  · rename_i hkind
    rw [List.mem_cons, List.mem_singleton, and_iff_right hkind]
  · rename_i hkind
    rw [List.mem_singleton, or_iff_right fun h => hkind h.1]

/-- Two types with different names bring different names into a package if and only if neither is an
interface with the name of the resolver of the other. -/
theorem disjoint_goNames_iff (hne : t.name ≠ u.name) :
    List.Disjoint (goNames t) (goNames u) ↔
      (t.kind = .interface → t.name ≠ resolverName u.name) ∧
        (u.kind = .interface → u.name ≠ resolverName t.name) := by
  constructor
  · intro h
    constructor
    · intro hkind hname
      exact h (mem_goNames.mpr (.inl ⟨hkind, rfl⟩)) (mem_goNames.mpr (.inr hname))
    · intro hkind hname
      exact h (mem_goNames.mpr (.inr hname)) (mem_goNames.mpr (.inl ⟨hkind, rfl⟩))
  · rintro ⟨ht, hu⟩ n hn hn'
    rcases mem_goNames.mp hn with ⟨hkind, rfl⟩ | rfl
    · rcases mem_goNames.mp hn' with ⟨_, hname⟩ | hname
      · exact hne hname
      · exact ht hkind hname
    · rcases mem_goNames.mp hn' with ⟨hkind, hname⟩ | hname
      · exact hu hkind hname.symm
      · exact hne (resolverName_inj.mp hname)

/-- The names that types bring into a package differ if and only if no interface among them has the
name of a resolver. -/
theorem nodup_flatMap_goNames_iff {types : List SchemaType} (h : (types.map (·.name)).Nodup) :
    (types.flatMap goNames).Nodup ↔
      ∀ i ∈ types, i.kind = .interface → ∀ t ∈ types, i.name ≠ resolverName t.name := by
  have hnames : types.Pairwise fun t u => t.name ≠ u.name := List.pairwise_map.mp h
  have hsymm : Std.Symm (Function.onFun List.Disjoint goNames) :=
    ⟨fun _ _ h _ hn hn' => h hn' hn⟩
  rw [List.nodup_flatMap, and_iff_right fun t _ => nodup_goNames t]
  constructor
  · intro hdisjoint i hi hkind t ht hname
    by_cases hsame : i = t
    · rw [hsame] at hname
      exact ne_resolverName t.name hname
    · have hapart : List.Disjoint (goNames i) (goNames t) :=
        hdisjoint.forall hi ht hsame
      exact hapart (mem_goNames.mpr (.inl ⟨hkind, rfl⟩)) (mem_goNames.mpr (.inr hname))
  · intro hfree
    refine hnames.imp_of_mem fun {t u} ht hu hne => ?_
    exact (disjoint_goNames_iff hne).mpr
      ⟨fun hkind => hfree t ht hkind u hu, fun hkind => hfree u hu hkind t ht⟩

/-- None of the names is reserved if and only if none of the interfaces has the name of a reserved
word. -/
theorem flatMap_goNames_not_mem_iff {types : List SchemaType} :
    (∀ n ∈ types.flatMap goNames, n ∉ reservedWords) ↔
      ∀ i ∈ types, i.kind = .interface → i.name ∉ reservedWords := by
  constructor
  · intro h i hi hkind
    exact h _ (List.mem_flatMap.mpr ⟨i, hi, mem_goNames.mpr (.inl ⟨hkind, rfl⟩)⟩)
  · intro h n hn
    obtain ⟨t, ht, hn⟩ := List.mem_flatMap.mp hn
    rcases mem_goNames.mp hn with ⟨hkind, rfl⟩ | rfl
    · exact h t ht hkind
    · exact resolverName_not_mem t.name

/-! ## Names in a run -/

/-- A run without settings for its types declares the names that belong to these, in order. -/
theorem typeNames_of_generate (h : g.IsPackaged) (hformatter : TidiesOnly g.formatter)
    (hg : IsOneLine g) {schema : Schema} (hn : ∀ t ∈ schema.types, HasSchemaNames t)
    (hunset : ∀ t ∈ g.eligible schema.types, g.settings.types.get? t.name = none) {files : Files}
    {programs : Programs} {s : RunState} (hs : IsFaithful s) {table : Table String}
    (hrun : ((g.generate files programs schema).run s).1 = .ok table) :
    table.flatMap (fun e => typeNames e.2) = (g.eligible schema.types).flatMap goNames := by
  obtain ⟨_, hlines⟩ := typeLines_of_generate h hformatter hg hn
    (fun t ht => usesDefault_of_unset (hunset t ht)) hs hrun
  have hnames : table.map (fun e => typeNames e.2) = (g.eligible schema.types).map goNames := by
    calc table.map (fun e => typeNames e.2)
        = (table.map fun e => typeLines e.2).map (·.map declaredName) := by
          rw [List.map_map]
          rfl
      _ = (g.eligible schema.types).map goNames := by
          rw [hlines, List.map_map]
          refine List.map_congr_left fun t ht => ?_
          have hvariants : (g.settings.type t.name).templates = [defaultVariant] := by
            unfold Settings.type
            rw [hunset t ht]
            rfl
          rw [Function.comp_apply, hvariants, List.flatMap_singleton]
          exact map_declaredName_typeHeads (hn t (mem_eligible.mp ht).1).name
  rw [List.flatMap_def, hnames, ← List.flatMap_def]

/-- The names that a run declares differ, and none of them is reserved, if and only if no interface
that gets a file has the name of a reserved word or of a resolver in the run. -/
theorem generate_typeNames (h : g.IsPackaged) (hformatter : TidiesOnly g.formatter)
    (hg : IsOneLine g) {schema : Schema} (hn : ∀ t ∈ schema.types, HasSchemaNames t)
    (hunset : ∀ t ∈ g.eligible schema.types, g.settings.types.get? t.name = none) (files : Files)
    (programs : Programs) {s : RunState} (hs : IsFaithful s) {table : Table String}
    (hrun : ((g.generate files programs schema).run s).1 = .ok table) :
    table.flatMap (fun e => typeNames e.2) = (g.eligible schema.types).flatMap goNames ∧
    ((table.flatMap fun e => typeNames e.2).Nodup ∧
        (∀ n ∈ table.flatMap fun e => typeNames e.2, n ∉ reservedWords) ↔
      ∀ i ∈ g.eligible schema.types, i.kind = .interface →
        i.name ∉ reservedWords ∧ ∀ t ∈ g.eligible schema.types, i.name ≠ resolverName t.name) := by
  obtain ⟨hnodup, _⟩ := typeLines_of_generate h hformatter hg hn
    (fun t ht => usesDefault_of_unset (hunset t ht)) hs hrun
  have hnames := typeNames_of_generate h hformatter hg hn hunset hs hrun
  refine ⟨hnames, ?_⟩
  rw [hnames, nodup_flatMap_goNames_iff hnodup, flatMap_goNames_not_mem_iff]
  constructor
  · rintro ⟨hfree, hreserved⟩ i hi hkind
    exact ⟨hreserved i hi hkind, hfree i hi hkind⟩
  · intro hboth
    exact ⟨fun i hi hkind => (hboth i hi hkind).2, fun i hi hkind => (hboth i hi hkind).1⟩

/-- A run without settings over types that have all their parts. -/
theorem exists_generate_plain (schema : Schema)
    (hnames : ((plainGenerator.eligible schema.types).map lowerName).Nodup)
    (hparts : ∀ t ∈ plainGenerator.eligible schema.types, plainGenerator.HasParts t) :
    ∃ table, ((plainGenerator.generate {} [] schema).run (initialState [])).1 = .ok table :=
  exists_generate (isPackaged_make rfl _) (Or.inr rfl) schema hnames
    (fun t ht => ⟨(usesDefault_of_unset rfl).usesPackaged, hparts t ht⟩) {} []
    (isFaithful_initialState [])

theorem isOneLine_plainGenerator : IsOneLine plainGenerator :=
  isOneLine_make _ (by decide) (by decide)

/-- An interface and a type behind it form a package. -/
theorem generate_typeNames_userType :
    ∃ table, ((plainGenerator.generate {} [] { types := [namedType, userType] }).run
        (initialState [])).1 = .ok table ∧
      (table.flatMap fun e => typeNames e.2).Nodup ∧
      ∀ n ∈ table.flatMap fun e => typeNames e.2, n ∉ reservedWords := by
  obtain ⟨table, htable⟩ := exists_generate_plain { types := [namedType, userType] }
    (by decide +kernel) (by decide +kernel)
  refine ⟨table, htable, ?_⟩
  have hnames := generate_typeNames (isPackaged_make rfl _) (Or.inr rfl) isOneLine_plainGenerator
    (by decide) (fun t _ => rfl) {} []
    (isFaithful_initialState []) htable
  exact hnames.2.mpr (by decide +kernel)

/-- An interface with the name of a reserved word. -/
def keywordType : SchemaType where
  kind := .interface
  name := "type"
  fields := [{ name := "id", type := .named .scalar "ID", owner := "type" }]
  possible? := some []

/-- An interface with the name of a resolver. -/
def wrapperType : SchemaType where
  kind := .interface
  name := "PostResolver"
  fields := [{ name := "id", type := .named .scalar "ID", owner := "PostResolver" }]
  possible? := some []

/-- Not every run forms a package: one declares a type with a reserved name, and another one
declares two types of one name. -/
theorem generate_typeNames_keywordType :
    (∃ table, ((plainGenerator.generate {} [] { types := [keywordType] }).run
        (initialState [])).1 = .ok table ∧
      ∃ n ∈ table.flatMap fun e => typeNames e.2, n ∈ reservedWords) ∧
    ∃ table, ((plainGenerator.generate {} [] { types := [wrapperType, postType] }).run
        (initialState [])).1 = .ok table ∧
      ¬(table.flatMap fun e => typeNames e.2).Nodup := by
  constructor
  · obtain ⟨table, htable⟩ := exists_generate_plain { types := [keywordType] }
      (by decide +kernel) (by decide +kernel)
    refine ⟨table, htable, ?_⟩
    rw [typeNames_of_generate (isPackaged_make rfl _) (Or.inr rfl) isOneLine_plainGenerator
      (by decide) (fun t _ => rfl) (isFaithful_initialState []) htable]
    decide +kernel
  · obtain ⟨table, htable⟩ := exists_generate_plain { types := [wrapperType, postType] }
      (by decide +kernel) (by decide +kernel)
    refine ⟨table, htable, ?_⟩
    rw [typeNames_of_generate (isPackaged_make rfl _) (Or.inr rfl) isOneLine_plainGenerator
      (by decide) (fun t _ => rfl) (isFaithful_initialState []) htable]
    decide +kernel

end ResolverGen.Go
