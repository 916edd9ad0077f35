import Mathlib.Data.List.Nodup
import ResolverGen.Proofs.GraphQL.References

/-!
# What a catalogue lists

The types of a document are listed with what they refer to. Names are collected depth first: one that
is new is listed, and then what it refers to is collected. What this comes to is said of one run and of
several runs after each other alike: nothing is lost, the names to collect are accounted for, and so is
everything that a new name refers to. Each new name is that of a standard type not listed before, so
the fuel, which is one more than these are, does not run out.
-/
namespace ResolverGen.GraphQL

/-- Standard types that are still to be listed. -/
def unlisted (listed : List String) : Nat := (standardTypeNames.filter (· ∉ listed)).length

theorem unlisted_le (listed : List String) : unlisted listed ≤ standardTypeNames.length :=
  List.length_filter_le _ _

theorem unlisted_le_of_subset {listed more : List String} (h : listed ⊆ more) :
    unlisted more ≤ unlisted listed := by
  refine (List.monotone_filter_right _ fun name hname => ?_).length_le
  simp only [decide_eq_true_eq] at hname ⊢
  exact fun hmem => hname (h hmem)

/-- A standard type that is listed is one less to list. -/
theorem unlisted_append_lt {listed : List String} {name : String} (hstandard : name ∈ standardTypeNames)
    (hnew : name ∉ listed) : unlisted (listed ++ [name]) < unlisted listed := by
  have hsplit : standardTypeNames.filter (· ∉ listed ++ [name]) =
      (standardTypeNames.filter (· ∉ listed)).filter (· ≠ name) := by
    rw [List.filter_filter]
    refine List.filter_congr fun other _ => ?_
    simp [not_or, and_comm]
  unfold unlisted
  rw [hsplit, List.length_filter_lt_length_iff_exists]
  exact ⟨name, List.mem_filter.mpr ⟨hstandard, by simpa using hnew⟩, by simp⟩

section

variable {types : List MergedType} {known : List String}

/-- A name needs no more collecting: it is that of a type of the document, or listed, or of no type. -/
def Accounted (types : List MergedType) (known listed : List String) (name : String) : Prop :=
  name ∈ known ∨ name ∈ listed ∨ findType? types name = none

theorem Accounted.mono {listed more : List String} {name : String}
    (h : Accounted types known listed name) (hmore : listed ⊆ more) :
    Accounted types known more name :=
  h.imp_right (Or.imp_left (hmore ·))

/-- Names are collected on top of a list. -/
structure Collects (types : List MergedType) (known listed names result : List String) : Prop where
  subset : listed ⊆ result
  accounted : ∀ name ∈ names, Accounted types known result name
  /-- What a new name refers to that is not one of the document's. -/
  settled : ∀ name ∈ result, name ∉ listed → name ∉ known → ∀ t, findType? types name = some t →
    ∀ other ∈ t.body.references, Accounted types known result other

namespace Collects

variable {listed : List String}

theorem nothing (listed : List String) : Collects types known listed [] listed where
  subset := List.Subset.refl listed
  accounted := by simp
  settled := fun _ hmem hnew => absurd hmem hnew

theorem already {name : String} (h : Accounted types known listed name) :
    Collects types known listed [name] listed where
  subset := List.Subset.refl listed
  accounted := by simpa using h
  settled := fun _ hmem hnew => absurd hmem hnew

theorem trans {names more middle result : List String} (h : Collects types known listed names middle)
    (h' : Collects types known middle more result) :
    Collects types known listed (names ++ more) result where
  subset := List.Subset.trans h.subset h'.subset
  accounted := by
    intro name hname
    rcases List.mem_append.mp hname with hname | hname
    · exact (h.accounted name hname).mono h'.subset
    · exact h'.accounted name hname
  settled := by
    intro name hmem hnew hunknown t ht other hother
    by_cases hmiddle : name ∈ middle
    · exact (h.settled name hmiddle hnew hunknown t ht other hother).mono h'.subset
    · exact h'.settled name hmem hmiddle hunknown t ht other hother

/-- Names that are collected one after another are collected. -/
theorem foldl {fuel : Nat} {f : List String → String → List String}
    (hf : ∀ listed name, unlisted listed < fuel → Collects types known listed [name] (f listed name))
    (names : List String) (hfuel : unlisted listed < fuel) :
    Collects types known listed names (names.foldl f listed) := by
  induction names generalizing listed with
  | nil => exact nothing listed
  | cons name rest ih =>
    have hfirst := hf listed name hfuel
    exact hfirst.trans (ih (Nat.lt_of_le_of_lt (unlisted_le_of_subset hfirst.subset) hfuel))

/-- A type of the document is listed on its own. -/
theorem ofKnown {name : String} (h : name ∈ known) :
    Collects types known listed [] (listed ++ [name]) where
  subset := List.subset_append_left listed [name]
  accounted := by simp
  settled := by
    intro other hmem hnew hunknown
    rcases List.mem_append.mp hmem with hmem | hmem
    · exact absurd hmem hnew
    · exact absurd (List.mem_singleton.mp hmem ▸ h) hunknown

/-- A new name is collected if what it refers to is. -/
theorem of_references {name : String} {t : MergedType} {result : List String}
    (ht : findType? types name = some t)
    (h : Collects types known (listed ++ [name]) t.body.references result) :
    Collects types known listed [name] result where
  subset := fun _ hmem => h.subset (List.mem_append_left _ hmem)
  accounted := by
    intro other hother
    obtain rfl := List.mem_singleton.mp hother
    exact Or.inr (Or.inl (h.subset (List.mem_append_right _ hother)))
  settled := by
    intro other hmem hnew hunknown t' ht' reference hreference
    by_cases hsame : other = name
    · subst hsame
      obtain rfl := Option.some.inj (ht.symm.trans ht')
      exact h.accounted reference hreference
    · refine h.settled other hmem ?_ hunknown t' ht' reference hreference
      simp [hnew, hsame]

end Collects

/-- With more fuel than there are standard types to list a name is collected. -/
theorem collects_collect
    (hknown : ∀ name t, name ∉ known → findType? types name = some t → name ∈ standardTypeNames)
    (fuel : Nat) : ∀ listed name, unlisted listed < fuel →
      Collects types known listed [name] (collect types known fuel listed name) := by
  induction fuel with
  | zero => exact fun _ _ h => absurd h (Nat.not_lt_zero _)
  | succ fuel ih =>
    intro listed name hfuel
    rw [collect]
    split
    · rename_i hthere
      have hmem : name ∈ known ∨ name ∈ listed := by simpa using hthere
      exact Collects.already (hmem.imp_right Or.inl)
    · rename_i hnew
      simp only [Bool.or_eq_true, decide_eq_true_eq, not_or] at hnew
      cases ht : findType? types name with
      | none => exact Collects.already (Or.inr (Or.inr ht))
      | some t =>
        have hless := unlisted_append_lt (hknown name t hnew.1 ht) hnew.2
        exact Collects.of_references ht (Collects.foldl ih t.body.references (by omega))

theorem collects_foldl
    (hknown : ∀ name t, name ∉ known → findType? types name = some t → name ∈ standardTypeNames)
    (names listed : List String) : Collects types known listed names
      (names.foldl (collect types known (standardTypeNames.length + 1)) listed) :=
  Collects.foldl (collects_collect hknown _) names (Nat.lt_succ_of_le (unlisted_le listed))

/-- The types of the document are listed, and what they refer to is collected. -/
theorem collects_types
    (hknown : ∀ name t, name ∉ known → findType? types name = some t → name ∈ standardTypeNames)
    {own : List MergedType} (hown : ∀ t ∈ own, t.name ∈ known) (listed : List String) :
    let result := own.foldl (fun listed t => t.body.references.foldl
      (collect types known (standardTypeNames.length + 1)) (listed ++ [t.name])) listed
    Collects types known listed (own.flatMap (·.body.references)) result ∧
      ∀ t ∈ own, t.name ∈ result := by
  induction own generalizing listed with
  | nil => exact ⟨Collects.nothing listed, by simp⟩
  | cons t rest ih =>
    obtain ⟨ht, hrest⟩ := List.forall_mem_cons.mp hown
    have hreferences := collects_foldl hknown t.body.references (listed ++ [t.name])
    obtain ⟨hbehind, hlisted⟩ := ih hrest (t.body.references.foldl
      (collect types known (standardTypeNames.length + 1)) (listed ++ [t.name]))
    refine ⟨((Collects.ofKnown ht).trans hreferences).trans hbehind, ?_⟩
    refine List.forall_mem_cons.mpr ⟨hbehind.subset (hreferences.subset ?_), hlisted⟩
    exact List.mem_append_right _ (List.mem_singleton_self t.name)

end

/-- A type that none of the document has is a standard one. -/
theorem mem_standardTypeNames_of_findType? {types : List MergedType} (name : String) (t : MergedType)
    (hfree : name ∉ types.map (·.name)) (h : findType? types name = some t) :
    name ∈ standardTypeNames := by
  rcases of_findType? h with ⟨hmem, rfl⟩ | ⟨-, hstandard⟩
  · exact absurd (List.mem_map_of_mem hmem) hfree
  · exact hstandard.mem_standardTypeNames

/-- A catalogue lists the types of the document with what they refer to, and then more. -/
theorem collects_catalogueOrder (doc : Document) (types : List MergedType) (roots : List String) :
    ∃ listed more, (∀ t ∈ types, t.name ∈ listed) ∧
      Collects types (types.map (·.name)) [] (types.flatMap (·.body.references)) listed ∧
      Collects types (types.map (·.name)) listed more (catalogueOrder doc types roots) := by
  have hnames : ∀ t ∈ types, t.name ∈ types.map (·.name) := fun t ht => List.mem_map_of_mem ht
  have hown := collects_types mem_standardTypeNames_of_findType? hnames []
  exact ⟨_, _, hown.2, hown.1, collects_foldl mem_standardTypeNames_of_findType? _ _⟩

/-- What a listed type refers to is listed, if it is a type. -/
theorem mem_catalogueOrder_of_references {doc : Document} {types : List MergedType}
    {roots : List String} {name other : String} {t t' : MergedType}
    (hname : name ∈ catalogueOrder doc types roots) (ht : findType? types name = some t)
    (hother : other ∈ t.body.references) (ht' : findType? types other = some t') :
    other ∈ catalogueOrder doc types roots := by
  obtain ⟨listed, more, hlisted, hown, hbehind⟩ := collects_catalogueOrder doc types roots
  have hall := hown.trans hbehind
  have haccounted : Accounted types (types.map (·.name)) (catalogueOrder doc types roots) other := by
    rcases of_findType? ht with ⟨hmem, -⟩ | ⟨hfree, -⟩
    · exact hall.accounted other (List.mem_append_left _ (List.mem_flatMap.mpr ⟨t, hmem, hother⟩))
    · exact hall.settled name hname (by simp) hfree t ht other hother
  rcases haccounted with hknown | hmem | hnone
  · obtain ⟨own, hmem, rfl⟩ := List.mem_map.mp hknown
    exact hbehind.subset (hlisted own hmem)
  · exact hmem
  · cases hnone.symm.trans ht'

/-! ## Names stand once -/

section

variable {types : List MergedType} {known rest : List String}

theorem nodup_foldl {f : List String → String → List String}
    (hf : ∀ listed name, (listed ++ rest).Nodup → (f listed name ++ rest).Nodup)
    (names : List String) {listed : List String} (h : (listed ++ rest).Nodup) :
    (names.foldl f listed ++ rest).Nodup := by
  induction names generalizing listed with
  | nil => exact h
  | cons name names ih => exact ih (hf listed name h)

/-- A name that is collected is neither listed yet nor one of the document's that are to come. -/
theorem nodup_collect (hrest : rest ⊆ known) (fuel : Nat) : ∀ listed name,
    (listed ++ rest).Nodup → (collect types known fuel listed name ++ rest).Nodup := by
  induction fuel with
  | zero => exact fun _ _ h => h
  | succ fuel ih =>
    intro listed name h
    rw [collect]
    split
    · exact h
    · rename_i hnew
      simp only [Bool.or_eq_true, decide_eq_true_eq, not_or] at hnew
      split
      · exact h
      · have hname : (listed ++ [name] ++ rest).Nodup := by
          rw [List.append_assoc, List.singleton_append, List.nodup_middle, List.nodup_cons]
          exact ⟨fun hmem => (List.mem_append.mp hmem).elim hnew.2 (hnew.1 <| hrest ·), h⟩
        exact nodup_foldl ih _ hname

/-- The types of the document are listed in turn, while the names of the others are left free. -/
theorem nodup_foldl_types {fuel : Nat} {own : List MergedType}
    (hown : own.map (·.name) ⊆ known) {listed : List String}
    (h : (listed ++ own.map (·.name)).Nodup) :
    (own.foldl (fun listed t => t.body.references.foldl (collect types known fuel)
      (listed ++ [t.name])) listed).Nodup := by
  induction own generalizing listed with
  | nil => simpa using h
  | cons t own ih =>
    have hrest : own.map (·.name) ⊆ known := fun name hname => hown (List.mem_cons_of_mem _ hname)
    refine ih hrest (nodup_foldl (nodup_collect hrest fuel) _ ?_)
    rwa [List.append_assoc]

/-- If the types of the document have names of their own, nothing is listed twice. -/
theorem nodup_catalogueOrder (doc : Document) (h : (types.map (·.name)).Nodup)
    (roots : List String) : (catalogueOrder doc types roots).Nodup := by
  rw [← List.append_nil (catalogueOrder _ _ _)]
  refine nodup_foldl (nodup_collect (List.nil_subset _) _) _ ?_
  rw [List.append_nil]
  exact nodup_foldl_types (List.Subset.refl _) h

end

end ResolverGen.GraphQL
