import ResolverGen.Settings.Reading
import ResolverGen.Proofs.FirstFailures

/-!
# Two spellings of variants

Variants with parameters can be written as an object, which has the parameters by name, or as a list
of objects with a name and parameters each. The list takes every value that is not given for no
parameters; the object takes null alone. So the two spellings are read alike unless there is a value
of this kind, such as false or an empty list, and nothing else to refuse.
-/
namespace ResolverGen

/-- Variants as an object: parameters by name. -/
def objectSpelling (variants : Table Json) : Json := .obj variants

/-- Variants as a list of objects with a name and parameters each. -/
def listSpelling (variants : Table Json) : Json :=
  .arr (variants.map fun v => .obj [("name", .str v.1), ("params", v.2)])

namespace Json

/-- What an object takes for parameters: another object, or null for none. -/
def IsParams : Json → Prop
  | .null | .obj _ => True
  | _ => False

/-- A value that is not given, but no parameters either: false, zero, an empty text or list. -/
def IsVoid (value : Json) : Prop := value.isGiven = false ∧ ¬value.IsParams

end Json

/-- A variant that is refused in either spelling: without a name, or with a value in the place of
the parameters that is given and is none. -/
def IsRefused (variant : String × Json) : Prop :=
  variant.1 = "" ∨ (variant.2.isGiven = true ∧ ¬variant.2.IsParams)

/-- Two readings that are both refused, or that come to the same variants. -/
def SameReading (first second : Except ConfigFault (List Variant)) : Prop :=
  ((∃ fault, first = .error fault) ∧ ∃ fault, second = .error fault) ∨
    ∃ variants, first = .ok variants ∧ second = .ok variants

variable {owner name : String} {params : Json} {variants : Table Json}

theorem sameReading_self (reading : Except ConfigFault (List Variant)) :
    SameReading reading reading := by
  cases reading with
  | error fault => exact Or.inl ⟨⟨fault, rfl⟩, fault, rfl⟩
  | ok read => exact Or.inr ⟨read, rfl, rfl⟩

theorem SameReading.exists_error {first second : Except ConfigFault (List Variant)}
    (h : SameReading first second) (hfirst : ∃ fault, first = .error fault) :
    ∃ fault, second = .error fault := by
  obtain ⟨fault, rfl⟩ := hfirst
  rcases h with ⟨-, hsecond⟩ | ⟨read, hread, -⟩
  · exact hsecond
  · cases hread

/-! ## One variant -/

/-- Parameters as a list takes them: what is not given stands for none. -/
def listParams (params : Json) : Json := if params.isGiven then params else .obj []

theorem variantEntry_listed (owner name : String) (params : Json) :
    variantEntry owner (.obj [("name", .str name), ("params", params)]) =
      .ok (.str name, listParams params) := rfl

theorem variantOf_eq_error_iff :
    (∃ fault, variantOf owner (.str name) params = .error fault) ↔
      IsRefused (name, params) ∨ params.IsVoid := by
  by_cases hname : name = ""
  · simp [variantOf, IsRefused, hname]
  · cases params <;> simp [variantOf, IsRefused, Json.IsVoid, Json.IsParams, hname]

theorem variantOf_listParams_eq_error_iff :
    (∃ fault, variantOf owner (.str name) (listParams params) = .error fault) ↔
      IsRefused (name, params) := by
  by_cases hgiven : params.isGiven = true
  · have hvoid : ¬params.IsVoid := fun h => by simp [h.1] at hgiven
    rw [listParams, if_pos hgiven, variantOf_eq_error_iff, or_iff_left hvoid]
  · rw [listParams, if_neg hgiven, variantOf_eq_error_iff]
    simp [IsRefused, Json.IsVoid, Json.IsParams, hgiven]

/-- A variant is read alike from both spellings, unless its parameters are void. -/
theorem variantOf_listParams (h : ¬params.IsVoid) :
    variantOf owner (.str name) (listParams params) = variantOf owner (.str name) params := by
  unfold listParams
  by_cases hgiven : params.isGiven = true
  · rw [if_pos hgiven]
  · rw [if_neg hgiven]
    have hparams : params.IsParams := by
      by_contra hparams
      exact h ⟨Bool.eq_false_iff.mpr hgiven, hparams⟩
    cases params with
    | null => simp [variantOf]
    | obj entries =>
      have hempty : entries = [] := by simpa [Json.isGiven] using hgiven
      rw [hempty]
    | _ => exact absurd hparams id

/-! ## All variants -/

theorem readVariants_objectSpelling (hne : variants ≠ []) :
    readVariants owner (objectSpelling variants) =
      variants.mapM fun v => variantOf owner (.str v.1) v.2 := by
  have hgiven : (objectSpelling variants).isGiven = true := by
    simpa [objectSpelling, Json.isGiven] using hne
  rw [readVariants, if_pos hgiven]
  change (variants.map fun v => (Json.str v.1, v.2)).mapM _ = _
  rw [List.mapM_map]
  rfl

theorem readVariants_listSpelling (hne : variants ≠ []) :
    readVariants owner (listSpelling variants) =
      variants.mapM fun v => variantOf owner (.str v.1) (listParams v.2) := by
  have hgiven : (listSpelling variants).isGiven = true := by
    simpa [listSpelling, Json.isGiven] using hne
  have hentries : variantEntries owner (listSpelling variants) =
      .ok (variants.map fun v => (.str v.1, listParams v.2)) := by
    change (variants.map _).mapM (variantEntry owner) = _
    simp only [mapM_eq_ok_iff, List.forall₂_map_left_iff, List.forall₂_map_right_iff,
      List.forall₂_same]
    exact fun v _ => variantEntry_listed owner v.1 v.2
  rw [readVariants, if_pos hgiven, hentries]
  change (variants.map fun v => (Json.str v.1, listParams v.2)).mapM _ = _
  rw [List.mapM_map]
  rfl

theorem readVariants_objectSpelling_eq_error_iff :
    (∃ fault, readVariants owner (objectSpelling variants) = .error fault) ↔
      ∃ v ∈ variants, IsRefused v ∨ v.2.IsVoid := by
  by_cases hne : variants = []
  · simp [hne, objectSpelling, readVariants, Json.isGiven]
  · rw [readVariants_objectSpelling hne, exists_mapM_eq_error_iff]
    simp only [variantOf_eq_error_iff]

theorem readVariants_listSpelling_eq_error_iff :
    (∃ fault, readVariants owner (listSpelling variants) = .error fault) ↔
      ∃ v ∈ variants, IsRefused v := by
  by_cases hne : variants = []
  · simp [hne, listSpelling, readVariants, Json.isGiven]
  · rw [readVariants_listSpelling hne, exists_mapM_eq_error_iff]
    simp only [variantOf_listParams_eq_error_iff]

/-- Without void parameters both spellings come to the same, with the same fault if to one. -/
theorem readVariants_spellings_eq (h : ∀ v ∈ variants, ¬v.2.IsVoid) :
    readVariants owner (objectSpelling variants) = readVariants owner (listSpelling variants) := by
  by_cases hne : variants = []
  · rw [hne]
    rfl
  · rw [readVariants_objectSpelling hne, readVariants_listSpelling hne]
    apply mapM_congr_of_mem
    intro v hv
    exact (variantOf_listParams (h v hv)).symm

/-- Both spellings of variants are refused, or come to the same variants, if and only if no
parameters are void or there is a variant that is refused in either. -/
theorem sameReading_spellings_iff (owner : String) (variants : Table Json) :
    SameReading (readVariants owner (objectSpelling variants))
        (readVariants owner (listSpelling variants)) ↔
      (∀ v ∈ variants, ¬v.2.IsVoid) ∨ ∃ v ∈ variants, IsRefused v := by
  constructor
  · intro hsame
    by_contra hnot
    obtain ⟨hvoid, hrefused⟩ := not_or.mp hnot
    push Not at hvoid
    obtain ⟨v, hv, hvoid⟩ := hvoid
    have hobject : ∃ fault, readVariants owner (objectSpelling variants) = .error fault :=
      readVariants_objectSpelling_eq_error_iff.mpr ⟨v, hv, Or.inr hvoid⟩
    exact hrefused (readVariants_listSpelling_eq_error_iff.mp (hsame.exists_error hobject))
  · rintro (hvoid | ⟨v, hv, hrefused⟩)
    · rw [readVariants_spellings_eq hvoid]
      exact sameReading_self _
    · exact Or.inl ⟨readVariants_objectSpelling_eq_error_iff.mpr ⟨v, hv, Or.inl hrefused⟩,
        readVariants_listSpelling_eq_error_iff.mpr ⟨v, hv, hrefused⟩⟩

/-- False in the place of parameters is no parameters in a list, and refused in an object. -/
theorem readVariants_falseParams :
    readVariants "Post" (objectSpelling [("default", .bool false)]) =
        .error (.parameters "default" "Post") ∧
      readVariants "Post" (listSpelling [("default", .bool false)]) = .ok defaultVariants ∧
      ¬SameReading (readVariants "Post" (objectSpelling [("default", .bool false)]))
        (readVariants "Post" (listSpelling [("default", .bool false)])) := by
  refine ⟨rfl, rfl, ?_⟩
  rintro (⟨-, fault, hlist⟩ | ⟨read, hobject, -⟩)
  · cases hlist
  · cases hobject

end ResolverGen
