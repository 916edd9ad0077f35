import ResolverGen.Go.Package
import ResolverGen.Proofs.Go.FieldNames

/-!
# Names for packages

A package name has no faults if it is an identifier that does not open with a capital and is no word
that Go reserves. That lets one name too many pass: the blank identifier is an identifier, but no
package can be named so.
-/
namespace ResolverGen.Go

open Text

variable {name : String}

/-- A name that can stand in a package clause and is written as package names are. -/
structure IsPackageName (name : String) : Prop where
  /-- A letter or an underscore, and letters, digits and underscores behind it. -/
  identifier : IsSchemaName name
  lowerCase : ∀ c, name.toList.head? = some c → c.isUpper = false
  notReserved : name ∉ reservedWords
  notBlank : name ≠ "_"

/-! ## Names without faults -/

/-- A hyphen is never alone: a name that holds one is no identifier. -/
theorem not_mem_of_isIdentifier {s : List Char} (h : isIdentifier s = true) : '-' ∉ s := by
  cases s with
  | nil => simp
  | cons c rest =>
    obtain ⟨hstart, hrest⟩ : isIdentifierStart c = true ∧ ∀ d ∈ rest, isIdentifierRest d = true := by
      simpa [isIdentifier] using h
    intro hmem
    rcases List.mem_cons.mp hmem with rfl | hmem
    · exact absurd hstart (by decide)
    · exact absurd (hrest '-' hmem) (by decide)

/-- The faults of names in any script. -/
theorem packageFaults_eq_nil_iff_isIdentifier :
    packageFaults name = [] ↔
      isIdentifier name.toList = true ∧
        (∀ c, name.toList.head? = some c → isUpperChar c = false) ∧ name ∉ reservedWords := by
  unfold packageFaults
  cases hname : name.toList with
  | nil => simp [isIdentifier]
  | cons first rest =>
    have hhyphen := @not_mem_of_isIdentifier (first :: rest)
    simp only [List.append_eq_nil_iff, List.head?_cons, Option.some.injEq, forall_eq']
    constructor
    · rintro ⟨⟨⟨hident, hupper⟩, -⟩, hreserved⟩
      exact ⟨by simpa using hident, by simpa using hupper, by simpa using hreserved⟩
    · rintro ⟨hident, hupper, hreserved⟩
      simp [hident, hupper, hreserved, hhyphen hident]

/-- An ASCII name without faults is one for a package, or the blank identifier. -/
theorem packageFaults_eq_nil_iff (h : IsAscii name.toList) :
    packageFaults name = [] ↔ IsPackageName name ∨ name = "_" := by
  have hupper : (∀ c, name.toList.head? = some c → isUpperChar c = false) ↔
      ∀ c, name.toList.head? = some c → c.isUpper = false := by
    refine forall_congr' fun c => imp_congr_right fun hc => ?_
    rw [isUpperChar_ascii (h c (List.mem_of_head? hc))]
  rw [packageFaults_eq_nil_iff_isIdentifier, isIdentifier_ascii h, hupper]
  constructor
  · rintro ⟨hident, hlower, hreserved⟩
    by_cases hblank : name = "_"
    · exact Or.inr hblank
    · exact Or.inl ⟨hident, hlower, hreserved, hblank⟩
  · rintro (hpackage | rfl)
    · exact ⟨hpackage.identifier, hpackage.lowerCase, hpackage.notReserved⟩
    · exact ⟨by decide, by simp, by decide⟩

theorem packageFaults_eq_nil_iff_underscored :
    IsAscii "_v2".toList ∧ packageFaults "_v2" = [] ∧
      IsAscii "goto".toList ∧ packageFaults "goto" ≠ [] := by
  have hopen : IsAscii "_v2".toList := by decide
  have hword : IsAscii "goto".toList := by decide
  have hreserved : ¬(IsPackageName "goto" ∨ "goto" = "_") := by
    rintro (h | h)
    · exact h.notReserved (by decide)
    · exact absurd h (by decide)
  refine ⟨hopen, (packageFaults_eq_nil_iff hopen).mpr (Or.inl ?_), hword,
    mt (packageFaults_eq_nil_iff hword).mp hreserved⟩
  exact ⟨by decide, by simp, by decide, by decide⟩

/-- No fault is found with the blank identifier, although it is no name for a package. -/
theorem packageFaults_blank :
    IsAscii "_".toList ∧ ¬(packageFaults "_" = [] ↔ IsPackageName "_") := by
  refine ⟨by decide, fun h => ?_⟩
  exact (h.mp (by decide)).notBlank rfl

end ResolverGen.Go
