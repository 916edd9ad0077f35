import ResolverGen.Proofs.Go.MemberNames
import ResolverGen.Proofs.Go.SafeNames

/-!
# The identifiers that names are given

A sanitizer for Go gives every name an identifier, whatever names it was asked for before. All names
are mapped onto those that Go takes as they are, and these are left alone. For the names that a
schema may have it is told which of them get the same identifier or the same accessor, and where an
identifier is an accessor too.
-/
namespace ResolverGen.Go

open Naming

variable {m n : String}

/-- A sanitizer that was asked for the identifiers of some names, one after another. -/
def sanitizerAfter (earlier : List String) : Sanitizer :=
  earlier.foldl (fun s name => ((identifier name).run s).2) sanitizer

/-- The identifier that a name is given after some others. -/
def identifierAfter (earlier : List String) (name : String) : String :=
  ((identifier name).run (sanitizerAfter earlier)).1

theorem Faithful.foldl_identifier {s : Sanitizer} (hs : Faithful s) (names : List String) :
    Faithful (names.foldl (fun s name => ((identifier name).run s).2) s) := by
  induction names generalizing s with
  | nil => exact hs
  | cons name rest ih =>
    obtain ⟨s', hs', hrun⟩ := identifier_run hs name
    rw [List.foldl_cons, hrun]
    exact ih hs'

/-- What was asked before cannot be told from an identifier. -/
theorem identifierAfter_eq (earlier : List String) (name : String) :
    identifierAfter earlier name = identifierOf name := by
  obtain ⟨s', -, hrun⟩ := identifier_run (faithful_sanitizer.foldl_identifier earlier) name
  unfold identifierAfter sanitizerAfter
  rw [hrun]

/-! ## Names that stay as they are -/

theorem isSafe_identifierOf (name : String) : IsSafe (identifierOf name) :=
  (isSafe_safeName_iff (by decide) name).mpr (Or.inl rfl)

theorem identifierOf_eq_self_iff : identifierOf n = n ↔ IsSafe n := by
  constructor
  · intro h
    rw [← h]
    exact isSafe_identifierOf n
  · intro h
    rw [identifierOf_of_isSchemaName h.identifier, if_neg h.free]

theorem identifierOf_identifierOf (name : String) :
    identifierOf (identifierOf name) = identifierOf name :=
  identifierOf_eq_self_iff.mpr (isSafe_identifierOf name)

/-- Every name is given an identifier that is safe in Go. The names that stay as they are are just
the safe ones, and so an identifier is given itself when it is asked for later on. -/
theorem identifierAfter_retracts (earlier later : List String) (name : String) :
    IsSafe (identifierAfter earlier name) ∧
      (identifierAfter earlier name = name ↔ IsSafe name) ∧
      identifierAfter later (identifierAfter earlier name) = identifierAfter earlier name := by
  simp only [identifierAfter_eq]
  exact ⟨isSafe_identifierOf name, identifierOf_eq_self_iff, identifierOf_identifierOf name⟩

/-! ## Names that meet -/

/-- Two names of a schema, put to a small first character, are given one identifier if and only if
they are the same then, or one is a word of Go and the other one is that word with the suffix. They
have one accessor if and only if they differ in the case of the first character at most, or both are
the word `id`. The identifier of a name is the accessor of another just if the two are one name, and
it opens with an underscore. -/
theorem identifierAfter_meets_iff (hm : IsSchemaName m) (hn : IsSchemaName n)
    (earlier later : List String) :
    (identifierAfter earlier (uncapitalize m) = identifierAfter later (uncapitalize n) ↔
      uncapitalize m = uncapitalize n ∨
        (IsTaken (uncapitalize m) ∧ uncapitalize n = uncapitalize m ++ "_") ∨
        (IsTaken (uncapitalize n) ∧ uncapitalize m = uncapitalize n ++ "_")) ∧
    (capitalize m = capitalize n ↔
      uncapitalize m = uncapitalize n ∨ (IsIdWord m ∧ IsIdWord n)) ∧
    (identifierAfter earlier (uncapitalize m) = capitalize n ↔
      m = n ∧ m.toList.head? = some '_') := by
  simp only [identifierAfter_eq]
  exact ⟨storageName_eq_iff hm hn, accessorName_eq_iff hm hn,
    storageName_eq_accessorName_iff hm hn⟩

/-- `Type` and `type_` are given one identifier, but they have two accessors. -/
theorem identifierAfter_meets_typeWord :
    IsSchemaName "Type" ∧ IsSchemaName "type_" ∧
      identifierAfter [] (uncapitalize "Type") =
        identifierAfter ["string"] (uncapitalize "type_") ∧
      capitalize "Type" ≠ capitalize "type_" ∧
      identifierAfter [] (uncapitalize "Type") ≠ capitalize "type_" := by
  have hword : IsSchemaName "Type" := by decide
  have hsuffixed : IsSchemaName "type_" := by decide
  obtain ⟨hident, haccessor, hmixed⟩ := identifierAfter_meets_iff hword hsuffixed [] ["string"]
  refine ⟨hword, hsuffixed, hident.mpr ?_, mt haccessor.mp ?_, mt hmixed.mp ?_⟩
  · exact Or.inr (Or.inl ⟨by decide, by decide⟩)
  · decide
  · decide

end ResolverGen.Go
