import ResolverGen.Proofs.Go.PackagedTexts
import ResolverGen.Proofs.Text.AsciiChars
import ResolverGen.Proofs.Text.EndedLines

/-!
# Names of struct fields and accessors

A field of the schema is stored under an identifier that opens in lower case, and given by a method
whose name opens in upper case. For names as a schema has them both are worked out character by
character, and it is told which different names meet.
-/
namespace ResolverGen.Go

open Text Naming
open Sanitizer (isPlainChar)

/-- A name as a schema may have it: a letter or underscore, then letters, digits and underscores. -/
def IsSchemaName (name : String) : Prop := isAsciiIdentifier name.toList = true

/-- A word that Go reserves or predeclares. -/
def IsTaken (name : String) : Prop := name ∈ reservedWords ∨ name ∈ builtinNames

instance (name : String) : Decidable (IsSchemaName name) :=
  inferInstanceAs (Decidable (isAsciiIdentifier name.toList = true))

instance (name : String) : Decidable (IsTaken name) :=
  inferInstanceAs (Decidable (name ∈ reservedWords ∨ name ∈ builtinNames))

variable {m n : String}

theorem IsSchemaName.chars (h : IsSchemaName n) :
    ∃ c rest, n.toList = c :: rest ∧ (c.isAlpha = true ∨ c = '_') ∧
      ∀ d ∈ rest, isPlainChar d = true :=
  isAsciiIdentifier_iff.mp h

/-! ## Identifiers -/

theorem isReserved_sanitizer (name : String) : sanitizer.isReserved name = true ↔ IsTaken name := by
  unfold Sanitizer.isReserved IsTaken
  rw [Bool.or_eq_true, decide_eq_true_eq, decide_eq_true_eq]
  rfl

/-- A name with the suffix where it clashes. -/
theorem resolve_sanitizer (name : String) :
    sanitizer.resolve name Sanitizer.defaultSuffix =
      if IsTaken name then name ++ "_" else name := by
  unfold Sanitizer.resolve
  by_cases h : IsTaken name
  · rw [if_pos ((isReserved_sanitizer name).mpr h), if_pos h]
    rfl
  · rw [if_neg (mt (isReserved_sanitizer name).mp h), if_neg h]

theorem ends_of_taken : ∀ word ∈ reservedWords ++ builtinNames,
    word.toList.head? ≠ some '_' ∧ word.toList.getLast? ≠ some '_' := by
  decide

theorem IsTaken.ends (h : IsTaken n) : n.toList.head? ≠ some '_' ∧ n.toList.getLast? ≠ some '_' :=
  ends_of_taken n (List.mem_append.mpr h)

theorem not_isTaken_append (n : String) : ¬IsTaken (n ++ "_") := by
  intro h
  apply h.ends.2
  rw [String.toList_append]
  exact List.getLast?_concat

theorem cleanChars_of_identifier {s : List Char} (h : isAsciiIdentifier s = true) :
    Sanitizer.cleanChars s = s := by
  obtain ⟨c, rest, rfl, hc, hrest⟩ := isAsciiIdentifier_iff.mp h
  have hmap : (c :: rest).map (fun d => if isPlainChar d then d else '_') = c :: rest := by
    apply List.map_congr_left (g := id) (fun d hd => ?_) |>.trans (List.map_id _)
    rw [if_pos (isPlainChar_of_mem h d hd)]
    rfl
  have hdigit : c.isDigit = false := by
    rw [Bool.eq_false_iff, ne_eq, isDigit_iff]
    rcases hc with hc | rfl
    · rw [isAlpha_iff] at hc
      omega
    · decide
  unfold Sanitizer.cleanChars
  rw [hmap]
  simp [hdigit]

/-- A name that is an identifier already stays, but for a suffix if it is taken. -/
theorem identifierOf_of_isSchemaName (h : IsSchemaName n) :
    identifierOf n = if IsTaken n then n ++ "_" else n := by
  have hclean : Sanitizer.clean n = n := by
    unfold Sanitizer.clean onChars
    rw [cleanChars_of_identifier h, String.ofList_toList]
  have hconvert : NameCase.original.convert n = n := by
    unfold NameCase.convert onChars
    rw [NameCase.convertChars, String.ofList_toList]
  unfold identifierOf Sanitizer.safeName
  rw [hclean, hconvert, resolve_sanitizer]

/-! ## Case of the first character -/

theorem uncapitalize_toList {c : Char} {rest : List Char} (hn : n.toList = c :: rest)
    (hc : c.toNat < 0x80) : (uncapitalize n).toList = c.toLower :: rest := by
  unfold uncapitalize
  rw [toList_onChars, hn, uncapitalizeChars, lower_ascii (by simpa using hc)]
  rfl

theorem IsSchemaName.uncapitalize (h : IsSchemaName n) : IsSchemaName (uncapitalize n) := by
  obtain ⟨c, rest, hn, hc, hrest⟩ := h.chars
  have hlow : c.toNat < 0x80 := toNat_lt_of_isPlainChar (isPlainChar_of_isAlpha hc)
  unfold IsSchemaName
  rw [uncapitalize_toList hn hlow, isAsciiIdentifier_iff]
  refine ⟨c.toLower, rest, rfl, ?_, hrest⟩
  rcases hc with hc | rfl
  · exact Or.inl (by rw [isAlpha_toLower, hc])
  · exact Or.inr (by decide)

/-- Whether a name is the word `id` but for case. -/
def IsIdWord (name : String) : Prop := lower name.toList = ['i', 'd']

instance (name : String) : Decidable (IsIdWord name) :=
  inferInstanceAs (Decidable (lower name.toList = ['i', 'd']))

theorem capitalize_toList {c : Char} {rest : List Char} (hn : n.toList = c :: rest)
    (hc : c.toNat < 0x80) (hid : ¬IsIdWord n) : (capitalize n).toList = c.toUpper :: rest := by
  have hid' : ¬lower n.toList = ['i', 'd'] := hid
  unfold capitalize
  rw [toList_onChars]
  unfold capitalizeChars
  rw [if_neg hid', hn]
  change upperChar c ++ rest = _
  rw [upperChar_ascii hc]
  rfl

theorem capitalize_of_isIdWord (h : IsIdWord n) : capitalize n = "ID" := by
  have h' : lower n.toList = ['i', 'd'] := h
  unfold capitalize onChars capitalizeChars
  rw [if_pos h']

theorem IsSchemaName.accessorName (h : IsSchemaName n) : IsSchemaName (accessorName n) := by
  unfold Go.accessorName
  by_cases hid : IsIdWord n
  · rw [capitalize_of_isIdWord hid]
    decide
  · obtain ⟨c, rest, hn, hc, hrest⟩ := h.chars
    have hlow : c.toNat < 0x80 := toNat_lt_of_isPlainChar (isPlainChar_of_isAlpha hc)
    unfold IsSchemaName
    rw [capitalize_toList hn hlow hid, isAsciiIdentifier_iff]
    refine ⟨c.toUpper, rest, rfl, ?_, hrest⟩
    rcases hc with hc | rfl
    · exact Or.inl (by rw [isAlpha_toUpper, hc])
    · exact Or.inr (by decide)

theorem IsSchemaName.append_underscore (h : IsSchemaName n) : IsSchemaName (n ++ "_") := by
  obtain ⟨c, rest, hn, hc, hrest⟩ := h.chars
  unfold IsSchemaName
  rw [String.toList_append, hn, isAsciiIdentifier_iff]
  refine ⟨c, rest ++ ['_'], rfl, hc, ?_⟩
  intro d hd
  rcases List.mem_append.mp hd with hd | hd
  · exact hrest d hd
  · obtain rfl := List.mem_singleton.mp hd
    decide

/-- The identifier of a field, worked out: the name in lower case, with a suffix if it is taken. -/
theorem storageName_of_isSchemaName (h : IsSchemaName n) :
    storageName n = if IsTaken (uncapitalize n) then uncapitalize n ++ "_" else uncapitalize n :=
  identifierOf_of_isSchemaName h.uncapitalize

theorem IsSchemaName.storageName (h : IsSchemaName n) : IsSchemaName (storageName n) := by
  rw [storageName_of_isSchemaName h]
  split
  · exact h.uncapitalize.append_underscore
  · exact h.uncapitalize

/-! ## Names within lines -/

theorem IsSchemaName.not_mem_newline (h : IsSchemaName n) : '\n' ∉ n.toList :=
  fun hm => ne_newline_of_isPlainChar (isPlainChar_of_mem h _ hm) rfl

theorem IsSchemaName.isBare (h : IsSchemaName n) : IsBare n.toList := by
  constructor
  · intro c hc
    exact not_isBlank_of_isPlainChar (isPlainChar_of_mem h c (List.mem_of_head? hc))
  · intro c hc
    exact not_isBlank_of_isPlainChar (isPlainChar_of_mem h c (List.mem_of_getLast? hc))

theorem IsSchemaName.toList_ne_nil (h : IsSchemaName n) : n.toList ≠ [] := by
  obtain ⟨c, rest, hn, _⟩ := h.chars
  rw [hn]
  exact List.cons_ne_nil c rest

end ResolverGen.Go
