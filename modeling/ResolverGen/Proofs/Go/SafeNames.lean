import ResolverGen.Proofs.Go.FieldNames
import ResolverGen.Proofs.Naming.SharedKeys
import ResolverGen.Proofs.Naming.SnakeCase

/-!
# Names that are safe in Go

A name is cleaned first, put into a style then, and kept off the words that are taken last. Cleaning
puts an underscore before a digit that a name would open with, and makes one of every character that
is neither letter nor digit; but all styles except the original one drop underscores in front. So
what a name comes to is safe if its first letter or digit is a letter, or if it is empty.
-/
namespace ResolverGen

open Text
open Sanitizer (isPlainChar cleanChars)

/-! ## Clean names -/

namespace Sanitizer

variable {d : Char} {s : List Char}

/-- A character in a clean name. -/
def plainChar (c : Char) : Char := if isPlainChar c then c else '_'

theorem isPlainChar_plainChar (c : Char) : isPlainChar (plainChar c) = true := by
  unfold plainChar
  split
  · assumption
  · decide

theorem plainChar_of_isAlphanum {c : Char} (hc : c.isAlphanum = true) : plainChar c = c :=
  if_pos (isPlainChar_iff.mpr (Or.inl hc))

theorem plainChar_of_not {c : Char} (hc : c.isAlphanum = false) : plainChar c = '_' := by
  unfold plainChar
  split
  · rename_i hplain
    exact (isPlainChar_iff.mp hplain).resolve_left (by simp [hc])
  · rfl

theorem cleanChars_cons (c : Char) (rest : List Char) :
    cleanChars (c :: rest) =
      if (plainChar c).isDigit then '_' :: (c :: rest).map plainChar
      else (c :: rest).map plainChar := rfl

theorem isAlpha_of_isPlainChar {c : Char} (hc : isPlainChar c = true) (hdigit : c.isDigit = false) :
    c.isAlpha = true ∨ c = '_' := by
  rw [isPlainChar_iff] at hc
  unfold Char.isAlphanum at hc
  simpa [hdigit] using hc

/-- A clean name is an identifier. -/
theorem isAsciiIdentifier_cleanChars (s : List Char) : isAsciiIdentifier (cleanChars s) = true := by
  have hplain : ∀ (t : List Char), ∀ d ∈ t.map plainChar, isPlainChar d = true := by
    intro t d hd
    obtain ⟨c, -, rfl⟩ := List.mem_map.mp hd
    exact isPlainChar_plainChar c
  cases s with
  | nil => decide
  | cons c rest =>
    rw [cleanChars_cons, isAsciiIdentifier_iff]
    split
    · exact ⟨'_', _, rfl, Or.inr rfl, hplain (c :: rest)⟩
    · rename_i hdigit
      refine ⟨plainChar c, rest.map plainChar, rfl, ?_, hplain rest⟩
      exact isAlpha_of_isPlainChar (isPlainChar_plainChar c) (Bool.eq_false_iff.mpr hdigit)

theorem isPlainChar_of_mem_cleanChars (s : List Char) : ∀ d ∈ cleanChars s, isPlainChar d = true :=
  isPlainChar_of_mem (isAsciiIdentifier_cleanChars s)

theorem find?_map_plainChar (s : List Char) :
    (s.map plainChar).find? (· ≠ '_') = s.find? Char.isAlphanum := by
  induction s with
  | nil => rfl
  | cons c rest ih =>
    cases hc : c.isAlphanum with
    | true =>
      have hne : c ≠ '_' := by
        rintro rfl
        exact absurd hc (by decide)
      simp [plainChar_of_isAlphanum hc, hc, hne]
    | false => simpa [plainChar_of_not hc, hc] using ih

/-- Cleaning keeps letters and digits, and makes no others. -/
theorem find?_cleanChars (hne : s ≠ []) :
    (cleanChars s).find? (· ≠ '_') = s.find? Char.isAlphanum := by
  obtain ⟨c, rest, rfl⟩ := List.exists_cons_of_ne_nil hne
  rw [cleanChars_cons]
  split
  · rw [List.find?_cons_of_neg (by simp), find?_map_plainChar]
  · exact find?_map_plainChar (c :: rest)

end Sanitizer

namespace Go

/-! ## Names with a suffix -/

/-- A name that Go takes for a field of its own. -/
structure IsSafe (name : String) : Prop where
  identifier : IsSchemaName name
  free : ¬IsTaken name

theorem isSchemaName_of_isTaken {name : String} (h : IsTaken name) : IsSchemaName name := by
  have hwords : ∀ word ∈ reservedWords ++ builtinNames, IsSchemaName word := by decide
  exact hwords name (List.mem_append.mpr h)

theorem not_isTaken_resolve (name : String) :
    ¬IsTaken (sanitizer.resolve name Sanitizer.defaultSuffix) := by
  rw [resolve_sanitizer]
  split
  · exact not_isTaken_append name
  · assumption

theorem isSchemaName_resolve_iff {name : String} :
    IsSchemaName (sanitizer.resolve name Sanitizer.defaultSuffix) ↔ IsSchemaName name := by
  rw [resolve_sanitizer]
  split
  · rename_i htaken
    have hname := isSchemaName_of_isTaken htaken
    exact iff_of_true hname.append_underscore hname
  · rfl

theorem isPlainChar_of_mem_resolve {name : String} (h : ∀ d ∈ name.toList, isPlainChar d = true) :
    ∀ d ∈ (sanitizer.resolve name Sanitizer.defaultSuffix).toList, isPlainChar d = true := by
  have hsuffix : isPlainChar '_' = true := by decide
  rw [resolve_sanitizer]
  split
  · simpa [or_imp, forall_and, hsuffix] using h
  · exact h

/-! ## What names come to -/

/-- A name opens with a letter in a style: it is left as it is but for cleaning, or the first of its
letters and digits is a letter. -/
def KeepsOpening (name : String) (style : NameCase) : Prop :=
  style = .original ∨ name = "" ∨
    ∃ c, name.toList.find? Char.isAlphanum = some c ∧ c.isAlpha = true

instance (name : String) (style : NameCase) : Decidable (KeepsOpening name style) :=
  decidable_of_iff
    (style = .original ∨ name = "" ∨ (name.toList.find? Char.isAlphanum).any Char.isAlpha = true)
    (by simp [KeepsOpening, Option.any_eq_true])

theorem toList_convert_clean (style : NameCase) (name : String) :
    (style.convert (Sanitizer.clean name)).toList =
      style.convertChars (cleanChars name.toList) := by
  rw [NameCase.convert, toList_onChars, Sanitizer.clean, toList_onChars]

section

variable {style : NameCase} (hstyle : style ≠ .kebab) (name : String)

include hstyle

theorem isPlainChar_of_mem_convert :
    ∀ d ∈ (style.convert (Sanitizer.clean name)).toList, isPlainChar d = true := by
  intro d hd
  rw [toList_convert_clean] at hd
  exact NameCase.isPlainChar_of_mem_convertChars hstyle
    (Sanitizer.isPlainChar_of_mem_cleanChars name.toList) hd

theorem isSchemaName_convert_iff_find? (horiginal : style ≠ .original) :
    IsSchemaName (style.convert (Sanitizer.clean name)) ↔
      ∃ c, (cleanChars name.toList).find? (· ≠ '_') = some c ∧ c.isAlpha = true := by
  have hhead : (style.convert (Sanitizer.clean name)).toList.head? =
      ((cleanChars name.toList).find? (· ≠ '_')).map style.opening := by
    rw [toList_convert_clean]
    exact NameCase.head?_convertChars hstyle
      (Sanitizer.isPlainChar_of_mem_cleanChars name.toList) horiginal
  rw [IsSchemaName, isAsciiIdentifier_iff_head? (isPlainChar_of_mem_convert hstyle name), hhead]
  cases hfind : (cleanChars name.toList).find? (· ≠ '_') with
  | none => simp
  | some c =>
    have hc : c ≠ '_' := by simpa using List.find?_some hfind
    simp [NameCase.isAlpha_opening, NameCase.opening_eq_underscore_iff, hc]

/-- A clean name in a style is an identifier exactly if it opens with a letter there. -/
theorem isSchemaName_convert_iff :
    IsSchemaName (style.convert (Sanitizer.clean name)) ↔ KeepsOpening name style := by
  by_cases horiginal : style = .original
  · subst horiginal
    have hclean : IsSchemaName (NameCase.original.convert (Sanitizer.clean name)) := by
      rw [IsSchemaName, toList_convert_clean]
      exact Sanitizer.isAsciiIdentifier_cleanChars name.toList
    exact iff_of_true hclean (Or.inl rfl)
  · rw [isSchemaName_convert_iff_find? hstyle name horiginal, KeepsOpening,
      or_iff_right horiginal]
    by_cases hname : name = ""
    · subst hname
      exact iff_of_true ⟨'f', by decide, by decide⟩ (Or.inl rfl)
    · have hne : name.toList ≠ [] := by simpa using hname
      rw [Sanitizer.find?_cleanChars hne, or_iff_right hname]

/-- What a name comes to is safe exactly if the name opens with a letter in the style. -/
theorem isSafe_safeName_iff :
    IsSafe (sanitizer.safeName name style Sanitizer.defaultSuffix) ↔ KeepsOpening name style := by
  rw [← isSchemaName_convert_iff hstyle name, ← isSchemaName_resolve_iff]
  constructor
  · intro hsafe
    exact hsafe.identifier
  · intro hname
    exact ⟨hname, not_isTaken_resolve _⟩

end

/-- What a name comes to holds plain characters, and is not taken; it is safe exactly if the name
opens with a letter in the style. -/
theorem sanitize_isSafe_iff {style : NameCase} (hstyle : style ≠ .kebab) (name : String) :
    let answer := ((Sanitizer.sanitize name style Sanitizer.defaultSuffix).run sanitizer).1
    (∀ d ∈ answer.toList, isPlainChar d = true) ∧ ¬IsTaken answer ∧
      (IsSafe answer ↔ KeepsOpening name style) := by
  intro answer
  have hplain : ∀ d ∈ answer.toList, isPlainChar d = true :=
    isPlainChar_of_mem_resolve (isPlainChar_of_mem_convert hstyle name)
  have hfree : ¬IsTaken answer := not_isTaken_resolve _
  exact ⟨hplain, hfree, isSafe_safeName_iff hstyle name⟩

/-- A word of Go behind underscores loses these, and gets one as a suffix. -/
theorem sanitize_typeWord :
    ((Sanitizer.sanitize "__type" .snake Sanitizer.defaultSuffix).run sanitizer).1 = "type_" ∧
      IsSafe ((Sanitizer.sanitize "__type" .snake Sanitizer.defaultSuffix).run sanitizer).1 := by
  obtain ⟨-, -, hsafe⟩ := sanitize_isSafe_iff (by decide : NameCase.snake ≠ .kebab) "__type"
  exact ⟨by decide, hsafe.mpr (by decide)⟩

/-- The underscore that cleaning puts before a digit is lost in snake case. -/
theorem sanitize_firstPlace :
    ((Sanitizer.sanitize "1st" .snake Sanitizer.defaultSuffix).run sanitizer).1 = "1st" ∧
      ¬IsSchemaName "1st" := by
  decide

/-- A sanitizer that is asked for names that keep their opening gives safe ones only, also where two
of them share what it remembers. -/
theorem outcomes_isSafe {calls : List Sanitizer.Call}
    (hcalls : ∀ c ∈ calls, c.style ≠ .kebab ∧ c.suffix = Sanitizer.defaultSuffix ∧
      KeepsOpening c.name c.style) :
    ∀ answer ∈ Sanitizer.outcomes calls sanitizer, IsSafe answer := by
  apply Sanitizer.forall_outcomes
  · simp [sanitizer]
  · rintro ⟨name, style, suffix⟩ hc
    obtain ⟨hstyle, rfl, hopening⟩ := hcalls _ hc
    exact (isSafe_safeName_iff hstyle name).mpr hopening

end Go

end ResolverGen
