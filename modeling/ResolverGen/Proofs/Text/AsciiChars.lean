import ResolverGen.Naming.Sanitizer
import ResolverGen.Text.Word

/-!
# ASCII letters by code point

The classes of ASCII characters as ranges of code points, and the change of case as an offset, so
that questions about the characters of names come down to arithmetic.
-/
namespace ResolverGen.Text

variable {c d : Char}

theorem isUpper_iff : c.isUpper = true ↔ 65 ≤ c.toNat ∧ c.toNat ≤ 90 := by
  unfold Char.isUpper
  simp only [decide_eq_true_eq, UInt32.le_iff_toNat_le, ge_iff_le]
  rfl

theorem isLower_iff : c.isLower = true ↔ 97 ≤ c.toNat ∧ c.toNat ≤ 122 := by
  unfold Char.isLower
  simp only [Bool.and_eq_true, decide_eq_true_eq, UInt32.le_iff_toNat_le, ge_iff_le]
  rfl

theorem isAlpha_iff :
    c.isAlpha = true ↔ (65 ≤ c.toNat ∧ c.toNat ≤ 90) ∨ (97 ≤ c.toNat ∧ c.toNat ≤ 122) := by
  unfold Char.isAlpha
  rw [Bool.or_eq_true, isUpper_iff, isLower_iff]

theorem isDigit_iff : c.isDigit = true ↔ 48 ≤ c.toNat ∧ c.toNat ≤ 57 :=
  Char.isDigit_iff_toNat

theorem isAlphanum_iff :
    c.isAlphanum = true ↔ ((65 ≤ c.toNat ∧ c.toNat ≤ 90) ∨ (97 ≤ c.toNat ∧ c.toNat ≤ 122)) ∨
      (48 ≤ c.toNat ∧ c.toNat ≤ 57) := by
  unfold Char.isAlphanum
  rw [Bool.or_eq_true, isAlpha_iff, isDigit_iff]

theorem toNat_toLower (c : Char) :
    c.toLower.toNat = if 65 ≤ c.toNat ∧ c.toNat ≤ 90 then c.toNat + 32 else c.toNat := by
  unfold Char.toLower
  split
  · rename_i h
    have hrange : 65 ≤ c.toNat ∧ c.toNat ≤ 90 := h
    have hsum : (c.val + ('a'.val - 'A'.val)).toNat = c.toNat + 32 := by
      rw [UInt32.toNat_add]
      change (c.toNat + 32) % 4294967296 = _
      omega
    rw [if_pos hrange]
    exact hsum
  · rename_i h
    have hrange : ¬(65 ≤ c.toNat ∧ c.toNat ≤ 90) := h
    rw [if_neg hrange]

theorem toNat_toUpper (c : Char) :
    c.toUpper.toNat = if 97 ≤ c.toNat ∧ c.toNat ≤ 122 then c.toNat - 32 else c.toNat := by
  unfold Char.toUpper
  split
  · rename_i h
    have hrange : 97 ≤ c.toNat ∧ c.toNat ≤ 122 := h
    have hsum : (c.val + ('A'.val - 'a'.val)).toNat = c.toNat - 32 := by
      rw [UInt32.toNat_add]
      change (c.toNat + 4294967264) % 4294967296 = _
      omega
    rw [if_pos hrange]
    exact hsum
  · rename_i h
    have hrange : ¬(97 ≤ c.toNat ∧ c.toNat ≤ 122) := h
    rw [if_neg hrange]

/-- Upper case sees no more of a character than lower case does. -/
theorem toUpper_eq_iff_toLower_eq : c.toUpper = d.toUpper ↔ c.toLower = d.toLower := by
  rw [← Char.toNat_inj, ← Char.toNat_inj, toNat_toUpper, toNat_toUpper, toNat_toLower,
    toNat_toLower]
  split <;> split <;> split <;> split <;> omega

/-- A character that is both the lower case and the upper case of some is no letter. -/
theorem isAlpha_of_toLower_eq_toUpper (h : c.toLower = d.toUpper) : c.isAlpha = false := by
  rw [← Char.toNat_inj, toNat_toLower, toNat_toUpper] at h
  rw [Bool.eq_false_iff, ne_eq, isAlpha_iff]
  intro hc
  split at h <;> split at h <;> omega

theorem toLower_toLower (c : Char) : c.toLower.toLower = c.toLower := by
  rw [← Char.toNat_inj, toNat_toLower, toNat_toLower]
  grind

theorem toLower_toUpper (c : Char) : c.toUpper.toLower = c.toLower := by
  rw [← Char.toNat_inj, toNat_toLower, toNat_toLower, toNat_toUpper]
  grind

theorem isAlpha_toLower (c : Char) : c.toLower.isAlpha = c.isAlpha := by
  rw [Bool.eq_iff_iff, isAlpha_iff, isAlpha_iff, toNat_toLower]
  split <;> omega

theorem isAlpha_toUpper (c : Char) : c.toUpper.isAlpha = c.isAlpha := by
  rw [Bool.eq_iff_iff, isAlpha_iff, isAlpha_iff, toNat_toUpper]
  split <;> omega

theorem isUpper_toUpper (c : Char) : c.toUpper.isUpper = c.isAlpha := by
  rw [Bool.eq_iff_iff, isUpper_iff, isAlpha_iff, toNat_toUpper]
  split <;> omega

theorem isAlphanum_toLower (c : Char) : c.toLower.isAlphanum = c.isAlphanum := by
  rw [Bool.eq_iff_iff, isAlphanum_iff, isAlphanum_iff, toNat_toLower]
  split <;> omega

theorem isAlphanum_toUpper (c : Char) : c.toUpper.isAlphanum = c.isAlphanum := by
  rw [Bool.eq_iff_iff, isAlphanum_iff, isAlphanum_iff, toNat_toUpper]
  split <;> omega

theorem isUpper_toLower (c : Char) : c.toLower.isUpper = false := by
  rw [Bool.eq_false_iff, ne_eq, isUpper_iff, toNat_toLower]
  split <;> omega

theorem toLower_of_not_isUpper (h : c.isUpper = false) : c.toLower = c := by
  rw [Bool.eq_false_iff, ne_eq, isUpper_iff] at h
  rw [← Char.toNat_inj, toNat_toLower, if_neg h]

theorem map_toLower_of_not_isUpper {s : List Char} (h : ∀ c ∈ s, c.isUpper = false) :
    s.map Char.toLower = s := by
  have hid : ∀ c ∈ s, c.toLower = id c := fun c hc => toLower_of_not_isUpper (h c hc)
  rw [List.map_congr_left hid, List.map_id]

theorem toLower_comp_toLower : Char.toLower ∘ Char.toLower = Char.toLower :=
  funext toLower_toLower

theorem toLower_comp_toUpper : Char.toLower ∘ Char.toUpper = Char.toLower :=
  funext toLower_toUpper

/-! ## Characters of identifiers -/

open Sanitizer (isPlainChar)

theorem isPlainChar_iff : isPlainChar c = true ↔ c.isAlphanum = true ∨ c = '_' := by
  unfold isPlainChar
  rw [Bool.or_eq_true, decide_eq_true_eq]

theorem toNat_lt_of_isPlainChar (h : isPlainChar c = true) : c.toNat < 0x80 := by
  rw [isPlainChar_iff, isAlphanum_iff] at h
  rcases h with h | rfl
  · omega
  · decide

theorem not_isBlank_of_isPlainChar (h : isPlainChar c = true) : isBlank c = false := by
  have hlow : c.toNat < 0x80 := toNat_lt_of_isPlainChar h
  rw [isPlainChar_iff, isAlphanum_iff] at h
  unfold isBlank
  rcases h with h | rfl
  · simp only [Bool.or_eq_false_iff, Bool.and_eq_false_iff, decide_eq_false_iff_not]
    omega
  · decide

theorem ne_newline_of_isPlainChar (h : isPlainChar c = true) : c ≠ '\n' := by
  rintro rfl
  exact absurd h (by decide)

/-- An ASCII identifier opens with a letter or an underscore and holds plain characters. -/
theorem isAsciiIdentifier_iff {s : List Char} :
    isAsciiIdentifier s = true ↔
      ∃ c rest, s = c :: rest ∧ (c.isAlpha = true ∨ c = '_') ∧
        ∀ d ∈ rest, isPlainChar d = true := by
  cases s with
  | nil => simp [isAsciiIdentifier]
  | cons c rest =>
    unfold isAsciiIdentifier
    rw [Bool.and_eq_true, Bool.or_eq_true, decide_eq_true_eq, List.all_eq_true]
    constructor
    · intro h
      exact ⟨c, rest, rfl, h.1, h.2⟩
    · rintro ⟨c', rest', he, h⟩
      obtain ⟨rfl, rfl⟩ := List.cons.inj he
      exact h

/-- Of plain characters the first one decides. -/
theorem isAsciiIdentifier_iff_head? {s : List Char} (h : ∀ d ∈ s, isPlainChar d = true) :
    isAsciiIdentifier s = true ↔ ∃ c, s.head? = some c ∧ (c.isAlpha = true ∨ c = '_') := by
  rw [isAsciiIdentifier_iff]
  constructor
  · rintro ⟨c, rest, rfl, hc, -⟩
    exact ⟨c, rfl, hc⟩
  · rintro ⟨c, hhead, hc⟩
    obtain ⟨rest, rfl⟩ := List.head?_eq_some_iff.mp hhead
    exact ⟨c, rest, rfl, hc, (List.forall_mem_cons.mp h).2⟩

theorem isPlainChar_of_isAlpha (h : c.isAlpha = true ∨ c = '_') : isPlainChar c = true := by
  rw [isPlainChar_iff]
  rcases h with h | h
  · left
    unfold Char.isAlphanum
    rw [h, Bool.true_or]
  · exact Or.inr h

theorem isPlainChar_of_mem {s : List Char} (h : isAsciiIdentifier s = true) :
    ∀ d ∈ s, isPlainChar d = true := by
  obtain ⟨c, rest, rfl, hc, hrest⟩ := isAsciiIdentifier_iff.mp h
  intro d hd
  rcases List.mem_cons.mp hd with rfl | hd
  · exact isPlainChar_of_isAlpha hc
  · exact hrest d hd

/-! ## ASCII texts -/

theorem isUpperChar_ascii (h : c.toNat < 0x80) : isUpperChar c = c.isUpper := by
  rw [isUpperChar, if_pos h]

def IsAscii (s : List Char) : Prop := ∀ c ∈ s, c.toNat < 0x80

instance (s : List Char) : Decidable (IsAscii s) :=
  List.decidableBAll (fun c : Char => c.toNat < 0x80) s

theorem isAscii_of_isPlainChar {s : List Char} (h : ∀ c ∈ s, isPlainChar c = true) : IsAscii s :=
  fun c hc => toNat_lt_of_isPlainChar (h c hc)

theorem isAscii_map_toLower_iff {s : List Char} :
    IsAscii (s.map Char.toLower) ↔ IsAscii s := by
  unfold IsAscii
  rw [List.forall_mem_map]
  refine forall₂_congr fun c _ => ?_
  rw [toNat_toLower]
  split <;> omega

end ResolverGen.Text
