import ResolverGen.Proofs.Text.AsciiChars
import ResolverGen.Text.Case

/-!
# Lower case stays

A text in lower case stays as it is in lower case. The images of the case table are not moved on by
it, and none of them is a capital sigma, the one character whose image depends on its neighbours.
-/
namespace ResolverGen.Text

/-- A character that lower case leaves alone wherever it stands. -/
def IsLowered (c : Char) : Prop := c ≠ 'Σ' ∧ lowerChar c = [c]

instance : DecidablePred IsLowered := fun _ => inferInstanceAs (Decidable (_ ∧ _))

/-- Whether the images of a run stand outside another run: before it, behind it, or in its gaps. -/
def CaseRun.isApart (r other : CaseRun) : Bool :=
  r.target + (r.last - r.first) < other.first || other.last < r.target ||
    (r.step % 2 = 0 || r.first = r.last) && other.step % 2 = 0 && r.target % 2 ≠ other.first % 2

/-- Whether the images of a run are characters other than capital letters of ASCII and `İ`. -/
def CaseRun.isPlain (r : CaseRun) : Bool :=
  0x5a < r.target && (r.target + (r.last - r.first) < 0x130 || 0x130 < r.target) &&
    (r.target + (r.last - r.first) < 0xd800 ||
      0xdfff < r.target && r.target + (r.last - r.first) < 0x110000)

theorem isApart_lowerRuns : (lowerRuns.all fun r => lowerRuns.all r.isApart) = true := by
  decide +kernel

theorem isPlain_lowerRuns : lowerRuns.all CaseRun.isPlain = true := by
  decide +kernel

section

variable {r other : CaseRun} {n m : Nat}

theorem CaseRun.image?_eq_some_iff : r.image? n = some m ↔
    r.first ≤ n ∧ n ≤ r.last ∧ (n - r.first) % r.step = 0 ∧ m = r.target + (n - r.first) := by
  unfold image?
  split
  · rename_i h
    simp [h, eq_comm]
  · rename_i h
    simp only [reduceCtorEq, false_iff]
    rintro ⟨hfirst, hlast, hstep, -⟩
    exact h ⟨hfirst, hlast, hstep⟩

/-- An even step leads to even distances. -/
theorem CaseRun.even_of_step (hstep : r.step % 2 = 0) (h : (n - r.first) % r.step = 0) :
    (n - r.first) % 2 = 0 :=
  Nat.mod_eq_zero_of_dvd (Nat.dvd_trans (Nat.dvd_of_mod_eq_zero hstep) (Nat.dvd_of_mod_eq_zero h))

theorem CaseRun.image?_of_isApart (hapart : r.isApart other = true) (h : r.image? n = some m) :
    other.image? m = none := by
  obtain ⟨hfirst, hlast, hdistance, rfl⟩ := image?_eq_some_iff.mp h
  rw [Option.eq_none_iff_forall_ne_some]
  intro k hk
  obtain ⟨hfirst', hlast', hdistance', -⟩ := image?_eq_some_iff.mp hk
  simp only [isApart, Bool.or_eq_true, Bool.and_eq_true, decide_eq_true_eq] at hapart
  rcases hapart with (hbefore | hbehind) | ⟨⟨hstep, hstep'⟩, hgap⟩
  · omega
  · omega
  · -- the image and the other run have different parities
    have heven : (n - r.first) % 2 = 0 := by
      rcases hstep with hstep | hsingle
      · exact even_of_step hstep hdistance
      · omega
    have heven' := even_of_step hstep' hdistance'
    omega

theorem isLowered_of_image (hr : r ∈ lowerRuns) (h : r.image? n = some m) :
    IsLowered (Char.ofNat m) := by
  have hplain := List.all_eq_true.mp isPlain_lowerRuns r hr
  have hapart := List.all_eq_true.mp (List.all_eq_true.mp isApart_lowerRuns r hr)
  obtain ⟨hfirst, hlast, -, hm⟩ := CaseRun.image?_eq_some_iff.mp h
  simp only [CaseRun.isPlain, Bool.or_eq_true, Bool.and_eq_true, decide_eq_true_eq] at hplain
  have hvalid : m.isValidChar := by
    unfold Nat.isValidChar
    omega
  have hcode : (Char.ofNat m).toNat = m := by
    rw [Char.ofNat, dif_pos hvalid]
    rfl
  have houtside : lowerRuns.findSome? (·.image? (Char.ofNat m).toNat) = none := by
    rw [hcode, List.findSome?_eq_none_iff]
    intro other hother
    exact CaseRun.image?_of_isApart (hapart other hother) h
  have hself : mapByRuns lowerRuns (Char.ofNat m) = Char.ofNat m := by
    rw [mapByRuns, houtside]
    rfl
  constructor
  · -- a capital sigma has an image
    intro hsigma
    rw [hsigma] at houtside
    exact absurd houtside (by decide +kernel)
  · by_cases hascii : (Char.ofNat m).toNat < 0x80
    · rw [lowerChar_ascii hascii, List.singleton_inj, ← Char.toNat_inj, toNat_toLower, hcode]
      split <;> omega
    · have hdot : Char.ofNat m ≠ 'İ' := by
        intro hdot
        have hcode' : m = 0x130 := by
          rw [← hcode, hdot]
          rfl
        omega
      rw [lowerChar, if_neg hascii, if_neg hdot, hself]

end

theorem isLowered_toLower {c : Char} (h : c.toNat < 0x80) : IsLowered c.toLower := by
  have hlow : c.toLower.toNat < 0x80 := by
    rw [toNat_toLower]
    split <;> omega
  constructor
  · intro hsigma
    rw [hsigma] at hlow
    exact absurd hlow (by decide)
  · rw [lowerChar_ascii hlow, toLower_toLower]

/-- A character that no run of the table holds is lowered, and so is the image of any other. -/
theorem isLowered_mapByRuns {c : Char} (hsigma : c ≠ 'Σ') (hascii : ¬c.toNat < 0x80)
    (hdot : c ≠ 'İ') : IsLowered (mapByRuns lowerRuns c) := by
  have hc : lowerChar c = [mapByRuns lowerRuns c] := by
    rw [lowerChar, if_neg hascii, if_neg hdot]
  cases himage : lowerRuns.findSome? (·.image? c.toNat) with
  | none =>
    have hself : mapByRuns lowerRuns c = c := by
      rw [mapByRuns, himage]
      rfl
    rw [hself] at hc ⊢
    exact ⟨hsigma, hc⟩
  | some m =>
    obtain ⟨r, hr, hm⟩ := List.exists_of_findSome?_eq_some himage
    have himaged : mapByRuns lowerRuns c = Char.ofNat m := by
      rw [mapByRuns, himage]
      rfl
    rw [himaged]
    exact isLowered_of_image hr hm

theorem isLowered_of_mem_lowerChar {c d : Char} (hsigma : c ≠ 'Σ') (h : d ∈ lowerChar c) :
    IsLowered d := by
  unfold lowerChar at h
  split at h
  · rename_i hascii
    rw [List.mem_singleton.mp h]
    exact isLowered_toLower hascii
  · rename_i hascii
    split at h
    · have himages : d = 'i' ∨ d = '\u0307' := by simpa using h
      rcases himages with rfl | rfl
      · decide
      · decide
    · rename_i hdot
      rw [List.mem_singleton.mp h]
      exact isLowered_mapByRuns hsigma hascii hdot

theorem isLowered_lowerAfter {s : List Char} :
    ∀ before, ∀ d ∈ lowerAfter before s, IsLowered d := by
  induction s with
  | nil =>
    intro before d h
    cases h
  | cons c rest ih =>
    intro before d h
    rw [lowerAfter] at h
    rcases List.mem_append.mp h with h | h
    · split at h
      · -- the two small sigmas
        rw [List.mem_singleton.mp h]
        split <;> decide
      · rename_i hsigma
        exact isLowered_of_mem_lowerChar hsigma h
    · exact ih _ d h

theorem lowerAfter_of_isLowered {s : List Char} (h : ∀ c ∈ s, IsLowered c) :
    ∀ before, lowerAfter before s = s := by
  induction s with
  | nil =>
    intro before
    rfl
  | cons c rest ih =>
    intro before
    obtain ⟨hc, hrest⟩ := List.forall_mem_cons.mp h
    rw [lowerAfter, if_neg hc.1, hc.2, ih hrest, List.singleton_append]

theorem lower_lower (s : List Char) : lower (lower s) = lower s :=
  lowerAfter_of_isLowered (isLowered_lowerAfter []) []

end ResolverGen.Text
