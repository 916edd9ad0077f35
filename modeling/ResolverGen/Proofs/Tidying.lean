import ResolverGen.Formatter
import ResolverGen.Proofs.Text.EndedLines

/-!
# What tidying leaves

A line that is not blank is kept without the blanks at its end, and what follows it is tidied as if
nothing stood before. So a text is tidied block by block where each block ends in such a line, and a
block without blanks at line ends and with single empty lines stays as it is.
-/
namespace ResolverGen.Formatter

open Text

/-- A line that is not blank and has no blanks at its end. -/
def IsSolid (l : List Char) : Prop := stripRight l = l ∧ l ≠ []

theorem isSolid_of_getLast {l : List Char} {c : Char} (h : l.getLast? = some c)
    (hc : isBlank c = false) : IsSolid l := by
  constructor
  · apply trimRight_of_getLast
    intro d hd
    obtain rfl : c = d := by rw [h] at hd; exact Option.some.inj hd
    exact hc
  · rintro rfl
    cases h

theorem IsSolid.getLast {l : List Char} (h : IsSolid l) :
    ∃ c, l.getLast? = some c ∧ isBlank c = false := by
  cases hl : l.getLast? with
  | none => exact absurd (List.getLast?_eq_none_iff.mp hl) h.2
  | some c =>
    have hstrip : (stripRight l).getLast? = some c := by rw [h.1, hl]
    exact ⟨c, rfl, getLast_trimRight hstrip⟩

theorem IsSolid.isBlank_of_getLast {l : List Char} (h : IsSolid l) {c : Char}
    (hc : l.getLast? = some c) : isBlank c = false := by
  obtain ⟨d, hd, hblank⟩ := h.getLast
  rw [hd] at hc
  obtain rfl : d = c := Option.some.inj hc
  exact hblank

theorem IsSolid.prepend {l : List Char} (h : IsSolid l) (s : List Char) : IsSolid (s ++ l) := by
  obtain ⟨c, hl, hc⟩ := h.getLast
  refine isSolid_of_getLast ?_ hc
  rw [List.getLast?_append, hl]
  rfl

/-- A text is solid if it ends in a solid one. -/
theorem isSolid_toList_append (s : String) {t : String} (h : IsSolid t.toList) :
    IsSolid (s ++ t).toList := by
  rw [String.toList_append]
  exact h.prepend s.toList

/-- A solid line behind others opens and ends them without blanks, if none open with one. -/
theorem IsSolid.isBare_append {s l : List Char} (hl : IsSolid l)
    (hs : ∀ c, s.head? = some c → isBlank c = false)
    (hhead : ∀ c, l.head? = some c → isBlank c = false) : IsBare (s ++ l) := by
  constructor
  · intro c hc
    cases s with
    | nil => exact hhead c hc
    | cons d rest => exact hs c hc
  · intro c hc
    exact (hl.prepend s).isBlank_of_getLast hc

/-! ## One line after another -/

variable {max : Int} {l : List Char}

/-- A line that is not blank is kept, whatever stood before it. -/
theorem tidyLines_kept (hl : stripRight l ≠ []) (blanks : Nat) (started : Bool)
    (ls : List (List Char)) :
    tidyLines max blanks started (l :: ls) = stripRight l :: tidyLines max 0 true ls := by
  rw [tidyLines]
  split
  · rename_i h
    exact absurd h hl
  · rfl

theorem IsSolid.tidyLines (hl : IsSolid l) (blanks : Nat) (started : Bool)
    (ls : List (List Char)) :
    Formatter.tidyLines max blanks started (l :: ls) = l :: Formatter.tidyLines max 0 true ls := by
  have hkept : stripRight l ≠ [] := by rw [hl.1]; exact hl.2
  rw [tidyLines_kept hkept, hl.1]

/-- A line that is not blank parts what is tidied before it from what is tidied after it. -/
theorem tidyLines_append_kept (hl : stripRight l ≠ []) (ls ms : List (List Char)) :
    ∀ (blanks : Nat) (started : Bool),
      tidyLines max blanks started (ls ++ l :: ms) =
        tidyLines max blanks started ls ++ stripRight l :: tidyLines max 0 true ms := by
  induction ls with
  | nil =>
    intro blanks started
    exact tidyLines_kept hl blanks started ms
  | cons m ls ih =>
    intro blanks started
    rw [List.cons_append, tidyLines, tidyLines]
    split
    · split
      · rw [ih, List.cons_append]
      · rw [ih]
    · rw [ih, List.cons_append]

/-- A first empty line after a line that was kept stays, if any may. -/
theorem tidyLines_gap (hmax : 1 ≤ max) (hl : IsSolid l) (ls : List (List Char)) :
    tidyLines max 0 true ([] :: l :: ls) = [] :: l :: tidyLines max 0 true ls := by
  rw [tidyLines]
  change (if (true && decide (((0 + 1 : Nat) : Int) ≤ max)) = true then _ else _) = _
  rw [if_pos (by simpa using hmax), hl.tidyLines]

/-- Lines that tidying leaves alone after a line that was kept: solid ones, with single empty lines
before some of them. -/
inductive Settled : List (List Char) → Prop where
  | nil : Settled []
  | line {l : List Char} {ls : List (List Char)} (hl : IsSolid l) (h : Settled ls) :
    Settled (l :: ls)
  | gap {l : List Char} {ls : List (List Char)} (hl : IsSolid l) (h : Settled ls) :
    Settled ([] :: l :: ls)

theorem Settled.append {ls ms : List (List Char)} (hl : Settled ls) (hm : Settled ms) :
    Settled (ls ++ ms) := by
  induction hl with
  | nil => exact hm
  | line h _ ih => exact .line h ih
  | gap h _ ih => exact .gap h ih

theorem Settled.flatMap {α : Type} {f : α → List (List Char)} :
    ∀ {xs : List α}, (∀ x ∈ xs, Settled (f x)) → Settled (xs.flatMap f)
  | [], _ => .nil
  | x :: rest, h => by
    rw [List.flatMap_cons]
    exact (h x List.mem_cons_self).append
      (Settled.flatMap fun y hy => h y (List.mem_cons_of_mem x hy))

theorem settled_of_isSolid {ls : List (List Char)} (h : ∀ l ∈ ls, IsSolid l) : Settled ls := by
  induction ls with
  | nil => exact .nil
  | cons l rest ih =>
    exact .line (h l List.mem_cons_self) (ih fun m hm => h m (List.mem_cons_of_mem l hm))

theorem Settled.tidyLines {ls : List (List Char)} (h : Settled ls) (hmax : 1 ≤ max)
    (ms : List (List Char)) :
    Formatter.tidyLines max 0 true (ls ++ ms) = ls ++ Formatter.tidyLines max 0 true ms := by
  induction h with
  | nil => rfl
  | line hl _ ih => rw [List.cons_append, hl.tidyLines, ih, List.cons_append]
  | gap hl _ ih =>
    rw [List.cons_append, List.cons_append, tidyLines_gap hmax hl, ih, List.cons_append,
      List.cons_append]

theorem Settled.exists_last {ls : List (List Char)} (h : Settled ls) (hne : ls ≠ []) :
    ∃ ms l, ls = ms ++ [l] ∧ IsSolid l := by
  have key : ∀ {l : List Char} {rest : List (List Char)}, IsSolid l →
      (rest ≠ [] → ∃ ms m, rest = ms ++ [m] ∧ IsSolid m) →
        ∃ ms m, l :: rest = ms ++ [m] ∧ IsSolid m := by
    intro l rest hl ih
    by_cases hrest : rest = []
    · rw [hrest]
      exact ⟨[], l, rfl, hl⟩
    · obtain ⟨ms, m, rfl, hm⟩ := ih hrest
      exact ⟨l :: ms, m, rfl, hm⟩
  induction h with
  | nil => exact absurd rfl hne
  | line hl _ ih => exact key hl ih
  | gap hl _ ih =>
    obtain ⟨ms, m, hms, hm⟩ := key hl ih
    rw [hms]
    exact ⟨[] :: ms, m, rfl, hm⟩

/-! ## Whole texts -/

/-- A text whose last line is solid comes to its lines as tidying leaves them. -/
theorem tidyChars_ended {ls : List (List Char)} (hnewline : ∀ m ∈ ls ++ [l], '\n' ∉ m)
    (hl : IsSolid l) :
    tidyChars max (ended (ls ++ [l])) = ended (tidyLines max 0 false (ls ++ [l])) := by
  have hkept : stripRight l ≠ [] := by rw [hl.1]; exact hl.2
  have hall : tidyLines max 0 false (ls ++ [l]) = tidyLines max 0 false ls ++ [l] := by
    rw [tidyLines_append_kept hkept, hl.1]
    rfl
  -- the empty line behind the last newline is dropped, be it kept or not
  have hrest : dropLastEmpty (tidyLines max 0 false (ls ++ [l] ++ [[]])) =
      tidyLines max 0 false ls ++ [l] := by
    rw [List.append_assoc, List.singleton_append, tidyLines_append_kept hkept, hl.1]
    have hempty : tidyLines max 0 true [[]] = [] ∨ tidyLines max 0 true [[]] = [[]] := by
      rw [tidyLines]
      change (if _ then [] :: tidyLines max (0 + 1) true []
        else tidyLines max (0 + 1) true []) = _ ∨ _
      split
      · exact Or.inr rfl
      · exact Or.inl rfl
    have hne : l.isEmpty = false := by simpa using hl.2
    rcases hempty with he | he <;>
      · rw [he]
        unfold dropLastEmpty
        simp [hne]
  unfold tidyChars
  rw [lines_ended hnewline, hrest, hall, unlines_append_newline (by simp)]

end ResolverGen.Formatter
