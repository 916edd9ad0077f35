import ResolverGen.Text.CaseTable

/-!
# Letter case

Upper, lower and title case of texts. A character may map to several (`ß` to `SS`), title case
differs from upper case for digraphs and ligatures, and a sigma that ends a word has a lower-case
form of its own.
-/
namespace ResolverGen.Text

/-- Image of a code point under one run. -/
def CaseRun.image? (r : CaseRun) (n : Nat) : Option Nat :=
  if r.first ≤ n ∧ n ≤ r.last ∧ (n - r.first) % r.step = 0 then some (r.target + (n - r.first))
  else none

/-- First image of a character among runs; a character no run holds stays. -/
def mapByRuns (runs : List CaseRun) (c : Char) : Char :=
  ((runs.findSome? (·.image? c.toNat)).map Char.ofNat).getD c

/-- Image of a character in a table of several-character mappings. -/
def special? (table : List (Nat × List Nat)) (c : Char) : Option (List Char) :=
  (table.lookup c.toNat).map (·.map Char.ofNat)

def upperChar (c : Char) : List Char :=
  if c.toNat < 0x80 then [c.toUpper]
  else (special? upperSpecial c).getD [mapByRuns upperRuns c]

def titleChar (c : Char) : List Char :=
  if c.toNat < 0x80 then [c.toUpper]
  else (special? titleSpecial c).getD (upperChar c)

/-- Lower case of a character apart from its neighbours. -/
def lowerChar (c : Char) : List Char :=
  if c.toNat < 0x80 then [c.toLower]
  else if c = 'İ' then ['i', '\u0307']
  else [mapByRuns lowerRuns c]

def isUpperChar (c : Char) : Bool :=
  if c.toNat < 0x80 then c.isUpper else upperTable.contains c.toNat

def isCased (c : Char) : Bool :=
  if c.toNat < 0x80 then c.isAlpha else casedTable.contains c.toNat

def isCaseIgnorable (c : Char) : Bool :=
  if c.toNat < 0x80 then c ∈ ['\'', '.', ':', '^', '\u0060'] else caseIgnorableTable.contains c.toNat

/-- Whether the nearest character that counts is one with case. -/
def nextIsCased (cs : List Char) : Bool :=
  ((cs.find? (!isCaseIgnorable ·)).map isCased).getD false

/-- Lower case of a text that follows `before`, which is given backwards. -/
def lowerAfter : List Char → List Char → List Char
  | _, [] => []
  | before, c :: rest =>
    (if c = 'Σ' then [if nextIsCased before && !nextIsCased rest then 'ς' else 'σ']
      else lowerChar c) ++ lowerAfter (c :: before) rest

def lower (s : List Char) : List Char := lowerAfter [] s

def upper (s : List Char) : List Char := s.flatMap upperChar

/-- A word with its first character in title case and the rest in lower case. -/
def titleWord : List Char → List Char
  | [] => []
  | c :: rest => titleChar c ++ lowerAfter [c] rest

theorem upperChar_ascii {c : Char} (h : c.toNat < 0x80) : upperChar c = [c.toUpper] := by
  simp [upperChar, h]

theorem titleChar_ascii {c : Char} (h : c.toNat < 0x80) : titleChar c = [c.toUpper] := by
  simp [titleChar, h]

theorem lowerChar_ascii {c : Char} (h : c.toNat < 0x80) : lowerChar c = [c.toLower] := by
  simp [lowerChar, h]

theorem lowerAfter_ascii (before : List Char) {s : List Char} (h : ∀ c ∈ s, c.toNat < 0x80) :
    lowerAfter before s = s.map Char.toLower := by
  induction s generalizing before with
  | nil => rfl
  | cons c rest ih =>
    have hc := h c (by simp)
    have hs : c ≠ 'Σ' := by
      rintro rfl
      exact absurd hc (by decide)
    simp [lowerAfter, hs, lowerChar_ascii hc, ih _ fun d hd => h d (by simp [hd])]

/-- On ASCII texts lower case is taken character by character. -/
theorem lower_ascii {s : List Char} (h : ∀ c ∈ s, c.toNat < 0x80) :
    lower s = s.map Char.toLower :=
  lowerAfter_ascii [] h

theorem upper_ascii {s : List Char} (h : ∀ c ∈ s, c.toNat < 0x80) :
    upper s = s.map Char.toUpper := by
  induction s with
  | nil => rfl
  | cons c rest ih =>
    have ih' := ih fun d hd => h d (by simp [hd])
    simp only [upper, List.flatMap_cons, List.map_cons] at *
    simp [upperChar_ascii (h c (by simp)), ih']

end ResolverGen.Text
