/-!
# Blank characters

The characters that count as white space, and texts with the blanks at their ends removed.
-/
namespace ResolverGen.Text

/-- White space: the ASCII blanks and separators, next line, and the Unicode spaces. -/
def isBlank (c : Char) : Bool :=
  let n := c.toNat
  (9 ≤ n && n ≤ 13) || (28 ≤ n && n ≤ 32) ||
    (0x80 ≤ n && (n = 0x85 || n = 0xA0 || n = 0x1680 || (0x2000 ≤ n && n ≤ 0x200A) || n = 0x2028 ||
      n = 0x2029 || n = 0x202F || n = 0x205F || n = 0x3000))

/-- A text without its leading characters of a class. -/
def trimLeft (p : Char → Bool) (s : List Char) : List Char := s.dropWhile p

/-- A text without its trailing characters of a class. -/
def trimRight (p : Char → Bool) (s : List Char) : List Char := (s.reverse.dropWhile p).reverse

/-- A text without the characters of a class at both ends. -/
def trim (p : Char → Bool) (s : List Char) : List Char := trimRight p (trimLeft p s)

def strip (s : List Char) : List Char := trim isBlank s

def stripRight (s : List Char) : List Char := trimRight isBlank s

@[simp] theorem trimLeft_nil (p : Char → Bool) : trimLeft p [] = [] := rfl

@[simp] theorem trimRight_nil (p : Char → Bool) : trimRight p [] = [] := rfl

theorem trimRight_append_of_all (p : Char → Bool) (s : List Char) {t : List Char}
    (h : ∀ c ∈ t, p c) : trimRight p (s ++ t) = trimRight p s := by
  have key : ∀ u : List Char, (∀ c ∈ u, p c) → ∀ v, (u ++ v).dropWhile p = v.dropWhile p := by
    intro u hu v
    induction u with
    | nil => rfl
    | cons c r ih =>
      simp only [List.cons_append, List.dropWhile_cons, hu c (by simp), if_true]
      exact ih fun d hd => hu d (by simp [hd])
  simp only [trimRight, List.reverse_append]
  rw [key t.reverse fun c hc => h c (by simpa using hc)]

end ResolverGen.Text
