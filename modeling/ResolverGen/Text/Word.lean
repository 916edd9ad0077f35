import ResolverGen.Text.WordTable

/-!
# Words and identifiers

The characters of identifiers and of words.
-/
namespace ResolverGen.Text

def isIdentifierStart (c : Char) : Bool :=
  if c.toNat < 0x80 then c.isAlpha || c = '_' else identifierStartTable.contains c.toNat

def isIdentifierRest (c : Char) : Bool :=
  if c.toNat < 0x80 then c.isAlphanum || c = '_' else identifierRestTable.contains c.toNat

/-- A character of a word: letters and numbers of any script, and what an identifier may hold. -/
def isWordChar (c : Char) : Bool :=
  if c.toNat < 0x80 then c.isAlphanum || c = '_' else wordTable.contains c.toNat

/-- A letter or underscore, then letters, digits, underscores and combining marks. -/
def isIdentifier : List Char → Bool
  | [] => false
  | c :: rest => isIdentifierStart c && rest.all isIdentifierRest

/-- An identifier of ASCII letters, digits and underscores. -/
def isAsciiIdentifier : List Char → Bool
  | [] => false
  | c :: rest => (c.isAlpha || c = '_') && rest.all fun d => d.isAlphanum || d = '_'

theorem isIdentifier_ascii {s : List Char} (h : ∀ c ∈ s, c.toNat < 0x80) :
    isIdentifier s = isAsciiIdentifier s := by
  cases s with
  | nil => rfl
  | cons c rest =>
    have hr : rest.all isIdentifierRest = rest.all fun d => d.isAlphanum || d = '_' := by
      apply Bool.eq_iff_iff.2
      simp only [List.all_eq_true]
      refine forall_congr' fun d => ?_
      refine ⟨fun k hd => ?_, fun k hd => ?_⟩ <;> have := k hd <;>
        simpa [isIdentifierRest, h d (by simp [hd])] using this
    simp [isIdentifier, isAsciiIdentifier, isIdentifierStart, h c (by simp), hr]

end ResolverGen.Text
