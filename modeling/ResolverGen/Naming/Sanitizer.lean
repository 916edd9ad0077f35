import ResolverGen.Naming.Case

/-!
# Name sanitizer

Names made safe for a language: characters outside ASCII words become underscores, a name that
would be empty or open with a digit is mended, and a clash with a reserved word is resolved by a
suffix. A sanitizer remembers its answers under a key of name, style and suffix.
-/
namespace ResolverGen

structure Sanitizer where
  reserved : List String
  builtins : List String
  /-- Answers given so far, by key. -/
  answers : List (String × String) := []
deriving DecidableEq, Repr

namespace Sanitizer

/-- Whether a name clashes with a keyword or a builtin. -/
def isReserved (s : Sanitizer) (name : String) : Bool :=
  name ∈ s.reserved || name ∈ s.builtins

def isPlainChar (c : Char) : Bool := c.isAlphanum || c = '_'

/-- A name of plain characters that is not empty and does not open with a digit. -/
def cleanChars (name : List Char) : List Char :=
  match name.map fun c => if isPlainChar c then c else '_' with
  | [] => "field".toList
  | c :: rest => if c.isDigit then '_' :: c :: rest else c :: rest

def clean (name : String) : String := Text.onChars cleanChars name

/-- A name with the suffix added where it clashes. -/
def resolve (s : Sanitizer) (name suffix : String) : String :=
  if s.isReserved name then name ++ suffix else name

/-- The safe form of a name, apart from what was asked before. -/
def safeName (s : Sanitizer) (name : String) (style : NameCase) (suffix : String) : String :=
  s.resolve (style.convert (clean name)) suffix

def answerKey (name : String) (style : NameCase) (suffix : String) : String :=
  name ++ "_" ++ style.label ++ "_" ++ suffix

/-- The suffix used where none is given. -/
def defaultSuffix : String := "_"

/-- The remembered answer for the key, or else the safe form, which is then remembered. -/
def sanitize (name : String) (style : NameCase) (suffix : String) : StateM Sanitizer String :=
  fun s =>
    match s.answers.lookup (answerKey name style suffix) with
    | some answer => (answer, s)
    | none =>
      let answer := s.safeName name style suffix
      (answer, { s with answers := s.answers ++ [(answerKey name style suffix, answer)] })

end Sanitizer

end ResolverGen
