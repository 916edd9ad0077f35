import ResolverGen.Text.Blank

/-!
# Replacement

Texts with the occurrences of a part replaced, from left to right and without overlap.
-/
namespace ResolverGen.Text

/-- A replacement put before each character and at the end, as often as is allowed. -/
def interleave (new : List Char) : Option Nat → List Char → List Char
  | some 0, s => s
  | _, [] => new
  | limit?, c :: rest => new ++ c :: interleave new (limit?.map (· - 1)) rest

/-- Occurrences of `old`, not empty, replaced. The fuel is more than the length of the text. -/
def replaceFrom (old new : List Char) : Nat → Option Nat → List Char → List Char
  | 0, _, s => s
  | _ + 1, some 0, s => s
  | _ + 1, _, [] => []
  | fuel + 1, limit?, c :: rest =>
    if old.isPrefixOf (c :: rest) then
      new ++ replaceFrom old new fuel (limit?.map (· - 1)) ((c :: rest).drop old.length)
    else c :: replaceFrom old new fuel limit? rest

/-- Occurrences replaced, at most `limit?` of them. An empty part occurs between all characters. -/
def replace (old new : List Char) (limit? : Option Nat) (s : List Char) : List Char :=
  if old.isEmpty then interleave new limit? s
  else replaceFrom old new (s.length + 1) limit? s

/-- The runs of characters that are not blank. -/
def words (s : List Char) : List (List Char) :=
  (s.splitBy fun a b => isBlank a == isBlank b).filter fun run => !run.all isBlank

end ResolverGen.Text
