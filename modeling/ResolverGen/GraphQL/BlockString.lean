import ResolverGen.Text.Lines

/-!
# Block strings

The value of a block string: its lines without their common indentation and without the blank lines
at both ends.
-/
namespace ResolverGen.GraphQL

def isIndent (c : Char) : Bool := c = ' ' || c = '\t'

/-- Width of the indentation of a line, none for a blank line. -/
def indentation? (line : List Char) : Option Nat :=
  if line.all isIndent then none else some (line.takeWhile isIndent).length

/-- The least indentation of the lines that are not blank. -/
def commonIndent? (lines : List (List Char)) : Option Nat :=
  (lines.filterMap indentation?).min?

def isBlankLine (line : List Char) : Bool := line.all isIndent

/-- The first line keeps its indentation; the others lose what they have in common. A blank line
loses all if nothing else is indented. -/
def dedent : List (List Char) → List (List Char)
  | [] => []
  | first :: rest =>
    let common? := commonIndent? rest
    let lines := first :: rest.map fun line =>
      match common? with
      | some width => line.drop width
      | none => []
    let blank := (first :: rest).map isBlankLine
    let leading := (blank.takeWhile id).length
    let trailing := (blank.reverse.takeWhile id).length
    (lines.take (lines.length - trailing)).drop leading

/-- The value of a block string from its raw text, whose line endings are newlines. -/
def blockValue (raw : List Char) : List Char := Text.unlines (dedent (Text.lines raw))

end ResolverGen.GraphQL
