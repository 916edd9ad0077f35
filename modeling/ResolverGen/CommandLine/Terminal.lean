import ResolverGen.CommandLine.Command

/-!
# Plain terminal

Displays as lines of plain text: markup tags are left out, panels become a title and a text, and
tables one line a row.
-/
namespace ResolverGen.CommandLine

/-- What may stand in a markup tag. -/
def isTagChar (c : Char) : Bool := c.isAlpha || c = '/' || c = ' '

/-- A text without markup tags. The second argument holds what was read of a tag that is not closed
yet, last character first. -/
def withoutTags : List Char → Option (List Char) → List Char
  | [], none => []
  | [], some inner => '[' :: inner.reverse
  | c :: rest, none => if c = '[' then withoutTags rest (some []) else c :: withoutTags rest none
  | c :: rest, some inner =>
    if isTagChar c then withoutTags rest (some (c :: inner))
    else if c = ']' && !inner.isEmpty then withoutTags rest none
    else if c = '[' then '[' :: (inner.reverse ++ withoutTags rest (some []))
    else '[' :: (inner.reverse ++ c :: withoutTags rest none)

def plainLine (markup : String) : String := Text.onChars (withoutTags · none) markup

/-- The lines that a display comes to. -/
def Display.lines : Display → List String
  | line markup => [plainLine markup]
  | blank => [""]
  | status text => [plainLine text]
  | panel title code => [title, code]
  | table title headers rows =>
    title :: (headers :: rows).map fun cells => plainLine ("  ".intercalate cells)

end ResolverGen.CommandLine
