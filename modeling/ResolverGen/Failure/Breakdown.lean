import ResolverGen.Files.Tree

/-!
# Breakdowns

What goes wrong where a value or a file is taken as it is, without a check before its use.
-/
namespace ResolverGen

inductive Breakdown where
  /-- A value of the wrong kind. -/
  | wrongKind
  /-- A value of the right kind that cannot be used. -/
  | wrongValue
  /-- A part that values of the kind do not have. -/
  | noSuchPart
  | undecodable (cause : Text.Undecodable)
  | file (fault : FileFault)
  /-- A schema that ends inside an escape. -/
  | cutOff
  /-- A text that the console cannot read as markup. -/
  | markup
deriving DecidableEq, Repr

end ResolverGen
