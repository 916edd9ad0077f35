import ResolverGen.Go.Identifier
import ResolverGen.Text.Word

/-!
# Go package names

What is wrong with a package name.
-/
namespace ResolverGen.Go

inductive PackageFault where
  | empty
  | notIdentifier (name : String)
  | upperCase
  | hyphen
  | reserved (name : String)
deriving DecidableEq, Repr

def PackageFault.message : PackageFault → String
  | empty => "Package name cannot be empty"
  | notIdentifier name => "'" ++ name ++ "' is not a valid Go identifier"
  | upperCase => "Package names should be lowercase"
  | hyphen => "Package names should not contain hyphens"
  | reserved name => "'" ++ name ++ "' is a Go reserved word"

/-- The faults of a package name; a name without any can stand in a package clause. -/
def packageFaults (name : String) : List PackageFault :=
  match name.toList with
  | [] => [.empty]
  | first :: rest =>
    (if Text.isIdentifier (first :: rest) then [] else [.notIdentifier name]) ++
      (if Text.isUpperChar first then [.upperCase] else []) ++
      (if '-' ∈ first :: rest then [.hyphen] else []) ++
      (if name ∈ reservedWords then [.reserved name] else [])

end ResolverGen.Go
