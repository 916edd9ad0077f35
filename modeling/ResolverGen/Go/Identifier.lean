import ResolverGen.Naming.Sanitizer

/-!
# Go identifiers

The words Go reserves, the predeclared names a struct field must not hide, and the names of
generated resolver types.
-/
namespace ResolverGen.Go

def reservedWords : List String :=
  ["break", "case", "chan", "const", "continue", "default", "defer", "else", "fallthrough", "for",
    "func", "go", "goto", "if", "import", "interface", "map", "package", "range", "return",
    "select", "struct", "switch", "type", "var"]

/-- Predeclared identifiers that a struct field of the same name would hide. -/
def builtinNames : List String :=
  ["bool", "byte", "error", "float32", "float64", "int", "int32", "int64", "rune", "string",
    "append", "len", "make", "new"]

/-- A sanitizer for Go that has answered nothing yet. -/
def sanitizer : Sanitizer := { reserved := reservedWords, builtins := builtinNames }

def resolverSuffix : String := "Resolver"

/-- Name of the resolver type generated for a schema entity. -/
def resolverName (typeName : String) : String := typeName ++ resolverSuffix

/-- A schema name made a Go identifier, its case kept. -/
def identifier (name : String) : StateM Sanitizer String :=
  Sanitizer.sanitize name .original Sanitizer.defaultSuffix

end ResolverGen.Go
