import ResolverGen.Json.Value
import ResolverGen.Log

/-!
# Go scalars

The table that gives scalar names their Go types. Built-in scalars are always there and cannot be
overridden; a configuration adds others.
-/
namespace ResolverGen.Go

/-- Go representation of a scalar. The parts are kept as configured; an empty type leaves the name to
a generated resolver. -/
structure Scalar where
  goType : Json := .str ""
  importPath : Json := .str ""
  /-- Whether no code is generated for a type of this name. -/
  skip : Bool := true
deriving Repr, BEq, Inhabited

def graphqlImport : String := "graphql \"github.com/neelance/graphql-go\""

def builtinScalars : Table Scalar :=
  [("Boolean", { goType := .str "bool" }),
    ("Float", { goType := .str "float64" }),
    ("Int", { goType := .str "int32" }),
    ("ID", { goType := .str "graphql.ID", importPath := .str graphqlImport }),
    ("String", { goType := .str "string" })]

/-- Scalars by name, in the order in which they were added. -/
structure ScalarTable where
  entries : Table Scalar
deriving Repr, BEq, Inhabited

namespace ScalarTable

def isBuiltin (name : String) : Bool := builtinScalars.has name

/-- The built-in scalars followed by the configured ones that do not bear a built-in name. -/
def ofCustom (custom : Table Scalar) : ScalarTable :=
  ⟨builtinScalars.overlay (custom.filter (!isBuiltin ·.1))⟩

/-- A warning for each configured scalar that bears a built-in name. -/
def warnings (custom : Table Scalar) : Log :=
  (custom.filter (isBuiltin ·.1)).map fun entry =>
    ⟨.warning, "Ignoring mapping for built-in scalar " ++ entry.1 ++
      "; built-ins cannot be overridden"⟩

def get? (table : ScalarTable) (name : String) : Option Scalar := table.entries.get? name

def contains (table : ScalarTable) (name : String) : Bool := table.entries.has name

/-- Whether no artifact is generated for a type of this name. -/
def skips (table : ScalarTable) (name : String) : Bool :=
  match table.get? name with
  | some scalar => scalar.skip
  | none => false

def names (table : ScalarTable) : List String := table.entries.keys

def size (table : ScalarTable) : Nat := table.entries.length

end ScalarTable

end ResolverGen.Go
