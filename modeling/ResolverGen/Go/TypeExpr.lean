import ResolverGen.Go.Identifier
import ResolverGen.Go.Scalar
import ResolverGen.Schema.TypeRef

/-!
# Go type expressions

Go types of schema references. A nullable layer becomes a pointer and a list layer a slice,
outermost first.
-/
namespace ResolverGen.Go

/-- Why a reference has no Go type. -/
inductive TypeFault where
  | schema (fault : SchemaFault)
  /-- The configured Go type is no text. -/
  | goTypeNotText
deriving DecidableEq, Repr

/-- The marks of a reference and the type they end at. `strict` tells that a non-null mark was just
passed; only one is passed before each list layer. -/
def peel (strict : Bool) : TypeRef → String × TypeRef
  | .entity kind name? => (nullable strict, .entity kind name?)
  | .around kind name? inner =>
    if kind = .nonNull ∧ !strict then peel true inner
    else if kind = .list then
      let (marks, last) := peel false inner
      (nullable strict ++ "[]" ++ marks, last)
    else (nullable strict, .around kind name? inner)
where
  /-- The mark of a layer that may be null. -/
  nullable (strict : Bool) : String := if strict then "" else "*"

/-- Go type of a name: that of its scalar, or else its resolver type. -/
def baseType (table : ScalarTable) (name : String) : Except TypeFault String :=
  match table.get? name with
  | some scalar =>
    if scalar.goType.isGiven then
      match scalar.goType with
      | .str text => .ok text
      | _ => .error .goTypeNotText
    else .ok (resolverName name)
  | none => .ok (resolverName name)

/-- The Go type of a reference, which has to end in a named type. -/
def typeExpression (table : ScalarTable) (t : TypeRef) : Except TypeFault String :=
  let (marks, last) := peel false t
  match last.name? with
  | none | some "" => .error (.schema (.unnamedEnd t.text))
  | some name => (baseType table name).map (marks ++ ·)

/-- The import of a scalar, if it has one. -/
def scalarImports (table : ScalarTable) (name : String) : List Json :=
  match table.get? name with
  | some scalar => if scalar.importPath.isGiven then [scalar.importPath] else []
  | none => []

/-- The imports a reference needs: those of the outermost name in it. -/
def importsFor (table : ScalarTable) : TypeRef → List Json
  | .entity _ none => []
  | .entity _ (some name) => scalarImports table name
  | .around _ (some name) _ => scalarImports table name
  | .around _ none inner => importsFor table inner

end ResolverGen.Go
