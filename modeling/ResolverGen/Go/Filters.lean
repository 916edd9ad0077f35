import ResolverGen.Go.Identifier
import ResolverGen.Template.Filter

/-!
# Filters for Go

The filters that only templates of Go code have.
-/
namespace ResolverGen.Go

open Template

/-- Makes a text a Go identifier; the sanitizer of the generator remembers it. -/
def identifierFilter : Filter where
  name := "go_identifier"
  signature :=
    { function := "GoGenerator.get_template_filters.<locals>.<lambda>"
      parameters := [("name", none)] }
  run
    | [v] => do
      let name ← Eval.ofExcept (textOf v)
      return .str (← (identifier name : StateM Sanitizer String))
    | _ => return .null

def filters : List Filter :=
  [identifierFilter, textFilter "resolver" "resolver_type_name" "type_name" resolverName]

end ResolverGen.Go
