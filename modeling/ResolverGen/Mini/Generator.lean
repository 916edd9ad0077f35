import ResolverGen.Generator

/-!
# Mini generator

The smallest generator: one text file per object type, by the type template `default`, which sees
nothing but the name. A file that is generated twice keeps its last text.
-/
namespace ResolverGen.Mini

def language : String := "mini"

def fileExtension : String := ".txt"

/-- The directory of the user, if there is one. -/
def shelves (s : Settings) : List Shelf :=
  if s.templateDir.isGiven then [.directory (Path.ofText s.templateDir.plain)] else []

def templateStore (s : Settings) : TemplateStore where
  shelves := shelves s
  extension := fileExtension ++ ".j2"

def fileName (s : Settings) (typeName : String) : String :=
  Text.onChars Text.lower typeName ++ s.fileSuffix.plain ++ fileExtension

/-- Whether a file is generated for a type: introspection types are left out. -/
def isCovered (t : SchemaType) : Bool :=
  t.kind = .object && !("__".toList.isPrefixOf t.name.toList)

def generateFrom (s : Settings) (formatter : Formatter) (surface : Surface) (files : Table String) :
    List SchemaType → Run (Table String)
  | [] => return files
  | t :: rest => do
    let store := templateStore s
    let body ← Run.found .type defaultVariant.name
      (store.typeTemplate? surface.files defaultVariant.name)
    let code ← Run.render t.name
      ((store.engine surface.files).render body [("name", .str t.name)])
    match formatter.format surface.programs code with
    | .ok text => generateFrom s formatter surface (files.put (fileName s t.name) text) rest
    | .error fault => do
      Run.record (fault.records code)
      Run.fail (.formatting { cause := fault })

def generator (s : Settings) (formatter : Formatter) : Generator where
  className := "MiniGenerator"
  language := language
  fileExtension := fileExtension
  settings := s
  store := templateStore s
  start := { sanitizer := { reserved := [], builtins := [] } }
  generate surface schema :=
    generateFrom s formatter surface [] (schema.types.filter isCovered)

def generatorClass : GeneratorClass where
  name := "MiniGenerator"
  make s := do
    let formatter ← Formatter.ofName s.formatter
    return generator s formatter

end ResolverGen.Mini
