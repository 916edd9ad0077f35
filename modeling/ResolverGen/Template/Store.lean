import ResolverGen.Files.Tree
import ResolverGen.Template.Engine

/-!
# Template store

The templates of a generator by variant. A variant of a type or field is a file named after it in the
directory of its scope; shelves are searched in order and the first that has a file wins.
-/
namespace ResolverGen

/-- What a template is written for. -/
inductive TemplateScope where
  | type
  | field
deriving DecidableEq, Repr

def TemplateScope.label : TemplateScope → String
  | type => "type"
  | field => "field"

/-- Where template files stand. -/
inductive Shelf where
  /-- Templates that come with a language, by file name. -/
  | packaged (templates : Table String)
  | directory (path : Path)
deriving Repr

namespace Shelf

/-- The directories and the file that a template name leads through; none if it leads upwards. -/
def pieces? (name : String) : Option (List String) :=
  if ['.', '.'] ∈ Text.splitAt '/' name.toList then none else some (Path.namesOf name.toList)

/-- The source of a template that stands on the shelf. -/
def source (files : Files) (name : String) : Shelf → Except Text.Undecodable (Option String)
  | packaged templates =>
    .ok ((pieces? name).bind fun pieces => templates.get? ("/".intercalate pieces))
  | directory path =>
    match (pieces? name).bind fun pieces => files.file? (path.join ⟨"", pieces⟩) with
    | some content => (Text.ofFile content).map some
    | none => .ok none

/-- Names of all templates on the shelf. -/
def names (files : Files) : Shelf → List String
  | packaged templates => templates.keys
  | directory path => (files.below path).map ("/".intercalate ·)

/-- Whether the shelf can be looked through. A directory cannot with a null character in its name. -/
def checkName : Shelf → Except FileFault Unit
  | packaged _ => .ok ()
  | directory path => (Files.checkCharacters path.parts).mapError fun cause => ⟨cause, path.text⟩

end Shelf

structure TemplateStore where
  shelves : List Shelf
  /-- What all template file names end with. -/
  extension : String := ".j2"
  ownFilters : List Template.Filter := []

namespace TemplateStore

/-- The source of a template on the first shelf that has it. -/
def sourceOn (files : Files) (name : String) :
    List Shelf → Except Text.Undecodable (Option String)
  | [] => .ok none
  | shelf :: rest => do
    match ← shelf.source files name with
    | some source => return some source
    | none => sourceOn files name rest

def source (s : TemplateStore) (files : Files) (name : String) :
    Except Text.Undecodable (Option String) :=
  sourceOn files name s.shelves

/-- What marks the templates of accessor methods. -/
def methodSuffix : String := ".method"

def fileName (s : TemplateStore) (scope : TemplateScope) (variant : String) : String :=
  scope.label ++ "/" ++ variant ++ s.extension

/-- Blanks and tabs around a template body do not count. -/
def trimBody (source : String) : String :=
  Text.onChars (Text.trim fun c => c = ' ' || c = '\t') source

/-- The body of a type variant. -/
def typeTemplate? (s : TemplateStore) (files : Files) (variant : String) :
    Except Text.Undecodable (Option String) := do
  return (← s.source files (s.fileName .type variant)).map trimBody

/-- The bodies of a field variant: the declaration and the method. -/
structure FieldTemplate where
  declaration : String
  method : String
deriving DecidableEq, Repr

/-- The bodies of a field variant. Without a method template nothing is written for it. -/
def fieldTemplate? (s : TemplateStore) (files : Files) (variant : String) :
    Except Text.Undecodable (Option FieldTemplate) := do
  match ← s.source files (s.fileName .field variant) with
  | none => return none
  | some source =>
    let method? ← s.source files (s.fileName .field (variant ++ methodSuffix))
    return some ⟨trimBody source, method?.getD ""⟩

def engine (s : TemplateStore) (files : Files) : Template.Engine where
  ownFilters := s.ownFilters
  loader? := some (s.source files)

/-! ## Listing -/

def isBefore (s t : String) : Bool := !(t < s)

/-- Names in order, each once. -/
def sorted (names : List String) : List String :=
  (Table.distinct names).mergeSort isBefore

/-- The variant that a template name stands for, if it belongs to the scope. -/
def variantOf? (extension : String) (scope : TemplateScope) (name : String) : Option String :=
  let first := name.toList.takeWhile (· ≠ '/')
  let file := (name.toList.dropWhile (· ≠ '/')).drop 1
  let ending := extension.toList
  if first = scope.label.toList && ending.isSuffixOf file then
    let variant := if ending = [] then [] else file.take (file.length - ending.length)
    if methodSuffix.toList.isSuffixOf variant then none else some (String.ofList variant)
  else none

/-- Names of the variants of a scope. -/
def variants (s : TemplateStore) (files : Files) (scope : TemplateScope) : List String :=
  sorted ((s.shelves.flatMap (Shelf.names files)).filterMap (variantOf? s.extension scope))

/-- The variants of both scopes. -/
def list (s : TemplateStore) (files : Files) : List (TemplateScope × List String) :=
  [(.type, s.variants files .type), (.field, s.variants files .field)]

/-- The variants of both scopes, unless there is a shelf that cannot be looked through. -/
def listing (s : TemplateStore) (files : Files) :
    Except FileFault (List (TemplateScope × List String)) := do
  s.shelves.forM Shelf.checkName
  return s.list files

end TemplateStore

end ResolverGen
