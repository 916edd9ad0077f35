import ResolverGen.Template.Check
import ResolverGen.Template.Eval
import ResolverGen.Template.Parser

/-!
# Template engine

Renders template sources. Templates that a template includes come from a loader; how deep they nest
is bounded. A rendering leaves nothing behind but what the sanitizer remembers: there is no import,
which would keep what it has loaded, and values are not changed in place.
-/
namespace ResolverGen.Template

/-- The source of the template of a name, if there is one. -/
abbrev Loader := String → Except Text.Undecodable (Option String)

structure Engine where
  /-- Filters beside the common ones. -/
  ownFilters : List Filter := []
  loader? : Option Loader := none

namespace Engine

/-- All filters; of one name the engine's own counts. -/
def filters (e : Engine) : List Filter := e.ownFilters ++ commonFilters

def vocabulary (e : Engine) : Vocabulary where
  hasFilter name := (findFilter? e.filters name).isSome
  hasTest name := (findTest? name).isSome

/-- The source of the template that a value names. -/
def load (e : Engine) (v : Value) : Except Fault (String × String) :=
  match e.loader? with
  | none => .error .noLoader
  | some loader =>
    match v with
    | .undefined _ message => .error (.missing message)
    | .str name =>
      match loader name with
      | .ok (some source) => .ok (name, source)
      | .ok none => .error (.noTemplate name)
      | .error cause => .error (.undecodable cause)
    | v => .error (.badValue ("'" ++ v.kindName ++ "' object has no attribute 'split'"))

/-- The first template of several names. -/
def loadFirst (e : Engine) (names : List Value) : List Value → Except Fault (String × String)
  | [] =>
    .error (.noTemplateOf (names.map fun
      | .undefined _ message => message
      | v => v.plainText))
  | v :: rest =>
    match e.load v with
    | .error (.noTemplate _) | .error (.missing _) => e.loadFirst names rest
    | found => found

/-- The template that a value names, or the first one if it is a collection of names. -/
def select (e : Engine) (v : Value) : Except Fault (String × String) :=
  match v with
  | .str _ => e.load v
  | .undefined _ message => if e.loader?.isSome then .error (.missing message) else e.load v
  | v =>
    if v.isTrue then do
      let names ← members v
      e.loadFirst names names
    else .error .noTemplateNames

def isAbsence : Fault → Bool
  | .noTemplate _ | .noTemplateOf _ | .noTemplateNames => true
  | _ => false

/-- Reads a template and checks the filters and tests that it names. -/
def compile (e : Engine) (source : String) : Except SyntaxFault (List Stmt) := do
  let stmts ← parse source
  checkBody e.vocabulary false stmts
  return stmts

/-- What a source writes with names in sight; templates that it includes may nest to a depth. -/
def renderNested (e : Engine) : Nat → Option String → String → Table Value → Eval String
  | 0, _, _, _ => throw .tooDeep
  | depth + 1, templateName?, source, names => do
    match e.compile source with
    | .error fault => throw (.malformed fault)
    | .ok stmts =>
      let surroundings : Surroundings :=
        { filters := e.filters
          templateName?
          renderOther := fun v mayBeMissing names =>
            match e.select v with
            | .ok (name, source) => e.renderNested depth (some name) source names
            | .error fault => if mayBeMissing && isAbsence fault then return "" else throw fault }
      return (← runBody surroundings names stmts).1

/-- How deep included templates may nest. -/
def nestingLimit : Nat := 900

/-- What a source writes with a context in sight. A context cannot name the template itself. -/
def render (e : Engine) (source : String) (context : Table Value) : Eval String := do
  match e.compile source with
  | .error fault => throw (.malformed fault)
  | .ok _ =>
    if context.has "self" then
      throw (.repeatedArgument "Template.render" "self")
    e.renderNested nestingLimit none source context

end Engine

/-- What is said of a template that cannot be rendered. -/
def failureText (name : String) (fault : Fault) : String :=
  "Failed to render template " ++ name ++ ": " ++ fault.message

end ResolverGen.Template
