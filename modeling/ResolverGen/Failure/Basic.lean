import ResolverGen.Failure.Breakdown
import ResolverGen.Failure.Tagged
import ResolverGen.Formatter
import ResolverGen.GraphQL.Catalogue
import ResolverGen.Template.Store

/-!
# Failures

Why a run ends without a result. A generation error is reported with a text of its own; a breakdown
comes from settings or files that no check has looked at before they are used.
-/
namespace ResolverGen

/-- A template that cannot be rendered, with the name it goes by. -/
structure RenderFault where
  templateName : String
  fault : Template.Fault
deriving DecidableEq, Repr

def RenderFault.message (f : RenderFault) : String := Template.failureText f.templateName f.fault

inductive GenerationError where
  | malformedSchema (fault : GraphQL.BuildFault)
  | schema (fault : SchemaFault)
  /-- There is no such variant in the scope. -/
  | resolution (error : Tagged TemplateScope)
  | rendering (error : Tagged RenderFault)
  | formatting (error : Tagged FormatFault)
  /-- Two types lead to one file. -/
  | collision (owner name file : String)
deriving DecidableEq, Repr

def TemplateScope.unknownText (scope : TemplateScope) : String :=
  "Unknown " ++ scope.label ++ " template"

def GenerationError.message : GenerationError → String
  | malformedSchema fault => "Invalid schema: " ++ fault.message
  | schema fault => fault.message
  | resolution error => error.text TemplateScope.unknownText
  | rendering error => error.text RenderFault.message
  | formatting error => error.text FormatFault.message
  | collision owner name file =>
    "Types " ++ owner ++ " and " ++ name ++ " both generate " ++ file

inductive Failure where
  | generation (error : GenerationError)
  | breakdown (cause : Breakdown)
deriving DecidableEq, Repr

/-- What a generator remembers and records. Both outlive a failure. -/
structure RunState where
  sanitizer : Sanitizer
  log : Log := []
deriving DecidableEq, Repr

/-- The work of a generator. -/
abbrev Run := ExceptT Failure (StateM RunState)

namespace Run

variable {α : Type}

def record (records : Log) : Run Unit :=
  modify fun s => { s with log := s.log ++ records }

def fail (error : GenerationError) : Run α := throw (.generation error)

/-- The rendering of a template, with the sanitizer of the run. -/
def render (templateName : String) (work : Template.Eval α) : Run α := fun s =>
  match work.run s.sanitizer with
  | (.ok a, sanitizer) => (.ok a, { s with sanitizer })
  | (.error fault, sanitizer) =>
    (.error (.generation (.rendering { cause := ⟨templateName, fault⟩ })), { s with sanitizer })

/-- A template body that was looked up. -/
def found (scope : TemplateScope) (variant : String)
    (lookup : Except Text.Undecodable (Option α)) : Run α :=
  match lookup with
  | .ok (some body) => return body
  | .ok none =>
    fail (.resolution { cause := scope, location := { variant? := some variant } })
  | .error cause => throw (.breakdown (.undecodable cause))

/-- Tells the place of a failure to find or to render a template. -/
def tagged (l : Location) (work : Run α) : Run α :=
  tryCatch work fun
    | .generation (.resolution e) => fail (.resolution (e.tag l))
    | .generation (.rendering e) => fail (.rendering (e.tag l))
    | failure => throw failure

end Run

/-- The schema that a text describes. -/
def parseSchema (text : String) : Except Failure Schema :=
  match GraphQL.schemaOf text with
  | .ok schema => .ok schema
  | .error (.malformed .escapeCutOff) => .error (.breakdown .cutOff)
  | .error fault => .error (.generation (.malformedSchema fault))

end ResolverGen
