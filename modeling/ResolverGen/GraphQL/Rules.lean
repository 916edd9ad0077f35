import ResolverGen.GraphQL.Standard
import ResolverGen.GraphQL.Suggestion
import ResolverGen.Table

/-!
# Rules on documents

A document is walked once, from front to back; at each step every rule looks at what is there. The
violations are listed in the order of the steps and, within a step, of the rules.
-/
namespace ResolverGen.GraphQL

inductive Violation where
  | secondSchema
  | secondRoot (kind : OperationKind)
  | repeatedType (name : String)
  | repeatedEnumValue (type value : String)
  | repeatedField (type field : String)
  | repeatedArgument (parent argument : String)
  | repeatedDirectiveDefinition (name : String)
  | unknownType (name : String) (similar : List String)
  | unknownDirective (name : String)
  | misplacedDirective (name : String) (location : DirectiveLocation)
  | repeatedDirective (name : String)
  | extendsOtherKind (kind name : String)
  | extendsUndefined (name : String) (similar : List String)
  | unknownArgument (argument directive : String) (similar : List String)
  | repeatedArgumentName (name : String)
  | repeatedInputField (name : String)
  | missingArgument (directive argument : String) (type : TypeNode)
deriving DecidableEq, Repr

def Violation.message : Violation → String
  | secondSchema => "Must provide only one schema definition."
  | secondRoot kind => "There can be only one " ++ kind.word ++ " type in schema."
  | repeatedType name => "There can be only one type named '" ++ name ++ "'."
  | repeatedEnumValue type value =>
    "Enum value '" ++ type ++ "." ++ value ++ "' can only be defined once."
  | repeatedField type field => "Field '" ++ type ++ "." ++ field ++ "' can only be defined once."
  | repeatedArgument parent argument =>
    "Argument '" ++ parent ++ "(" ++ argument ++ ":)' can only be defined once."
  | repeatedDirectiveDefinition name => "There can be only one directive named '@" ++ name ++ "'."
  | unknownType name similar => "Unknown type '" ++ name ++ "'." ++ didYouMean similar
  | unknownDirective name => "Unknown directive '@" ++ name ++ "'."
  | misplacedDirective name location =>
    "Directive '@" ++ name ++ "' may not be used on " ++ location.word ++ "."
  | repeatedDirective name =>
    "The directive '@" ++ name ++ "' can only be used once at this location."
  | extendsOtherKind kind name => "Cannot extend non-" ++ kind ++ " type '" ++ name ++ "'."
  | extendsUndefined name similar =>
    "Cannot extend type '" ++ name ++ "' because it is not defined." ++ didYouMean similar
  | unknownArgument argument directive similar =>
    "Unknown argument '" ++ argument ++ "' on directive '@" ++ directive ++ "'." ++
      didYouMean similar
  | repeatedArgumentName name => "There can be only one argument named '" ++ name ++ "'."
  | repeatedInputField name => "There can be only one input field named '" ++ name ++ "'."
  | missingArgument directive argument type =>
    "Directive '@" ++ directive ++ "' argument '" ++ argument ++ "' of type '" ++ type.text ++
      "' is required, but it was not provided."

def TypeBody.kindText : TypeBody → String
  | .scalar => "scalar"
  | .object .. => "object"
  | .interface .. => "interface"
  | .union _ => "union"
  | .enum _ => "enum"
  | .inputObject _ => "input object"

def TypeBody.location : TypeBody → DirectiveLocation
  | .scalar => .scalar
  | .object .. => .object
  | .interface .. => .interface
  | .union _ => .union
  | .enum _ => .enum
  | .inputObject _ => .inputObject

/-- A step of the walk through a document. -/
inductive Visit where
  | definition (d : Definition)
  /-- A part other than a definition that carries directives. -/
  | annotated (directives : List Directive)
  /-- The argument names of a selected field. -/
  | fieldArguments (names : List String)
  /-- A reference to a type, in a schema part or in an operation. -/
  | typeName (name : String) (inSchema : Bool)
  | directive (d : Directive) (location : DirectiveLocation)
  /-- A field of an object value, which may have come before in it. -/
  | inputField (name : String) (repeated : Bool)
  | directiveEnd (d : Directive)

mutual

def literalVisits : Literal → List Visit
  | .list items => itemVisits items
  | .object fields => objectVisits [] fields
  | _ => []

def itemVisits : List Literal → List Visit
  | [] => []
  | item :: rest => literalVisits item ++ itemVisits rest

def objectVisits (seen : List String) : List (String × Literal) → List Visit
  | [] => []
  | (name, value) :: rest =>
    .inputField name (name ∈ seen) :: literalVisits value ++ objectVisits (name :: seen) rest

end

def argumentVisits (arguments : List (String × Literal)) : List Visit :=
  arguments.flatMap fun a => literalVisits a.2

def directiveVisits (location : DirectiveLocation) (directives : List Directive) : List Visit :=
  directives.flatMap fun d =>
    .directive d location :: argumentVisits d.arguments ++ [.directiveEnd d]

def typeNodeVisits (inSchema : Bool) (t : TypeNode) : List Visit := [.typeName t.baseName inSchema]

def defaultVisits (default? : Option Literal) : List Visit :=
  (default?.map literalVisits).getD []

def inputValueVisits (location : DirectiveLocation) (v : InputValue) : List Visit :=
  .annotated v.directives :: typeNodeVisits true v.type ++ defaultVisits v.default? ++
    directiveVisits location v.directives

def fieldNodeVisits (f : FieldNode) : List Visit :=
  .annotated f.directives :: f.arguments.flatMap (inputValueVisits .argumentDefinition) ++
    typeNodeVisits true f.type ++ directiveVisits .fieldDefinition f.directives

def namesVisits (names : List String) : List Visit := names.map (.typeName · true)

def typeBodyVisits (isExtension : Bool) (directives : List Directive) (body : TypeBody) :
    List Visit :=
  let notes := directiveVisits body.location directives
  match body with
  | .scalar => notes
  | .object parents fields | .interface parents fields =>
    namesVisits parents ++ notes ++ fields.flatMap fieldNodeVisits
  | .union members => notes ++ namesVisits members
  | .enum values =>
    notes ++ values.flatMap fun v =>
      .annotated v.directives :: directiveVisits .enumValue v.directives
  | .inputObject fields =>
    let location := if isExtension then .argumentDefinition else .inputFieldDefinition
    notes ++ fields.flatMap (inputValueVisits location)

def variableVisits (v : VariableNode) : List Visit :=
  .annotated v.directives :: typeNodeVisits false v.type ++ defaultVisits v.default? ++
    directiveVisits .variableDefinition v.directives

mutual

def selectionVisits : Selection → List Visit
  | .field _ arguments directives selections =>
    .annotated directives :: .fieldArguments (arguments.map (·.1)) :: argumentVisits arguments ++
      directiveVisits .field directives ++ selectionsVisits selections
  | .spread _ directives => .annotated directives :: directiveVisits .fragmentSpread directives
  | .inline on? directives selections =>
    .annotated directives :: (on?.map (Visit.typeName · false)).toList ++
      directiveVisits .inlineFragment directives ++ selectionsVisits selections

def selectionsVisits : List Selection → List Visit
  | [] => []
  | s :: rest => selectionVisits s ++ selectionsVisits rest

end

def operationLocation : OperationKind → DirectiveLocation
  | .query => .query
  | .mutation => .mutation
  | .subscription => .subscription

def Definition.visits (d : Definition) : List Visit :=
  .definition d :: match d with
    | .operation kind parameters directives selections =>
      parameters.flatMap variableVisits ++ directiveVisits (operationLocation kind) directives ++
        selectionsVisits selections
    | .fragment on directives selections =>
      .typeName on false :: directiveVisits .fragmentDefinition directives ++
        selectionsVisits selections
    | .schema _ directives roots =>
      directiveVisits .schema directives ++ namesVisits (roots.map (·.2))
    | .type isExtension _ _ directives body => typeBodyVisits isExtension directives body
    | .directive node => node.arguments.flatMap (inputValueVisits .argumentDefinition)

/-- What the rules know of a document before the walk. -/
structure Surroundings where
  /-- Names of the defined types with their bodies, in order. -/
  types : List (String × TypeBody)
  /-- Directives, the ones that count first. -/
  directives : List DirectiveNode

def Surroundings.ofDocument (doc : Document) : Surroundings where
  types := doc.filterMap fun
    | .type false _ name _ body => some (name, body)
    | _ => none
  directives := (doc.filterMap fun
    | .directive node => some node
    | _ => none).reverse ++ standardDirectives

namespace Surroundings

def typeNames (s : Surroundings) : List String := s.types.map (·.1)

/-- The body of the last definition of a name. -/
def body? (s : Surroundings) (name : String) : Option TypeBody := s.types.reverse.lookup name

def directive? (s : Surroundings) (name : String) : Option DirectiveNode :=
  s.directives.find? (·.name = name)

end Surroundings

/-- What the rules have met so far. -/
structure Progress where
  hasSchema : Bool := false
  roots : List OperationKind := []
  types : List String := []
  enumValues : List (String × String) := []
  fields : List (String × String) := []
  directives : List String := []
  /-- Directives on the schema, and on each type by its name. -/
  schemaNotes : List String := []
  typeNotes : List (String × String) := []

/-- Members of a list that were met before, among `seen` or earlier in the list. -/
def repeats {α : Type} [DecidableEq α] (seen : List α) : List α → List α
  | [] => []
  | x :: rest => if x ∈ seen then x :: repeats seen rest else repeats (x :: seen) rest

/-- Names that stand twice in a list, each once and in order. -/
def duplicated (names : List String) : List String :=
  names.eraseDups.filter fun name => 1 < names.count name

abbrev Checked := List Violation × Progress

/-- Rules on a schema definition or extension: one definition, each root once. -/
def checkRoots (isExtension : Bool) (roots : List OperationKind) (p : Progress) : Checked :=
  let second := if !isExtension && p.hasSchema then [Violation.secondSchema] else []
  (second ++ (repeats p.roots roots).map .secondRoot,
    { p with hasSchema := p.hasSchema || !isExtension, roots := p.roots ++ roots })

/-- Names of arguments that a field or directive declares twice. -/
def checkArguments (parent : String) (arguments : List InputValue) : List Violation :=
  (duplicated (arguments.map (·.name))).map (.repeatedArgument parent)

/-- Rules on the names within a type: enum values, fields and their arguments. -/
def checkMembers (name : String) (body : TypeBody) (p : Progress) : Checked :=
  match body with
  | .enum values =>
    let keys := values.map fun v => (name, v.name)
    ((repeats p.enumValues keys).map fun k => .repeatedEnumValue k.1 k.2,
      { p with enumValues := p.enumValues ++ keys })
  | .object _ fields | .interface _ fields =>
    let keys := fields.map fun f => (name, f.name)
    (((repeats p.fields keys).map fun k => .repeatedField k.1 k.2) ++
        fields.flatMap fun f => checkArguments (name ++ "." ++ f.name) f.arguments,
      { p with fields := p.fields ++ keys })
  | .inputObject fields =>
    let keys := fields.map fun f => (name, f.name)
    ((repeats p.fields keys).map fun k => .repeatedField k.1 k.2,
      { p with fields := p.fields ++ keys })
  | _ => ([], p)

/-- Names of the directives of a list that may stand only once at a place. -/
def uniqueNames (s : Surroundings) (directives : List Directive) : List String :=
  (directives.map (·.name)).filter fun name =>
    match s.directive? name with
    | some node => !node.repeatable
    | none => false

/-- The rule that directives stand once at a place; all parts of a type are one place. -/
def checkNotes (s : Surroundings) (d : Definition) (p : Progress) : Checked :=
  match d with
  | .schema _ directives _ =>
    let names := uniqueNames s directives
    ((repeats p.schemaNotes names).map .repeatedDirective,
      { p with schemaNotes := p.schemaNotes ++ names })
  | .type _ _ type directives _ =>
    let keys := (uniqueNames s directives).map fun name => (type, name)
    ((repeats p.typeNotes keys).map fun k => .repeatedDirective k.2,
      { p with typeNotes := p.typeNotes ++ keys })
  | .operation _ _ directives _ | .fragment _ directives _ =>
    ((repeats [] (uniqueNames s directives)).map .repeatedDirective, p)
  | .directive _ => ([], p)

/-- The rule that an extension needs a definition of its kind. -/
def checkExtension (s : Surroundings) (name : String) (body : TypeBody) : List Violation :=
  match s.body? name with
  | some defined =>
    if defined.kindText = body.kindText then [] else [.extendsOtherKind body.kindText name]
  | none => [.extendsUndefined name (suggestions name s.typeNames)]

def checkDefinition (s : Surroundings) (d : Definition) (p : Progress) : Checked :=
  let (first, p) : Checked := match d with
    | .schema isExtension _ roots => checkRoots isExtension (roots.map (·.1)) p
    | .type isExtension _ name _ body =>
      let twice := if !isExtension && name ∈ p.types then [Violation.repeatedType name] else []
      let p := if isExtension then p else { p with types := name :: p.types }
      let (members, p) := checkMembers name body p
      (twice ++ members, p)
    | .directive node =>
      let twice := if node.name ∈ p.directives
        then [Violation.repeatedDirectiveDefinition node.name] else []
      (checkArguments ("@" ++ node.name) node.arguments ++ twice,
        { p with directives := node.name :: p.directives })
    | _ => ([], p)
  let (notes, p) := checkNotes s d p
  let extended := match d with
    | .type true _ name _ body => checkExtension s name body
    | _ => []
  (first ++ notes ++ extended, p)

/-- A type name has to be defined; in a schema part it may also be a standard one. -/
def checkTypeName (s : Surroundings) (name : String) (inSchema : Bool) : List Violation :=
  if name ∈ s.typeNames || (inSchema && name ∈ standardTypeNames) then []
  else
    let options := (if inSchema then standardTypeNames else []) ++ s.typeNames
    [.unknownType name (suggestions name options)]

/-- Rules on a directive where it is met: it is known, stands at one of its places and is given
arguments it declares, each once. A directive that declares none is given any. -/
def checkDirective (s : Surroundings) (d : Directive) (location : DirectiveLocation) :
    List Violation :=
  let names := d.arguments.map (·.1)
  (match s.directive? d.name with
    | none => [.unknownDirective d.name]
    | some node =>
      let known := node.arguments.map (·.name)
      (if location ∈ node.locations then [] else [.misplacedDirective d.name location]) ++
        (if known.isEmpty then [] else
          (names.filter (· ∉ known)).map fun a =>
            .unknownArgument a d.name (suggestions a known))) ++
    (duplicated names).map .repeatedArgumentName

/-- An argument has to be given when its type is not null and it has no default. -/
def isRequired (v : InputValue) : Bool := v.type.isNonNull && v.default?.isNone

/-- Types of the arguments that a directive requires, by name. -/
def requiredArguments (node : DirectiveNode) : Table TypeNode :=
  .ofEntries ((node.arguments.filter isRequired).map fun a => (a.name, a.type))

/-- The rule that a directive is given all arguments it requires. -/
def checkDirectiveEnd (s : Surroundings) (d : Directive) : List Violation :=
  match s.directive? d.name with
  | none => []
  | some node =>
    ((requiredArguments node).filter (·.1 ∉ d.arguments.map (·.1))).map fun (name, type) =>
      .missingArgument d.name name type

def checkVisit (s : Surroundings) (v : Visit) (p : Progress) : Checked :=
  match v with
  | .definition d => checkDefinition s d p
  | .annotated directives => ((repeats [] (uniqueNames s directives)).map .repeatedDirective, p)
  | .fieldArguments names => ((duplicated names).map .repeatedArgumentName, p)
  | .typeName name inSchema => (checkTypeName s name inSchema, p)
  | .directive d location => (checkDirective s d location, p)
  | .inputField name repeated => (if repeated then [.repeatedInputField name] else [], p)
  | .directiveEnd d => (checkDirectiveEnd s d, p)

def checkVisits (s : Surroundings) : List Visit → Progress → List Violation
  | [], _ => []
  | v :: rest, p =>
    let (found, p) := checkVisit s v p
    found ++ checkVisits s rest p

/-- The violations of a document. -/
def violations (doc : Document) : List Violation :=
  checkVisits (.ofDocument doc) (doc.flatMap Definition.visits) {}

end ResolverGen.GraphQL
