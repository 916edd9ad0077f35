import ResolverGen.GraphQL.Parser
import ResolverGen.GraphQL.Rules
import ResolverGen.Schema.Catalogue
import ResolverGen.Table

/-!
# Catalogue of a document

The schema that a document describes: extensions merged into their types, the standard types it
refers to added, and all put in catalogue order.
-/
namespace ResolverGen.GraphQL

/-- A literal as a message shows it. -/
def Literal.text : Literal → String
  | .variable name => "$" ++ name
  | .int text | .float text => text
  | .string value => "\"" ++ value ++ "\""
  | .bool value => if value then "true" else "false"
  | .null => "null"
  | .enum name => name
  | .list items => "[" ++ ", ".intercalate (itemTexts items) ++ "]"
  | .object fields =>
    if fields.isEmpty then "\x7b\x7d"
    else "\x7b " ++ ", ".intercalate (fieldTexts fields) ++ " \x7d"
where
  itemTexts : List Literal → List String
    | [] => []
    | item :: rest => item.text :: itemTexts rest
  fieldTexts : List (String × Literal) → List String
    | [] => []
    | (name, value) :: rest => (name ++ ": " ++ value.text) :: fieldTexts rest

/-- Why a document gives no schema. -/
inductive BuildFault where
  | malformed (fault : SyntaxFault)
  | rules (violations : List Violation)
  /-- An argument of a standard directive with a value of the wrong kind; `owner?` is the type whose
  fields were being made. -/
  | badArgument (owner? : Option String) (argument value : String)
  | nullArgument (owner? : Option String) (argument type : String)
deriving DecidableEq, Repr

def BuildFault.message : BuildFault → String
  | .malformed fault => "Syntax Error: " ++ fault.message
  | .rules violations => "\n\n".intercalate (violations.map Violation.message)
  | badArgument owner? argument value =>
    place owner? ++ "Argument '" ++ argument ++ "' has invalid value " ++ value ++ "."
  | nullArgument owner? argument type =>
    place owner? ++ "Argument '" ++ argument ++ "' of type '" ++ type ++ "' must not be null."
where
  place : Option String → String
    | none => ""
    | some owner => owner ++ " fields cannot be resolved. "

/-- The reason of the first `@deprecated` of a list: none without the directive or with a null. -/
def deprecation (owner? : Option String) (directives : List Directive) :
    Except BuildFault (Option String) :=
  match directives.find? (·.name = "deprecated") with
  | none => .ok none
  | some d =>
    match d.arguments.lookup "reason" with
    | none => .ok (some defaultReason)
    | some (.string reason) => .ok (some reason)
    | some .null => .ok none
    | some value => .error (.badArgument owner? "reason" value.text)

/-- `@specifiedBy` of a scalar takes a text. -/
def checkSpecifiedBy (directives : List Directive) : Except BuildFault Unit :=
  match directives.find? (·.name = "specifiedBy") with
  | none => .ok ()
  | some d =>
    match d.arguments.lookup "url" with
    | some (.string _) | none => .ok ()
    | some .null => .error (.nullArgument none "url" "String!")
    | some value => .error (.badArgument none "url" value.text)

def checkInputs (owner? : Option String) (inputs : List InputValue) : Except BuildFault Unit :=
  inputs.forM fun v => do
    let _ ← deprecation owner? v.directives

/-- What is evaluated of a type as soon as it is met: the values of enums and scalars. -/
def checkEagerly (directives : List Directive) : TypeBody → Except BuildFault Unit
  | .scalar => checkSpecifiedBy directives
  | .enum values => values.forM fun v => do
    let _ ← deprecation none v.directives
  | _ => .ok ()

/-- What is evaluated of a type when the catalogue is made: its fields. -/
def checkFields (name : String) : TypeBody → Except BuildFault Unit
  | .object _ fields | .interface _ fields => fields.forM fun f => do
    checkInputs (some name) f.arguments
    let _ ← deprecation (some name) f.directives
  | .inputObject fields => checkInputs (some name) fields
  | _ => .ok ()

/-- A type with its extensions merged in. -/
structure MergedType where
  name : String
  description? : Option String
  directives : List Directive
  body : TypeBody
deriving Repr, BEq

/-- The parts of an extension added behind those of a body. -/
def TypeBody.merge : TypeBody → TypeBody → TypeBody
  | .object parents fields, .object parents' fields' =>
    .object (parents ++ parents') (fields ++ fields')
  | .interface parents fields, .interface parents' fields' =>
    .interface (parents ++ parents') (fields ++ fields')
  | .union members, .union members' => .union (members ++ members')
  | .enum values, .enum values' => .enum (values ++ values')
  | .inputObject fields, .inputObject fields' => .inputObject (fields ++ fields')
  | body, _ => body

def MergedType.ofDefinition? : Definition → Option MergedType
  | .type _ description? name directives body => some ⟨name, description?, directives, body⟩
  | _ => none

/-- The bodies of the extensions of a type, in order. -/
def extensionsOf (doc : Document) (name : String) : List TypeBody :=
  doc.filterMap fun
    | .type true _ other _ body => if other = name then some body else none
    | _ => none

/-- The types that a document defines. A standard name stands for the standard type. -/
def definedTypes (doc : Document) : List MergedType :=
  doc.filterMap fun
    | .type false description? name directives body =>
      match standardType? name with
      | some d => MergedType.ofDefinition? d
      | none => some ⟨name, description?, directives, (extensionsOf doc name).foldl .merge body⟩
    | _ => none

def findType? (types : List MergedType) (name : String) : Option MergedType :=
  match types.find? (·.name = name) with
  | some t => some t
  | none => (standardType? name).bind MergedType.ofDefinition?

/-- Names that a type refers to: members, or interfaces and then each field's type and those of its
arguments. -/
def TypeBody.references : TypeBody → List String
  | .scalar => []
  | .object parents fields | .interface parents fields =>
    parents ++ fields.flatMap fun f =>
      f.type.baseName :: f.arguments.map fun a => a.type.baseName
  | .union members => members
  | .enum _ => []
  | .inputObject fields => fields.map fun f => f.type.baseName

/-- Adds a name and then, depth first, what it refers to, unless it is known. -/
def collect (types : List MergedType) (known : List String) :
    Nat → List String → String → List String
  | 0, listed, _ => listed
  | fuel + 1, listed, name =>
    if name ∈ known || name ∈ listed then listed
    else match findType? types name with
      | none => listed
      | some t => t.body.references.foldl (collect types known fuel) (listed ++ [name])

/-- The directives of a schema: its own, and the standard ones it does not redefine. -/
def allDirectives (doc : Document) : List DirectiveNode :=
  let own := doc.filterMap fun
    | .directive node => some node
    | _ => none
  own ++ standardDirectives.filter fun d => d.name ∉ own.map (·.name)

/-- Catalogue order: each defined type followed by the standard types it is first to refer to, then
what roots and directives refer to, then the introspection types. -/
def catalogueOrder (doc : Document) (types : List MergedType) (roots : List String) :
    List String :=
  let known := types.map (·.name)
  let fuel := standardTypeNames.length + 1
  let listed := types.foldl (fun listed t =>
    t.body.references.foldl (collect types known fuel) (listed ++ [t.name])) []
  let inputs := (allDirectives doc).flatMap fun d => d.arguments.map fun a => a.type.baseName
  (roots ++ inputs ++ ["__Schema"]).foldl (collect types known fuel) listed

def TypeBody.kind : TypeBody → TypeKind
  | .scalar => .scalar
  | .object .. => .object
  | .interface .. => .interface
  | .union _ => .union
  | .enum _ => .enum
  | .inputObject _ => .inputObject

/-- A type as written, with the kind of its base name. -/
def TypeNode.ref (kindOf : String → TypeKind) : TypeNode → TypeRef
  | .named name => .named (kindOf name) name
  | .list inner => .listOf (inner.ref kindOf)
  | .nonNull inner => .nonNull (inner.ref kindOf)

def fieldOf (kindOf : String → TypeKind) (owner : String) (f : FieldNode) : SchemaField where
  name := f.name
  type := f.type.ref kindOf
  owner := owner
  description? := f.description?
  deprecation? := ((deprecation none f.directives).toOption.getD none)

/-- Objects that name an interface, once for each time they do. -/
def implementations (all : List MergedType) (name : String) : List String :=
  all.flatMap fun t =>
    match t.body with
    | .object parents _ => (parents.filter (· = name)).map fun _ => t.name
    | _ => []

def typeOf (all : List MergedType) (kindOf : String → TypeKind) (t : MergedType) : SchemaType where
  kind := t.body.kind
  name := t.name
  description? := t.description?
  fields := match t.body with
    | .object _ fields | .interface _ fields => fields.map (fieldOf kindOf t.name)
    | _ => []
  possible? := match t.body with
    | .interface .. => some (implementations all t.name)
    | .union members => some members
    | _ => none

/-- The name of a root type. Without a schema definition a type of the usual name is the root. -/
def rootName? (doc : Document) (types : List MergedType) (kind : OperationKind) (usual : String) :
    Option String :=
  let defined := doc.any fun
    | .schema false _ _ => true
    | _ => false
  let named := doc.flatMap fun
    | .schema _ _ roots => roots
    | _ => []
  let given? := (named.filter (·.1 = kind)).getLast?.map (·.2)
  if !defined && types.any (·.name = usual) then some usual else given?

/-- The schema of a document that keeps the rules. -/
def catalogue (doc : Document) : Except BuildFault Schema := do
  let types := definedTypes doc
  types.forM fun t => checkEagerly t.directives t.body
  (allDirectives doc).forM fun d => checkInputs none d.arguments
  types.forM fun t => checkFields t.name t.body
  let query? := rootName? doc types .query "Query"
  let mutation? := rootName? doc types .mutation "Mutation"
  let subscription? := rootName? doc types .subscription "Subscription"
  let roots := [query?, mutation?, subscription?].filterMap id
  let all := (catalogueOrder doc types roots).filterMap (findType? types)
  let kindOf (name : String) : TypeKind :=
    ((findType? types name).map (·.body.kind)).getD .scalar
  return { types := all.map (typeOf all kindOf), query?, mutation?, subscription? }

/-- The schema that a text describes. -/
def schemaOf (text : String) : Except BuildFault Schema := do
  let doc ← (parseDocument text).mapError .malformed
  match violations doc with
  | [] => catalogue doc
  | found => throw (.rules found)

end ResolverGen.GraphQL
