/-!
# Schema documents

The definitions of a document as they are written. Operations and fragments may stand beside type
definitions; they take part in the rules on documents only.
-/
namespace ResolverGen.GraphQL

/-- A value as written. -/
inductive Literal where
  | variable (name : String)
  | int (text : String)
  | float (text : String)
  | string (value : String)
  | bool (value : Bool)
  | null
  | enum (name : String)
  | list (items : List Literal)
  | object (fields : List (String × Literal))
deriving Repr, BEq, Inhabited

/-- A type as written. -/
inductive TypeNode where
  | named (name : String)
  | list (inner : TypeNode)
  | nonNull (inner : TypeNode)
deriving DecidableEq, Repr

namespace TypeNode

def text : TypeNode → String
  | named name => name
  | list inner => "[" ++ inner.text ++ "]"
  | nonNull inner => inner.text ++ "!"

def baseName : TypeNode → String
  | named name => name
  | list inner => inner.baseName
  | nonNull inner => inner.baseName

def isNonNull : TypeNode → Bool
  | nonNull _ => true
  | _ => false

end TypeNode

structure Directive where
  name : String
  arguments : List (String × Literal)
deriving Repr, BEq, Inhabited

/-- An argument or an input field. -/
structure InputValue where
  name : String
  type : TypeNode
  default? : Option Literal
  directives : List Directive
deriving Repr, BEq

structure FieldNode where
  description? : Option String
  name : String
  arguments : List InputValue
  type : TypeNode
  directives : List Directive
deriving Repr, BEq

structure EnumValueNode where
  name : String
  directives : List Directive
deriving Repr, BEq

/-- What a type definition or extension holds beside its name. -/
inductive TypeBody where
  | scalar
  | object (interfaces : List String) (fields : List FieldNode)
  | interface (interfaces : List String) (fields : List FieldNode)
  | union (members : List String)
  | enum (values : List EnumValueNode)
  | inputObject (fields : List InputValue)
deriving Repr, BEq

inductive OperationKind where
  | query
  | mutation
  | subscription
deriving DecidableEq, Repr

def OperationKind.word : OperationKind → String
  | query => "query"
  | mutation => "mutation"
  | subscription => "subscription"

def OperationKind.ofWord? (word : String) : Option OperationKind :=
  [query, mutation, subscription].find? (·.word = word)

structure VariableNode where
  name : String
  type : TypeNode
  default? : Option Literal
  directives : List Directive
deriving Repr, BEq

inductive Selection where
  | field (name : String) (arguments : List (String × Literal)) (directives : List Directive)
      (selections : List Selection)
  | spread (name : String) (directives : List Directive)
  | inline (on? : Option String) (directives : List Directive) (selections : List Selection)
deriving Repr, BEq, Inhabited

/-- Places where a directive may stand. -/
inductive DirectiveLocation where
  | query
  | mutation
  | subscription
  | field
  | fragmentDefinition
  | fragmentSpread
  | inlineFragment
  | variableDefinition
  | schema
  | scalar
  | object
  | fieldDefinition
  | argumentDefinition
  | interface
  | union
  | enum
  | enumValue
  | inputObject
  | inputFieldDefinition
deriving DecidableEq, Repr

namespace DirectiveLocation

def word : DirectiveLocation → String
  | query => "QUERY"
  | mutation => "MUTATION"
  | subscription => "SUBSCRIPTION"
  | field => "FIELD"
  | fragmentDefinition => "FRAGMENT_DEFINITION"
  | fragmentSpread => "FRAGMENT_SPREAD"
  | inlineFragment => "INLINE_FRAGMENT"
  | variableDefinition => "VARIABLE_DEFINITION"
  | schema => "SCHEMA"
  | scalar => "SCALAR"
  | object => "OBJECT"
  | fieldDefinition => "FIELD_DEFINITION"
  | argumentDefinition => "ARGUMENT_DEFINITION"
  | interface => "INTERFACE"
  | union => "UNION"
  | enum => "ENUM"
  | enumValue => "ENUM_VALUE"
  | inputObject => "INPUT_OBJECT"
  | inputFieldDefinition => "INPUT_FIELD_DEFINITION"

def all : List DirectiveLocation :=
  [query, mutation, subscription, field, fragmentDefinition, fragmentSpread, inlineFragment,
    variableDefinition, schema, scalar, object, fieldDefinition, argumentDefinition, interface,
    union, enum, enumValue, inputObject, inputFieldDefinition]

def ofWord? (w : String) : Option DirectiveLocation := all.find? (·.word = w)

end DirectiveLocation

structure DirectiveNode where
  name : String
  arguments : List InputValue
  repeatable : Bool
  locations : List DirectiveLocation
deriving Repr, BEq

/-- A definition; extensions stand beside the definitions they extend. -/
inductive Definition where
  | operation (kind : OperationKind) (parameters : List VariableNode) (directives : List Directive)
      (selections : List Selection)
  | fragment (on : String) (directives : List Directive) (selections : List Selection)
  | schema (isExtension : Bool) (directives : List Directive)
      (roots : List (OperationKind × String))
  | type (isExtension : Bool) (description? : Option String) (name : String)
      (directives : List Directive) (body : TypeBody)
  | directive (node : DirectiveNode)
deriving Repr, BEq

abbrev Document := List Definition

end ResolverGen.GraphQL
