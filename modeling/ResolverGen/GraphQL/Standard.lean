import ResolverGen.GraphQL.Document

/-!
# Standard definitions

The scalars, introspection types and directives that every schema has. They are given as
definitions, so that a document can refer to them as to its own.
-/
namespace ResolverGen.GraphQL

/-- Names of the standard scalars with their descriptions. -/
def standardScalars : List (String × String) :=
  [("String", "The \u0060String\u0060 scalar type represents textual data, represented as UTF-8 character sequences. The String type is most often used by GraphQL to represent free-form human-readable text."),
    ("Int", "The \u0060Int\u0060 scalar type represents non-fractional signed whole numeric values. Int can represent values between -(2^31) and 2^31 - 1."),
    ("Float", "The \u0060Float\u0060 scalar type represents signed double-precision fractional values as specified by IEEE 754."),
    ("Boolean", "The \u0060Boolean\u0060 scalar type represents \u0060true\u0060 or \u0060false\u0060."),
    ("ID", "The \u0060ID\u0060 scalar type represents a unique identifier, often used to refetch an object or as key for a cache. The ID type appears in a JSON response as a String; however, it is not intended to be human-readable. When expected as an input type, any string (such as \u0060\"4\"\u0060) or integer (such as \u00604\u0060) input value will be accepted as an ID.")]

def required (name : String) : TypeNode := .nonNull (.named name)

/-- A list that may not be null, of items that may not be null. -/
def requiredList (name : String) : TypeNode := .nonNull (.list (required name))

/-- A list of items that may not be null. -/
def optionalList (name : String) : TypeNode := .list (required name)

/-- A standard field; `flags` tells that it takes the choice to include deprecated items. -/
def standardField (name : String) (type : TypeNode) (description? : Option String := none)
    (takesDeprecated : Bool := false) : FieldNode :=
  { description?, name, type, directives := []
    arguments := if takesDeprecated
      then [⟨"includeDeprecated", .named "Boolean", some (.bool false), []⟩] else [] }

def standardObject (name description : String) (fields : List FieldNode) : Definition :=
  .type false (some description) name [] (.object [] fields)

def standardEnum (name description : String) (values : List String) : Definition :=
  .type false (some description) name [] (.enum (values.map fun v => ⟨v, []⟩))

def introspectionTypes : List Definition :=
  [standardObject "__Schema" "A GraphQL Schema defines the capabilities of a GraphQL server. It exposes all available types and directives on the server, as well as the entry points for query, mutation, and subscription operations."
      [standardField "description" (.named "String"),
        standardField "types" (requiredList "__Type")
          (some "A list of all types supported by this server."),
        standardField "queryType" (required "__Type")
          (some "The type that query operations will be rooted at."),
        standardField "mutationType" (.named "__Type")
          (some "If this server supports mutation, the type that mutation operations will be rooted at."),
        standardField "subscriptionType" (.named "__Type")
          (some "If this server support subscription, the type that subscription operations will be rooted at."),
        standardField "directives" (requiredList "__Directive")
          (some "A list of all directives supported by this server.")],
    standardObject "__Directive" "A Directive provides a way to describe alternate runtime execution and type validation behavior in a GraphQL document.\n\nIn some cases, you need to provide options to alter GraphQL's execution behavior in ways field arguments will not suffice, such as conditionally including or skipping a field. Directives provide this by describing additional information to the executor."
      [standardField "name" (required "String"),
        standardField "description" (.named "String"),
        standardField "isRepeatable" (required "Boolean"),
        standardField "locations" (requiredList "__DirectiveLocation"),
        standardField "args" (requiredList "__InputValue") none true],
    standardEnum "__DirectiveLocation" "A Directive can be adjacent to many parts of the GraphQL language, a __DirectiveLocation describes one such possible adjacencies."
      (DirectiveLocation.all.map DirectiveLocation.word),
    standardObject "__Type" "The fundamental unit of any GraphQL Schema is the type. There are many kinds of types in GraphQL as represented by the \u0060__TypeKind\u0060 enum.\n\nDepending on the kind of a type, certain fields describe information about that type. Scalar types provide no information beyond a name, description and optional \u0060specifiedByURL\u0060, while Enum types provide their values. Object and Interface types provide the fields they describe. Abstract types, Union and Interface, provide the Object types possible at runtime. List and NonNull types compose other types."
      [standardField "kind" (required "__TypeKind"),
        standardField "name" (.named "String"),
        standardField "description" (.named "String"),
        standardField "specifiedByURL" (.named "String"),
        standardField "fields" (optionalList "__Field") none true,
        standardField "interfaces" (optionalList "__Type"),
        standardField "possibleTypes" (optionalList "__Type"),
        standardField "enumValues" (optionalList "__EnumValue") none true,
        standardField "inputFields" (optionalList "__InputValue") none true,
        standardField "ofType" (.named "__Type"),
        standardField "isOneOf" (.named "Boolean")],
    standardObject "__Field" "Object and Interface types are described by a list of Fields, each of which has a name, potentially a list of arguments, and a return type."
      [standardField "name" (required "String"),
        standardField "description" (.named "String"),
        standardField "args" (requiredList "__InputValue") none true,
        standardField "type" (required "__Type"),
        standardField "isDeprecated" (required "Boolean"),
        standardField "deprecationReason" (.named "String")],
    standardObject "__InputValue" "Arguments provided to Fields or Directives and the input fields of an InputObject are represented as Input Values which describe their type and optionally a default value."
      [standardField "name" (required "String"),
        standardField "description" (.named "String"),
        standardField "type" (required "__Type"),
        standardField "defaultValue" (.named "String")
          (some "A GraphQL-formatted string representing the default value for this input value."),
        standardField "isDeprecated" (required "Boolean"),
        standardField "deprecationReason" (.named "String")],
    standardObject "__EnumValue" "One possible value for a given Enum. Enum values are unique values, not a placeholder for a string or numeric value. However an Enum value is returned in a JSON response as a string."
      [standardField "name" (required "String"),
        standardField "description" (.named "String"),
        standardField "isDeprecated" (required "Boolean"),
        standardField "deprecationReason" (.named "String")],
    standardEnum "__TypeKind" "An enum describing what kind of type a given \u0060__Type\u0060 is."
      ["SCALAR", "OBJECT", "INTERFACE", "UNION", "ENUM", "INPUT_OBJECT", "LIST", "NON_NULL"]]

def Definition.typeName? : Definition → Option String
  | .type _ _ name _ _ => some name
  | _ => none

/-- Definitions of the standard types, scalars first. -/
def standardTypes : List Definition :=
  (standardScalars.map fun s => .type false (some s.2) s.1 [] .scalar) ++ introspectionTypes

def standardTypeNames : List String := standardTypes.filterMap Definition.typeName?

def standardType? (name : String) : Option Definition :=
  standardTypes.find? (·.typeName? = some name)

def defaultReason : String := "No longer supported"

def standardDirectives : List DirectiveNode :=
  [⟨"include", [⟨"if", required "Boolean", none, []⟩], false,
      [.field, .fragmentSpread, .inlineFragment]⟩,
    ⟨"skip", [⟨"if", required "Boolean", none, []⟩], false,
      [.field, .fragmentSpread, .inlineFragment]⟩,
    ⟨"deprecated", [⟨"reason", .named "String", some (.string defaultReason), []⟩], false,
      [.fieldDefinition, .argumentDefinition, .inputFieldDefinition, .enumValue]⟩,
    ⟨"specifiedBy", [⟨"url", required "String", none, []⟩], false, [.scalar]⟩,
    ⟨"oneOf", [], false, [.inputObject]⟩]

end ResolverGen.GraphQL
