import ResolverGen.GraphQL.Catalogue

/-!
# Type maps

The named types of a schema, which refer to each other by name, and the catalogue that they make. All
types are entered before any reference is followed, so they may stand in any order and refer to each
other in circles. A name that is not entered is refused.
-/
namespace ResolverGen.GraphQL

/-- The types of a schema in catalogue order, and the names of its roots. -/
structure TypeMap where
  types : List MergedType
  query? : Option String := none
  mutation? : Option String := none
  subscription? : Option String := none

/-- Why types make no catalogue. -/
inductive ConversionFault where
  | schema (fault : SchemaFault)
  /-- A reference to a type that is not there. -/
  | unlisted (name : String)
deriving DecidableEq, Repr

/-- The fields that a catalogue shows. -/
def TypeBody.fields : TypeBody → List FieldNode
  | .object _ fields | .interface _ fields => fields
  | _ => []

namespace TypeMap

variable (m : TypeMap)

def type? (name : String) : Option MergedType := m.types.find? (·.name = name)

/-- The kind of the type of a name. -/
def kindOf (name : String) : TypeKind := ((m.type? name).map (·.body.kind)).getD .scalar

/-- A type as the catalogue shows it. -/
def view (t : MergedType) : SchemaType := typeOf m.types m.kindOf t

/-- Only a type with a name is entered. -/
def enter (t : MergedType) : Except ConversionFault Unit := do
  let _ ← (TypeRef.make t.body.kind (some t.name) none).mapError .schema

/-- Names that are followed for a type: those of its fields' types, then those of its possible types. -/
def followed (t : MergedType) : List String :=
  t.body.fields.map (·.type.baseName) ++ (m.view t).possibleNames

def follow (name : String) : Except ConversionFault Unit :=
  if (m.type? name).isSome then .ok () else .error (.unlisted name)

/-- The catalogue as it stands if nothing is refused. -/
def views : Schema where
  types := m.types.map m.view
  query? := m.query?
  mutation? := m.mutation?
  subscription? := m.subscription?

/-- The catalogue of the types: they are entered, and then what they refer to is followed. -/
def convert : Except ConversionFault Schema := do
  m.types.forM enter
  m.types.forM fun t => (m.followed t).forM m.follow
  return m.views

end TypeMap

/-- The types of a document. -/
def typeMap (doc : Document) : TypeMap :=
  let types := definedTypes doc
  let query? := rootName? doc types .query "Query"
  let mutation? := rootName? doc types .mutation "Mutation"
  let subscription? := rootName? doc types .subscription "Subscription"
  let roots := [query?, mutation?, subscription?].filterMap id
  { types := (catalogueOrder doc types roots).filterMap (findType? types)
    query?, mutation?, subscription? }

end ResolverGen.GraphQL
