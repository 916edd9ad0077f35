import ResolverGen.Schema.TypeRef

/-!
# Schema catalogue

The named types of a schema in catalogue order, with the fields of objects and interfaces and the
possible types of interfaces and unions.
-/
namespace ResolverGen

structure SchemaField where
  name : String
  type : TypeRef
  /-- Name of the type that declares the field. -/
  owner : String
  description? : Option String := none
  /-- The reason of a deprecated field. -/
  deprecation? : Option String := none
deriving DecidableEq, Repr

def SchemaField.isDeprecated (f : SchemaField) : Bool := f.deprecation?.isSome

structure SchemaType where
  kind : TypeKind
  name : String
  description? : Option String := none
  fields : List SchemaField := []
  /-- Names of the concrete types of an interface or union. -/
  possible? : Option (List String) := none
deriving DecidableEq, Repr

def SchemaType.ref (t : SchemaType) : TypeRef := .named t.kind t.name

def SchemaType.possibleNames (t : SchemaType) : List String := t.possible?.getD []

structure Schema where
  types : List SchemaType := []
  query? : Option String := none
  mutation? : Option String := none
  subscription? : Option String := none
deriving DecidableEq, Repr

namespace Schema

def type? (s : Schema) (name : String) : Option SchemaType := s.types.find? (·.name = name)

def size (s : Schema) : Nat := s.types.length

end Schema

end ResolverGen
