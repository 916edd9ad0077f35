/-!
# Type references

Kinds of schema types, and references: named types under layers of lists and non-null marks.
-/
namespace ResolverGen

/-- Kinds of schema types, named as introspection names them. -/
inductive TypeKind where
  | scalar
  | object
  | interface
  | union
  | enum
  | inputObject
  | list
  | nonNull
deriving DecidableEq, Repr

namespace TypeKind

def label : TypeKind → String
  | scalar => "SCALAR"
  | object => "OBJECT"
  | interface => "INTERFACE"
  | union => "UNION"
  | enum => "ENUM"
  | inputObject => "INPUT_OBJECT"
  | list => "LIST"
  | nonNull => "NON_NULL"

def all : List TypeKind := [scalar, object, interface, union, enum, inputObject, list, nonNull]

def ofLabel? (label : String) : Option TypeKind := all.find? (·.label = label)

/-- Kinds whose types stand around another type. -/
def isWrapper : TypeKind → Bool
  | list | nonNull => true
  | _ => false

end TypeKind

/-- A structural rule that a type reference breaks. -/
inductive SchemaFault where
  | noInnerType (kind : TypeKind)
  | noName (kind : TypeKind)
  | unnamedEnd (reference : String)
deriving DecidableEq, Repr

def SchemaFault.message : SchemaFault → String
  | noInnerType kind => kind.label ++ " wrapper type has no inner type"
  | noName kind => kind.label ++ " type has no name"
  | unnamedEnd reference => "Type reference " ++ reference ++ " does not end in a named type"

/-- A type as it is referred to. A name belongs to entities and an inner type to wrappers; either
part may stand beside the other. -/
inductive TypeRef where
  | entity (kind : TypeKind) (name? : Option String)
  | around (kind : TypeKind) (name? : Option String) (inner : TypeRef)
deriving DecidableEq, Repr

namespace TypeRef

def kind : TypeRef → TypeKind
  | entity kind _ => kind
  | around kind _ _ => kind

def name? : TypeRef → Option String
  | entity _ name? => name?
  | around _ name? _ => name?

def inner? : TypeRef → Option TypeRef
  | entity .. => none
  | around _ _ inner => some inner

/-- A reference of a kind; a wrapper needs an inner type and any other kind a name. -/
def make (kind : TypeKind) (name? : Option String) (inner? : Option TypeRef) :
    Except SchemaFault TypeRef :=
  if kind.isWrapper then
    match inner? with
    | none => .error (.noInnerType kind)
    | some inner => .ok (around kind name? inner)
  else if (name?.getD "") = "" then .error (.noName kind)
  else match inner? with
    | none => .ok (entity kind name?)
    | some inner => .ok (around kind name? inner)

def named (kind : TypeKind) (name : String) : TypeRef := entity kind (some name)

def listOf (inner : TypeRef) : TypeRef := around .list none inner

def nonNull (inner : TypeRef) : TypeRef := around .nonNull none inner

/-- The reference with its own name taken away. -/
def unnamed : TypeRef → TypeRef
  | entity kind _ => entity kind none
  | around kind _ inner => around kind none inner

def isWrapper (t : TypeRef) : Bool := t.kind.isWrapper

/-- The type under all wrappers. -/
def namedType : TypeRef → TypeRef
  | entity kind name? => entity kind name?
  | around kind name? inner =>
    if kind.isWrapper then inner.namedType else around kind name? inner

/-- The reference in schema notation. -/
def text : TypeRef → String
  | entity _ name? => nameText name?
  | around .nonNull _ inner => inner.text ++ "!"
  | around .list _ inner => "[" ++ inner.text ++ "]"
  | around _ name? _ => nameText name?
where
  nameText (name? : Option String) : String :=
    if name?.getD "" = "" then "<unnamed>" else name?.getD ""

@[simp] theorem namedType_listOf (t : TypeRef) : (listOf t).namedType = t.namedType := rfl

@[simp] theorem namedType_nonNull (t : TypeRef) : (nonNull t).namedType = t.namedType := rfl

end TypeRef

end ResolverGen
