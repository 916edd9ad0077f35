/-!
# Tagged causes

Causes of failures with the place in the schema at which they arose. A place is filled in on the way
out: what is known first stays, and the text always tells the place as it is known.
-/
namespace ResolverGen

/-- Which type, field and template variant a failure belongs to. Empty names count as not known. -/
structure Location where
  typeName? : Option String := none
  fieldName? : Option String := none
  variant? : Option String := none
deriving DecidableEq, Repr

/-- A name that is not empty. -/
def knownName? (name? : Option String) : Option String := name?.filter (· ≠ "")

/-- The first of two names that is known, or else the second as it is. -/
def firstKnown (first? second? : Option String) : Option String :=
  match knownName? first? with
  | some name => some name
  | none => second?

namespace Location

/-- A location with what is not known in it taken from another. -/
def tag (l other : Location) : Location where
  typeName? := firstKnown l.typeName? other.typeName?
  fieldName? := firstKnown l.fieldName? other.fieldName?
  variant? := firstKnown l.variant? other.variant?

/-- The type, or the field of it. -/
def target? (l : Location) : Option String :=
  (knownName? l.typeName?).map fun typeName =>
    match knownName? l.fieldName? with
    | some fieldName => typeName ++ "." ++ fieldName
    | none => typeName

def variantText? (l : Location) : Option String :=
  (knownName? l.variant?).map fun variant => "template '" ++ variant ++ "'"

/-- What is known of a location, before the text of a failure. -/
def describe (l : Location) (message : String) : String :=
  match l.target?, l.variantText? with
  | none, none => message
  | some target, none => target ++ ": " ++ message
  | none, some variant => variant ++ ": " ++ message
  | some target, some variant => target ++ ", " ++ variant ++ ": " ++ message

end Location

/-- A cause with the location of its failure. -/
structure Tagged (Cause : Type) where
  cause : Cause
  location : Location := {}
deriving DecidableEq, Repr

namespace Tagged

variable {Cause : Type}

/-- The failure with what is not known of its location filled in. -/
def tag (e : Tagged Cause) (l : Location) : Tagged Cause := { e with location := e.location.tag l }

/-- The text of a failure, given the text of its cause. -/
def text (causeText : Cause → String) (e : Tagged Cause) : String :=
  e.location.describe (causeText e.cause)

@[simp] theorem cause_tag (e : Tagged Cause) (l : Location) : (e.tag l).cause = e.cause := rfl

@[simp] theorem location_tag (e : Tagged Cause) (l : Location) :
    (e.tag l).location = e.location.tag l := rfl

end Tagged

end ResolverGen
