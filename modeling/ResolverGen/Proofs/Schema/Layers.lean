import Mathlib.Data.List.Infix
import ResolverGen.GraphQL.Document
import ResolverGen.Schema.TypeRef

/-!
# Layers of references

A reference is a named type under layers, each of which is a list or a mark that forbids null. The
layers are told outermost first. Nothing but a list or a name is to stand under such a mark.
-/
namespace ResolverGen

/-- What stands around a type in a reference. -/
inductive Layer where
  | list
  | nonNull
deriving DecidableEq, Repr

/-- A mark that forbids null stands right under another one. -/
def Doubled (layers : List Layer) : Prop := [.nonNull, .nonNull] <:+: layers

instance (layers : List Layer) : Decidable (Doubled layers) :=
  inferInstanceAs (Decidable (_ <:+: _))

theorem not_doubled_nil : ¬Doubled [] := by simp [Doubled]

theorem doubled_list {inner : List Layer} : Doubled (.list :: inner) ↔ Doubled inner := by
  simp [Doubled, List.infix_cons_iff]

/-- Under a mark that forbids null stands another one, or there is one under another further in. -/
theorem doubled_nonNull {inner : List Layer} :
    Doubled (.nonNull :: inner) ↔ inner.head? = some .nonNull ∨ Doubled inner := by
  cases inner with
  | nil => simp [Doubled, List.infix_cons_iff]
  | cons layer rest => cases layer <;> simp [Doubled, List.infix_cons_iff]

namespace TypeRef

/-- A type under one more layer. -/
def within (inner : TypeRef) : Layer → TypeRef
  | .list => .listOf inner
  | .nonNull => .nonNull inner

/-- A type under layers. -/
def under (base : TypeRef) (layers : List Layer) : TypeRef :=
  layers.foldr (fun layer inner => inner.within layer) base

section

variable (base : TypeRef) (inner : List Layer)

@[simp] theorem under_nil : base.under [] = base := rfl

@[simp] theorem under_list : base.under (.list :: inner) = .listOf (base.under inner) := rfl

@[simp] theorem under_nonNull : base.under (.nonNull :: inner) = .nonNull (base.under inner) := rfl

end

/-- A type of its own, with a name. -/
structure IsNamed (base : TypeRef) (name : String) : Prop where
  not_wrapper : base.isWrapper = false
  name_eq : base.name? = some name
  name_ne : name ≠ ""

theorem isNamed_named {kind : TypeKind} {name : String} (hkind : kind.isWrapper = false)
    (hname : name ≠ "") : (named kind name).IsNamed name :=
  ⟨hkind, rfl, hname⟩

variable {base : TypeRef} {name : String}

theorem IsNamed.namedType_eq (h : base.IsNamed name) : base.namedType = base := by
  cases base with
  | entity kind name? => rfl
  | around kind name? inner => exact if_neg (Bool.eq_false_iff.mp h.not_wrapper)

/-- What is left when all layers are taken away is the named type. -/
theorem namedType_under (h : base.IsNamed name) (layers : List Layer) :
    (base.under layers).namedType = base := by
  induction layers with
  | nil => exact h.namedType_eq
  | cons layer inner ih =>
    cases layer with
    | list => exact ih
    | nonNull => exact ih

/-- A named type under layers. -/
def IsLayered (t : TypeRef) : Prop :=
  ∃ (base : TypeRef) (name : String) (layers : List Layer),
    base.IsNamed name ∧ t = base.under layers

end TypeRef

/-! ## References as written -/

namespace GraphQL.TypeNode

def layers : TypeNode → List Layer
  | named _ => []
  | list inner => .list :: inner.layers
  | nonNull inner => .nonNull :: inner.layers

/-- A type as written is read with its own layers, around the type of its name. -/
theorem text_under (kind : TypeKind) {node : TypeNode} (hname : node.baseName ≠ "") :
    ((TypeRef.named kind node.baseName).under node.layers).text = node.text := by
  induction node with
  | named name => exact if_neg hname
  | list inner ih => exact congrArg (fun text => "[" ++ text ++ "]") (ih hname)
  | nonNull inner ih => exact congrArg (· ++ "!") (ih hname)

end GraphQL.TypeNode

end ResolverGen
