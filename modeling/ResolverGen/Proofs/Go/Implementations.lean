import ResolverGen.Proofs.Go.InterfaceFile
import ResolverGen.Proofs.Go.ObjectFile

/-!
# Interfaces and the types behind them

The methods of an interface and the accessors of a type behind it are written in two files. They
have the same names. But an object type may have a field with a stricter type than the interface
asks for, and as each layer that may be null is a pointer in Go, the methods then differ in what
they give.
-/
namespace ResolverGen

/-- The second reference is the first one, or is made stricter by further non-null marks. -/
inductive TypeRef.Tightened : TypeRef → TypeRef → Prop where
  | named (kind : TypeKind) (name : String) : Tightened (.named kind name) (.named kind name)
  | list {a b : TypeRef} (h : Tightened a b) : Tightened (.listOf a) (.listOf b)
  | kept {a b : TypeRef} (ha : a.kind ≠ .nonNull) (hb : b.kind ≠ .nonNull) (h : Tightened a b) :
    Tightened (.nonNull a) (.nonNull b)
  | added {a b : TypeRef} (ha : a.kind ≠ .nonNull) (hb : b.kind ≠ .nonNull) (h : Tightened a b) :
    Tightened a (.nonNull b)

namespace Go

open Template Go.Generator

/-! ## Marks of stricter references -/

variable {a b : TypeRef}

/-- A layer that may be null has one mark more than it would have if it were not. -/
theorem peel_of_nullable (h : a.kind ≠ .nonNull) :
    peel false a = ("*" ++ (peel true a).1, (peel true a).2) := by
  cases a with
  | entity kind name? => rfl
  | around kind name? inner =>
    have hkind : kind ≠ .nonNull := h
    have hmark (strict : Bool) : ¬(kind = .nonNull ∧ !strict) := fun hc => hkind hc.1
    rw [peel, peel, if_neg (hmark false), if_neg (hmark true)]
    by_cases hlist : kind = .list
    · rw [if_pos hlist, if_pos hlist]
      change ("*" ++ "[]" ++ (peel false inner).1, (peel false inner).2) =
        ("*" ++ ("" ++ "[]" ++ (peel false inner).1), (peel false inner).2)
      rw [String.empty_append, String.append_assoc]
    · rw [if_neg hlist, if_neg hlist]
      rfl

/-- A stricter reference ends in the same name and has fewer marks, unless it is the same. -/
theorem peel_of_tightened (h : a.Tightened b) :
    (peel false b).2.name? = (peel false a).2.name? ∧
      (peel false b).1.length ≤ (peel false a).1.length ∧
      ((peel false b).1.length = (peel false a).1.length → b = a) := by
  -- marks are counted, since an added one takes away a pointer and no rule brings one back
  induction h with
  | named kind name => exact ⟨rfl, Nat.le_refl _, fun _ => rfl⟩
  | list h ih =>
    obtain ⟨hname, hle, heq⟩ := ih
    rw [peel_listOf, peel_listOf]
    simp only [String.length_append]
    refine ⟨hname, by omega, fun hlength => ?_⟩
    rw [heq (by omega)]
  | kept ha hb h ih =>
    rw [peel_of_nullable ha, peel_of_nullable hb] at ih
    simp only [String.length_append] at ih
    obtain ⟨hname, hle, heq⟩ := ih
    rw [peel_nonNull, peel_nonNull]
    refine ⟨hname, by omega, fun hlength => ?_⟩
    rw [heq (by omega)]
  | added ha hb h ih =>
    rw [peel_of_nullable hb] at ih
    simp only [String.length_append] at ih
    obtain ⟨hname, hle, heq⟩ := ih
    have hmark : "*".length = 1 := rfl
    rw [peel_nonNull]
    refine ⟨hname, by omega, fun hlength => ?_⟩
    omega

/-- A stricter reference has the same Go type only if it is the same. -/
theorem typeExpression_eq_iff_of_tightened {table : ScalarTable} {loose strict : String}
    (h : a.Tightened b) (ha : typeExpression table a = .ok loose)
    (hb : typeExpression table b = .ok strict) : strict = loose ↔ b = a := by
  obtain ⟨hname, _, heq⟩ := peel_of_tightened h
  constructor
  · intro hsame
    obtain ⟨m, base, hm, _, hbase, rfl⟩ := typeExpression_ok ha
    obtain ⟨n, base', hn, _, hbase', rfl⟩ := typeExpression_ok hb
    rw [hname, hm] at hn
    obtain rfl : m = n := Option.some.inj hn
    rw [hbase] at hbase'
    obtain rfl : base = base' := Except.ok.inj hbase'
    apply heq
    rw [String.append_left_inj] at hsame
    rw [hsame]
  · rintro rfl
    rw [ha] at hb
    exact (Except.ok.inj hb).symm

/-! ## Methods and accessors -/

variable {g : Generator} {package : String} {i t : SchemaType} {goType : SchemaField → String}

/-- An interface and an object type come to files in which a field of the type is given by a method
of the name that the interface asks for. The two give the same Go type if and only if the type of
the field is not stricter than that of the interface. -/
theorem renderType_implementation (hi : IsPlain g package i goType) (hikind : i.kind = .interface)
    (hiname : IsSchemaName i.name) (hpossible : ∀ n ∈ i.possibleNames, '\n' ∉ n.toList)
    (ht : IsPlain g package t goType) (htkind : t.kind = .object) (files : Files)
    (programs : Programs) {s s' : RunState} (hs : IsFaithful s) (hs' : IsFaithful s') :
    ((g.renderType files programs i).run s).1 =
      .ok (interfaceFileText g.formatter package g.settings.addComments.isGiven (g.fieldImports i) i
        goType) ∧
    ((g.renderType files programs t).run s').1 =
      .ok (objectText g.formatter package g.settings.addComments.isGiven (g.fieldImports t) t
        goType) ∧
    ∀ f ∈ i.fields, ∀ f' ∈ t.fields, f'.name = f.name → f.type.Tightened f'.type →
      accessorName f'.name = accessorName f.name ∧ (goType f' = goType f ↔ f'.type = f.type) := by
  refine ⟨(hi.settles_interface hikind hiname hpossible files programs).result hs,
    (ht.settles_object htkind files programs).result hs', ?_⟩
  intro f hf f' hf' hname htightened
  refine ⟨by rw [hname], ?_⟩
  exact typeExpression_eq_iff_of_tightened htightened (hi.types f hf) (ht.types f' hf')

/-- A field of an interface, which may be null. -/
def namedField : SchemaField :=
  { name := "name", type := .named .scalar "String", owner := "Named" }

/-- The field of a type behind the interface, which may not be null. -/
def userField : SchemaField :=
  { name := "name", type := .nonNull (.named .scalar "String"), owner := "User" }

def namedType : SchemaType :=
  { kind := .interface, name := "Named", fields := [namedField], possible? := some ["User"] }

def userType : SchemaType := { kind := .object, name := "User", fields := [userField] }

theorem tightened_userField : namedField.type.Tightened userField.type :=
  .added (by decide) (by decide) (.named .scalar "String")

/-- The Go types of both fields. -/
def nameGoType (f : SchemaField) : String := if f.owner = "Named" then "*string" else "string"

theorem isPlain_namedType : IsPlain plainGenerator "resolvers" namedType nameGoType :=
  isPlain_plainGenerator (by decide) (by decide) (by decide) (by decide +kernel)

theorem isPlain_userType : IsPlain plainGenerator "resolvers" userType nameGoType :=
  isPlain_plainGenerator (by decide) (by decide) (by decide) (by decide +kernel)

/-- The accessor of the type behind the interface has the name that is asked for, and gives another
Go type. -/
theorem renderType_implementation_userType :
    accessorName userField.name = accessorName namedField.name ∧
      nameGoType userField ≠ nameGoType namedField := by
  obtain ⟨_, _, h⟩ := renderType_implementation isPlain_namedType rfl (by decide) (by decide)
    isPlain_userType rfl {} [] (isFaithful_initialState []) (isFaithful_initialState [])
  obtain ⟨hname, htype⟩ := h namedField (List.mem_singleton_self _) userField
    (List.mem_singleton_self _) rfl tightened_userField
  refine ⟨hname, ?_⟩
  rw [ne_eq, htype]
  decide

/-- The interface asks for a pointer and the accessor behind it gives none, so it is no
implementation. -/
theorem renderType_userType_mismatch :
    namedField.type.Tightened userField.type ∧
    ((plainGenerator.renderType {} [] namedType).run (initialState [])).1 =
      .ok ("package resolvers\n\ntype Named interface \x7b\n\tName() *string\n\x7d\n\n" ++
        "// NamedResolver wraps a concrete Named implementation.\n" ++
        "type NamedResolver struct \x7b\n\tNamed\n\x7d\n\n" ++
        "// ToUser returns the User behind the interface, if any.\n" ++
        "func (r *NamedResolver) ToUser() (*UserResolver, bool) \x7b\n" ++
        "\tc, ok := r.Named.(*UserResolver)\n\treturn c, ok\n\x7d\n") ∧
    ((plainGenerator.renderType {} [] userType).run (initialState [])).1 =
      .ok ("package resolvers\n\ntype UserResolver struct \x7b\n\tname string\n\x7d\n\n" ++
        "// Name resolves User.name.\nfunc (r *UserResolver) Name() string \x7b\n" ++
        "\treturn r.name\n\x7d\n") ∧
    nameGoType userField ≠ nameGoType namedField := by
  refine ⟨tightened_userField, ?_, ?_, by decide⟩
  · rw [(isPlain_namedType.settles_interface rfl (by decide) (by decide) {} []).result
      (isFaithful_initialState [])]
    decide +kernel
  · rw [(isPlain_userType.settles_object rfl {} []).result (isFaithful_initialState [])]
    decide +kernel

end Go

end ResolverGen
