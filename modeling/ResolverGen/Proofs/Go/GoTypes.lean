import ResolverGen.Proofs.Go.FragmentLines
import ResolverGen.Proofs.Go.Rendering
import ResolverGen.Proofs.Tables

/-!
# Go types as parts of lines

A type expression is the marks of the layers and then the Go type of a name in the reference. If the
table holds texts that can end a line and names hold no newline, it can end a line, and so can the
imports that a reference needs.
-/
namespace ResolverGen

/-- The names that stand in a reference, outermost first. -/
def TypeRef.names : TypeRef → List String
  | .entity _ name? => name?.toList
  | .around _ name? inner => name?.toList ++ inner.names

namespace Go

open Text Formatter Go.Generator

/-- A configured text that can end a line: without a newline, and without blanks at its end. -/
def IsLineText : Json → Prop
  | .str s => '\n' ∉ s.toList ∧ stripRight s.toList = s.toList
  | _ => False

/-- The Go types and imports of a table can end lines. -/
def ScalarTable.IsClean (table : ScalarTable) : Prop :=
  ∀ name scalar, table.get? name = some scalar →
    IsLineText scalar.goType ∧ IsLineText scalar.importPath

instance : ∀ j : Json, Decidable (IsLineText j)
  | .str s => inferInstanceAs (Decidable ('\n' ∉ s.toList ∧ stripRight s.toList = s.toList))
  | .null | .bool _ | .int _ | .float _ | .arr _ | .obj _ => .isFalse id

/-- A table is clean if what is configured for it can end lines. -/
theorem isClean_ofCustom {custom : Table Scalar}
    (h : ∀ e ∈ custom, IsLineText e.2.goType ∧ IsLineText e.2.importPath) :
    (ScalarTable.ofCustom custom).IsClean := by
  have hbuiltin : ∀ e ∈ builtinScalars, IsLineText e.2.goType ∧ IsLineText e.2.importPath := by
    decide
  intro name scalar hget
  rcases Table.mem_of_mem_overlay (Table.mem_of_get? hget) with hm | hm
  · exact hbuiltin (name, scalar) hm
  · exact h (name, scalar) (List.mem_filter.mp hm).1

theorem IsLineText.eq_str {j : Json} (h : IsLineText j) :
    ∃ s, j = .str s ∧ '\n' ∉ s.toList ∧ stripRight s.toList = s.toList := by
  cases j with
  | str s => exact ⟨s, rfl, h⟩
  | _ => cases h

variable {table : ScalarTable} {t : TypeRef} {name goType : String}

/-! ## Type expressions -/

@[simp] theorem peel_listOf (strict : Bool) (inner : TypeRef) : peel strict (.listOf inner) =
    (peel.nullable strict ++ "[]" ++ (peel false inner).1, (peel false inner).2) := rfl

@[simp] theorem peel_nonNull (inner : TypeRef) :
    peel false (.nonNull inner) = peel true inner := rfl

/-- A second mark is not passed. -/
@[simp] theorem peel_nonNull_strict (inner : TypeRef) :
    peel true (.nonNull inner) = ("", .nonNull inner) := rfl

/-- What a type expression is put together of. -/
theorem typeExpression_ok (h : typeExpression table t = .ok goType) :
    ∃ name base, (peel false t).2.name? = some name ∧ name ≠ "" ∧
      baseType table name = .ok base ∧ goType = (peel false t).1 ++ base := by
  unfold typeExpression at h
  cases hn : (peel false t).2.name? with
  | none =>
    simp only [hn] at h
    cases h
  | some name =>
    by_cases hempty : name = ""
    · simp only [hn, hempty] at h
      cases h
    · simp only [hn] at h
      cases hb : baseType table name with
      | error fault =>
        rw [hb] at h
        cases h
      | ok base =>
        rw [hb] at h
        refine ⟨name, base, rfl, hempty, hb, ?_⟩
        exact (Except.ok.inj h).symm

/-- A base type is a configured text that is not empty, or the name of a resolver. -/
theorem baseType_ok {base : String} (h : baseType table name = .ok base) :
    (∃ scalar, table.get? name = some scalar ∧ scalar.goType = .str base ∧ base ≠ "") ∨
      base = resolverName name := by
  unfold baseType at h
  cases hs : table.get? name with
  | none =>
    simp only [hs] at h
    exact Or.inr (Except.ok.inj h).symm
  | some scalar =>
    simp only [hs] at h
    split at h
    · rename_i hgiven
      cases ht : scalar.goType with
      | str text =>
        rw [ht] at h hgiven
        obtain rfl : text = base := Except.ok.inj h
        exact Or.inl ⟨scalar, rfl, ht, by simpa [Json.isGiven] using hgiven⟩
      | _ =>
        rw [ht] at h
        cases h
    · exact Or.inr (Except.ok.inj h).symm

theorem mem_names_of_peel (strict : Bool) (h : (peel strict t).2.name? = some name) :
    name ∈ t.names := by
  induction t generalizing strict with
  | entity kind name? =>
    rw [peel] at h
    change name? = some name at h
    rw [h]
    exact List.mem_singleton_self name
  | around kind name? inner ih =>
    rw [peel] at h
    unfold TypeRef.names
    split at h
    · exact List.mem_append_right _ (ih true h)
    · split at h
      · exact List.mem_append_right _ (ih false h)
      · change name? = some name at h
        rw [h]
        exact List.mem_append_left _ (List.mem_singleton_self name)

theorem not_mem_nullable (strict : Bool) : '\n' ∉ (peel.nullable strict).toList := by
  cases strict with
  | false => decide
  | true => decide

theorem not_mem_marks (strict : Bool) : '\n' ∉ (peel strict t).1.toList := by
  induction t generalizing strict with
  | entity kind name? =>
    rw [peel]
    exact not_mem_nullable strict
  | around kind name? inner ih =>
    rw [peel]
    split
    · exact ih true
    · split
      · intro hm
        change '\n' ∈ (peel.nullable strict ++ "[]" ++ (peel false inner).1).toList at hm
        rw [String.toList_append, String.toList_append] at hm
        rcases List.mem_append.mp hm with hm | hm
        · rcases List.mem_append.mp hm with hm | hm
          · exact not_mem_nullable strict hm
          · exact absurd hm (by decide)
        · exact ih false hm
      · exact not_mem_nullable strict

theorem isLineEnd_resolverName (h : '\n' ∉ name.toList) : IsLineEnd (resolverName name) := by
  unfold resolverName
  constructor
  · rw [String.toList_append]
    exact IsSolid.prepend (isSolid_of_getLast (c := 'r') rfl (by decide)) _
  · rw [String.toList_append]
    intro hm
    rcases List.mem_append.mp hm with hm | hm
    · exact h hm
    · exact absurd hm (by decide)

/-- A Go type holds no newline if none is configured and names hold none. -/
theorem not_mem_typeExpression
    (htable : ∀ name scalar, table.get? name = some scalar → '\n' ∉ scalar.goType.plain.toList)
    (hnames : ∀ n ∈ t.names, '\n' ∉ n.toList) (h : typeExpression table t = .ok goType) :
    '\n' ∉ goType.toList := by
  obtain ⟨name, base, hname, _, hbase, rfl⟩ := typeExpression_ok h
  have hend : '\n' ∉ base.toList := by
    rcases baseType_ok hbase with ⟨scalar, hscalar, htype, _⟩ | rfl
    · have hline := htable name scalar hscalar
      rwa [htype] at hline
    · exact (isLineEnd_resolverName (hnames name (mem_names_of_peel false hname))).2
  rw [String.toList_append, List.mem_append, not_or]
  exact ⟨not_mem_marks false, hend⟩

/-- A Go type can end a line. -/
theorem isLineEnd_typeExpression (hclean : table.IsClean) (hnames : ∀ n ∈ t.names, '\n' ∉ n.toList)
    (h : typeExpression table t = .ok goType) : IsLineEnd goType := by
  have hnewline : '\n' ∉ goType.toList := by
    refine not_mem_typeExpression (fun name scalar hscalar => ?_) hnames h
    obtain ⟨text, htext, hline, _⟩ := (hclean name scalar hscalar).1.eq_str
    rwa [htext]
  obtain ⟨name, base, hname, _, hbase, rfl⟩ := typeExpression_ok h
  have hend : IsSolid base.toList := by
    rcases baseType_ok hbase with ⟨scalar, hscalar, htype, hne⟩ | rfl
    · have hline := (hclean name scalar hscalar).1
      rw [htype] at hline
      exact ⟨hline.2, fun he => hne (String.toList_inj.mp he)⟩
    · exact (isLineEnd_resolverName (hnames name (mem_names_of_peel false hname))).1
  refine ⟨?_, hnewline⟩
  rw [String.toList_append]
  exact hend.prepend _

/-! ## Imports -/

theorem mem_scalarImports {j : Json} (h : j ∈ scalarImports table name) :
    ∃ scalar, table.get? name = some scalar ∧ j = scalar.importPath ∧ j.isGiven = true := by
  unfold scalarImports at h
  cases hs : table.get? name with
  | none =>
    simp only [hs] at h
    cases h
  | some scalar =>
    simp only [hs] at h
    split at h
    · rename_i hgiven
      obtain rfl := List.mem_singleton.mp h
      exact ⟨scalar, rfl, rfl, hgiven⟩
    · cases h

/-- An import that a reference needs is one of the table, and it is given. -/
theorem mem_importsFor {j : Json} (h : j ∈ importsFor table t) :
    ∃ name scalar, table.get? name = some scalar ∧ j = scalar.importPath ∧ j.isGiven = true := by
  induction t with
  | entity kind name? =>
    cases name? with
    | none => cases h
    | some name => exact ⟨name, mem_scalarImports h⟩
  | around kind name? inner ih =>
    cases name? with
    | none => exact ih h
    | some name => exact ⟨name, mem_scalarImports h⟩

/-- An import of a clean table is a text that can end a line and is not empty. -/
theorem isLineEnd_import (hclean : table.IsClean) {j : Json} (h : j ∈ importsFor table t) :
    ∃ s, j = .str s ∧ IsLineEnd s := by
  obtain ⟨name, scalar, hscalar, rfl, hgiven⟩ := mem_importsFor h
  obtain ⟨s, hs, hnewline, hstrip⟩ := (hclean name scalar hscalar).2.eq_str
  rw [hs] at hgiven ⊢
  refine ⟨s, rfl, ⟨hstrip, ?_⟩, hnewline⟩
  intro he
  have hempty : s = "" := String.toList_inj.mp he
  rw [hempty] at hgiven
  cases hgiven

theorem isPlainImport_of_isClean (hclean : table.IsClean) {j : Json}
    (h : j ∈ importsFor table t) : IsPlainImport j := by
  obtain ⟨s, rfl, _⟩ := isLineEnd_import hclean h
  exact ⟨rfl, rfl⟩

end Go

end ResolverGen
