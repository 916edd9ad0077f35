import ResolverGen.Proofs.Go.PackagedTexts
import ResolverGen.Proofs.Template.ConfiguredTexts
import ResolverGen.Proofs.Template.Outputs

/-!
# What the packaged variants write

Beside the default templates there are the one for setters of fields and the one for constructors of
resolvers. A type template writes some configured values as they are: the package name and the
imports, or the name of a constructor. It comes to a text if and only if each of these has one.
-/
namespace ResolverGen.Go

open Template

variable {c : Surroundings}

/-! ## Setters -/

/-- The method that replaces the value of a struct field. -/
def setterText (typeName fieldName goType : String) : String :=
  "\n// Set" ++ accessorName fieldName ++ " replaces the value returned by " ++
    accessorName fieldName ++ ".\nfunc (r *" ++ resolverName typeName ++ ") Set" ++
    accessorName fieldName ++ "(value " ++ goType ++ ") \x7b\n\tr." ++ storageName fieldName ++
    " = value\n\x7d\n"

/-- What the packaged template of a setter writes: nothing in an interface. -/
theorem writes_setterMethodBody (hc : KnowsFilters c) (g : Generator) (f : SchemaField)
    (owner : SchemaType) (goType : String) (variant : Variant) :
    Writes Faithful c (g.methodContext f owner goType variant) setterMethodBody
      (if owner.kind ≠ .interface then setterText owner.name f.name goType else "") := by
  have hkind : Evaluates Faithful c (g.methodContext f owner goType variant)
      (.compare (.name "type_kind") [(.ne, .constant (.str "INTERFACE"))])
      (.bool (owner.kind.label ≠ "INTERFACE")) :=
    (Evaluates.name rfl).compare (Evaluates.constant _) (comparison_ne_str _ _)
  have hlabel : truth (.bool (owner.kind.label ≠ "INTERFACE")) =
      .ok (decide (owner.kind ≠ .interface)) :=
    congrArg Except.ok (decide_eq_decide.mpr (not_congr (label_eq_interface owner.kind)))
  have hname : Evaluates Faithful c (g.methodContext f owner goType variant)
      (filtered "method_name" "capitalize") (.str (accessorName f.name)) :=
    evaluates_capitalize hc (Evaluates.name rfl)
  have hresolver : Evaluates Faithful c (g.methodContext f owner goType variant)
      (filtered "type_name" "resolver") (.str (resolverName owner.name)) :=
    evaluates_resolver hc (Evaluates.name rfl)
  have hassign : Writes Faithful c (g.methodContext f owner goType variant) _ _ :=
    Writes.outputText (Evaluates.name (x := "method_return_type") rfl)
      (Writes.text ") \x7b\n\tr."
        (Writes.outputText (evaluates_storageOf hc (x := "method_return") rfl)
          (Writes.text " = value\n\x7d\n" Writes.nil)))
  have hsignature : Writes Faithful c (g.methodContext f owner goType variant) _ _ :=
    Writes.text ".\nfunc (r *" (Writes.outputText hresolver (Writes.text ") Set"
      (Writes.outputText hname (Writes.text "(value " hassign))))
  have hcomment : Writes Faithful c (g.methodContext f owner goType variant) _ _ :=
    Writes.text "\n// Set" (Writes.outputText hname (Writes.text " replaces the value returned by "
      (Writes.outputText hname hsignature)))
  refine (Writes.branch hkind hlabel (fun _ => hcomment) (fun _ => Writes.nil)
    Writes.nil).of_eq ?_
  unfold setterText
  simp only [String.append_assoc, String.append_empty]

/-! ## Constructors -/

/-- What a constructor is called: what its parameters give, or else a name of its own. -/
def constructorName (typeName : String) (params : Table Json) : Json :=
  match params.get? "name" with
  | some given => if given.isGiven then given else .str ("New" ++ resolverName typeName)
  | none => .str ("New" ++ resolverName typeName)

/-- A function that returns an empty resolver. -/
def constructorText (typeName name : String) : String :=
  "\n// " ++ name ++ " returns an empty " ++ resolverName typeName ++ ".\nfunc " ++ name ++
    "() *" ++ resolverName typeName ++ " \x7b\n\treturn &" ++ resolverName typeName ++
    "\x7b\x7d\n\x7d\n"

theorem valueAt?_ofJsonEntries (params : Table Json) (key : String) :
    Value.valueAt? (Value.ofJsonEntries params) (.str key) =
      (params.get? key).map Value.ofJson := by
  induction params with
  | nil => rfl
  | cons entry rest ih =>
    obtain ⟨k, j⟩ := entry
    unfold Value.valueAt? at ih ⊢
    rw [Value.ofJsonEntries, List.find?_cons, Table.get?]
    by_cases hk : k = key
    · simp [Value.same, hk]
    · simp [Value.same, hk, ih]

/-- A parameter that a template asks for. -/
theorem callValue_get (params : Table Json) (key : String) :
    callValue (.method (paramsValue params) "get") [.str key] [] =
      .ok (((params.get? key).map Value.ofJson).getD .null) := by
  rw [← valueAt?_ofJsonEntries]
  rfl

section

variable (hc : KnowsFilters c) (g : Generator) (t : SchemaType)
  (fields : List Generator.RenderedField) (variant : Variant)

include hc

theorem evaluates_constructorName :
    Evaluates Faithful c (g.typeContext t fields variant) constructorNameExpr
      (.ofJson (constructorName t.name variant.params)) := by
  have hget : Evaluates Faithful c (g.typeContext t fields variant)
      (.call (.attribute (.name "template_config") "get") [.constant (.str "name")] [])
      (((variant.params.get? "name").map Value.ofJson).getD .null) :=
    ((Evaluates.name rfl).attribute rfl).call (Evaluates.constant _) (callValue_get _ _)
  have hown : Evaluates Faithful c (g.typeContext t fields variant)
      (.concat [.constant (.str "New"), filtered "type_name" "resolver"])
      (.str ("New" ++ resolverName t.name)) :=
    (Evaluates.constant _).concat (evaluates_resolver hc (Evaluates.name rfl))
  unfold constructorName constructorNameExpr
  cases hname : variant.params.get? "name" with
  | none =>
    rw [hname] at hget
    exact hget.or_of_false rfl hown
  | some given =>
    rw [hname] at hget
    have htruth := truth_ofJson given
    dsimp only
    split
    · rename_i hgiven
      rw [hgiven] at htruth
      exact hget.or_of_true _ htruth
    · rename_i hgiven
      rw [Bool.eq_false_iff.mpr hgiven] at htruth
      exact hget.or_of_false htruth hown

/-- What the packaged template of a constructor writes, if its name has a text. -/
theorem settles_constructorBody (hname : (constructorName t.name variant.params).IsWritable) :
    ∃ names, Settles Faithful (runBody c (g.typeContext t fields variant) constructorBody)
      (.ok (constructorText t.name (constructorName t.name variant.params).plain, names)) := by
  have hassign := evaluates_constructorName hc g t fields variant
  generalize constructorName t.name variant.params = name at hname hassign
  let names := (g.typeContext t fields variant).put "func_name" (.ofJson name)
  have hcalled : Evaluates Faithful c names (.name "func_name") (.ofJson name) := by
    apply Evaluates.name
    unfold lookupName
    rw [Table.get?_put, if_pos rfl]
  have htype : lookupName names "type_name" = .str t.name := by
    unfold lookupName
    rw [Table.get?_put, if_neg (by decide)]
    rfl
  have hresolver : Evaluates Faithful c names (filtered "type_name" "resolver")
      (.str (resolverName t.name)) := evaluates_resolver hc (Evaluates.name htype)
  have hbody : Writes Faithful c names _ _ :=
    Writes.text "() *" (Writes.outputText hresolver (Writes.text " \x7b\n\treturn &"
      (Writes.outputText hresolver (Writes.text "\x7b\x7d\n\x7d\n" Writes.nil))))
  refine ⟨_, settles_assign hassign ((Writes.text "\n// " (Writes.output hcalled hname
    (Writes.text " returns an empty " (Writes.outputText hresolver (Writes.text ".\nfunc "
      (Writes.output hcalled hname hbody)))))).of_eq ?_)⟩
  unfold constructorText
  simp only [String.append_assoc, String.append_empty]

/-- A constructor that was written has a name with a text. -/
theorem isWritable_of_runs_constructorBody (hsteady : c.IsSteady Faithful)
    (h : Runs Faithful c (g.typeContext t fields variant) constructorBody) :
    (constructorName t.name variant.params).IsWritable := by
  have hassign := evaluates_constructorName hc g t fields variant
  have hbody := (h.of_assign hsteady faithful_sanitizer hassign).of_text hsteady faithful_sanitizer
  have hcalled : Evaluates Faithful c ((g.typeContext t fields variant).put "func_name"
      (.ofJson (constructorName t.name variant.params))) (.name "func_name")
      (.ofJson (constructorName t.name variant.params)) := by
    apply Evaluates.name
    unfold lookupName
    rw [Table.get?_put, if_pos rfl]
  obtain ⟨⟨text, htext⟩, _⟩ := hbody.of_output hsteady faithful_sanitizer hcalled
  exact Json.isWritable_of_textOf htext

omit hc in
/-- A type that was written has a package name and imports with texts. -/
theorem isWritable_of_runs_typeBody (hsteady : c.IsSteady Faithful)
    (h : Runs Faithful c (g.typeContext t fields variant) typeBody) :
    g.settings.packageName.IsWritable ∧
      ∀ j ∈ Generator.distinctImports (fields.flatMap (·.imports)), j.IsWritable := by
  have hs := faithful_sanitizer
  have hconfig : Evaluates Faithful c (g.typeContext t fields variant)
      (.attribute (.name "config") "package_name") (.ofJson g.settings.packageName) :=
    (Evaluates.name rfl).attribute rfl
  obtain ⟨⟨text, htext⟩, hrest⟩ := (h.of_text hsteady hs).of_output hsteady hs hconfig
  have himports : lookupName (g.typeContext t fields variant) "imports" =
      .list ((Generator.distinctImports (fields.flatMap (·.imports))).map Value.ofJson) := rfl
  refine ⟨Json.isWritable_of_textOf htext, ?_⟩
  generalize Generator.distinctImports (fields.flatMap (·.imports)) = imports at himports
  intro j hj
  have hne : imports ≠ [] := List.ne_nil_of_mem hj
  have htruth : truth (.list (imports.map Value.ofJson)) = .ok (decide (imports ≠ [])) := by
    cases imports with
    | nil => rfl
    | cons j js => rfl
  have hbranch :=
    (hrest.of_text hsteady hs).of_branch hsteady hs (Evaluates.name himports) htruth hne
  have hline := (hbranch.of_text hsteady hs).of_loop hsteady hs himports rfl j hj
  have himp : lookupName (Table.put (g.typeContext t fields variant) "imp" (.ofJson j)) "imp" =
      .ofJson j := by
    unfold lookupName
    rw [Table.get?_put, if_pos rfl]
  obtain ⟨⟨line, hwritten⟩, _⟩ :=
    (hline.of_text hsteady hs).of_output hsteady hs (Evaluates.name himp)
  exact Json.isWritable_of_textOf hwritten

end

end ResolverGen.Go
