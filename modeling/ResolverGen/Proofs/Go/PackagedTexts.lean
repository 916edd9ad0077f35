import ResolverGen.Proofs.Go.FaithfulSanitizer
import ResolverGen.Proofs.Go.PackagedBodies
import ResolverGen.Proofs.Template.Writing

/-!
# What the packaged templates write

The texts of a field declaration, of an accessor and of a type as functions of what the templates
see, and that the templates write these texts with any faithful sanitizer.
-/
namespace ResolverGen.Go

open Template

variable {c : Surroundings} {names : Table Value} {e : Expr} {s t x : String} {rest : List Stmt}

/-! ## Texts -/

/-- A text as comment lines. -/
def commentText (s : String) : String := Text.onChars (commentChars "//".toList) s

def trimmedText (s : String) : String := Text.onChars Text.strip s

/-- A text with the lines that are not blank moved in by a tab. -/
def indentedText (s : String) : String := Text.onChars (indentChars ['\t']) s

/-- A description as a comment, where there is one and comments are wanted. -/
def descriptionText (comments : Bool) (description : String) : String :=
  if description ≠ "" && comments then commentText description ++ "\n" else ""

/-- The reason of a deprecation behind a mark, where there is one and comments are wanted. -/
def deprecationText (comments : Bool) (reason : String) : String :=
  if reason ≠ "" && comments then "// Deprecated: " ++ reason ++ "\n" else ""

/-- The Go identifier that a field is stored under. -/
def storageName (fieldName : String) : String := identifierOf (Naming.uncapitalize fieldName)

/-- The name of the method that gives a field. -/
def accessorName (fieldName : String) : String := Naming.capitalize fieldName

/-- A struct field, or the method of an interface. -/
def declarationText (comments : Bool) (kind : TypeKind) (f : SchemaField) (goType : String) :
    String :=
  descriptionText comments (f.description?.getD "") ++
    deprecationText comments (f.deprecation?.getD "") ++
    (if kind = .interface then accessorName f.name ++ "() " ++ goType
      else storageName f.name ++ " " ++ goType) ++ "\n"

/-- The accessor of a struct field. -/
def accessorText (typeName fieldName goType : String) : String :=
  "\n// " ++ accessorName fieldName ++ " resolves " ++ typeName ++ "." ++ fieldName ++
    ".\nfunc (r *" ++ resolverName typeName ++ ") " ++ accessorName fieldName ++ "() " ++ goType ++
    " \x7b\n\treturn r." ++ storageName fieldName ++ "\n\x7d\n"

/-- What stands in a type for one of its fields: nothing for blanks, or else an indented block. -/
def memberText (declaration : String) : String :=
  if trimmedText declaration ≠ "" then indentedText (trimmedText declaration) ++ "\n" else ""

/-- What stands after a type for one of its methods. -/
def methodText (method : String) : String :=
  if trimmedText method ≠ "" then "\n" ++ trimmedText method ++ "\n" else ""

def importLine (imported : Json) : String := "\t" ++ imported.plain ++ "\n"

/-- The imports of a file, in parentheses. -/
def importText (imports : List Json) : String :=
  if imports ≠ [] then "\nimport (\n" ++ String.join (imports.map importLine) ++ ")\n" else ""

/-- The conversion of an interface to one of its possible types. -/
def conversionText (typeName possible : String) : String :=
  "\n// To" ++ possible ++ " returns the " ++ possible ++
    " behind the interface, if any.\nfunc (r *" ++ resolverName typeName ++ ") To" ++ possible ++
    "() (*" ++ resolverName possible ++ ", bool) \x7b\n\tc, ok := r." ++ typeName ++ ".(*" ++ resolverName possible ++
    ")\n\treturn c, ok\n\x7d\n"

/-- An interface, the struct that wraps it, and its conversions. -/
def interfaceText (comments : Bool) (t : SchemaType) (declarations : List String) : String :=
  "\n" ++ descriptionText comments (t.description?.getD "") ++ "type " ++ t.name ++
    " interface \x7b\n" ++ String.join (declarations.map memberText) ++ "\x7d\n\n// " ++
    resolverName t.name ++ " wraps a concrete " ++ t.name ++ " implementation.\ntype " ++
    resolverName t.name ++ " struct \x7b\n\t" ++ t.name ++ "\n\x7d\n" ++
    String.join (t.possibleNames.map (conversionText t.name))

/-- A scalar with its decoding. -/
def scalarText (comments : Bool) (t : SchemaType) : String :=
  "\n" ++ descriptionText comments (t.description?.getD "") ++ "type " ++ resolverName t.name ++
    (" struct \x7b\n\tvalue interface\x7b\x7d\n\x7d\n\n// ImplementsGraphQLType maps this " ++
      "Go type to the ") ++ t.name ++ " schema type.\nfunc (" ++ resolverName t.name ++
    ") ImplementsGraphQLType(name string) bool \x7b\n\treturn name == \"" ++ t.name ++
    "\"\n\x7d\n\n// UnmarshalGraphQL stores the input value unchanged.\nfunc (s *" ++
    resolverName t.name ++
    (") UnmarshalGraphQL(input interface\x7b\x7d) error \x7b\n\ts.value = input\n" ++
      "\treturn nil\n\x7d\n")

/-- A resolver struct and what stands after it. -/
def structText (comments : Bool) (t : SchemaType) (declarations methods : List String) : String :=
  "\n" ++ descriptionText comments (t.description?.getD "") ++ "type " ++ resolverName t.name ++
    " struct \x7b\n" ++ String.join (declarations.map memberText) ++ "\x7d\n" ++
    String.join (methods.map methodText)

/-- The file of a type around what was written for its fields. -/
def typeText (package : String) (comments : Bool) (t : SchemaType) (imports : List Json)
    (declarations methods : List String) : String :=
  "package " ++ package ++ "\n" ++ importText imports ++
    (if t.kind = .interface then interfaceText comments t declarations
      else if t.kind = .scalar then scalarText comments t
      else structText comments t declarations methods)

/-! ## Filters -/

/-- The filters in use are those for Go and the common ones. -/
def KnowsFilters (c : Surroundings) : Prop := c.filters = filters ++ commonFilters

section

variable {I : Sanitizer → Prop} (hc : KnowsFilters c)

include hc

theorem evaluates_capitalize (he : Evaluates I c names e (.str s)) :
    Evaluates I c names (.filter e "capitalize" [] []) (.str (Naming.capitalize s)) := by
  refine he.filter ?_ (settles_textFilter "capitalize" "capitalize" "value" Naming.capitalize s)
  rw [hc]
  rfl

theorem evaluates_uncapitalize (he : Evaluates I c names e (.str s)) :
    Evaluates I c names (.filter e "uncapitalize" [] []) (.str (Naming.uncapitalize s)) := by
  refine he.filter ?_
    (settles_textFilter "uncapitalize" "uncapitalize" "value" Naming.uncapitalize s)
  rw [hc]
  rfl

theorem evaluates_resolver (he : Evaluates I c names e (.str s)) :
    Evaluates I c names (.filter e "resolver" [] []) (.str (resolverName s)) := by
  refine he.filter ?_
    (settles_textFilter "resolver" "resolver_type_name" "type_name" resolverName s)
  rw [hc]
  rfl

theorem evaluates_comment (he : Evaluates I c names e (.str s)) :
    Evaluates I c names (.filter e "comment" [] []) (.str (commentText s)) := by
  have hf : findFilter? c.filters "comment" = some commentFilter := by
    rw [hc]
    rfl
  exact he.filter hf (settles_pure _)

theorem evaluates_trim (he : Evaluates I c names e (.str s)) :
    Evaluates I c names (.filter e "trim" [] []) (.str (trimmedText s)) := by
  have hf : findFilter? c.filters "trim" = some trimFilter := by
    rw [hc]
    rfl
  exact he.filter hf (settles_pure _)

theorem evaluates_indent (he : Evaluates I c names e (.str s)) :
    Evaluates I c names (.filter e "indent" [] [("tabs", .constant (.bool true))])
      (.str (indentedText s)) := by
  have hf : findFilter? c.filters "indent" = some indentFilter := by
    rw [hc]
    rfl
  exact he.filterNamed (Evaluates.constant _) hf (settles_pure _)

end

/-- The filter for identifiers asks the sanitizer, which answers faithfully. -/
theorem evaluates_identifier (hc : KnowsFilters c) (he : Evaluates Faithful c names e (.str s)) :
    Evaluates Faithful c names (.filter e "go_identifier" [] []) (.str (identifierOf s)) := by
  have hf : findFilter? c.filters "go_identifier" = some identifierFilter := by
    rw [hc]
    rfl
  refine he.filter hf ?_
  unfold Filter.apply
  refine (settles_ofExcept (a := [Value.str s]) rfl).bind ?_
  refine (settles_ofExcept (a := s) rfl).bind ?_
  exact (settles_identifier s).bind (settles_pure _)

/-! ## Conditions -/

theorem truth_ofJson (j : Json) : truth (.ofJson j) = .ok j.isGiven := by
  cases j with
  | arr items =>
    cases items with
    | nil => rfl
    | cons item rest => rfl
  | obj entries =>
    cases entries with
    | nil => rfl
    | cons entry rest => rfl
  | _ => rfl

theorem comparison_str (a b : String) :
    comparison .eq (.str a) (.str b) = .ok (decide (a = b)) := by
  simp [comparison, equal, Value.same]

theorem comparison_ne_str (a b : String) :
    comparison .ne (.str a) (.str b) = .ok (decide (a ≠ b)) := by
  simp [comparison, equal, Value.same, Except.map]

theorem label_eq_interface (kind : TypeKind) : kind.label = "INTERFACE" ↔ kind = .interface := by
  cases kind <;> decide

theorem label_eq_scalar (kind : TypeKind) : kind.label = "SCALAR" ↔ kind = .scalar := by
  cases kind <;> decide

/-- A condition on a text and the wish for comments. -/
theorem evaluates_isCommented {I : Sanitizer → Prop} {settings : Settings} {v : Value} {r : Bool}
    (hx : lookupName names x = v) (hv : truth v = .ok r)
    (hs : lookupName names "config" = settings.value) :
    ∃ w, Evaluates I c names (isCommented x) w ∧
      truth w = .ok (decide ((r && settings.addComments.isGiven) = true)) := by
  rw [Bool.decide_eq_true]
  cases r with
  | false => exact ⟨v, (Evaluates.name hx).and_of_false _ hv, hv⟩
  | true =>
    refine ⟨.ofJson settings.addComments, ?_, truth_ofJson _⟩
    exact (Evaluates.name hx).and_of_true hv ((Evaluates.name hs).attribute rfl)

/-- A description is written as its comment. -/
theorem Writes.description {I : Sanitizer → Prop} {settings : Settings} {d : String}
    (hc : KnowsFilters c) (hx : lookupName names x = .str d)
    (hs : lookupName names "config" = settings.value) (h : Writes I c names rest t) :
    Writes I c names (descriptionStmt x :: rest)
      (descriptionText settings.addComments.isGiven d ++ t) := by
  obtain ⟨w, hw, hr⟩ := evaluates_isCommented (I := I) (c := c) (r := d ≠ "") hx rfl hs
  have hcomment : Writes I c names [.output (filtered x "comment"), .text "\n"]
      (commentText d ++ ("\n" ++ "")) :=
    Writes.outputText (evaluates_comment hc (Evaluates.name hx)) (Writes.text _ Writes.nil)
  exact Writes.branch hw hr (fun _ => hcomment) (fun _ => Writes.nil) h

/-- The reason of a deprecation is written behind its mark. -/
theorem Writes.deprecation {I : Sanitizer → Prop} {settings : Settings} {reason? : Option String}
    (hx : lookupName names x = (reason?.map Value.str).getD .null)
    (hs : lookupName names "config" = settings.value) (h : Writes I c names rest t) :
    Writes I c names
      (.branch (isCommented x) [.text "// Deprecated: ", .output (.name x), .text "\n"] [] :: rest)
      (deprecationText settings.addComments.isGiven (reason?.getD "") ++ t) := by
  have hv : truth ((reason?.map Value.str).getD .null) = .ok (reason?.getD "" ≠ "") := by
    cases reason? with
    | none => rfl
    | some reason => rfl
  obtain ⟨w, hw, hr⟩ := evaluates_isCommented (I := I) (c := c) hx hv hs
  unfold deprecationText
  refine Writes.branch hw hr (fun hgiven => ?_) (fun _ => Writes.nil) h
  cases reason? with
  | none => simp at hgiven
  | some reason =>
    have hreason : Writes I c names [.output (.name x), .text "\n"] (reason ++ ("\n" ++ "")) :=
      Writes.outputText (Evaluates.name hx) (Writes.text _ Writes.nil)
    refine (Writes.text _ hreason).of_eq ?_
    rw [Option.getD_some, String.append_empty, String.append_assoc]

/-! ## Fields -/

/-- A name that opens in lower case, made an identifier. -/
theorem evaluates_storageOf (hc : KnowsFilters c) (hx : lookupName names x = .str s) :
    Evaluates Faithful c names (storageOf x) (.str (storageName s)) :=
  evaluates_identifier hc (evaluates_uncapitalize hc (Evaluates.name hx))

/-- What the packaged declaration template writes for a field. -/
theorem writes_fieldBody (hc : KnowsFilters c) (g : Generator) (f : SchemaField) (kind : TypeKind)
    (goType : String) (variant : Variant) :
    Writes Faithful c (g.declarationContext f kind goType variant) fieldBody
      (declarationText g.settings.addComments.isGiven kind f goType) := by
  have hkind : Evaluates Faithful c (g.declarationContext f kind goType variant)
      (.compare (.name "type_kind") [(.eq, .constant (.str "INTERFACE"))])
      (.bool (kind.label = "INTERFACE")) :=
    (Evaluates.name rfl).compare (Evaluates.constant _) (comparison_str _ _)
  have hlabel : truth (.bool (kind.label = "INTERFACE")) = .ok (decide (kind = .interface)) :=
    congrArg Except.ok (decide_eq_decide.mpr (label_eq_interface kind))
  have hname : Evaluates Faithful c (g.declarationContext f kind goType variant)
      (filtered "field_name" "capitalize") (.str (accessorName f.name)) :=
    evaluates_capitalize hc (Evaluates.name rfl)
  have htype : Writes Faithful c (g.declarationContext f kind goType variant)
      [.output (.name "field_type"), .text "\n"] (goType ++ ("\n" ++ "")) :=
    Writes.outputText (Evaluates.name rfl) (Writes.text _ Writes.nil)
  have hsignature : Writes Faithful c (g.declarationContext f kind goType variant) _ _ :=
    Writes.outputText hname (Writes.text "() " htype)
  have hstorage : Writes Faithful c (g.declarationContext f kind goType variant) _ _ :=
    Writes.outputText (evaluates_storageOf hc (x := "field_name") rfl) (Writes.text " " htype)
  refine (Writes.description hc rfl rfl (Writes.deprecation rfl rfl
    (Writes.branch hkind hlabel (fun _ => hsignature) (fun _ => hstorage) Writes.nil))).of_eq ?_
  unfold declarationText
  split <;> simp only [String.append_assoc, String.append_empty]

/-- What the packaged method template writes for a field: an accessor, but none in an interface. -/
theorem writes_methodBody (hc : KnowsFilters c) (g : Generator) (f : SchemaField)
    (owner : SchemaType) (goType : String) (variant : Variant) :
    Writes Faithful c (g.methodContext f owner goType variant) methodBody
      (if owner.kind ≠ .interface then accessorText owner.name f.name goType else "") := by
  have hkind : Evaluates Faithful c (g.methodContext f owner goType variant)
      (.compare (.name "type_kind") [(.ne, .constant (.str "INTERFACE"))])
      (.bool (owner.kind.label ≠ "INTERFACE")) :=
    (Evaluates.name rfl).compare (Evaluates.constant _) (comparison_ne_str _ _)
  have hlabel : truth (.bool (owner.kind.label ≠ "INTERFACE")) =
      .ok (decide (owner.kind ≠ .interface)) :=
    congrArg Except.ok (decide_eq_decide.mpr (not_congr (label_eq_interface owner.kind)))
  have hname : Evaluates Faithful c (g.methodContext f owner goType variant)
      (filtered "method_name" "capitalize") (.str (accessorName f.name)) :=
    evaluates_capitalize hc (Evaluates.name rfl)
  have hresolver : Evaluates Faithful c (g.methodContext f owner goType variant)
      (filtered "type_name" "resolver") (.str (resolverName owner.name)) :=
    evaluates_resolver hc (Evaluates.name rfl)
  have hreturn : Writes Faithful c (g.methodContext f owner goType variant) _ _ :=
    Writes.outputText (Evaluates.name (x := "method_return_type") rfl)
      (Writes.text " \x7b\n\treturn r."
        (Writes.outputText (evaluates_storageOf hc (x := "method_return") rfl)
          (Writes.text "\n\x7d\n" Writes.nil)))
  have hsignature : Writes Faithful c (g.methodContext f owner goType variant) _ _ :=
    Writes.text ".\nfunc (r *" (Writes.outputText hresolver (Writes.text ") "
      (Writes.outputText hname (Writes.text "() " hreturn))))
  have hcomment : Writes Faithful c (g.methodContext f owner goType variant) _ _ :=
    Writes.text "\n// " (Writes.outputText hname (Writes.text " resolves "
      (Writes.outputText (Evaluates.name (x := "type_name") rfl) (Writes.text "."
        (Writes.outputText (Evaluates.name (x := "method_name") rfl) hsignature)))))
  refine (Writes.branch hkind hlabel (fun _ => hcomment) (fun _ => Writes.nil)
    Writes.nil).of_eq ?_
  unfold accessorText
  simp only [String.append_assoc, String.append_empty]

/-! ## Types -/

/-- A text is not blank when something is left of it between its blanks. -/
theorem truth_trimmedText (s : String) :
    truth (.str (trimmedText s)) = .ok (decide (trimmedText s ≠ "")) := rfl

/-- The declarations are written as members, blank ones left out. -/
theorem Writes.declarations {I : Sanitizer → Prop} {l : List String} (hc : KnowsFilters c)
    (hx : lookupName names "fields" = Value.texts l) (h : Writes I c names rest t) :
    Writes I c names (declarationStmt :: rest) (String.join (l.map memberText) ++ t) := by
  refine Writes.loop (v := Value.str) (Evaluates.name hx) rfl ?_ h
  intro d _
  have hfield : lookupName (Table.put names "field" (.str d)) "field" = .str d := by
    unfold lookupName
    rw [Table.get?_put, if_pos rfl]
  have htrim : Evaluates I c (Table.put names "field" (.str d)) (trimmed "field")
      (.str (trimmedText d)) :=
    evaluates_trim hc (Evaluates.name hfield)
  have hblock : Writes I c (Table.put names "field" (.str d))
      [.output (.filter (trimmed "field") "indent" [] [("tabs", .constant (.bool true))]),
        .text "\n"] (indentedText (trimmedText d) ++ ("\n" ++ "")) :=
    Writes.outputText (evaluates_indent hc htrim) (Writes.text _ Writes.nil)
  exact (Writes.branch htrim (truth_trimmedText d) (fun _ => hblock) (fun _ => Writes.nil)
    Writes.nil).of_eq String.append_empty

/-- The methods are written without the blanks around them, blank ones left out. -/
theorem Writes.methods {I : Sanitizer → Prop} {l : List String} (hc : KnowsFilters c)
    (hx : lookupName names "methods" = Value.texts l) (h : Writes I c names rest t) :
    Writes I c names (methodStmt :: rest) (String.join (l.map methodText) ++ t) := by
  refine Writes.loop (v := Value.str) (Evaluates.name hx) rfl ?_ h
  intro m _
  have hmethod : lookupName (Table.put names "method" (.str m)) "method" = .str m := by
    unfold lookupName
    rw [Table.get?_put, if_pos rfl]
  have htrim : Evaluates I c (Table.put names "method" (.str m)) (trimmed "method")
      (.str (trimmedText m)) :=
    evaluates_trim hc (Evaluates.name hmethod)
  have hblock : Writes I c (Table.put names "method" (.str m))
      [.text "\n", .output (trimmed "method"), .text "\n"] ("\n" ++ trimmedText m ++ "\n") := by
    refine (Writes.text _ (Writes.outputText htrim (Writes.text _ Writes.nil))).of_eq ?_
    rw [String.append_empty, String.append_assoc]
  exact (Writes.branch htrim (truth_trimmedText m) (fun _ => hblock) (fun _ => Writes.nil)
    Writes.nil).of_eq String.append_empty

/-- The imports are written in parentheses, if there are any. -/
theorem Writes.imports {I : Sanitizer → Prop} {imports : List Json}
    (hx : lookupName names "imports" = .list (imports.map Value.ofJson))
    (htexts : ∀ j ∈ imports, textOf (.ofJson j) = .ok j.plain) (h : Writes I c names rest t) :
    Writes I c names (importStmt :: rest) (importText imports ++ t) := by
  have htruth : truth (.list (imports.map Value.ofJson)) = .ok (decide (imports ≠ [])) := by
    cases imports with
    | nil => rfl
    | cons j js => rfl
  have hlines : Writes I c names _ _ :=
    Writes.loop (v := Value.ofJson) (x := "imp") (f := importLine)
      (b := [.text "\t", .output (.name "imp"), .text "\n"]) (Evaluates.name hx)
      rfl (fun i hi => by
        have himp : lookupName (Table.put names "imp" (.ofJson i)) "imp" = .ofJson i := by
          unfold lookupName
          rw [Table.get?_put, if_pos rfl]
        have hline : Writes I c (Table.put names "imp" (.ofJson i))
            [.output (.name "imp"), .text "\n"] (i.plain ++ ("\n" ++ "")) :=
          Writes.output (Evaluates.name himp) (htexts i hi) (Writes.text _ Writes.nil)
        refine (Writes.text _ hline).of_eq ?_
        simp only [importLine, String.append_assoc, String.append_empty])
      (Writes.text ")\n" Writes.nil)
  refine (Writes.branch (Evaluates.name hx) htruth (fun _ => Writes.text "\nimport (\n" hlines)
    (fun _ => Writes.nil) h).of_eq ?_
  unfold importText
  simp only [String.append_assoc, String.append_empty]

/-- The conversions are written one for each possible type. -/
theorem Writes.conversions {I : Sanitizer → Prop} {typeName : String} {l : List String}
    (hc : KnowsFilters c) (hname : lookupName names "type_name" = .str typeName)
    (hx : lookupName names "possible_types" = Value.texts l) (h : Writes I c names rest t) :
    Writes I c names (conversionStmt :: rest)
      (String.join (l.map (conversionText typeName)) ++ t) := by
  refine Writes.loop (v := Value.str) (Evaluates.name hx) rfl ?_ h
  intro p _
  have hpossible : Evaluates I c (Table.put names "possible" (.str p)) (.name "possible")
      (.str p) := by
    apply Evaluates.name
    unfold lookupName
    rw [Table.get?_put, if_pos rfl]
  have htype : Evaluates I c (Table.put names "possible" (.str p)) (.name "type_name")
      (.str typeName) := by
    apply Evaluates.name
    unfold lookupName at hname ⊢
    rw [Table.get?_put, if_neg (by decide)]
    exact hname
  have hresolver := evaluates_resolver hc htype
  have hpossibleResolver := evaluates_resolver hc hpossible
  have hbody : Writes I c (Table.put names "possible" (.str p)) _ _ :=
    Writes.text ", bool) \x7b\n\tc, ok := r." (Writes.outputText htype (Writes.text ".(*"
      (Writes.outputText hpossibleResolver (Writes.text ")\n\treturn c, ok\n\x7d\n" Writes.nil))))
  have hsignature : Writes I c (Table.put names "possible" (.str p)) _ _ :=
    Writes.text " behind the interface, if any.\nfunc (r *" (Writes.outputText hresolver
      (Writes.text ") To" (Writes.outputText hpossible (Writes.text "() (*"
        (Writes.outputText hpossibleResolver hbody)))))
  refine (Writes.text "\n// To" (Writes.outputText hpossible (Writes.text " returns the "
    (Writes.outputText hpossible hsignature)))).of_eq ?_
  unfold conversionText
  simp only [String.append_assoc, String.append_empty]

section

variable (hc : KnowsFilters c) (g : Generator) (ty : SchemaType)
  (fields : List Generator.RenderedField) (variant : Variant)

include hc

theorem writes_interfaceBody :
    Writes Faithful c (g.typeContext ty fields variant) interfaceBody
      (interfaceText g.settings.addComments.isGiven ty (fields.map (·.declaration))) := by
  have hname : Evaluates Faithful c (g.typeContext ty fields variant) (.name "type_name")
      (.str ty.name) := Evaluates.name rfl
  have hresolver : Evaluates Faithful c (g.typeContext ty fields variant)
      (filtered "type_name" "resolver") (.str (resolverName ty.name)) := evaluates_resolver hc hname
  have hwrapper : Writes Faithful c (g.typeContext ty fields variant) _ _ :=
    Writes.outputText hresolver (Writes.text " wraps a concrete " (Writes.outputText hname
      (Writes.text " implementation.\ntype " (Writes.outputText hresolver
        (Writes.text " struct \x7b\n\t" (Writes.outputText hname (Writes.text "\n\x7d\n"
          (Writes.conversions (l := ty.possibleNames) hc rfl rfl Writes.nil))))))))
  have hmembers : Writes Faithful c (g.typeContext ty fields variant) _ _ :=
    Writes.text " interface \x7b\n" (Writes.declarations (l := fields.map (·.declaration))
      hc rfl (Writes.text "\x7d\n\n// " hwrapper))
  refine (Writes.text "\n" (Writes.description (d := ty.description?.getD "") hc rfl rfl
    (Writes.text "type " (Writes.outputText hname hmembers)))).of_eq ?_
  unfold interfaceText
  simp only [String.append_assoc, String.append_empty]

theorem writes_structBody :
    Writes Faithful c (g.typeContext ty fields variant) structBody
      (structText g.settings.addComments.isGiven ty (fields.map (·.declaration))
        (fields.map (·.method))) := by
  have hresolver : Evaluates Faithful c (g.typeContext ty fields variant)
      (filtered "type_name" "resolver") (.str (resolverName ty.name)) :=
    evaluates_resolver hc (Evaluates.name rfl)
  have hmembers : Writes Faithful c (g.typeContext ty fields variant) _ _ :=
    Writes.text " struct \x7b\n" (Writes.declarations (l := fields.map (·.declaration))
      hc rfl (Writes.text "\x7d\n" (Writes.methods (l := fields.map (·.method)) hc rfl
        Writes.nil)))
  refine (Writes.text "\n" (Writes.description (d := ty.description?.getD "") hc rfl rfl
    (Writes.text "type " (Writes.outputText hresolver hmembers)))).of_eq ?_
  unfold structText
  simp only [String.append_assoc, String.append_empty]

theorem writes_scalarBody :
    Writes Faithful c (g.typeContext ty fields variant) scalarBody
      (scalarText g.settings.addComments.isGiven ty) := by
  have hname : Evaluates Faithful c (g.typeContext ty fields variant) (.name "type_name")
      (.str ty.name) := Evaluates.name rfl
  have hresolver : Evaluates Faithful c (g.typeContext ty fields variant)
      (filtered "type_name" "resolver") (.str (resolverName ty.name)) := evaluates_resolver hc hname
  refine Writes.of_eq (Writes.text _ (Writes.description (d := ty.description?.getD "") hc rfl rfl
    (Writes.text _ (Writes.outputText hresolver (Writes.text _ (Writes.outputText hname
      (Writes.text _ (Writes.outputText hresolver (Writes.text _ (Writes.outputText hname
        (Writes.text _ (Writes.outputText hresolver (Writes.text _ Writes.nil))))))))))))) ?_
  unfold scalarText
  simp only [String.append_assoc, String.append_empty]

/-- What the packaged type template writes around what was written for the fields. -/
theorem writes_typeBody {package : String}
    (hpackage : textOf (.ofJson g.settings.packageName) = .ok package)
    (himports : ∀ j ∈ Generator.distinctImports (fields.flatMap (·.imports)),
      textOf (.ofJson j) = .ok j.plain) :
    Writes Faithful c (g.typeContext ty fields variant) typeBody
      (typeText package g.settings.addComments.isGiven ty
        (Generator.distinctImports (fields.flatMap (·.imports))) (fields.map (·.declaration))
        (fields.map (·.method))) := by
  have hkind (label : String) : Evaluates Faithful c (g.typeContext ty fields variant)
      (.compare (.name "kind") [(.eq, .constant (.str label))]) (.bool (ty.kind.label = label)) :=
    (Evaluates.name rfl).compare (Evaluates.constant _) (comparison_str _ _)
  have hinterface : truth (.bool (ty.kind.label = "INTERFACE")) =
      .ok (decide (ty.kind = .interface)) :=
    congrArg Except.ok (decide_eq_decide.mpr (label_eq_interface ty.kind))
  have hscalar : truth (.bool (ty.kind.label = "SCALAR")) = .ok (decide (ty.kind = .scalar)) :=
    congrArg Except.ok (decide_eq_decide.mpr (label_eq_scalar ty.kind))
  have hbody := Writes.branch (hkind "INTERFACE") hinterface
    (fun _ => writes_interfaceBody hc g ty fields variant)
    (fun _ => Writes.branch (hkind "SCALAR") hscalar
      (fun _ => writes_scalarBody hc g ty fields variant)
      (fun _ => writes_structBody hc g ty fields variant) Writes.nil) Writes.nil
  have hconfig : Evaluates Faithful c (g.typeContext ty fields variant)
      (.attribute (.name "config") "package_name") (.ofJson g.settings.packageName) :=
    (Evaluates.name rfl).attribute rfl
  refine (Writes.text "package " (Writes.output hconfig hpackage (Writes.text "\n"
    (Writes.imports rfl himports hbody)))).of_eq ?_
  unfold typeText
  simp only [String.append_assoc, String.append_empty]

end

end ResolverGen.Go
