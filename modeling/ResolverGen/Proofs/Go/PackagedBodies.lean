import ResolverGen.Go.Generator
import ResolverGen.Proofs.Template.SyntaxEquality

/-!
# What the packaged templates are read as

The statements of the templates for resolver types, struct fields and accessors. That a template is
read as its statements is checked by evaluation.
-/
namespace ResolverGen.Go

open Template

/-! ## Statements -/

/-- A name put through a filter. -/
def filtered (x filter : String) : Expr := .filter (.name x) filter [] []

/-- A text without the blanks around it, written on a line of its own where it is not empty. -/
def trimmed (x : String) : Expr := filtered x "trim"

/-- Whether a description is given and comments are wanted. -/
def isCommented (description : String) : Expr :=
  .and (.name description) (.attribute (.name "config") "add_comments")

/-- The Go identifier of a name that opens in lower case. -/
def storageOf (x : String) : Expr := .filter (filtered x "uncapitalize") "go_identifier" [] []

/-- A description as comment lines. -/
def descriptionStmt (description : String) : Stmt :=
  .branch (isCommented description) [.output (filtered description "comment"), .text "\n"] []

def fieldBody : List Stmt :=
  [descriptionStmt "field_description",
    .branch (isCommented "field_deprecated")
      [.text "// Deprecated: ", .output (.name "field_deprecated"), .text "\n"] [],
    .branch (.compare (.name "type_kind") [(.eq, .constant (.str "INTERFACE"))])
      [.output (filtered "field_name" "capitalize"), .text "() ", .output (.name "field_type"),
        .text "\n"]
      [.output (storageOf "field_name"), .text " ", .output (.name "field_type"), .text "\n"]]

def methodBody : List Stmt :=
  [.branch (.compare (.name "type_kind") [(.ne, .constant (.str "INTERFACE"))])
    [.text "\n// ", .output (filtered "method_name" "capitalize"), .text " resolves ",
      .output (.name "type_name"), .text ".", .output (.name "method_name"),
      .text ".\nfunc (r *", .output (filtered "type_name" "resolver"), .text ") ",
      .output (filtered "method_name" "capitalize"), .text "() ",
      .output (.name "method_return_type"), .text " \x7b\n\treturn r.",
      .output (storageOf "method_return"), .text "\n\x7d\n"]
    []]

/-- A setter declares nothing. -/
def setterMethodBody : List Stmt :=
  [.branch (.compare (.name "type_kind") [(.ne, .constant (.str "INTERFACE"))])
    [.text "\n// Set", .output (filtered "method_name" "capitalize"),
      .text " replaces the value returned by ", .output (filtered "method_name" "capitalize"),
      .text ".\nfunc (r *", .output (filtered "type_name" "resolver"), .text ") Set",
      .output (filtered "method_name" "capitalize"), .text "(value ",
      .output (.name "method_return_type"), .text ") \x7b\n\tr.",
      .output (storageOf "method_return"), .text " = value\n\x7d\n"]
    []]

def importStmt : Stmt :=
  .branch (.name "imports")
    [.text "\nimport (\n",
      .loop (.name "imp") (.name "imports") none [.text "\t", .output (.name "imp"), .text "\n"] [],
      .text ")\n"]
    []

/-- The declarations of the fields, each moved in. -/
def declarationStmt : Stmt :=
  .loop (.name "field") (.name "fields") none
    [.branch (trimmed "field")
      [.output (.filter (trimmed "field") "indent" [] [("tabs", .constant (.bool true))]),
        .text "\n"]
      []]
    []

def conversionStmt : Stmt :=
  .loop (.name "possible") (.name "possible_types") none
    [.text "\n// To", .output (.name "possible"), .text " returns the ", .output (.name "possible"),
      .text " behind the interface, if any.\nfunc (r *", .output (filtered "type_name" "resolver"),
      .text ") To", .output (.name "possible"), .text "() (*",
      .output (filtered "possible" "resolver"), .text ", bool) \x7b\n\tc, ok := r.",
      .output (.name "type_name"), .text ".(*", .output (filtered "possible" "resolver"),
      .text ")\n\treturn c, ok\n\x7d\n"]
    []

def methodStmt : Stmt :=
  .loop (.name "method") (.name "methods") none
    [.branch (trimmed "method") [.text "\n", .output (trimmed "method"), .text "\n"] []] []

def interfaceBody : List Stmt :=
  [.text "\n", descriptionStmt "type_description", .text "type ", .output (.name "type_name"),
    .text " interface \x7b\n", declarationStmt, .text "\x7d\n\n// ",
    .output (filtered "type_name" "resolver"), .text " wraps a concrete ",
    .output (.name "type_name"), .text " implementation.\ntype ",
    .output (filtered "type_name" "resolver"), .text " struct \x7b\n\t",
    .output (.name "type_name"), .text "\n\x7d\n", conversionStmt]

def scalarBody : List Stmt :=
  [.text "\n", descriptionStmt "type_description", .text "type ",
    .output (filtered "type_name" "resolver"),
    .text (" struct \x7b\n\tvalue interface\x7b\x7d\n\x7d\n\n// ImplementsGraphQLType maps this " ++
      "Go type to the "),
    .output (.name "type_name"), .text " schema type.\nfunc (",
    .output (filtered "type_name" "resolver"),
    .text ") ImplementsGraphQLType(name string) bool \x7b\n\treturn name == \"",
    .output (.name "type_name"),
    .text "\"\n\x7d\n\n// UnmarshalGraphQL stores the input value unchanged.\nfunc (s *",
    .output (filtered "type_name" "resolver"),
    .text (") UnmarshalGraphQL(input interface\x7b\x7d) error \x7b\n\ts.value = input\n" ++
      "\treturn nil\n\x7d\n")]

def structBody : List Stmt :=
  [.text "\n", descriptionStmt "type_description", .text "type ",
    .output (filtered "type_name" "resolver"), .text " struct \x7b\n", declarationStmt,
    .text "\x7d\n", methodStmt]

def typeBody : List Stmt :=
  [.text "package ", .output (.attribute (.name "config") "package_name"), .text "\n", importStmt,
    .branch (.compare (.name "kind") [(.eq, .constant (.str "INTERFACE"))]) interfaceBody
      [.branch (.compare (.name "kind") [(.eq, .constant (.str "SCALAR"))]) scalarBody structBody]]

/-- The name of the function that makes a resolver: the one given, or else one of its own. -/
def constructorNameExpr : Expr :=
  .or (.call (.attribute (.name "template_config") "get") [.constant (.str "name")] [])
    (.concat [.constant (.str "New"), filtered "type_name" "resolver"])

def constructorBody : List Stmt :=
  [.assign (.name "func_name") constructorNameExpr, .text "\n// ", .output (.name "func_name"),
    .text " returns an empty ", .output (filtered "type_name" "resolver"), .text ".\nfunc ",
    .output (.name "func_name"), .text "() *", .output (filtered "type_name" "resolver"),
    .text " \x7b\n\treturn &", .output (filtered "type_name" "resolver"),
    .text "\x7b\x7d\n\x7d\n"]

/-! ## Reading -/

/-- The filters and tests that templates for Go know. -/
def vocabulary : Vocabulary where
  hasFilter name := (findFilter? (filters ++ commonFilters) name).isSome
  hasTest name := (findTest? name).isSome

theorem vocabulary_of_filters {e : Engine} (h : e.ownFilters = filters) :
    e.vocabulary = vocabulary := by
  unfold Engine.vocabulary Engine.filters
  rw [h]
  rfl

theorem toList_trimBody_of {source : String} {cs : List Char} (h : source.toList = cs) :
    (TemplateStore.trimBody source).toList = Text.trim (fun c => c = ' ' || c = '\t') cs := by
  rw [TemplateStore.trimBody, Text.toList_onChars, h]

theorem compile_source {e : Engine} (h : e.ownFilters = filters) {source : String}
    {cs : List Char} {body : List Stmt} (hs : source.toList = cs)
    (hread : readsAs vocabulary cs body = true) : e.compile source = .ok body :=
  compile_of_readsAs hs (by rw [vocabulary_of_filters h]; exact hread)

/-- An engine that reads the packaged templates as the bodies above. A method template may also be
found as a declaration, and is trimmed then. -/
structure ReadsPackaged (e : Engine) : Prop where
  ofType : e.compile (TemplateStore.trimBody typeDefault) = .ok typeBody
  ofConstructor : e.compile (TemplateStore.trimBody typeConstructor) = .ok constructorBody
  ofField : e.compile (TemplateStore.trimBody fieldDefault) = .ok fieldBody
  ofSetter : e.compile (TemplateStore.trimBody fieldSetter) = .ok []
  ofMethod : e.compile fieldDefaultMethod = .ok methodBody
  ofSetterMethod : e.compile fieldSetterMethod = .ok setterMethodBody
  ofTrimmedMethod : e.compile (TemplateStore.trimBody fieldDefaultMethod) = .ok methodBody
  ofTrimmedSetterMethod :
    e.compile (TemplateStore.trimBody fieldSetterMethod) = .ok setterMethodBody

-- One proof for all readings: the kernel takes them one by one, and a proof that waits for it keeps
-- a thread.
theorem readsPackaged {e : Engine} (h : e.ownFilters = filters) : ReadsPackaged e where
  ofType := by
    apply compile_source h
    · apply toList_trimBody_of
      unfold typeDefault
      apply toList_of_before
      repeat' first | with_reducible apply toList_append_before | exact toList_ofList_before _ _
    · decide +kernel
  ofConstructor := by
    apply compile_source h
    · apply toList_trimBody_of
      unfold typeConstructor
      apply toList_of_before
      repeat' first | with_reducible apply toList_append_before | exact toList_ofList_before _ _
    · decide +kernel
  ofField := by
    apply compile_source h
    · apply toList_trimBody_of
      unfold fieldDefault
      apply toList_of_before
      repeat' first | with_reducible apply toList_append_before | exact toList_ofList_before _ _
    · decide +kernel
  ofSetter := by
    apply compile_source h
    · apply toList_trimBody_of
      unfold fieldSetter
      exact String.toList_ofList
    · decide +kernel
  ofMethod := by
    apply compile_source h
    · unfold fieldDefaultMethod
      apply toList_of_before
      repeat' first | with_reducible apply toList_append_before | exact toList_ofList_before _ _
    · decide +kernel
  ofSetterMethod := by
    apply compile_source h
    · unfold fieldSetterMethod
      apply toList_of_before
      repeat' first | with_reducible apply toList_append_before | exact toList_ofList_before _ _
    · decide +kernel
  ofTrimmedMethod := by
    apply compile_source h
    · apply toList_trimBody_of
      unfold fieldDefaultMethod
      apply toList_of_before
      repeat' first | with_reducible apply toList_append_before | exact toList_ofList_before _ _
    · decide +kernel
  ofTrimmedSetterMethod := by
    apply compile_source h
    · apply toList_trimBody_of
      unfold fieldSetterMethod
      apply toList_of_before
      repeat' first | with_reducible apply toList_append_before | exact toList_ofList_before _ _
    · decide +kernel

def packagedBodies : List (List Stmt) :=
  [typeBody, constructorBody, fieldBody, methodBody, [], setterMethodBody]

/-- Each packaged template, trimmed as those of types and declarations are, is one of these. -/
theorem mem_packagedBodies {e : Engine} (he : e.ownFilters = filters) {entry : String × String}
    (h : entry ∈ packagedTemplates) {body : List Stmt}
    (hbody : e.compile (TemplateStore.trimBody entry.2) = .ok body) : body ∈ packagedBodies := by
  have hread {b : List Stmt} (hb : e.compile (TemplateStore.trimBody entry.2) = .ok b) : body = b :=
    Except.ok.inj (hbody.symm.trans hb)
  have hreads := readsPackaged he
  unfold packagedTemplates at h
  simp only [List.mem_cons, List.not_mem_nil, or_false] at h
  rcases h with rfl | rfl | rfl | rfl | rfl | rfl
  · simp [packagedBodies, hread hreads.ofType]
  · simp [packagedBodies, hread hreads.ofConstructor]
  · simp [packagedBodies, hread hreads.ofField]
  · simp [packagedBodies, hread hreads.ofTrimmedMethod]
  · simp [packagedBodies, hread hreads.ofSetter]
  · simp [packagedBodies, hread hreads.ofTrimmedSetterMethod]

end ResolverGen.Go
