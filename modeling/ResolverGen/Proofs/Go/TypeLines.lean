import ResolverGen.Proofs.Go.CommentLines
import ResolverGen.Proofs.Go.DefaultRendering
import ResolverGen.Proofs.Go.InterfaceFile
import ResolverGen.Proofs.Go.ObjectFile

/-!
# Lines that declare types

Of all lines that the default templates write only those that declare types open in the letter of
their keyword, if nothing configured holds a newline: the fields of a struct are moved in, and
comments, methods, imports and braces open otherwise. So the lines of a file that declare types can
be told from the type, whatever the formatter does to blanks.
-/
namespace ResolverGen.Go

open Text Formatter Go.Generator

/-! ## Texts by their lines -/

/-- Whether a line declares a type. -/
def isTypeLine (l : List Char) : Bool := "type ".toList.isPrefixOf l

/-- The lines of a text that declare types. -/
def typeLines (text : String) : List (List Char) := (lines text.toList).filter isTypeLine

/-- Whether a line opens in the letter of the keyword. -/
def opensInT (l : List Char) : Bool := l.head? == some 't'

/-- A text is made of lines, and those of them that open in the letter of the keyword are given. -/
def Declares (s : List Char) (heads : List (List Char)) : Prop :=
  ∃ rows, (∀ r ∈ rows, '\n' ∉ r) ∧ s = ended rows ∧ rows.filter opensInT = heads

variable {s s' : List Char} {heads heads' : List (List Char)}

theorem declares_nil : Declares [] [] := ⟨[], by simp, rfl, rfl⟩

/-- Lines that open otherwise declare nothing. -/
theorem declares_ended_nil {rows : List (List Char)}
    (h : ∀ r ∈ rows, '\n' ∉ r ∧ opensInT r = false) : Declares (ended rows) [] := by
  refine ⟨rows, fun r hr => (h r hr).1, rfl, ?_⟩
  rw [List.filter_eq_nil_iff]
  intro r hr
  simp [(h r hr).2]

theorem Declares.append (h : Declares s heads) (h' : Declares s' heads') :
    Declares (s ++ s') (heads ++ heads') := by
  obtain ⟨rows, hnewline, rfl, rfl⟩ := h
  obtain ⟨rows', hnewline', rfl, rfl⟩ := h'
  refine ⟨rows ++ rows', ?_, by rw [ended_append], by rw [List.filter_append]⟩
  intro r hr
  rcases List.mem_append.mp hr with hr | hr
  · exact hnewline r hr
  · exact hnewline' r hr

theorem declares_join {α : Type} {text : α → String} {heads : α → List (List Char)} :
    ∀ {xs : List α}, (∀ x ∈ xs, Declares (text x).toList (heads x)) →
      Declares (String.join (xs.map text)).toList (xs.flatMap heads)
  | [], _ => declares_nil
  | x :: xs, h => by
    rw [List.map_cons, String.join_cons, String.toList_append, List.flatMap_cons]
    refine (h x List.mem_cons_self).append (declares_join fun y hy => ?_)
    exact h y (List.mem_cons_of_mem x hy)

theorem declares_join_nil {α : Type} {text : α → String} {xs : List α}
    (h : ∀ x ∈ xs, Declares (text x).toList []) :
    Declares (String.join (xs.map text)).toList [] := by
  have hjoin : Declares (String.join (xs.map text)).toList (xs.flatMap fun _ => []) :=
    declares_join h
  rwa [List.flatMap_eq_nil_iff.mpr fun x _ => rfl] at hjoin

/-! ## Formatting -/

theorem opensInT_of_isTypeLine {l : List Char} (h : isTypeLine l = true) : opensInT l = true := by
  unfold isTypeLine at h
  rw [List.isPrefixOf_iff_prefix] at h
  obtain ⟨rest, rfl⟩ := h
  rfl

theorem filter_isTypeLine (rows : List (List Char)) :
    rows.filter isTypeLine = (rows.filter opensInT).filter isTypeLine := by
  rw [List.filter_filter]
  refine List.filter_congr fun l _ => ?_
  cases h : isTypeLine l with
  | true => rw [opensInT_of_isTypeLine h]; rfl
  | false => rfl

/-- Trimming at the end does not change how a line opens. -/
theorem opensInT_stripRight (l : List Char) : opensInT (stripRight l) = opensInT l := by
  cases l with
  | nil => rfl
  | cons c l =>
    by_cases hc : isBlank c = true
    · have hne : c ≠ 't' := by
        rintro rfl
        exact absurd hc (by decide)
      by_cases hrest : stripRight (c :: l) = []
      · rw [hrest]
        simp [opensInT, hne]
      · have hlist : ∃ d rest, stripRight (c :: l) = d :: rest := List.exists_cons_of_ne_nil hrest
        obtain ⟨d, rest, hd⟩ := hlist
        obtain ⟨blanks, _, hsplit⟩ := exists_eq_stripRight_append (c :: l)
        rw [hd] at hsplit ⊢
        obtain ⟨rfl, _⟩ := List.cons.inj hsplit
        rfl
    · rw [stripRight_cons (by simpa using hc)]
      rfl

/-- Formatting leaves the lines that declare types, if none of them ends in blanks. -/
theorem typeLines_format {formatter : Formatter} (hformatter : TidiesOnly formatter)
    {programs : Programs} {code out : String} (h : Declares code.toList heads)
    (hsolid : ∀ l ∈ heads, IsSolid l ∧ isTypeLine l = true)
    (hformat : formatter.format programs code = .ok out) : typeLines out = heads := by
  obtain ⟨rows, hnewline, hcode, hheads⟩ := h
  have hlines : lines code.toList = rows ++ [[]] := by
    rw [hcode]
    exact lines_ended hnewline
  have hopens : (lines out.toList).filter opensInT = heads := by
    rcases hformatter with rfl | rfl
    · obtain rfl := Except.ok.inj hformat
      rw [hlines, List.filter_append, hheads]
      exact List.append_nil heads
    · obtain rfl := Except.ok.inj hformat
      have hmap : ((lines code.toList).map stripRight).filter opensInT =
          ((lines code.toList).filter opensInT).map stripRight := by
        rw [List.filter_map]
        congr 1
        exact List.filter_congr fun l _ => opensInT_stripRight l
      rw [toList_onChars, filter_lines_tidyChars rfl, hmap, hlines, List.filter_append, hheads,
        List.map_append]
      have hkeep : heads.map stripRight = heads :=
        (List.map_congr_left (g := id) fun l hl => (hsolid l hl).1.1).trans (List.map_id heads)
      rw [hkeep]
      exact List.append_nil heads
  unfold typeLines
  rw [filter_isTypeLine, hopens, List.filter_eq_self]
  exact fun l hl => (hsolid l hl).2

/-! ## Members and methods -/

theorem opensInT_movedIn (l : List Char) : opensInT (movedIn l) = false := by
  unfold movedIn
  split
  · rename_i hblank
    rw [List.isEmpty_iff, strip_eq_nil_iff, stripRight_eq_nil_iff] at hblank
    cases l with
    | nil => rfl
    | cons c rest =>
      have hne : c ≠ 't' := by
        rintro rfl
        exact absurd (hblank 't' List.mem_cons_self) (by decide)
      simp [opensInT, hne]
  · rfl

/-- A member declares no type, whatever was written for it: its lines are moved in. -/
theorem declares_memberText (d : String) : Declares (memberText d).toList [] := by
  unfold memberText
  split
  · have hlines : (indentedText (trimmedText d) ++ "\n").toList =
        ended ((lines (trimmedText d).toList).map movedIn) := by
      unfold indentedText
      rw [String.toList_append, toList_onChars]
      unfold Template.indentChars
      exact unlines_append_newline (by simp [splitAt_ne_nil, lines])
    rw [hlines]
    refine declares_ended_nil fun r hr => ?_
    obtain ⟨l, hl, rfl⟩ := List.mem_map.mp hr
    exact ⟨not_mem_movedIn (not_mem_of_mem_lines hl), opensInT_movedIn l⟩
  · exact declares_nil

theorem declares_descriptionText (comments : Bool) (d : String) :
    Declares (descriptionText comments d).toList [] := by
  rw [toList_descriptionText]
  refine declares_ended_nil fun r hr => ⟨not_mem_of_mem_descriptionLines hr, ?_⟩
  obtain ⟨rest, rfl, _⟩ := mem_descriptionLines hr
  rfl

theorem declares_importText {imports : List Json} (h : ∀ j ∈ imports, '\n' ∉ j.plain.toList) :
    Declares (importText imports).toList [] := by
  rw [toList_importText]
  refine declares_ended_nil fun r hr => ?_
  unfold importLines at hr
  split at hr
  · simp only [List.mem_cons, List.mem_append, List.mem_map, List.not_mem_nil, or_false] at hr
    rcases hr with rfl | rfl | ⟨j, hj, rfl⟩ | rfl
    · decide
    · decide
    · exact ⟨by simpa using h j hj, rfl⟩
    · decide
  · cases hr

variable {typeName fieldName goType : String}

theorem declares_methodText (htype : '\n' ∉ typeName.toList) (hn : IsSchemaName fieldName)
    (hgo : '\n' ∉ goType.toList) (variants : List Variant) :
    Declares (methodText (accessorsText typeName fieldName goType variants)).toList [] := by
  rw [methodText_accessorsText, toList_accessorsText]
  refine declares_ended_nil fun r hr => ?_
  obtain ⟨_, _, hr⟩ := List.mem_flatMap.mp hr
  rcases List.mem_cons.mp hr with rfl | hr
  · decide
  rcases List.mem_append.mp hr with hr | hr
  · refine ⟨not_mem_accessorLines htype hn hgo hr, ?_⟩
    unfold accessorLines accessorComment accessorSignature accessorReturn at hr
    simp only [List.mem_cons, List.not_mem_nil, or_false, String.toList_append,
      List.append_assoc] at hr
    rcases hr with rfl | rfl | rfl
    · rfl
    · rfl
    · rfl
  · rw [List.mem_singleton.mp hr]
    decide

/-! ## Types -/

/-- The line that opens a Go interface. -/
def interfaceLine (typeName : String) : List Char :=
  ("type " ++ typeName ++ " interface \x7b").toList

/-- The line that opens a resolver struct. -/
def structLine (typeName : String) : List Char :=
  ("type " ++ resolverName typeName ++ " struct \x7b").toList

/-- The lines that declare types in the file of a type: an interface has a struct beside. -/
def typeHeads (t : SchemaType) : List (List Char) :=
  if t.kind = .interface then [interfaceLine t.name, structLine t.name] else [structLine t.name]

theorem isTypeLine_append (word rest : String) :
    isTypeLine ("type " ++ word ++ rest).toList = true := by
  rw [String.toList_append, String.toList_append, List.append_assoc]
  rfl

theorem isTypeLine_structLine (typeName : String) : isTypeLine (structLine typeName) = true :=
  isTypeLine_append _ _

theorem isTypeLine_interfaceLine (typeName : String) :
    isTypeLine (interfaceLine typeName) = true :=
  isTypeLine_append _ _

theorem isSolid_typeHeads {t : SchemaType} {l : List Char} (h : l ∈ typeHeads t) :
    IsSolid l ∧ isTypeLine l = true := by
  have hbrace {rest : String} (h : rest.toList.getLast? = some '\x7b') (word : String) :
      IsSolid ("type " ++ word ++ rest).toList :=
    isSolid_toList_append _ (isSolid_of_getLast h (by decide))
  have hstruct : IsSolid (structLine t.name) ∧ isTypeLine (structLine t.name) = true :=
    ⟨hbrace rfl _, isTypeLine_structLine _⟩
  unfold typeHeads at h
  split at h
  · rcases List.mem_cons.mp h with rfl | h
    · exact ⟨hbrace rfl _, isTypeLine_interfaceLine _⟩
    · rwa [List.mem_singleton.mp h]
  · rwa [List.mem_singleton.mp h]

/-- The lines of a scalar behind the one that opens its struct. -/
def scalarLines (typeName : String) : List (List Char) :=
  ["\tvalue interface\x7b\x7d".toList, ['\x7d'], [],
    ("// ImplementsGraphQLType maps this Go type to the " ++ typeName ++ " schema type.").toList,
    ("func (" ++ resolverName typeName ++ ") ImplementsGraphQLType(name string) bool \x7b").toList,
    ("\treturn name == \"" ++ typeName ++ "\"").toList, ['\x7d'], [],
    "// UnmarshalGraphQL stores the input value unchanged.".toList,
    ("func (s *" ++ resolverName typeName ++
      ") UnmarshalGraphQL(input interface\x7b\x7d) error \x7b").toList,
    "\ts.value = input".toList, "\treturn nil".toList, ['\x7d']]

variable {t : SchemaType} {comments : Bool} {declarations methods : List String}

theorem declares_typeLine {word rest : String} (h : '\n' ∉ word.toList)
    (hrest : '\n' ∉ rest.toList) :
    Declares (ended [("type " ++ word ++ rest).toList]) [("type " ++ word ++ rest).toList] := by
  refine ⟨[("type " ++ word ++ rest).toList], ?_, rfl, ?_⟩
  · intro r hr
    rw [List.mem_singleton.mp hr]
    simp [h, hrest]
  · have hopens := opensInT_of_isTypeLine (isTypeLine_append word rest)
    rw [List.filter_cons_of_pos hopens, List.filter_nil]

theorem declares_structLine (h : '\n' ∉ typeName.toList) :
    Declares (ended [structLine typeName]) [structLine typeName] := by
  refine declares_typeLine ?_ (by decide)
  unfold resolverName resolverSuffix
  simp [h]

theorem declares_interfaceLine (h : '\n' ∉ typeName.toList) :
    Declares (ended [interfaceLine typeName]) [interfaceLine typeName] :=
  declares_typeLine h (by decide)

theorem declares_empty : Declares (ended [[]]) [] := declares_ended_nil (by decide)

theorem declares_brace : Declares (ended [['\x7d']]) [] := declares_ended_nil (by decide)

theorem declares_members (declarations : List String) :
    Declares (String.join (declarations.map memberText)).toList [] :=
  declares_join_nil fun d _ => declares_memberText d

theorem declares_structText (hname : '\n' ∉ t.name.toList)
    (hmethods : ∀ m ∈ methods, Declares (methodText m).toList []) :
    Declares (structText comments t declarations methods).toList [structLine t.name] := by
  have htext : (structText comments t declarations methods).toList =
      ended [[]] ++ ((descriptionText comments (t.description?.getD "")).toList ++
        (ended [structLine t.name] ++ ((String.join (declarations.map memberText)).toList ++
          (ended [['\x7d']] ++ (String.join (methods.map methodText)).toList)))) := by
    unfold structText structLine
    simp
  rw [htext]
  exact declares_empty.append ((declares_descriptionText comments _).append
    ((declares_structLine hname).append ((declares_members declarations).append
      (declares_brace.append (declares_join_nil hmethods)))))

-- A literal that spans lines is cut at their ends first: those are all that must be seen in it.
theorem toList_scalarText (comments : Bool) (t : SchemaType) :
    (scalarText comments t).toList =
      ended [[]] ++ ((descriptionText comments (t.description?.getD "")).toList ++
        (ended [structLine t.name] ++ ended (scalarLines t.name))) := by
  have hvalue :
      " struct \x7b\n\tvalue interface\x7b\x7d\n\x7d\n\n// ImplementsGraphQLType maps this " ++
        "Go type to the " = " struct \x7b" ++ "\n" ++ "\tvalue interface\x7b\x7d" ++ "\n" ++
          "\x7d" ++ "\n" ++ "\n" ++ "// ImplementsGraphQLType maps this Go type to the " := rfl
  have hschema : " schema type.\nfunc (" = " schema type." ++ "\n" ++ "func (" := rfl
  have hreturn : ") ImplementsGraphQLType(name string) bool \x7b\n\treturn name == \"" =
      ") ImplementsGraphQLType(name string) bool \x7b" ++ "\n" ++ "\treturn name == \"" := rfl
  have hstored : "\"\n\x7d\n\n// UnmarshalGraphQL stores the input value unchanged.\nfunc (s *" =
      "\"" ++ "\n" ++ "\x7d" ++ "\n" ++ "\n" ++
        "// UnmarshalGraphQL stores the input value unchanged." ++ "\n" ++ "func (s *" := rfl
  have hlast : ") UnmarshalGraphQL(input interface\x7b\x7d) error \x7b\n\ts.value = input\n" ++
      "\treturn nil\n\x7d\n" = ") UnmarshalGraphQL(input interface\x7b\x7d) error \x7b" ++
        "\n" ++ "\ts.value = input" ++ "\n" ++ "\treturn nil" ++ "\n" ++ "\x7d" ++ "\n" := rfl
  have hend : "\n".toList = ['\n'] := rfl
  have hbrace : "\x7d".toList = ['\x7d'] := rfl
  unfold scalarText structLine scalarLines
  rw [hvalue, hschema, hreturn, hstored, hlast]
  simp only [String.toList_append, ended_cons, ended_nil, List.append_assoc, hend, hbrace,
    List.cons_append, List.nil_append]

theorem mem_scalarLines (h : '\n' ∉ typeName.toList) {l : List Char}
    (hl : l ∈ scalarLines typeName) : '\n' ∉ l ∧ opensInT l = false := by
  unfold scalarLines resolverName resolverSuffix at hl
  simp only [List.mem_cons, List.not_mem_nil, or_false] at hl
  rcases hl with rfl | rfl | rfl | rfl | rfl | rfl | rfl | rfl | rfl | rfl | rfl | rfl | rfl <;>
    simp [opensInT, h]

theorem declares_scalarText (hname : '\n' ∉ t.name.toList) :
    Declares (scalarText comments t).toList [structLine t.name] := by
  rw [toList_scalarText]
  exact declares_empty.append ((declares_descriptionText comments _).append
    ((declares_structLine hname).append (declares_ended_nil fun r hr => mem_scalarLines hname hr)))

theorem declares_wrapperLines (h : '\n' ∉ typeName.toList) :
    Declares (ended (wrapperLines typeName)) [structLine typeName] := by
  refine ⟨wrapperLines typeName, fun r hr => not_mem_wrapperLines h hr, rfl, ?_⟩
  unfold wrapperLines structLine
  simp [opensInT]

theorem declares_conversions {possible : List String} (h : '\n' ∉ typeName.toList)
    (hpossible : ∀ n ∈ possible, '\n' ∉ n.toList) :
    Declares (String.join (possible.map (conversionText typeName))).toList [] := by
  rw [toList_conversions]
  refine declares_ended_nil fun r hr => ?_
  obtain ⟨n, hn, hr⟩ := List.mem_flatMap.mp hr
  refine ⟨not_mem_conversionLines h (hpossible n hn) hr, ?_⟩
  unfold conversionLines at hr
  simp only [List.mem_cons, List.not_mem_nil, or_false] at hr
  rcases hr with rfl | rfl | rfl | rfl | rfl | rfl <;> simp [opensInT]

theorem declares_interfaceText (hname : '\n' ∉ t.name.toList)
    (hpossible : ∀ n ∈ t.possibleNames, '\n' ∉ n.toList) :
    Declares (interfaceText comments t declarations).toList
      [interfaceLine t.name, structLine t.name] := by
  have htext : (interfaceText comments t declarations).toList =
      ended [[]] ++ ((descriptionText comments (t.description?.getD "")).toList ++
        (ended [interfaceLine t.name] ++ ((String.join (declarations.map memberText)).toList ++
          (ended [['\x7d']] ++ (ended (wrapperLines t.name) ++
            (String.join (t.possibleNames.map (conversionText t.name))).toList))))) := by
    unfold interfaceText interfaceLine wrapperLines
    simp
  rw [htext]
  exact declares_empty.append ((declares_descriptionText comments _).append
    ((declares_interfaceLine hname).append ((declares_members declarations).append
      (declares_brace.append ((declares_wrapperLines hname).append
        (declares_conversions hname hpossible))))))

/-- The file of a type declares the Go types that belong to it and no other. -/
theorem declares_typeText {package : String} {imports : List Json}
    (hpackage : '\n' ∉ package.toList) (himports : ∀ j ∈ imports, '\n' ∉ j.plain.toList)
    (hname : '\n' ∉ t.name.toList)
    (hpossible : ∀ n ∈ t.possibleNames, '\n' ∉ n.toList)
    (hmethods : t.kind ≠ .interface → ∀ m ∈ methods, Declares (methodText m).toList []) :
    Declares (typeText package comments t imports declarations methods).toList (typeHeads t) := by
  have hclause : Declares ("package " ++ package ++ "\n").toList [] := by
    have htext : ("package " ++ package ++ "\n").toList =
        ended [("package " ++ package).toList] := by
      simp
    rw [htext]
    refine declares_ended_nil fun r hr => ?_
    rw [List.mem_singleton.mp hr]
    exact ⟨by simp [hpackage], by simp [opensInT]⟩
  have hbefore := hclause.append (declares_importText himports)
  unfold typeText typeHeads
  rw [String.toList_append, String.toList_append]
  split
  · exact hbefore.append (declares_interfaceText hname hpossible)
  · rename_i hkind
    split
    · exact hbefore.append (declares_scalarText hname)
    · exact hbefore.append (declares_structText hname (hmethods hkind))

end ResolverGen.Go
