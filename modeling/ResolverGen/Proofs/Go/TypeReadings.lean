import ResolverGen.Proofs.Go.FieldNames
import ResolverGen.Proofs.Go.GoTypes
import ResolverGen.Proofs.Schema.Layers

/-!
# Go types read layer by layer

The Go type of a reference is put together by passing its layers once and collecting marks. Read the
other way, layer by layer, it is the Go type of what stands inside behind one mark for a list and one
for null. Both come to the same, for every reference that has a reading. The marks can be taken off a
Go type again, so references with different layers have different Go types.
-/
namespace ResolverGen.Go

/-- The Go type of a name in a table: what is configured for it or, if that is empty, its resolver. -/
def ScalarTable.base (table : ScalarTable) (name : String) : Json :=
  let configured := (table.get? name).map (·.goType)
  (configured.filter (·.isGiven)).getD (.str (name ++ "Resolver"))

/-- A Go type read layer by layer from that of the name inside. A type that may be null is a pointer,
and a list is a slice. There is no reading of a mark right under another one. -/
def reading? (base : String) : List Layer → Option String
  | [] => some ("*" ++ base)
  | [.nonNull] => some base
  | .list :: inner => (reading? base inner).map ("*[]" ++ ·)
  | .nonNull :: .list :: inner => (reading? base inner).map ("[]" ++ ·)
  | .nonNull :: .nonNull :: _ => none

variable {table : ScalarTable} {b : TypeRef} {name base text : String} {layers : List Layer}

theorem reading?_eq_none_iff : reading? base layers = none ↔ Doubled layers := by
  fun_induction reading? base layers with
  | case1 => simp [not_doubled_nil]
  | case2 => simp [doubled_nonNull, not_doubled_nil]
  | case3 inner ih => rw [Option.map_eq_none_iff, ih, doubled_list]
  | case4 inner ih => simp [ih, doubled_nonNull, doubled_list]
  | case5 rest => simp [doubled_nonNull]

/-! ## Marks -/

theorem peel_named (h : b.IsNamed name) (strict : Bool) :
    peel strict b = (peel.nullable strict, b) := by
  have hkind := h.not_wrapper
  cases b with
  | entity kind name? => rfl
  | around kind name? inner => cases kind <;> first | rfl | cases hkind

/-- A reference is passed down to its named type, and the marks on the way are those of its reading. -/
theorem peel_under (h : b.IsNamed name) (hsingle : ¬Doubled layers) :
    ∃ marks, peel false (b.under layers) = (marks, b) ∧
      ∀ base, reading? base layers = some (marks ++ base) := by
  fun_induction reading? "" layers with
  | case1 => exact ⟨"*", peel_named h false, fun base => rfl⟩
  | case2 => exact ⟨"", peel_named h true, fun base => congrArg some String.empty_append.symm⟩
  | case3 inner ih =>
    obtain ⟨marks, hpeel, hreads⟩ := ih fun hinner => hsingle (doubled_list.mpr hinner)
    refine ⟨"*[]" ++ marks, ?_, fun base => ?_⟩
    · simp [hpeel, peel.nullable]
    · simp [reading?, hreads, String.append_assoc]
  | case4 inner ih =>
    obtain ⟨marks, hpeel, hreads⟩ := ih fun hinner =>
      hsingle (doubled_nonNull.mpr (Or.inr (doubled_list.mpr hinner)))
    refine ⟨"[]" ++ marks, ?_, fun base => ?_⟩
    · simp [hpeel, peel.nullable]
    · simp [reading?, hreads, String.append_assoc]
  | case5 rest => exact absurd (doubled_nonNull.mpr (Or.inl rfl)) hsingle

/-- The way into a reference with a doubled mark ends before a name. -/
theorem peel_under_of_doubled (b : TypeRef) (hdoubled : Doubled layers) :
    (peel false (b.under layers)).2.name? = none := by
  fun_induction reading? "" layers with
  | case1 => exact absurd hdoubled not_doubled_nil
  | case2 => simp [doubled_nonNull, not_doubled_nil] at hdoubled
  | case3 inner ih => exact ih (doubled_list.mp hdoubled)
  | case4 inner ih =>
    refine ih (doubled_list.mp ((doubled_nonNull.mp hdoubled).resolve_left ?_))
    simp
  | case5 rest => rfl

/-! ## Go types -/

theorem baseType_eq_ok_iff : baseType table name = .ok base ↔ table.base name = .str base := by
  unfold baseType ScalarTable.base
  cases table.get? name with
  | none => simp [resolverName, resolverSuffix]
  | some scalar =>
    by_cases hgiven : scalar.goType.isGiven = true
    · cases htype : scalar.goType <;> simp_all [Option.filter]
    · simp [hgiven, resolverName, resolverSuffix, Option.filter]

theorem baseType_ne_schema (table : ScalarTable) (name : String) (fault : SchemaFault) :
    baseType table name ≠ .error (.schema fault) := by
  unfold baseType
  split
  · split
    · split <;> simp
    · simp
  · simp

theorem typeExpression_of_peel {t : TypeRef} {marks : String} (h : b.IsNamed name)
    (hpeel : peel false t = (marks, b)) :
    typeExpression table t = (baseType table name).map (marks ++ ·) := by
  unfold typeExpression
  simp only [hpeel, h.name_eq]
  split
  · simp_all
  · rename_i heq
    cases heq
    exact absurd rfl h.name_ne
  · rename_i heq
    cases heq
    rfl

theorem typeExpression_of_unnamed {t : TypeRef} (h : (peel false t).2.name? = none) :
    typeExpression table t = .error (.schema (.unnamedEnd t.text)) := by
  unfold typeExpression
  simp only [h]

/-- A reference has a Go type if it has a reading and its name a Go type. -/
theorem typeExpression_eq_ok_iff (h : b.IsNamed name) :
    typeExpression table (b.under layers) = .ok text ↔
      ∃ base, table.base name = .str base ∧ reading? base layers = some text := by
  by_cases hdoubled : Doubled layers
  · rw [typeExpression_of_unnamed (peel_under_of_doubled b hdoubled)]
    simp [reading?_eq_none_iff.mpr hdoubled]
  · obtain ⟨marks, hpeel, hreads⟩ := peel_under h hdoubled
    rw [typeExpression_of_peel h hpeel]
    simp only [← baseType_eq_ok_iff, hreads, Option.some.injEq]
    cases baseType table name <;> simp [Except.map]

/-- Only a doubled mark is refused as a fault of the schema. -/
theorem typeExpression_eq_schema_iff (h : b.IsNamed name) {fault : SchemaFault} :
    typeExpression table (b.under layers) = .error (.schema fault) ↔
      Doubled layers ∧ fault = .unnamedEnd (b.under layers).text := by
  by_cases hdoubled : Doubled layers
  · rw [typeExpression_of_unnamed (peel_under_of_doubled b hdoubled)]
    simp [hdoubled, eq_comm]
  · obtain ⟨marks, hpeel, -⟩ := peel_under h hdoubled
    rw [typeExpression_of_peel h hpeel]
    have hbase := baseType_ne_schema table name fault
    cases hresult : baseType table name with
    | ok base => simp [hdoubled, Except.map]
    | error cause =>
      rw [hresult] at hbase
      exact iff_of_false hbase fun hboth => hdoubled hboth.1

/-! ## Imports -/

theorem importsFor_under (b : TypeRef) (layers : List Layer) :
    importsFor table (b.under layers) = importsFor table b := by
  induction layers with
  | nil => rfl
  | cons layer inner ih =>
    cases layer with
    | list => exact ih
    | nonNull => exact ih

theorem importsFor_named (h : b.IsNamed name) : importsFor table b =
    (((table.get? name).map (·.importPath)).filter (·.isGiven)).toList := by
  have hscalar : importsFor table b = scalarImports table name := by
    cases b with
    | entity kind name? =>
      obtain rfl : name? = some name := h.name_eq
      rfl
    | around kind name? inner =>
      obtain rfl : name? = some name := h.name_eq
      rfl
  rw [hscalar, scalarImports]
  cases table.get? name with
  | none => rfl
  | some scalar =>
    by_cases hgiven : scalar.importPath.isGiven = true <;> simp [hgiven, Option.filter]

/-- The Go type of a reference is its reading, if its name has a Go type. It is refused as a fault of
the schema exactly if a mark stands right under another one, where there is no reading. Its imports
are those of its named type in any case: the path that the table has for the name, unless it is
empty. -/
theorem typeExpression_reading (table : ScalarTable) (h : b.IsNamed name) (layers : List Layer) :
    (∀ text, typeExpression table (b.under layers) = .ok text ↔
      ∃ base, table.base name = .str base ∧ reading? base layers = some text) ∧
    (∀ fault, typeExpression table (b.under layers) = .error (.schema fault) ↔
      Doubled layers ∧ fault = .unnamedEnd (b.under layers).text) ∧
    (∀ base, reading? base layers = none ↔ Doubled layers) ∧
    importsFor table (b.under layers) = importsFor table (b.under layers).namedType ∧
    importsFor table (b.under layers) =
      (((table.get? name).map (·.importPath)).filter (·.isGiven)).toList := by
  refine ⟨fun text => typeExpression_eq_ok_iff h, fun fault => typeExpression_eq_schema_iff h,
    fun base => reading?_eq_none_iff, ?_, ?_⟩
  · rw [TypeRef.namedType_under h, importsFor_under]
  · rw [importsFor_under, importsFor_named h]

/-- A table with a scalar that has a Go type and an import. -/
def dateTable : ScalarTable :=
  .ofCustom [("Date", { goType := .str "time.Time", importPath := .str "\"time\"" }),
    ("Moment", { goType := .str "time.Time" }), ("Url", {})]

theorem isNamed_date : (TypeRef.named .scalar "Date").IsNamed "Date" :=
  TypeRef.isNamed_named rfl (by decide)

/-- A list of lists of dates, and dates under two marks in a list. -/
theorem typeExpression_dates :
    typeExpression dateTable
      ((TypeRef.named .scalar "Date").under [.nonNull, .list, .list, .nonNull]) =
        .ok "[]*[]time.Time" ∧
    typeExpression dateTable ((TypeRef.named .scalar "Date").under [.list, .nonNull, .nonNull]) =
      .error (.schema (.unnamedEnd "[Date!!]")) ∧
    importsFor dateTable ((TypeRef.named .scalar "Date").under [.list, .nonNull, .nonNull]) =
      [.str "\"time\""] := by
  obtain ⟨hok, -⟩ := typeExpression_reading dateTable isNamed_date [.nonNull, .list, .list, .nonNull]
  obtain ⟨-, hfault, -, -, himports⟩ :=
    typeExpression_reading dateTable isNamed_date [.list, .nonNull, .nonNull]
  exact ⟨(hok _).mpr ⟨"time.Time", rfl, rfl⟩, (hfault _).mpr ⟨by decide, rfl⟩, himports⟩

/-! ## Marks taken off again -/

/-- A text that opens like the marks of a Go type. -/
def OpensWithMark : Json → Prop
  | .str text => text.toList.head? = some '*' ∨ text.toList.head? = some '['
  | _ => False

instance : ∀ j : Json, Decidable (OpensWithMark j)
  | .str text =>
    inferInstanceAs (Decidable (text.toList.head? = some '*' ∨ text.toList.head? = some '['))
  | .null | .bool _ | .int _ | .float _ | .arr _ | .obj _ => .isFalse id

/-- The layers that the marks in front of a Go type stand for, and what is behind the marks. -/
def layersIn : List Char → List Layer × List Char
  | '*' :: '[' :: ']' :: rest => (.list :: (layersIn rest).1, (layersIn rest).2)
  | '[' :: ']' :: rest => (.nonNull :: .list :: (layersIn rest).1, (layersIn rest).2)
  | '*' :: rest => ([], rest)
  | rest => ([.nonNull], rest)

/-- The marks of a reading give back its layers. -/
theorem layersIn_reading (hbase : ¬OpensWithMark (.str base))
    (hreads : reading? base layers = some text) :
    layersIn text.toList = (layers, base.toList) := by
  rw [OpensWithMark] at hbase
  fun_induction reading? base layers generalizing text with
  | case1 =>
    obtain rfl := Option.some.inj hreads
    rw [String.toList_append]
    change layersIn ('*' :: base.toList) = _
    unfold layersIn
    split <;> simp_all
  | case2 =>
    obtain rfl := Option.some.inj hreads
    unfold layersIn
    split <;> simp_all
  | case3 inner ih =>
    obtain ⟨rest, hrest, rfl⟩ := Option.map_eq_some_iff.mp hreads
    rw [String.toList_append]
    change layersIn ('*' :: '[' :: ']' :: rest.toList) = _
    rw [layersIn, ih hrest]
  | case4 inner ih =>
    obtain ⟨rest, hrest, rfl⟩ := Option.map_eq_some_iff.mp hreads
    rw [String.toList_append]
    change layersIn ('[' :: ']' :: rest.toList) = _
    rw [layersIn, ih hrest]
  | case5 rest => cases hreads

/-- The Go type of a name does not open with a mark, if no configured one does. -/
theorem not_opensWithMark_base
    (htable : ∀ name scalar, table.get? name = some scalar → ¬OpensWithMark scalar.goType)
    (hname : IsSchemaName name) (h : table.base name = .str base) : ¬OpensWithMark (.str base) := by
  rcases baseType_ok (baseType_eq_ok_iff.mpr h) with ⟨scalar, hscalar, htype, -⟩ | rfl
  · exact htype ▸ htable name scalar hscalar
  · obtain ⟨c, rest, hchars, hc, -⟩ := hname.chars
    rw [OpensWithMark, resolverName, String.toList_append, hchars]
    have hstar : c ≠ '*' := by
      rintro rfl
      exact absurd hc (by decide)
    have hbracket : c ≠ '[' := by
      rintro rfl
      exact absurd hc (by decide)
    simp [hstar, hbracket]

/-- If no configured Go type opens with a mark, then references with one Go type have the same layers,
and their names have one Go type. -/
theorem layers_eq_of_typeExpression_eq
    (htable : ∀ name scalar, table.get? name = some scalar → ¬OpensWithMark scalar.goType)
    {b' : TypeRef} {name' : String} {layers' : List Layer} (h : b.IsNamed name)
    (h' : b'.IsNamed name') (hname : IsSchemaName name) (hname' : IsSchemaName name')
    (htype : typeExpression table (b.under layers) = .ok text)
    (htype' : typeExpression table (b'.under layers') = .ok text) :
    layers = layers' ∧ ∃ base, table.base name = .str base ∧ table.base name' = .str base := by
  obtain ⟨base, hbase, hreads⟩ := (typeExpression_eq_ok_iff h).mp htype
  obtain ⟨base', hbase', hreads'⟩ := (typeExpression_eq_ok_iff h').mp htype'
  have hlayers := layersIn_reading (not_opensWithMark_base htable hname hbase) hreads
  have hlayers' := layersIn_reading (not_opensWithMark_base htable hname' hbase') hreads'
  obtain ⟨rfl, hsame⟩ := Prod.mk.inj (hlayers.symm.trans hlayers')
  obtain rfl := String.toList_inj.mp hsame
  exact ⟨rfl, base, hbase, hbase'⟩

/-- Lists of dates and lists of moments have one Go type. -/
theorem layers_eq_of_moments :
    (∀ name scalar, dateTable.get? name = some scalar → ¬OpensWithMark scalar.goType) ∧
    typeExpression dateTable ((TypeRef.named .scalar "Date").under [.list, .nonNull]) =
      .ok "*[]time.Time" ∧
    typeExpression dateTable ((TypeRef.named .object "Moment").under [.list, .nonNull]) =
      .ok "*[]time.Time" ∧
    [Layer.list, .nonNull] = [.list, .nonNull] ∧
      ∃ base, dateTable.base "Date" = .str base ∧ dateTable.base "Moment" = .str base := by
  have hentries : ∀ e ∈ dateTable.entries, ¬OpensWithMark e.2.goType := by decide
  have htable : ∀ name scalar, dateTable.get? name = some scalar → ¬OpensWithMark scalar.goType :=
    fun name scalar hget => hentries (name, scalar) (Table.mem_of_get? hget)
  have hmoment : (TypeRef.named .object "Moment").IsNamed "Moment" :=
    TypeRef.isNamed_named rfl (by decide)
  exact ⟨htable, rfl, rfl, layers_eq_of_typeExpression_eq htable isNamed_date hmoment (by decide)
    (by decide) rfl rfl⟩

end ResolverGen.Go
