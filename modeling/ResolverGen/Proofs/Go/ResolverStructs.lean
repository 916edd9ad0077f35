import ResolverGen.Proofs.Go.DeclaredTypes

/-!
# Structs of resolvers

A resolver type may be used in the files of other types: fields refer to it, and interfaces are
converted to it. It is told for which types of a schema a run declares it. Enums, unions, input
objects, internal types and skipped scalars are referred to without a struct to be found anywhere.
-/
namespace ResolverGen.Go

open Text Formatter Go.Generator

variable {g : Generator} {t : SchemaType} {m n : String}

/-! ## Lines of structs -/

theorem structLine_inj : structLine m = structLine n ↔ m = n := by
  unfold structLine resolverName
  rw [String.toList_inj, String.append_left_inj, String.append_right_inj, String.append_left_inj]

/-- An interface is not opened by the line of a struct. -/
theorem structLine_ne_interfaceLine (m n : String) : structLine m ≠ interfaceLine n := by
  have hstruct : structLine m = ("type " ++ resolverName m).toList ++ " struct \x7b".toList :=
    String.toList_append
  -- the end is cut to the length of the other one, to be compared with it
  have hinterface : interfaceLine n =
      (("type " ++ n).toList ++ " in".toList) ++ "terface \x7b".toList := by
    unfold interfaceLine
    rw [List.append_assoc, String.toList_append]
    rfl
  intro h
  rw [hstruct, hinterface] at h
  exact absurd (List.append_inj_right' h (by decide)) (by decide)

theorem structLine_mem_typeHeads : structLine n ∈ typeHeads t ↔ t.name = n := by
  have hstruct : structLine n ∈ [structLine t.name] ↔ t.name = n := by
    rw [List.mem_singleton, structLine_inj, eq_comm]
  unfold typeHeads
  split
  · rw [List.mem_cons, hstruct]
    exact or_iff_right (structLine_ne_interfaceLine n t.name)
  · exact hstruct

/-- Whether a file has the line that opens the struct of a resolver. -/
def HasStruct (typeName text : String) : Prop := structLine typeName ∈ lines text.toList

instance (typeName text : String) : Decidable (HasStruct typeName text) :=
  inferInstanceAs (Decidable (_ ∈ _))

theorem hasStruct_iff (n text : String) : HasStruct n text ↔ structLine n ∈ typeLines text := by
  unfold HasStruct typeLines
  rw [List.mem_filter, and_iff_left (isTypeLine_structLine n)]

/-- A type has its struct in its file, whatever the number of its variants is. -/
theorem structLine_mem_heads (hv : UsesDefault g t) :
    (structLine n ∈ (g.settings.type t.name).templates.flatMap fun _ => typeHeads t) ↔
      t.name = n := by
  rw [List.mem_flatMap, ← structLine_mem_typeHeads]
  constructor
  · rintro ⟨_, _, h⟩
    exact h
  · intro h
    obtain ⟨v, hmem⟩ := List.exists_mem_of_ne_nil _ hv.given
    exact ⟨v, hmem, h⟩

/-! ## Structs in a run -/

/-- Whether a struct is declared for a type: it is not internal, of a kind that is generated, and
not to be skipped. -/
def IsDeclared (g : Generator) (t : SchemaType) : Prop :=
  t.name.toList.head? ≠ some '_' ∧ (t.kind = .object ∨ t.kind = .interface ∨ t.kind = .scalar) ∧
    g.scalars.skips t.name = false

instance (g : Generator) (t : SchemaType) : Decidable (IsDeclared g t) :=
  inferInstanceAs (Decidable (_ ∧ _ ∧ _))

theorem isDeclared_iff (hkind : t.kind.isWrapper = false) : IsDeclared g t ↔ g.IsEligible t := by
  have hkinds : t.kind = .object ∨ t.kind = .interface ∨ t.kind = .scalar ↔
      t.kind ∉ unsupportedKinds := by
    revert hkind
    cases t.kind <;> decide
  unfold IsDeclared IsEligible internalMark
  rw [hkinds, and_comm (a := t.kind ∉ unsupportedKinds)]

/-- In a run over a catalogue the struct of a type stands in one file if the type is declared, and
in none if it is not, whether or not other files use it. -/
theorem generate_structs (h : g.IsPackaged) (hformatter : TidiesOnly g.formatter)
    (hg : IsOneLine g) {schema : Schema} (hschema : IsCatalogue schema)
    (hv : ∀ t ∈ g.eligible schema.types, UsesDefault g t) (files : Files) (programs : Programs)
    {s : RunState} (hs : IsFaithful s) {table : Table String}
    (hrun : ((g.generate files programs schema).run s).1 = .ok table) {t : SchemaType}
    (ht : t ∈ schema.types) :
    table.countP (fun e => HasStruct t.name e.2) = if IsDeclared g t then 1 else 0 := by
  obtain ⟨hnodup, hlines⟩ := typeLines_of_generate h hformatter hg hschema.names hv hs hrun
  have hcount : table.countP (fun e => HasStruct t.name e.2) =
      ((g.eligible schema.types).map (·.name)).count t.name := by
    calc table.countP (fun e => HasStruct t.name e.2)
        = (table.map fun e => typeLines e.2).countP (structLine t.name ∈ ·) := by
          rw [List.countP_map]
          refine List.countP_congr fun e _ => ?_
          simp [hasStruct_iff]
      _ = (g.eligible schema.types).countP (·.name = t.name) := by
          rw [hlines, List.countP_map]
          refine List.countP_congr fun u hu => ?_
          simp only [Function.comp_apply, decide_eq_true_iff]
          exact structLine_mem_heads (hv u hu)
      _ = ((g.eligible schema.types).map (·.name)).count t.name := by
          rw [List.count, List.countP_map]
          refine List.countP_congr fun u _ => ?_
          simp
  have hmem : t.name ∈ (g.eligible schema.types).map (·.name) ↔ IsDeclared g t := by
    rw [isDeclared_iff (hschema.kinds t ht), List.mem_map]
    constructor
    · rintro ⟨u, hu, hname⟩
      obtain ⟨hmem, heligible⟩ := mem_eligible.mp hu
      rwa [List.inj_on_of_nodup_map hschema.nodup hmem ht hname] at heligible
    · intro heligible
      exact ⟨t, mem_eligible.mpr ⟨ht, heligible⟩, rfl⟩
  rw [hcount, hnodup.count, if_congr hmem rfl rfl]

/-- Settings with a scalar that is skipped and one that is not, both without a Go type. -/
def scalarSettings : Settings where
  scalars := [("Date", {}), ("Time", { skip := false })]

def statusType : SchemaType := { kind := .enum, name := "Status" }

def dateType : SchemaType := { kind := .scalar, name := "Date" }

def timeType : SchemaType := { kind := .scalar, name := "Time" }

/-- A type with fields of an enum and of both scalars. -/
def eventType : SchemaType where
  kind := .object
  name := "Event"
  fields :=
    [{ name := "status", type := .named .enum "Status", owner := "Event" },
      { name := "date", type := .named .scalar "Date", owner := "Event" },
      { name := "time", type := .named .scalar "Time", owner := "Event" }]

def eventSchema : Schema := { types := [eventType, statusType, dateType, timeType] }

theorem generate_structs_eventSchema :
    ∃ table, (((make scalarSettings .passthrough).generate {} [] eventSchema).run
        (initialState [])).1 = .ok table ∧
      eventSchema.types.map (fun t => table.countP fun e => HasStruct t.name e.2) =
        [1, 0, 0, 1] := by
  have hpackaged : (make scalarSettings .passthrough).IsPackaged := isPackaged_make rfl _
  have honeLine : IsOneLine (make scalarSettings .passthrough) :=
    isOneLine_make _ (by decide) (by decide)
  have hschema : IsCatalogue eventSchema := by decide
  have hdefault : ∀ t ∈ (make scalarSettings .passthrough).eligible eventSchema.types,
      UsesDefault (make scalarSettings .passthrough) t := fun t _ => usesDefault_of_unset rfl
  have hparts : ∀ t ∈ (make scalarSettings .passthrough).eligible eventSchema.types,
      (make scalarSettings .passthrough).HasParts t := by
    decide +kernel
  obtain ⟨table, htable⟩ := exists_generate hpackaged (Or.inl rfl) eventSchema
    (by decide +kernel) (fun t ht => ⟨(hdefault t ht).usesPackaged, hparts t ht⟩) {} []
    (isFaithful_initialState [])
  refine ⟨table, htable, ?_⟩
  have hcount : ∀ t ∈ eventSchema.types, table.countP (fun e => HasStruct t.name e.2) =
      if IsDeclared (make scalarSettings .passthrough) t then 1 else 0 := fun t ht =>
    generate_structs hpackaged (Or.inl rfl) honeLine hschema hdefault {} []
      (isFaithful_initialState []) htable ht
  rw [List.map_congr_left hcount]
  decide +kernel

end ResolverGen.Go
