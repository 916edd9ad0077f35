import ResolverGen.Proofs.FirstFailures
import ResolverGen.Proofs.Go.TypeReadings
import ResolverGen.Proofs.Tables

/-!
# Built-in scalars

The table of scalars has the built-in ones first and takes nothing that is configured for their
names. So they mean the same under all settings: types with these names get no file, and references
to them have the same Go types and imports.
-/
namespace ResolverGen.Go

open Template

namespace ScalarTable

variable {custom : Table Scalar} {name : String}

theorem isBuiltin_iff_mem : isBuiltin name = true ↔ name ∈ builtinScalars.keys :=
  Table.has_iff builtinScalars name

theorem isBuiltin_iff_exists :
    isBuiltin name = true ↔ ∃ scalar, builtinScalars.get? name = some scalar := by
  rw [isBuiltin_iff_mem, Table.mem_keys_iff_exists]

theorem get?_builtinScalars_of_not (h : isBuiltin name = false) :
    builtinScalars.get? name = none := by
  rw [Table.get?_eq_none_iff, ← isBuiltin_iff_mem, h]
  exact Bool.false_ne_true

section

variable (h : custom.keys.Nodup)

include h

/-- What is configured counts for names that are not built in. -/
theorem get?_ofCustom (name : String) :
    (ofCustom custom).get? name = (builtinScalars.get? name).or (custom.get? name) := by
  rw [get?, ofCustom, Table.get?_overlay (Table.nodup_keys_filter h _),
    Table.get?_filter (!isBuiltin ·)]
  cases hname : isBuiltin name with
  | true =>
    obtain ⟨scalar, hscalar⟩ := isBuiltin_iff_exists.mp hname
    simp [hscalar]
  | false => simp [get?_builtinScalars_of_not hname]

theorem get?_ofCustom_of_builtin (hname : isBuiltin name = true) :
    (ofCustom custom).get? name = builtinScalars.get? name := by
  obtain ⟨scalar, hscalar⟩ := isBuiltin_iff_exists.mp hname
  rw [get?_ofCustom h, hscalar, Option.some_or]

/-- The other names come behind the built-in ones, in the order in which they are configured. -/
theorem names_ofCustom :
    (ofCustom custom).names = builtinScalars.keys ++ custom.keys.filter (!isBuiltin ·) := by
  have hkeys : Table.keys (custom.filter (!isBuiltin ·.1)) = custom.keys.filter (!isBuiltin ·) :=
    Table.keys_filter (!isBuiltin ·) custom
  have hnodup : (builtinScalars.keys ++ Table.keys (custom.filter (!isBuiltin ·.1))).Nodup := by
    rw [List.nodup_append]
    refine ⟨by decide, Table.nodup_keys_filter h _, ?_⟩
    rintro key hkey _ hother rfl
    rw [hkeys] at hother
    simp [isBuiltin_iff_mem.mpr hkey] at hother
  rw [names, ofCustom, Table.overlay_eq_append hnodup, ← hkeys]
  exact List.map_append

/-- No entry of the built-in scalars is one to generate. -/
theorem skips_ofCustom (hname : isBuiltin name = true) : (ofCustom custom).skips name = true := by
  have hskip : ∀ entry ∈ builtinScalars, entry.2.skip = true := by decide
  obtain ⟨scalar, hscalar⟩ := isBuiltin_iff_exists.mp hname
  rw [skips, get?_ofCustom_of_builtin h hname, hscalar]
  exact hskip _ (Table.mem_of_get? hscalar)

end

/-- What is recorded of a name that cannot be configured. -/
def ignored (name : String) : LogRecord :=
  ⟨.warning, "Ignoring mapping for built-in scalar " ++ name ++ "; built-ins cannot be overridden"⟩

theorem warnings_eq_map (custom : Table Scalar) :
    warnings custom = (custom.keys.filter isBuiltin).map ignored := by
  rw [Table.keys, List.filter_map, List.map_map]
  rfl

end ScalarTable

/-! ## References to one name -/

section

variable {table table' : ScalarTable} {base : TypeRef} {name : String}

theorem baseType_congr (h : table.get? name = table'.get? name) :
    baseType table name = baseType table' name := by
  rw [baseType, baseType, h]

/-- Of a table nothing counts for a reference but the entry of its name. -/
theorem typeExpression_congr (hbase : base.IsNamed name) (h : table.get? name = table'.get? name)
    (layers : List Layer) :
    typeExpression table (base.under layers) = typeExpression table' (base.under layers) := by
  by_cases hdoubled : Doubled layers
  · have hunnamed := peel_under_of_doubled base hdoubled
    rw [typeExpression_of_unnamed hunnamed, typeExpression_of_unnamed hunnamed]
  · obtain ⟨marks, hpeel, -⟩ := peel_under hbase hdoubled
    rw [typeExpression_of_peel hbase hpeel, typeExpression_of_peel hbase hpeel, baseType_congr h]

theorem importsFor_congr (hbase : base.IsNamed name) (h : table.get? name = table'.get? name)
    (layers : List Layer) :
    importsFor table (base.under layers) = importsFor table' (base.under layers) := by
  rw [importsFor_under, importsFor_under, importsFor_named hbase, importsFor_named hbase, h]

end

namespace Generator

variable {g : Generator} {files : Files} {programs : Programs}

/-! ## Types that leave no trace -/

/-- A run passes over silent types as if they were not there. -/
theorem generateFrom_filter {p : SchemaType → Bool} (h : ∀ t, p t = false → g.isSilent t = true)
    (owners : Table String) (types : List SchemaType) :
    g.generateFrom files programs owners (types.filter p) =
      g.generateFrom files programs owners types := by
  induction types generalizing owners with
  | nil => rfl
  | cons t rest ih =>
    cases ht : p t with
    | true =>
      rw [List.filter_cons_of_pos ht, generateFrom, generateFrom]
      simp only [ih]
    | false =>
      rw [List.filter_cons_of_neg (by simp [ht]), ih, generateFrom, if_pos (h t ht)]

/-- An entry of a run is the file of a type, with what rendering the type has come to. -/
theorem exists_of_mem_generateFrom {types : List SchemaType} {owners table : Table String}
    {s s' : RunState} (hrun : (g.generateFrom files programs owners types).run s = (.ok table, s'))
    {entry : String × String} (hentry : entry ∈ table) :
    ∃ t ∈ types, g.isSilent t = false ∧ entry.1 = g.fileName t.name ∧
      ∃ r r', (g.renderType files programs t).run r = (.ok entry.2, r') := by
  induction types generalizing owners table s with
  | nil =>
    rw [generateFrom] at hrun
    cases hrun
    cases hentry
  | cons t rest ih =>
    rw [generateFrom] at hrun
    split at hrun
    · obtain ⟨u, hu, hrest⟩ := ih hrun hentry
      exact ⟨u, List.mem_cons_of_mem t hu, hrest⟩
    · rename_i hsilent
      split at hrun
      · obtain ⟨-, r, -, hrun⟩ := run_bind_eq_ok_iff.mp hrun
        obtain ⟨u, hu, hrest⟩ := ih hrun hentry
        exact ⟨u, List.mem_cons_of_mem t hu, hrest⟩
      · dsimp only at hrun
        split at hrun
        · cases hrun
        · obtain ⟨-, r, -, hrun⟩ := run_bind_eq_ok_iff.mp hrun
          obtain ⟨text, r', htext, hrun⟩ := run_bind_eq_ok_iff.mp hrun
          obtain ⟨others, r'', hothers, hrun⟩ := run_bind_eq_ok_iff.mp hrun
          cases hrun
          rcases List.mem_cons.mp hentry with rfl | hentry
          · exact ⟨t, List.mem_cons_self, Bool.eq_false_iff.mpr hsilent, rfl, r, r', htext⟩
          · obtain ⟨u, hu, hrest⟩ := ih hothers hentry
            exact ⟨u, List.mem_cons_of_mem t hu, hrest⟩

/-! ## What is built in for a generator -/

/-- A schema without the types that bear the name of a built-in scalar. -/
def withoutBuiltins (schema : Schema) : Schema :=
  { schema with types := schema.types.filter (!ScalarTable.isBuiltin ·.name) }

/-- Built-in scalars mean to a generator what they mean without any settings. -/
structure KeepsBuiltins (g : Generator) : Prop where
  /-- A run goes as if there were no types of their names, from any state. -/
  generate_eq : ∀ files programs schema,
    g.generate files programs schema = g.generate files programs (withoutBuiltins schema)
  /-- An entry of a run is what rendering a type of another name has come to. -/
  exists_type : ∀ files programs schema s table s',
    (g.generate files programs schema).run s = (.ok table, s') → ∀ entry ∈ table,
      ∃ t ∈ schema.types, ScalarTable.isBuiltin t.name = false ∧ entry.1 = g.fileName t.name ∧
        ∃ r r', (g.renderType files programs t).run r = (.ok entry.2, r')
  typeExpression_eq : ∀ {base : TypeRef} {name : String}, base.IsNamed name →
    ScalarTable.isBuiltin name = true → ∀ layers,
      typeExpression g.scalars (base.under layers) =
        typeExpression ⟨builtinScalars⟩ (base.under layers)
  importsFor_eq : ∀ {base : TypeRef} {name : String}, base.IsNamed name →
    ScalarTable.isBuiltin name = true → ∀ layers,
      importsFor g.scalars (base.under layers) = importsFor ⟨builtinScalars⟩ (base.under layers)

variable {custom : Table Scalar}

theorem isSilent_of_builtin (h : custom.keys.Nodup) (hg : g.scalars = .ofCustom custom)
    {t : SchemaType} (ht : ScalarTable.isBuiltin t.name = true) : g.isSilent t = true := by
  rw [isSilent, hg, ScalarTable.skips_ofCustom h ht, Bool.or_true]

theorem keepsBuiltins_of_scalars (h : custom.keys.Nodup) (hg : g.scalars = .ofCustom custom) :
    g.KeepsBuiltins where
  generate_eq files programs schema := by
    have hsilent : ∀ t : SchemaType, (!ScalarTable.isBuiltin t.name) = false →
        g.isSilent t = true := by
      intro t ht
      exact isSilent_of_builtin h hg (by simpa using ht)
    exact (generateFrom_filter hsilent [] schema.types).symm
  exists_type files programs schema s table s' hrun entry hentry := by
    obtain ⟨t, ht, hloud, hname, hrender⟩ := exists_of_mem_generateFrom hrun hentry
    refine ⟨t, ht, Bool.eq_false_iff.mpr fun hbuiltin => ?_, hname, hrender⟩
    rw [isSilent_of_builtin h hg hbuiltin] at hloud
    cases hloud
  typeExpression_eq hbase hname layers := by
    rw [hg]
    exact typeExpression_congr hbase (ScalarTable.get?_ofCustom_of_builtin h hname) layers
  importsFor_eq hbase hname layers := by
    rw [hg]
    exact importsFor_congr hbase (ScalarTable.get?_ofCustom_of_builtin h hname) layers

theorem ofSettings_eq_ok {settings : Settings} {log : Log}
    (h : ofSettings settings = .ok (g, log)) :
    g.scalars = .ofCustom (customScalars settings) ∧
      log = ScalarTable.warnings (customScalars settings) := by
  obtain ⟨formatter, -, h⟩ := bind_eq_ok_iff.mp h
  cases h
  exact ⟨rfl, rfl⟩

end Generator

/-- The table of scalars has the entry of each built-in name and, for other names, what is
configured; the names stand in this order, and a warning tells of each configured name that is built
in. A generator under settings with these scalars keeps to that. -/
theorem ScalarTable.ofCustom_builtins (custom : Table Scalar) (h : custom.keys.Nodup) :
    (∀ name, (ofCustom custom).get? name = (builtinScalars.get? name).or (custom.get? name)) ∧
      (ofCustom custom).names =
        ["Boolean", "Float", "Int", "ID", "String"] ++ custom.keys.filter (!isBuiltin ·) ∧
      warnings custom = (custom.keys.filter isBuiltin).map ignored ∧
      ∀ settings g log, customScalars settings = custom →
        Generator.ofSettings settings = .ok (g, log) →
        g.scalars = ofCustom custom ∧ log = warnings custom ∧ g.KeepsBuiltins := by
  refine ⟨get?_ofCustom h, names_ofCustom h, warnings_eq_map custom, ?_⟩
  rintro settings g log rfl hg
  obtain ⟨hscalars, hlog⟩ := Generator.ofSettings_eq_ok hg
  exact ⟨hscalars, hlog, Generator.keepsBuiltins_of_scalars h hscalars⟩

/-- Settings with a scalar of a built-in name and one of another. -/
def clockSettings : Settings where
  scalars :=
    [("Int", { type := .str "int64", skip := false }), ("Time", { type := .str "time.Time" })]

/-- Integers stay what they are, and times come behind all built-in scalars. -/
theorem ofCustom_clockSettings :
    (ScalarTable.ofCustom (customScalars clockSettings)).get? "Int" =
        some { goType := .str "int32" } ∧
      (ScalarTable.ofCustom (customScalars clockSettings)).names =
        ["Boolean", "Float", "Int", "ID", "String", "Time"] ∧
      ∃ g, Generator.ofSettings clockSettings = .ok (g, [ScalarTable.ignored "Int"]) ∧
        g.KeepsBuiltins := by
  obtain ⟨hget, hnames, hwarnings, hkeeps⟩ :=
    ScalarTable.ofCustom_builtins (customScalars clockSettings) (by decide)
  obtain ⟨-, hlog, hg⟩ := hkeeps clockSettings _ _ rfl rfl
  exact ⟨hget "Int", hnames, _, congrArg _ (congrArg _ (hlog.trans hwarnings)), hg⟩

end ResolverGen.Go
