import Mathlib.Data.List.Basic
import ResolverGen.Proofs.FirstFailures
import ResolverGen.Proofs.Go.RenderingSteps
import ResolverGen.Proofs.ToldPlaces

/-!
# The first step that fails

Rendering a type fails exactly if one of its steps does, and then with the failure of the first such
step. A failure to find or to render a template tells the type, the field and the variant of its step,
and its text begins with them.
-/
namespace ResolverGen

/-! ## Places in texts -/

/-- The place and the cause of a failure to find or to render a template. -/
def GenerationError.template? : GenerationError → Option (Location × String)
  | resolution e => some (e.location, e.cause.unknownText)
  | rendering e => some (e.location, e.cause.message)
  | _ => none

theorem GenerationError.message_eq_describe {e : GenerationError} {l : Location} {cause : String}
    (h : e.template? = some (l, cause)) : e.message = l.describe cause := by
  cases e with
  | resolution e =>
    obtain ⟨rfl, rfl⟩ := Prod.mk.inj (Option.some.inj h)
    rfl
  | rendering e =>
    obtain ⟨rfl, rfl⟩ := Prod.mk.inj (Option.some.inj h)
    rfl
  | malformedSchema => cases h
  | schema => cases h
  | formatting => cases h
  | collision => cases h

/-- What is known stays if it is told again. -/
theorem firstKnown_self (name? : Option String) : firstKnown name? name? = name? := by
  rcases isVoid_or_exists name? with hvoid | ⟨name, rfl, hname⟩
  · exact firstKnown_of_isVoid hvoid name?
  · exact firstKnown_of_ne hname (some name)

namespace Go

/-! ## What a step tells -/

namespace Step

variable (t : SchemaType)

/-- What the text of a failure to find or to render a template begins with. -/
def opening : Step → String
  | .fieldLookup f variant | .declaration f variant | .method f variant =>
    t.name ++ "." ++ f.name ++ ", template '" ++ variant.name ++ "': "
  | .typeLookup variant | .typeText variant => t.name ++ ", template '" ++ variant.name ++ "': "
  | .fieldType _ | .imports | .format => ""

/-- No name that belongs to the step is empty. -/
def HasNames : Step → Prop
  | .fieldLookup f variant | .declaration f variant | .method f variant =>
    t.name ≠ "" ∧ f.name ≠ "" ∧ variant.name ≠ ""
  | .typeLookup variant | .typeText variant => t.name ≠ "" ∧ variant.name ≠ ""
  | .fieldType _ | .imports | .format => True

/-- If the failure is one to find or to render a template, it tells the place of the step. -/
def Accounts (step : Step) (failure : Failure) : Prop :=
  ∀ e l cause, failure = .generation e → e.template? = some (l, cause) → step.place? t = some l

variable {t} {step : Step} {l : Location}

theorem describe_eq_opening (hl : step.place? t = some l) (h : step.HasNames t) (cause : String) :
    l.describe cause = step.opening t ++ cause := by
  rw [Location.describe_eq]
  cases step with
  | fieldLookup f variant | declaration f variant | method f variant =>
    obtain rfl := Option.some.inj hl
    obtain ⟨htype, hfield, hvariant⟩ := h
    simp only [Location.heading, opening, knownName?_of_ne htype, knownName?_of_ne hfield,
      knownName?_of_ne hvariant]
  | typeLookup variant | typeText variant =>
    obtain rfl := Option.some.inj hl
    obtain ⟨htype, hvariant⟩ := h
    have hfield : knownName? none = none := rfl
    simp only [Location.heading, opening, knownName?_of_ne htype, hfield, knownName?_of_ne hvariant]
  | fieldType => cases hl
  | imports => cases hl
  | format => cases hl

theorem accounts_breakdown (cause : Breakdown) : step.Accounts t (.breakdown cause) := by
  intro e l' text h
  cases h

theorem accounts_schema (fault : SchemaFault) : step.Accounts t (.generation (.schema fault)) := by
  intro e l' text h htemplate
  obtain rfl := Failure.generation.inj h
  cases htemplate

theorem accounts_missing {scope : TemplateScope} {variant : String} (hl : step.place? t = some l)
    (hvariant : l.variant? = some variant) :
    step.Accounts t (Failure.tagged l (.generation
      (.resolution { cause := scope, location := { variant? := some variant } }))) := by
  intro e l' text h htemplate
  obtain rfl := Failure.generation.inj h
  obtain ⟨rfl, -⟩ := Prod.mk.inj (Option.some.inj htemplate)
  have htag : Location.tag { variant? := some variant } l = l := by
    rw [← hvariant, Location.tag, firstKnown_self]
    rfl
  rw [hl, Tagged.location_tag, htag]

theorem accounts_render {templateName : String} (hl : step.place? t = some l)
    (fault : Template.Fault) :
    step.Accounts t (Failure.tagged l (renderFailure templateName fault)) := by
  intro e l' text h htemplate
  obtain rfl := Failure.generation.inj h
  obtain ⟨rfl, -⟩ := Prod.mk.inj (Option.some.inj htemplate)
  exact hl

end Step

namespace Generator

variable (g : Generator) (files : Files) (format : String → Run String) (t : SchemaType)

theorem accounts_fieldType (step : Step) (ref : TypeRef) :
    FailsOnly (step.Accounts t) (g.fieldType ref) := by
  unfold fieldType
  cases typeExpression g.scalars ref with
  | ok text => exact failsOnly_pure text
  | error fault =>
    cases fault with
    | schema fault => exact failsOnly_throw (Step.accounts_schema fault)
    | goTypeNotText => exact failsOnly_throw (Step.accounts_breakdown _)

theorem accounts_checkImports (step : Step) (imports : List Json) :
    FailsOnly (step.Accounts t) (checkImports imports) := by
  unfold checkImports
  split
  · exact failsOnly_pure ()
  · exact failsOnly_throw (Step.accounts_breakdown _)

/-- Before the final form, only steps with a place fail to find or to render a template. -/
theorem accounts_perform (d : Draft) {step : Step} (h : step ≠ .format) :
    FailsOnly (step.Accounts t) (g.perform files format t d step) := by
  cases step with
  | fieldType f => exact (g.accounts_fieldType t _ f.type).bind fun _ => failsOnly_pure _
  | imports => exact (accounts_checkImports t _ _).bind fun _ => failsOnly_pure _
  | fieldLookup f variant | typeLookup variant =>
    refine FailsOnly.tagged (FailsOnly.bind ?_ fun _ => failsOnly_pure _)
    exact failsOnly_found (Step.accounts_missing rfl rfl) fun _ => Step.accounts_breakdown _
  | declaration f variant | method f variant | typeText variant =>
    refine FailsOnly.tagged (FailsOnly.bind ?_ fun _ => failsOnly_pure _)
    exact failsOnly_render _ (Step.accounts_render rfl)
  | format => exact absurd rfl h

/-! ## The first failure -/

/-- From a state, the steps come to one that fails. -/
def FailsAt (s : RunState) (step : Step) (failure : Failure) (s' : RunState) : Prop :=
  ∃ before after, g.steps t = before ++ step :: after ∧
    ∃ d r, (before.foldlM (g.perform files format t) {}).run s = (.ok d, r) ∧
      (g.perform files format t d step).run r = (.error failure, s')

theorem renderTypeWith_error_iff {s s' : RunState} {failure : Failure} :
    (g.renderTypeWith files format t).run s = (.error failure, s') ↔
      ∃ step, g.FailsAt files format t s step failure s' := by
  rw [renderTypeWith_eq_steps, map_run_eq_error_iff, foldlM_run_eq_error_iff]
  constructor
  · rintro ⟨before, step, after, h⟩
    exact ⟨step, before, after, h⟩
  · rintro ⟨step, before, after, h⟩
    exact ⟨before, step, after, h⟩

/-- The final form is refused on behalf of the type. -/
theorem failsOnly_ownFormat (programs : Programs) (code : String) :
    FailsOnly (fun failure => ∃ fault, failure =
      .generation (.formatting { cause := fault, location := { typeName? := some t.name } }))
      (g.ownFormat t programs code) := by
  intro s failure s' h
  unfold ownFormat formatCode at h
  cases hformat : g.formatter.format programs code with
  | ok text =>
    rw [hformat] at h
    cases h
  | error fault =>
    rw [hformat] at h
    obtain rfl := Except.error.inj (Prod.mk.inj h).1
    exact ⟨fault, rfl⟩

/-- Rendering a type takes its steps in order, whatever formatter stands at the end. It fails exactly
if a step does, with the failure of the first that does. A failure to find or to render a template is
one of a field variant or of a type variant; it tells the names that belong to it, and begins with
them if none is empty. A refusal of the generator's own formatter tells the type. -/
theorem renderType_firstFailure :
    g.renderTypeWith files format t =
      Draft.text <$> (g.steps t).foldlM (g.perform files format t) {} ∧
    (∀ s failure s', (g.renderTypeWith files format t).run s = (.error failure, s') ↔
      ∃ step, g.FailsAt files format t s step failure s') ∧
    (∀ s step e s' l cause, g.FailsAt files format t s step (.generation e) s' → step ≠ .format →
      e.template? = some (l, cause) →
        step.place? t = some l ∧ e.message = l.describe cause ∧
          (step.HasNames t → e.message = step.opening t ++ cause)) ∧
    ∀ programs,
      g.renderType files programs t = g.renderTypeWith files (g.ownFormat t programs) t ∧
      ∀ s failure s', g.FailsAt files (g.ownFormat t programs) t s .format failure s' →
        ∃ fault, failure =
          .generation (.formatting { cause := fault, location := { typeName? := some t.name } }) := by
  refine ⟨g.renderTypeWith_eq_steps files format t,
    fun s failure s' => g.renderTypeWith_error_iff files format t, ?_,
    fun programs => ⟨g.renderType_eq files t programs, ?_⟩⟩
  · rintro s step e s' l cause ⟨before, after, -, d, r, -, hfails⟩ hstep htemplate
    have hl : step.place? t = some l :=
      g.accounts_perform files format t d hstep r _ s' hfails e l cause rfl htemplate
    have hmessage := GenerationError.message_eq_describe htemplate
    refine ⟨hl, hmessage, fun hnames => ?_⟩
    rw [hmessage, Step.describe_eq_opening hl hnames]
  · rintro s failure s' ⟨before, after, -, d, r, -, hfails⟩
    exact (g.failsOnly_ownFormat t programs d.text).bind (fun _ => failsOnly_pure _) r failure s'
      hfails

/-! ## Several things broken at once -/

/-- A variant that there is nowhere. -/
def strayVariant : Variant := { name := "nope" }

def strayField : SchemaField := { name := "url", type := .named .scalar "String", owner := "Post" }

def strayType : SchemaType where
  kind := .object
  name := "Post"
  fields := [strayField]

/-- A generator that is to use it for a type and for its field. -/
def strayGenerator : Generator :=
  make { types := [("Post", {
    templates := [strayVariant]
    fields := [("url", { templates := [strayVariant] })] })] } .passthrough

def strayFailure : GenerationError :=
  .resolution { cause := .field, location := ⟨some "Post", some "url", some "nope"⟩ }

theorem failsAt_strayType (s : RunState) :
    strayGenerator.FailsAt {} format strayType s (.fieldLookup strayField strayVariant)
      (.generation strayFailure) s := by
  have hlookup : strayGenerator.store.fieldTemplate? {} strayVariant.name = .ok none := rfl
  refine ⟨[.fieldType strayField], _, rfl, { fields := [{}], goType := "*string" }, s, rfl, ?_⟩
  rw [perform, Step.place?, work, hlookup]
  rfl

/-- Files with templates that write nothing. -/
def blankFiles : Files :=
  ⟨[(["t"], .directory), (["t", "type"], .directory), (["t", "field"], .directory),
    (["t", "type", "default.go.j2"], .file []), (["t", "field", "default.go.j2"], .file []),
    (["t", "field", "default.method.go.j2"], .file [])]⟩

/-- A generator with these templates, whose formatter is a program. -/
def programGenerator : Generator :=
  make { templateDir := .str "t", formatter := .str "gofmt" }
    (.program Formatter.goProgram (some Formatter.defaultTimeout))

def programFailure : Failure :=
  .generation (.formatting {
    cause := .notFound Formatter.goProgram, location := { typeName? := some "Post" } })

/-- Without the program everything is rendered and then refused. -/
theorem failsAt_programGenerator :
    ∃ s', programGenerator.FailsAt blankFiles (programGenerator.ownFormat strayType []) strayType
      (initialState []) .format programFailure s' := by
  have hok : (((strayType.fields.flatMap (programGenerator.fieldSteps strayType) ++
      .imports :: programGenerator.typeSteps strayType).foldlM (programGenerator.perform blankFiles
        (programGenerator.ownFormat strayType []) strayType) {}).run (initialState [])).1.isOk =
          true := by
    decide +kernel
  obtain ⟨d, r, hrun⟩ := exists_run_of_isOk hok
  -- the text does not matter, since there is no program to run on it
  have hrefused : ∃ s', (programGenerator.perform blankFiles
      (programGenerator.ownFormat strayType []) strayType d .format).run r =
        (.error programFailure, s') := ⟨_, rfl⟩
  obtain ⟨s', hs'⟩ := hrefused
  refine ⟨s', _, [], ?_, d, r, hrun, hs'⟩
  simp [steps, closingSteps]

/-- The variant of the field is missed before that of the type, and the text says where. A missing
program is told with the type. -/
theorem renderType_strayType :
    (strayGenerator.renderType {} [] strayType).run (initialState []) =
      (.error (.generation strayFailure), initialState []) ∧
    strayFailure.message = "Post.url, template 'nope': Unknown field template" ∧
    ∃ fault s', (programGenerator.renderType blankFiles [] strayType).run (initialState []) =
      (.error (.generation (.formatting {
        cause := fault, location := { typeName? := some "Post" } })), s') := by
  obtain ⟨-, hfails, htold, -⟩ := strayGenerator.renderType_firstFailure {}
    (strayGenerator.ownFormat strayType []) strayType
  have hstray := failsAt_strayType (strayGenerator.ownFormat strayType []) (initialState [])
  obtain ⟨-, -, hopening⟩ := htold _ _ _ _ _ _ hstray (by simp) rfl
  obtain ⟨-, hfails', -, hrefused⟩ := programGenerator.renderType_firstFailure blankFiles
    (programGenerator.ownFormat strayType []) strayType
  obtain ⟨s', hprogram⟩ := failsAt_programGenerator
  obtain ⟨fault, hfault⟩ := (hrefused []).2 _ _ _ hprogram
  refine ⟨(hfails _ _ _).mpr ⟨_, hstray⟩, ?_, fault, s', ?_⟩
  · exact hopening ⟨by decide, by decide, by decide⟩
  · rw [hfault] at hprogram
    exact (hfails' _ _ _).mpr ⟨_, hprogram⟩

/-- A generator with the same templates, and with a scalar whose import is a list. -/
def listGenerator : Generator :=
  make {
    templateDir := .str "t"
    formatter := .str "none"
    scalars := [("Url", { type := .str "string", importPath := .arr [.str "a"] })] } .passthrough

def listField : SchemaField := { name := "url", type := .named .scalar "Url", owner := "Post" }

def listType : SchemaType where
  kind := .object
  name := "Post"
  fields := [listField]

/-- A generator whose variant for a type has no name. -/
def namelessGenerator : Generator :=
  make { types := [("Post", { templates := [{ name := "" }] })] } .passthrough

def namelessFailure : GenerationError :=
  .resolution { cause := .type, location := ⟨some "Post", none, some ""⟩ }

/-- The imports are a step of their own: it fails where all others come to an end. And an empty name
does not show in the text of a failure. -/
theorem renderType_listType :
    ((listGenerator.renderType blankFiles [] listType).run (initialState [])).1 =
      .error (.breakdown .wrongKind) ∧
    (((listType.fields.flatMap (listGenerator.fieldSteps listType) ++
      (listGenerator.typeSteps listType ++ [Step.format])).foldlM (listGenerator.perform blankFiles
        (listGenerator.ownFormat listType []) listType) {}).run
          (initialState [])).1.isOk = true ∧
    ((namelessGenerator.renderType {} [] { kind := .object, name := "Post" }).run
      (initialState [])).1 = .error (.generation namelessFailure) ∧
    namelessFailure.message = "Post: Unknown type template" :=
  ⟨by decide +kernel, by decide +kernel, by decide +kernel, rfl⟩

end Generator

end Go

end ResolverGen
