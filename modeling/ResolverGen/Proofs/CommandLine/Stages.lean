import ResolverGen.CommandLine.Command
import ResolverGen.Proofs.BuiltinGenerators
import ResolverGen.Proofs.FirstFailures

/-!
# Stages of a run

A run on options reads settings, then a schema text, makes a generator, and generates. What each of
these stages comes to depends on the options and on the world alone, and none of them writes. What is
left at the end is a code to exit with, or files to deliver.
-/
namespace ResolverGen.CommandLine

variable {α β : Type}

/-- Work that comes to a result from any session with given files, and the files that it leaves. What
was shown and recorded before does not count. What is shown on the way is the same on any console; if
the console rejects some of it, the work breaks down there, before files are written or after it. -/
def Leads (files : Files) (work : Console → Work α) (r : Except Interruption α) (after : Files) :
    Prop :=
  ∃ shown : List Display, ∀ (console : Console) (s : Session), s.files = files →
    (shown.any console.rejects = true → ∃ t : Session, (t.files = files ∨ t.files = after) ∧
      (work console).run s = (.error (.breakdown .markup), t)) ∧
    (shown.any console.rejects = false → ∃ t : Session, t.files = after ∧
      t.displays = s.displays ++ shown ∧ (work console).run s = (r, t))

section

variable {files after : Files}

/-- Work that shows nothing. -/
theorem leads_silent {work : Work α} {r : Except Interruption α}
    (h : ∀ s : Session, s.files = files →
      ∃ t : Session, t.files = after ∧ t.displays = s.displays ∧ work.run s = (r, t)) :
    Leads files (fun _ => work) r after := by
  refine ⟨[], fun console s hs => ⟨fun hnone => absurd hnone Bool.false_ne_true, fun _ => ?_⟩⟩
  rw [List.append_nil]
  exact h s hs

theorem leads_pure (a : α) : Leads files (fun _ => pure a) (.ok a) files :=
  leads_silent fun s hs => ⟨s, hs, rfl, rfl⟩

theorem leads_throw (i : Interruption) : Leads files (fun _ => (throw i : Work α)) (.error i) files :=
  leads_silent fun s hs => ⟨s, hs, rfl, rfl⟩

theorem leads_record (log : Log) : Leads files (fun _ => Work.record log) (.ok ()) files :=
  leads_silent fun s hs => ⟨{ s with log := s.log ++ log }, hs, rfl, rfl⟩

theorem showing_cons (console : Console) (d : Display) (rest : List Display) (s : Session) :
    (Work.showing console (d :: rest)).run s =
      if console.rejects d then (.error (.breakdown .markup), s)
      else (Work.showing console rest).run { s with displays := s.displays ++ [d] } := by
  rw [Work.showing]
  split
  · rfl
  · rfl

/-- Displays are shown in their order, up to the first one that is rejected. -/
theorem leads_showing (displays : List Display) :
    Leads files (fun console => Work.showing console displays) (.ok ()) files := by
  refine ⟨displays, fun console => ?_⟩
  induction displays with
  | nil =>
    intro s hs
    exact ⟨fun hnone => absurd hnone Bool.false_ne_true, fun _ => ⟨s, hs, (List.append_nil _).symm, rfl⟩⟩
  | cons d rest ih =>
    intro s hs
    obtain ⟨hrejected, haccepted⟩ := ih { s with displays := s.displays ++ [d] } hs
    rw [showing_cons, List.any_cons]
    cases hd : console.rejects d with
    | true =>
      rw [if_pos rfl, Bool.true_or]
      exact ⟨fun _ => ⟨s, Or.inl hs, rfl⟩, fun h => absurd h (by decide)⟩
    | false =>
      rw [if_neg Bool.false_ne_true, Bool.false_or]
      refine ⟨hrejected, fun hrest => ?_⟩
      obtain ⟨t, ht, hdisplays, hrun⟩ := haccepted hrest
      exact ⟨t, ht, by rw [hdisplays, List.append_assoc]; rfl, hrun⟩

/-- Work goes on from the files that its first part leaves. Only one of its parts changes them. -/
theorem Leads.bind_of {between : Files} {x : Console → Work α} {f : α → Console → Work β} {a : α}
    {r : Except Interruption β} (hx : Leads files x (.ok a) between)
    (hf : Leads between (f a) r after) (hbetween : between = files ∨ between = after) :
    Leads files (fun console => x console >>= fun a => f a console) r after := by
  obtain ⟨first, hx⟩ := hx
  obtain ⟨second, hf⟩ := hf
  refine ⟨first ++ second, fun console s hs => ?_⟩
  obtain ⟨hrejected, haccepted⟩ := hx console s hs
  rw [List.any_append]
  cases hfirst : first.any console.rejects with
  | true =>
    refine ⟨fun _ => ?_, fun h => absurd h (by simp)⟩
    obtain ⟨t, ht, hrun⟩ := hrejected hfirst
    refine ⟨t, ?_, by rw [run_bind, hrun]⟩
    rcases ht with ht | ht
    · exact Or.inl ht
    · rw [ht]
      exact hbetween
  | false =>
    obtain ⟨t, ht, hdisplays, hrun⟩ := haccepted hfirst
    have hwhole : (x console >>= fun a => f a console).run s = (f a console).run t := by
      rw [run_bind, hrun]
    obtain ⟨hrejected', haccepted'⟩ := hf console t ht
    rw [Bool.false_or, hwhole]
    constructor
    · intro hsecond
      obtain ⟨u, hu, hrest⟩ := hrejected' hsecond
      refine ⟨u, ?_, hrest⟩
      rcases hu with hu | hu
      · rw [hu]
        exact hbetween
      · exact Or.inr hu
    · intro hsecond
      obtain ⟨u, hu, hshown, hrest⟩ := haccepted' hsecond
      exact ⟨u, hu, by rw [hshown, hdisplays, List.append_assoc], hrest⟩

theorem Leads.bind {x : Console → Work α} {f : α → Console → Work β} {a : α}
    {r : Except Interruption β} (hx : Leads files x (.ok a) files) (hf : Leads files (f a) r after) :
    Leads files (fun console => x console >>= fun a => f a console) r after :=
  hx.bind_of hf (Or.inl rfl)

theorem Leads.bind_error {x : Console → Work α} {f : α → Console → Work β} {i : Interruption}
    (hx : Leads files x (.error i) after) :
    Leads files (fun console => x console >>= fun a => f a console) (.error i) after := by
  obtain ⟨shown, hx⟩ := hx
  refine ⟨shown, fun console s hs => ?_⟩
  obtain ⟨hrejected, haccepted⟩ := hx console s hs
  constructor
  · intro hshown
    obtain ⟨t, ht, hrun⟩ := hrejected hshown
    exact ⟨t, ht, by rw [run_bind, hrun]⟩
  · intro hshown
    obtain ⟨t, ht, hdisplays, hrun⟩ := haccepted hshown
    exact ⟨t, ht, hdisplays, by rw [run_bind, hrun]⟩

end

/-! ## What the stages come to -/

def Interruption.ofSettings : SettingsFailure → Interruption
  | .config fault => .reported ("Configuration error: " ++ fault.message)
  | .breakdown cause => .breakdown cause

def Interruption.ofSource : SourceFailure → Interruption
  | .source fault => .reported ("Failed to load schema: " ++ fault.message)
  | .fileMissing path => .reported ("Failed to load schema: " ++ missingText path)
  | .breakdown cause => .breakdown cause

/-- The settings that options describe. -/
def settingsOf (files : Files) (o : Options) : Except Interruption Settings :=
  (Settings.load files "go" (overrides o) o.config?).1.mapError .ofSettings

/-- The generator for settings. -/
def generatorOf (settings : Settings) : Except Interruption Go.Generator :=
  (Formatter.ofName settings.formatter).mapError (fun fault => .reported fault.message) >>=
    fun formatter => pure (Go.Generator.make settings formatter)

theorem generatorOf_eq_ok_iff {settings : Settings} {g : Go.Generator} :
    generatorOf settings = .ok g ↔
      ∃ formatter, Formatter.ofName settings.formatter = .ok formatter ∧
        g = Go.Generator.make settings formatter := by
  unfold generatorOf
  cases Formatter.ofName settings.formatter <;>
    simp [bind, Except.bind, pure, Except.pure, @eq_comm _ g]

theorem generatorOf_eq_error_iff {settings : Settings} {i : Interruption} :
    generatorOf settings = .error i ↔
      ∃ fault, Formatter.ofName settings.formatter = .error fault ∧
        i = .reported fault.message := by
  unfold generatorOf
  cases Formatter.ofName settings.formatter <;>
    simp [bind, Except.bind, pure, Except.pure, @eq_comm _ i]

/-- The loading of a schema from the file or from the address that options name. -/
def loading? (world : World) (o : Options) : Option Loading :=
  match given? o.schema?, given? o.url? with
  | some file, _ => some (loadSchema world.files world.fetch file "")
  | none, some url => some (loadSchema world.files world.fetch "" url)
  | none, none => none

/-- The schema text that options describe. -/
def textOf (world : World) (o : Options) : Except Interruption String :=
  match loading? world o with
  | none =>
    if o.fromStdin then .ok world.standardInput
    else .error (.reported "Input source required (schema file, --url, or --stdin)")
  | some (loaded, _) => loaded.mapError .ofSource >>= fun loaded => pure loaded.text

/-- What a run can look at in a world. -/
def World.surface (world : World) : Surface := { files := world.files, programs := world.programs }

/-- The outcome of a generator on a schema text. -/
def outcomeOf (world : World) (g : Go.Generator) (text : String) : Except Breakdown RunOutcome :=
  (((g.toGenerator "GoGenerator" []).outcome world.surface text).run
    (Go.Generator.initialState [])).1

/-- The listing of the templates of a generator. -/
def listingOf (files : Files) (g : Go.Generator) :
    Except Interruption (List (TemplateScope × List String)) :=
  (g.store.listing files).mapError fun fault => .breakdown (.file fault)

/-- What the stages leave to be done. -/
inductive Remainder where
  | exit (code : Nat)
  | deliver (artifacts : Table String)

def Remainder.ofOutcome : Except Breakdown RunOutcome → Except Interruption Remainder
  | .error cause => .error (.breakdown cause)
  | .ok (.failure _) => .ok (.exit 1)
  | .ok (.success artifacts _ _) => .ok (.deliver artifacts)

/-- The stages of a run on options. -/
def stages (world : World) (o : Options) : Except Interruption Remainder :=
  if o.listLanguages then .ok (.exit 0)
  else if Registry.builtin.supports o.language then do
    let settings ← settingsOf world.files o
    if o.listTemplates then
      let g ← generatorOf settings
      let _ ← listingOf world.files g
      return .exit 0
    else
      let text ← textOf world o
      let g ← generatorOf settings
      Remainder.ofOutcome (outcomeOf world g text)
  else .ok (.exit 1)

/-- Whether files are written as asked, and the files that there are then. -/
def delivery (o : Options) (files : Files) (artifacts : Table String) :
    Except Interruption Unit × Files :=
  match given? o.outputDir? with
  | none => (.ok (), files)
  | some directory =>
    let (writing, result) := writeArtifacts files artifacts directory
    (result.mapError fun fault =>
      if fault.cause = .nullCharacter then .breakdown (.file fault)
      else .reported ("Failed to write to " ++ directory ++ ": " ++ fault.message), writing.files)

/-- What a run comes to that goes on from its stages, and the files that it leaves. -/
def finish (o : Options) (files : Files) : Except Interruption Remainder →
    Except Interruption Nat × Files
  | .error i => (.error i, files)
  | .ok (.exit code) => (.ok code, files)
  | .ok (.deliver artifacts) =>
    ((delivery o files artifacts).1 >>= fun _ => pure 0, (delivery o files artifacts).2)

/-- Work that does what is left to do after stages that came to a result. -/
def Finishes (o : Options) (files : Files) (work : Console → Work Nat)
    (rest : Except Interruption Remainder) : Prop :=
  Leads files work (finish o files rest).1 (finish o files rest).2

/-- A stage that writes nothing, and then what is left to do. -/
theorem Leads.finishes {o : Options} {files : Files} {x : Console → Work α}
    {f : α → Console → Work Nat} {r : Except Interruption α}
    {rest : α → Except Interruption Remainder} (hx : Leads files x r files)
    (hf : ∀ a, Finishes o files (f a) (rest a)) :
    Finishes o files (fun console => x console >>= fun a => f a console) (r >>= rest) := by
  cases r with
  | error i => exact hx.bind_error
  | ok a => exact hx.bind (hf a)

/-! ## The stages of the program -/

section

variable (world : World) {o : Options} (files : Files)

theorem leads_settingsFor (h : Registry.builtin.supports o.language = true) :
    Leads files (fun _ => settingsFor .builtin world.files o) (settingsOf world.files o) files := by
  unfold settingsFor settingsOf
  rw [Registry.resolve_builtin_iff.mpr ⟨h, rfl⟩]
  dsimp only
  rcases Settings.load world.files "go" (overrides o) o.config? with
    ⟨(fault | cause) | settings, log⟩
  · exact (leads_record log).bind (leads_throw _)
  · exact (leads_record log).bind (leads_throw _)
  · exact (leads_record log).bind (leads_pure settings)

theorem leads_schemaText (o : Options) :
    Leads files (fun _ => schemaText world o) (textOf world o) files := by
  change Leads files (fun _ => match loading? world o with
    | none => if o.fromStdin then pure world.standardInput
      else Work.report "Input source required (schema file, --url, or --stdin)"
    | some (loaded, log) => _) _ _
  unfold textOf
  cases loading? world o with
  | none =>
    dsimp only
    split
    · exact leads_pure _
    · exact leads_throw _
  | some loading =>
    obtain ⟨loaded, log⟩ := loading
    refine (leads_record log).bind ?_
    rcases loaded with (fault | path | cause) | loaded
    · exact leads_throw _
    · exact leads_throw _
    · exact leads_throw _
    · exact leads_pure _

theorem leads_makeGenerator_error (h : Registry.builtin.supports o.language = true)
    {settings : Settings} {i : Interruption} (hg : generatorOf settings = .error i) :
    Leads files (fun _ => makeGenerator .builtin world.files o.language settings) (.error i)
      files := by
  obtain ⟨fault, hformatter, rfl⟩ := generatorOf_eq_error_iff.mp hg
  unfold makeGenerator
  rw [Registry.create_builtin_eq h]
  dsimp only [Registry.settingsFrom]
  rw [hformatter]
  exact (leads_record _).bind (leads_throw _)

theorem leads_makeGenerator_ok (h : Registry.builtin.supports o.language = true)
    {settings : Settings} {g : Go.Generator} (hg : generatorOf settings = .ok g) :
    ∃ log, Leads files (fun _ => makeGenerator .builtin world.files o.language settings)
      (.ok (g.toGenerator "GoGenerator" log)) files := by
  obtain ⟨formatter, hformatter, rfl⟩ := generatorOf_eq_ok_iff.mp hg
  unfold makeGenerator
  rw [Registry.create_builtin_eq h]
  dsimp only [Registry.settingsFrom]
  rw [hformatter]
  exact ⟨_, (leads_record _).bind (leads_pure _)⟩

theorem finishes_listTemplates (h : Registry.builtin.supports o.language = true)
    (settings : Settings) :
    Finishes o files
      (fun console => listTemplates .builtin world.files console o.language settings)
      (generatorOf settings >>= fun g => listingOf world.files g >>= fun _ => pure (.exit 0)) := by
  unfold listTemplates
  cases hg : generatorOf settings with
  | error i => exact (leads_makeGenerator_error world _ h hg).bind_error
  | ok g =>
    obtain ⟨log, hmake⟩ := leads_makeGenerator_ok world files h hg
    refine hmake.bind ?_
    rw [show (g.toGenerator "GoGenerator" log).store = g.store from rfl]
    dsimp only [bind, Except.bind, listingOf]
    cases g.store.listing world.files with
    | error fault => exact leads_throw _
    | ok listed => exact (leads_showing _).bind (leads_pure 0)

/-- Without any configuration there is always something to tell about Go. -/
theorem info_builtin (files : Files) :
    ∃ info log, Registry.builtin.info files "go" = (.ok info, log) := by
  unfold Registry.info
  rw [Registry.resolve_builtin_iff.mpr ⟨rfl, rfl⟩]
  dsimp only
  rw [Registry.create_builtin_eq rfl]
  exact ⟨_, _, rfl⟩

theorem leads_listLanguages :
    Leads files (fun console => listLanguages .builtin world.files console) (.ok 0) files := by
  have hlanguages : Registry.builtin.languages = ["go"] := by
    simp [Registry.languages, Registry.builtin_eq, TemplateStore.sorted, Table.keys, Table.distinct]
  obtain ⟨info, log, hinfo⟩ := info_builtin world.files
  have hrow : ∃ row, Leads files (fun _ => languageRow .builtin world.files "go") (.ok row)
      files := by
    unfold languageRow
    rw [hinfo]
    exact ⟨_, (leads_record log).bind (leads_pure _)⟩
  obtain ⟨row, hrow⟩ := hrow
  have hrows : Leads files (fun _ => ["go"].mapM (languageRow .builtin world.files)) (.ok [row])
      files := by
    rw [List.mapM_cons, List.mapM_nil]
    exact hrow.bind ((leads_pure []).bind (leads_pure [row]))
  unfold listLanguages
  rw [hlanguages]
  exact hrows.bind ((leads_showing _).bind (leads_pure 0))

/-! ## Delivery and whole runs -/

/-- What is said and done once files were written, or could not be. -/
def afterWriting (console : Console) (directory : String) (writing : Writing)
    (result : Except FileFault Unit) : Work Unit :=
  match result with
  | .ok () =>
    Work.showing console
      [.line ("[green]✓[/green] Wrote " ++ toString writing.written.length ++ " file(s) to [cyan]" ++
        (Path.ofText directory).text ++ "[/cyan]")]
  | .error fault => do
    if fault.cause = .nullCharacter then
      throw (.breakdown (.file fault))
    Work.report ("Failed to write to " ++ directory ++ ": " ++ fault.message)

theorem leads_afterWriting (directory : String) (writing : Writing)
    (result : Except FileFault Unit) :
    Leads files (fun console => afterWriting console directory writing result)
      (result.mapError fun fault =>
        if fault.cause = .nullCharacter then .breakdown (.file fault)
        else .reported ("Failed to write to " ++ directory ++ ": " ++ fault.message)) files := by
  cases result with
  | ok u => exact leads_showing _
  | error fault =>
    by_cases hcause : fault.cause = .nullCharacter
    · simp only [afterWriting, mapError_error, if_pos hcause]
      exact (leads_throw _).bind_error
    · simp only [afterWriting, mapError_error, if_neg hcause]
      exact (leads_pure PUnit.unit).bind (f := fun _ _ => Work.report _) (leads_throw _)

theorem leads_deliver (o : Options) (artifacts : Table String) :
    Leads files (fun console => deliver console o artifacts) (delivery o files artifacts).1
      (delivery o files artifacts).2 := by
  unfold deliver delivery
  cases given? o.outputDir? with
  | none => exact leads_showing _
  | some directory =>
    let writing := (writeArtifacts files artifacts directory).1
    obtain ⟨shown, hafter⟩ := leads_afterWriting writing.files directory writing
      (writeArtifacts files artifacts directory).2
    refine ⟨shown, fun console s hs => ?_⟩
    subst hs
    obtain ⟨hrejected, haccepted⟩ :=
      hafter console { s with files := writing.files, log := s.log ++ writing.log } rfl
    refine ⟨fun hshown => ?_, haccepted⟩
    obtain ⟨t, ht, hrun⟩ := hrejected hshown
    exact ⟨t, Or.inr ((or_self_iff).mp ht), hrun⟩

/-- What follows on the delivery of files leaves them as they are. -/
theorem finishes_deliver (artifacts : Table String) {f : Unit → Console → Work Nat}
    (hf : ∀ after, Leads after (f ()) (.ok 0) after) :
    Finishes o files (fun console => deliver console o artifacts >>= fun u => f u console)
      (.ok (.deliver artifacts)) := by
  have hdeliver := leads_deliver files o artifacts
  change Leads files _ ((delivery o files artifacts).1 >>= fun _ => pure 0)
    (delivery o files artifacts).2
  cases hresult : (delivery o files artifacts).1 with
  | error i =>
    rw [hresult] at hdeliver
    exact hdeliver.bind_error
  | ok u =>
    rw [hresult] at hdeliver
    exact hdeliver.bind_of (hf _) (Or.inr rfl)

/-- A world with another console. -/
def World.on (world : World) (console : Console) : World := { world with console }

/-- Generating goes on to the delivery of the files that there are. -/
theorem finishes_generate (h : Registry.builtin.supports o.language = true) {settings : Settings}
    {text : String} :
    Finishes o world.files
      (fun console => generate .builtin (world.on console) o settings text)
      (generatorOf settings >>= fun g => Remainder.ofOutcome (outcomeOf world g text)) := by
  unfold generate
  cases hg : generatorOf settings with
  | error i => exact (leads_makeGenerator_error world _ h hg).bind_error
  | ok g =>
    obtain ⟨log, hmake⟩ := leads_makeGenerator_ok world world.files h hg
    refine hmake.bind ((leads_showing _).bind ?_)
    unfold World.on
    dsimp only
    refine (leads_record _).bind ?_
    -- the log that the generator was made with is dropped, so that its outcome is `outcomeOf`
    change Finishes o world.files (fun console => match outcomeOf world g text with
      | .error cause => throw (.breakdown cause)
      | .ok (.failure error) => _
      | .ok (.success artifacts warnings facts) => _)
      (Remainder.ofOutcome (outcomeOf world g text))
    rcases outcomeOf world g text with cause | ⟨artifacts, warnings, facts⟩ | error
    · exact leads_throw _
    · refine finishes_deliver world.files artifacts fun after => ?_
      split
      · exact (leads_showing _).bind ((leads_showing _).bind (leads_pure 0))
      · exact (leads_showing _).bind (leads_pure 0)
    · exact (leads_showing _).bind (leads_pure 1)

/-- A run goes through its stages and then delivers what these have left, if it is files. -/
theorem finishes_perform (o : Options) :
    Finishes o world.files (fun console => perform .builtin (world.on console) o)
      (stages world o) := by
  unfold perform stages
  by_cases hlist : o.listLanguages = true
  · rw [if_pos hlist]
    simp only [if_pos hlist]
    exact leads_listLanguages world world.files
  rw [if_neg hlist]
  simp only [if_neg hlist]
  by_cases hsupports : Registry.builtin.supports o.language = true
  · rw [if_pos hsupports]
    simp only [hsupports, Bool.not_true, if_neg Bool.false_ne_true]
    refine (leads_settingsFor world world.files hsupports).finishes fun settings => ?_
    split
    · exact finishes_listTemplates world world.files hsupports settings
    · refine (leads_schemaText world world.files o).finishes fun text => ?_
      exact finishes_generate world hsupports
  · rw [if_neg hsupports]
    simp only [Bool.not_eq_true _ ▸ hsupports, Bool.not_false, if_pos trivial]
    exact (leads_showing _).bind (leads_pure 1)

/-- How a run ends that came to a code or was interrupted. -/
def Ending.ofResult : Except Interruption Nat → Ending
  | .ok code => .exit code
  | .error (.reported _) => .exit 1
  | .error (.breakdown cause) => .breakdown cause

/-- What a run says at its end. -/
def lastDisplays : Except Interruption Nat → List Display
  | .error (.reported text) => [errorLine text]
  | _ => []

@[simp] theorem rejects_default (d : Display) : ({} : Console).rejects d = false := by
  simp [Console.rejects]

/-- What a run on options shows on a console that takes all of it. -/
def displaysOf (world : World) (o : Options) : List Display :=
  (runWith .builtin (world.on {}) o).2.displays

/-- A run shows the same on any console up to what is rejected. -/
theorem exists_shown (o : Options) :
    ∃ shown : List Display, ∀ console : Console,
      (shown.any console.rejects = true →
        (runWith .builtin (world.on console) o).1 = .breakdown .markup ∧
        ((runWith .builtin (world.on console) o).2.files = world.files ∨
          (runWith .builtin (world.on console) o).2.files =
            (finish o world.files (stages world o)).2)) ∧
      (shown.any console.rejects = false →
        (runWith .builtin (world.on console) o).1 =
          .ofResult (finish o world.files (stages world o)).1 ∧
        (runWith .builtin (world.on console) o).2.files =
          (finish o world.files (stages world o)).2 ∧
        (runWith .builtin (world.on console) o).2.displays = shown) := by
  obtain ⟨shown, hperform⟩ := finishes_perform world o
  generalize finish o world.files (stages world o) = finished at hperform ⊢
  obtain ⟨result, after⟩ := finished
  refine ⟨shown ++ lastDisplays result, fun console => ?_⟩
  obtain ⟨hrejected, haccepted⟩ := hperform console { files := world.files } rfl
  have hfiles : (world.on console).files = world.files := rfl
  unfold runWith
  rw [hfiles, List.any_append]
  cases hshown : shown.any console.rejects with
  | true =>
    obtain ⟨t, ht, hrun⟩ := hrejected hshown
    rw [hrun]
    exact ⟨fun _ => ⟨rfl, ht⟩, fun h => absurd h (by simp)⟩
  | false =>
    obtain ⟨t, ht, hdisplays, hrun⟩ := haccepted hshown
    rw [hrun, Bool.false_or]
    rcases result with (text | cause) | code
    · have hlast : (lastDisplays (.error (.reported text))).any console.rejects =
          console.rejects (errorLine text) := by
        simp [lastDisplays]
      rw [hlast]
      dsimp only
      cases herror : console.rejects (errorLine text) with
      | true =>
        rw [show (world.on console).console.rejects (errorLine text) = true from herror, if_pos rfl]
        exact ⟨fun _ => ⟨rfl, Or.inr ht⟩, fun h => absurd h (by decide)⟩
      | false =>
        rw [show (world.on console).console.rejects (errorLine text) = false from herror,
          if_neg (by decide)]
        exact ⟨fun h => absurd h (by decide),
          fun _ => ⟨rfl, ht, by rw [hdisplays]; rfl⟩⟩
    · exact ⟨fun h => absurd h Bool.false_ne_true,
        fun _ => ⟨rfl, ht, by rw [hdisplays]; exact (List.append_nil _).symm⟩⟩
    · exact ⟨fun h => absurd h Bool.false_ne_true,
        fun _ => ⟨rfl, ht, by rw [hdisplays]; exact (List.append_nil _).symm⟩⟩

/-- The ending of a run on options and the files after it, from what its stages leave. A rejected
display breaks it down, before files are written or after it. -/
theorem runWith_eq (o : Options) :
    ((displaysOf world o).any world.console.rejects = true →
      (runWith .builtin world o).1 = .breakdown .markup ∧
      ((runWith .builtin world o).2.files = world.files ∨
        (runWith .builtin world o).2.files = (finish o world.files (stages world o)).2)) ∧
    ((displaysOf world o).any world.console.rejects = false →
      (runWith .builtin world o).1 = .ofResult (finish o world.files (stages world o)).1 ∧
      (runWith .builtin world o).2.files = (finish o world.files (stages world o)).2) := by
  obtain ⟨shown, hshown⟩ := exists_shown world o
  have hnone : shown.any ({} : Console).rejects = false := by
    rw [List.any_eq_false]
    intro d _
    simp
  have hdisplays : displaysOf world o = shown := ((hshown {}).2 hnone).2.2
  obtain ⟨hrejected, haccepted⟩ := hshown world.console
  rw [hdisplays]
  exact ⟨hrejected, fun h => ⟨(haccepted h).1, (haccepted h).2.1⟩⟩

end

end ResolverGen.CommandLine
