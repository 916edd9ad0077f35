import ResolverGen.Proofs.Go.GenerateRuns

/-!
# Calls one after another

A generator is asked for several things in its life: the files of a schema, the file of a type, what
a field writes, the final form of a source text. Each call goes on from the state in which the one
before it left off, also where that one failed. As every call keeps the sanitizer faithful and is
steady, what it comes to is what it comes to on a generator that has not been asked before.
-/
namespace ResolverGen.Go.Generator

open Template

/-- What a generator is asked for. -/
inductive Call where
  | generate (schema : Schema)
  | renderType (t : SchemaType)
  /-- The settings of the owner count where none are given. -/
  | renderField (f : SchemaField) (owner : SchemaType) (typeSettings? : Option TypeSettings)
  | formatCode (code : String) (typeName? : Option String)

/-- What a call returns. -/
inductive Answer where
  | files (table : Table String)
  | text (code : String)
  | field (rendered : RenderedField)

variable (g : Generator) (files : Files) (programs : Programs)

/-- The work on a call. -/
def answer : Call → Run Answer
  | .generate schema => do return .files (← g.generate files programs schema)
  | .renderType t => do return .text (← g.renderType files programs t)
  | .renderField f owner typeSettings? => do
    return .field (← g.renderField files f owner
      (typeSettings?.getD (g.settings.type owner.name)))
  | .formatCode code typeName? => do return .text (← g.formatCode programs code typeName?)

/-- The outcomes of calls made one after another from a state. -/
def outcomes : List Call → RunState → List (Except Failure Answer)
  | [], _ => []
  | call :: rest, s =>
    let (outcome, s') := (g.answer files programs call).run s
    outcome :: outcomes rest s'

/-- The outcome of a call on a generator that has not been asked before. -/
def freshOutcome (log : Log) (call : Call) : Except Failure Answer :=
  ((g.answer files programs call).run (initialState log)).1

variable {g}

theorem steady_generate (hg : ∀ f ∈ g.store.ownFilters, f.IsSteady Faithful) (schema : Schema) :
    Steady IsFaithful (g.generate files programs schema) := by
  have hrender : ∀ t, Settles IsFaithful (g.renderType files programs t)
      (g.rendered files programs (initialState []) t) :=
    fun t => (steady_renderType hg files programs t).settles (isFaithful_initialState [])
  exact (settles_generateFrom hrender schema.types []).steady

/-- No call shows what was asked before, and each leaves a faithful sanitizer, also if it fails. -/
theorem steady_answer (hg : ∀ f ∈ g.store.ownFilters, f.IsSteady Faithful) (call : Call) :
    Steady IsFaithful (g.answer files programs call) := by
  cases call with
  | generate schema =>
    exact (steady_generate files programs hg schema).bind fun _ => steady_pure _
  | renderType t =>
    exact (steady_renderType hg files programs t).bind fun _ => steady_pure _
  | renderField f owner typeSettings? =>
    exact (steady_renderField hg files f owner _).bind fun _ => steady_pure _
  | formatCode code typeName? =>
    exact (steady_formatCode programs code typeName?).bind fun _ => steady_pure _

/-- From any faithful state, each call comes to what it comes to on a new generator. -/
theorem outcomes_of_isFaithful (hg : ∀ f ∈ g.store.ownFilters, f.IsSteady Faithful) (log : Log)
    (calls : List Call) {s : RunState} (hs : IsFaithful s) :
    g.outcomes files programs calls s = calls.map (g.freshOutcome files programs log) := by
  induction calls generalizing s with
  | nil => rfl
  | cons call rest ih =>
    -- the call leaves a faithful state, whatever it comes to, and the rest goes on from there
    obtain ⟨s', hs', hrun⟩ := (steady_answer files programs hg call).settles
      (isFaithful_initialState log) s hs
    simp only [outcomes, List.map_cons, hrun, ih hs']
    rfl

/-- What a generator remembers is never observed: the outcomes of calls made one after another are
those of the same calls, each made on a generator of its own. -/
theorem outcomes_eq_fresh (hg : ∀ f ∈ g.store.ownFilters, f.IsSteady Faithful)
    (calls : List Call) (log log' : Log) :
    g.outcomes files programs calls (initialState log) =
      calls.map (g.freshOutcome files programs log') :=
  outcomes_of_isFaithful files programs hg log' calls (isFaithful_initialState log)

/-- A field named by a word of Go. -/
def wordField : SchemaField := { name := "type", type := .named .scalar "String", owner := "Post" }

def wordType : SchemaType := { kind := .object, name := "Post", fields := [wordField] }

/-- A field asked for with a variant that is not there, between its type and a run over it. -/
def wordCalls : List Call :=
  [.renderType wordType,
    .renderField wordField wordType (some { fields := [("type", ⟨[{ name := "unknown" }]⟩)] }),
    .generate { types := [wordType] }]

set_option maxRecDepth 2000 in
/-- The call between the other two fails. -/
example : ∃ failure, (wordCalls.map ((make {} .passthrough).freshOutcome {} [] []))[1]? =
    some (.error failure) :=
  ⟨_, rfl⟩

end ResolverGen.Go.Generator
