import Mathlib.Data.List.Forall2
import ResolverGen.Proofs.FirstFailures
import ResolverGen.Proofs.Go.SteadyRendering
import ResolverGen.Proofs.Tables

/-!
# Runs over a schema

A run is told apart into the choice of the types that get a file and the work on these, one after
another. Each is rendered in the state that the ones before it leave. The work depends on what each
type comes to and on the types done before, whose files are taken. A run comes to a table if all file
names are different and all types can be rendered; or else to the failure of the first type for which
that does not hold. With filters that are steady, what a type comes to does not depend on the state.
-/
namespace ResolverGen.Go.Generator

open Template

/-- Whether a type gets a file: it is not internal, not to be skipped, and of a kind that is
generated. -/
def IsEligible (g : Generator) (t : SchemaType) : Prop :=
  t.name.toList.head? ≠ some internalMark ∧ g.scalars.skips t.name = false ∧
    t.kind ∉ unsupportedKinds

instance (g : Generator) (t : SchemaType) : Decidable (g.IsEligible t) :=
  inferInstanceAs (Decidable (_ ∧ _ ∧ _))

/-- The types of a schema that get a file, in order. -/
def eligible (g : Generator) (types : List SchemaType) : List SchemaType :=
  types.filter (g.IsEligible ·)

/-- The name of a type as its file bears it. -/
def lowerName (t : SchemaType) : String := Text.onChars Text.lower t.name

/-- The failure of a type whose file belongs to another already. -/
def collisionFailure (g : Generator) (owner t : SchemaType) : Failure :=
  .generation (.collision owner.name t.name (g.fileName t.name))

/-- The work on types after others are done, given with what each of them comes to. -/
def resultWork (g : Generator) (done : List SchemaType) :
    List (SchemaType × Except Failure String) → Except Failure (Table String)
  | [] => .ok []
  | (t, result) :: rest =>
    match done.find? fun u => lowerName u = lowerName t with
    | some owner => .error (g.collisionFailure owner t)
    | none => do
      let text ← result
      let others ← g.resultWork (done ++ [t]) rest
      return (g.fileName t.name, text) :: others

/-- The work on types after others are done, given what each type comes to. -/
def fileWork (g : Generator) (render : SchemaType → Except Failure String)
    (done : List SchemaType) : List SchemaType → Except Failure (Table String)
  | [] => .ok []
  | t :: rest =>
    match done.find? fun u => lowerName u = lowerName t with
    | some owner => .error (g.collisionFailure owner t)
    | none => do
      let text ← render t
      let others ← g.fileWork render (done ++ [t]) rest
      return (g.fileName t.name, text) :: others

/-- Types with what a function makes of them. -/
def resultsOf (render : SchemaType → Except Failure String) (types : List SchemaType) :
    List (SchemaType × Except Failure String) :=
  types.map fun t => (t, render t)

theorem fileWork_eq (g : Generator) (render : SchemaType → Except Failure String) :
    ∀ (types done : List SchemaType),
      g.fileWork render done types = g.resultWork done (resultsOf render types)
  | [], _ => rfl
  | t :: rest, done => by
    rw [fileWork, resultsOf, List.map_cons, resultWork]
    cases done.find? fun u => lowerName u = lowerName t with
    | some owner => rfl
    | none => exact bind_congr fun text => by rw [fileWork_eq g render rest]; rfl

/-! ## A run as work on the types that get a file -/

theorem fileName_eq_iff (g : Generator) (t u : SchemaType) :
    g.fileName t.name = g.fileName u.name ↔ lowerName t = lowerName u := by
  unfold fileName lowerName
  rw [String.append_left_inj, String.append_left_inj]

theorem isSilent_eq_false_iff (g : Generator) (t : SchemaType) :
    g.isSilent t = false ↔
      t.name.toList.head? ≠ some internalMark ∧ g.scalars.skips t.name = false := by
  unfold isSilent
  rw [Bool.or_eq_false_iff, decide_eq_false_iff_not]

/-- The owners that a run has noted once types are done. -/
def ownersOf (g : Generator) (done : List SchemaType) : Table String :=
  done.map fun u => (g.fileName u.name, u.name)

theorem get?_ownersOf (g : Generator) (done : List SchemaType) (t : SchemaType) :
    (g.ownersOf done).get? (g.fileName t.name) =
      (done.find? fun u => lowerName u = lowerName t).map (·.name) := by
  unfold ownersOf
  rw [Table.get?_map (fun u : SchemaType => g.fileName u.name) (·.name)]
  simp only [fileName_eq_iff]

theorem put_ownersOf {g : Generator} {done : List SchemaType} {t : SchemaType}
    (h : done.find? (fun u => lowerName u = lowerName t) = none) :
    (g.ownersOf done).put (g.fileName t.name) t.name = g.ownersOf (done ++ [t]) := by
  have hnone : (g.ownersOf done).get? (g.fileName t.name) = none := by
    rw [get?_ownersOf, h]
    rfl
  rw [Table.put_of_get?_eq_none hnone]
  unfold ownersOf
  rw [List.map_append]
  rfl

section

variable {g : Generator} {files : Files} {programs : Programs}
  {render : SchemaType → Except Failure String}

theorem mem_unsupportedKinds_of {t : SchemaType} (hsilent : g.isSilent t = false)
    (ht : ¬g.IsEligible t) : t.kind ∈ unsupportedKinds := by
  by_contra hkind
  obtain ⟨hmark, hskip⟩ := (isSilent_eq_false_iff g t).mp hsilent
  exact ht ⟨hmark, hskip, hkind⟩

/-- A type that gets no file is passed over, with or without a word. -/
theorem settles_generateFrom_pass {t : SchemaType} {rest : List SchemaType} {owners : Table String}
    {r : Except Failure (Table String)} (ht : ¬g.IsEligible t)
    (hrest : Settles IsFaithful (g.generateFrom files programs owners rest) r) :
    Settles IsFaithful (g.generateFrom files programs owners (t :: rest)) r := by
  rw [generateFrom]
  cases hsilent : g.isSilent t with
  | true => exact hrest
  | false =>
    rw [if_neg (by decide), if_pos (mem_unsupportedKinds_of hsilent ht)]
    exact (settles_record _).bind hrest

/-- A type that gets a file has it taken already, or is rendered, and the types after it find it
among those done. -/
theorem settles_generateFrom_work {t : SchemaType} {done rest types : List SchemaType}
    (ht : g.IsEligible t) (hrender : Settles IsFaithful (g.renderType files programs t) (render t))
    (hrest : Settles IsFaithful (g.generateFrom files programs (g.ownersOf (done ++ [t])) rest)
      (g.fileWork render (done ++ [t]) types)) :
    Settles IsFaithful (g.generateFrom files programs (g.ownersOf done) (t :: rest))
      (g.fileWork render done (t :: types)) := by
  have hsilent : g.isSilent t = false := (isSilent_eq_false_iff g t).mpr ⟨ht.1, ht.2.1⟩
  rw [generateFrom, hsilent, if_neg (by decide), if_neg ht.2.2, fileWork]
  dsimp only
  rw [get?_ownersOf]
  cases hfind : done.find? fun u => lowerName u = lowerName t with
  | some owner => exact settles_throw _
  | none =>
    rw [Option.map_none]
    refine (settles_record _).bind ?_
    -- the record and the rendering leave a faithful state, from which the rest settles
    cases htext : render t with
    | error failure =>
      rw [htext] at hrender
      exact hrender.bind_error
    | ok text =>
      rw [htext] at hrender
      refine hrender.bind ?_
      rw [put_ownersOf hfind]
      change Settles IsFaithful _ (g.fileWork render (done ++ [t]) types >>= fun others =>
        pure ((g.fileName t.name, text) :: others))
      cases hothers : g.fileWork render (done ++ [t]) types with
      | error failure =>
        rw [hothers] at hrest
        exact hrest.bind_error
      | ok others =>
        rw [hothers] at hrest
        exact hrest.bind (settles_pure _)

/-- A run settles on the work on the types that get a file, if each type settles on its own. -/
theorem settles_generateFrom
    (hrender : ∀ t, Settles IsFaithful (g.renderType files programs t) (render t)) :
    ∀ (types done : List SchemaType),
      Settles IsFaithful (g.generateFrom files programs (g.ownersOf done) types)
        (g.fileWork render done (g.eligible types))
  | [], done => by
    rw [generateFrom]
    exact settles_pure _
  | t :: rest, done => by
    by_cases ht : g.IsEligible t
    · have heligible : g.eligible (t :: rest) = t :: g.eligible rest :=
        List.filter_cons_of_pos (by simpa using ht)
      rw [heligible]
      exact settles_generateFrom_work ht (hrender t) (settles_generateFrom hrender rest _)
    · have heligible : g.eligible (t :: rest) = g.eligible rest :=
        List.filter_cons_of_neg (by simpa using ht)
      rw [heligible]
      exact settles_generateFrom_pass ht (settles_generateFrom hrender rest done)

end

/-! ## What the work comes to -/

section

variable {g : Generator} {done : List SchemaType} {table : Table String} {failure : Failure}
  {results rest : List (SchemaType × Except Failure String)}

theorem resultWork_cons_ok {t : SchemaType} {result : Except Failure String}
    (h : g.resultWork done ((t, result) :: rest) = .ok table) :
    ∃ text others, (∀ u ∈ done, lowerName u ≠ lowerName t) ∧ result = .ok text ∧
      g.resultWork (done ++ [t]) rest = .ok others ∧
      table = (g.fileName t.name, text) :: others := by
  rw [resultWork] at h
  cases hfind : done.find? fun u => lowerName u = lowerName t with
  | some owner =>
    simp only [hfind] at h
    cases h
  | none =>
    simp only [hfind] at h
    obtain ⟨text, htext, h⟩ := bind_eq_ok_iff.mp h
    obtain ⟨others, hothers, h⟩ := bind_eq_ok_iff.mp h
    refine ⟨text, others, ?_, htext, hothers, (Except.ok.inj h).symm⟩
    simpa using hfind

theorem resultWork_cons_error {t : SchemaType} {result : Except Failure String}
    (h : g.resultWork done ((t, result) :: rest) = .error failure) :
    (∃ owner ∈ done, lowerName owner = lowerName t ∧ failure = g.collisionFailure owner t) ∨
      (∀ u ∈ done, lowerName u ≠ lowerName t) ∧
        (result = .error failure ∨
          (∃ text, result = .ok text) ∧ g.resultWork (done ++ [t]) rest = .error failure) := by
  rw [resultWork] at h
  cases hfind : done.find? fun u => lowerName u = lowerName t with
  | some owner =>
    simp only [hfind] at h
    refine Or.inl ⟨owner, List.mem_of_find?_eq_some hfind, ?_, (Except.error.inj h).symm⟩
    simpa using List.find?_some hfind
  | none =>
    simp only [hfind] at h
    refine Or.inr ⟨by simpa using hfind, ?_⟩
    rcases bind_eq_error_iff.mp h with hresult | ⟨text, htext, h⟩
    · exact Or.inl hresult
    · rcases bind_eq_error_iff.mp h with hrest | ⟨others, -, h⟩
      · exact Or.inr ⟨⟨text, htext⟩, hrest⟩
      · cases h

/-- Whether results make up files of their own: all file names differ, and each is a text. -/
def HaveTexts (results : List (SchemaType × Except Failure String)) : Prop :=
  (results.map (lowerName ·.1)).Nodup ∧ ∀ r ∈ results, ∃ text, r.2 = .ok text

theorem haveTexts_nil : HaveTexts [] := ⟨List.nodup_nil, by simp⟩

/-- A result can be put before others that are done after it. -/
theorem HaveTexts.cons {t : SchemaType} {text : String} (h : HaveTexts results)
    (hfree : ∀ r ∈ results, ∀ v ∈ done ++ [t], lowerName v ≠ lowerName r.1) :
    HaveTexts ((t, .ok text) :: results) := by
  constructor
  · rw [List.map_cons, List.nodup_cons]
    refine ⟨?_, h.1⟩
    intro hmem
    obtain ⟨r, hr, he⟩ := List.mem_map.mp hmem
    exact hfree r hr t (List.mem_append_right done (List.mem_singleton_self t)) he.symm
  · intro r hr
    rcases List.mem_cons.mp hr with rfl | hr
    · exact ⟨text, rfl⟩
    · exact h.2 r hr

/-- A table has an entry for each type, in order: its file name and what it comes to. -/
theorem resultWork_ok :
    ∀ {results : List (SchemaType × Except Failure String)} {done : List SchemaType}
      {table : Table String}, g.resultWork done results = .ok table →
      HaveTexts results ∧ (∀ r ∈ results, ∀ u ∈ done, lowerName u ≠ lowerName r.1) ∧
        List.Forall₂ (fun entry r => entry.1 = g.fileName r.1.name ∧ r.2 = .ok entry.2) table
          results := by
  intro results
  induction results with
  | nil =>
    intro done table h
    obtain rfl : [] = table := Except.ok.inj h
    exact ⟨haveTexts_nil, by simp, .nil⟩
  | cons r rest ih =>
    obtain ⟨t, result⟩ := r
    intro done table h
    obtain ⟨text, others, hfree, rfl, hothers, rfl⟩ := resultWork_cons_ok h
    obtain ⟨hhave, hdone, hentries⟩ := ih hothers
    refine ⟨hhave.cons hdone, ?_, .cons ⟨rfl, rfl⟩ hentries⟩
    intro r hr
    rcases List.mem_cons.mp hr with rfl | hr
    · exact hfree
    · exact fun v hv => hdone r hr v (List.mem_append_left [t] hv)

/-- The failure is that of the first result at which something goes wrong: its file is taken by one
before it, or it is no text. -/
theorem resultWork_error :
    ∀ {results : List (SchemaType × Except Failure String)} {done : List SchemaType},
      g.resultWork done results = .error failure →
      ∃ before t result after, results = before ++ (t, result) :: after ∧ HaveTexts before ∧
        (∀ r ∈ before, ∀ v ∈ done, lowerName v ≠ lowerName r.1) ∧
        ((∃ owner ∈ done ++ before.map (·.1), lowerName owner = lowerName t ∧
            failure = g.collisionFailure owner t) ∨
          (∀ u ∈ done ++ before.map (·.1), lowerName u ≠ lowerName t) ∧
            result = .error failure) := by
  intro results
  induction results with
  | nil =>
    intro done h
    cases h
  | cons r rest ih =>
    obtain ⟨t, result⟩ := r
    intro done h
    rcases resultWork_cons_error h with hcollision | ⟨hfree, herror | ⟨⟨text, rfl⟩, hrest⟩⟩
    · exact ⟨[], t, result, rest, rfl, haveTexts_nil, by simp,
        Or.inl (by simpa using hcollision)⟩
    · exact ⟨[], t, result, rest, rfl, haveTexts_nil, by simp,
        Or.inr ⟨by simpa using hfree, herror⟩⟩
    · obtain ⟨before, u, result, after, rfl, hhave, hdone, hfailure⟩ := ih hrest
      refine ⟨(t, .ok text) :: before, u, result, after, rfl, hhave.cons hdone, ?_, ?_⟩
      · intro r hr
        rcases List.mem_cons.mp hr with rfl | hr
        · exact hfree
        · exact fun w hw => hdone r hr w (List.mem_append_left [t] hw)
      · rwa [List.append_assoc] at hfailure

/-- The failure of results is that of the first one at which something goes wrong: its file is taken
by one before it, or it is no text. -/
def FirstWrong (g : Generator) (results : List (SchemaType × Except Failure String))
    (failure : Failure) : Prop :=
  ∃ before t result after, results = before ++ (t, result) :: after ∧ HaveTexts before ∧
    ((∃ r ∈ before, lowerName r.1 = lowerName t ∧ failure = g.collisionFailure r.1 t) ∨
      (∀ r ∈ before, lowerName r.1 ≠ lowerName t) ∧ result = .error failure)

theorem HaveTexts.not_firstWrong (h : HaveTexts results) (failure : Failure) :
    ¬g.FirstWrong results failure := by
  rintro ⟨before, t, result, after, rfl, _, ⟨r, hr, hsame, _⟩ | ⟨_, herror⟩⟩
  · have hnodup := h.1
    rw [List.map_append, List.map_cons] at hnodup
    exact (List.nodup_append.mp hnodup).2.2 _ (List.mem_map_of_mem hr) _ List.mem_cons_self hsame
  · obtain ⟨text, htext⟩ := h.2 (t, result) (List.mem_append_right before List.mem_cons_self)
    rw [show result = .error failure from herror] at htext
    cases htext

theorem firstWrong_of_resultWork (h : g.resultWork [] results = .error failure) :
    g.FirstWrong results failure := by
  obtain ⟨before, t, result, after, hresults, hhave, _, hwrong⟩ := resultWork_error h
  rw [List.nil_append] at hwrong
  refine ⟨before, t, result, after, hresults, hhave, ?_⟩
  simpa using hwrong

/-- The work comes to a table exactly if all results make up files of their own. -/
theorem exists_resultWork_iff :
    (∃ table, g.resultWork [] results = .ok table) ↔ HaveTexts results := by
  constructor
  · rintro ⟨table, h⟩
    exact (resultWork_ok h).1
  · intro hhave
    cases hwork : g.resultWork [] results with
    | ok table => exact ⟨table, rfl⟩
    | error failure => exact absurd (firstWrong_of_resultWork hwork) (hhave.not_firstWrong failure)

end

section

variable {g : Generator} {render : SchemaType → Except Failure String} {types : List SchemaType}
  {failure : Failure}

/-- Whether types come to files of their own: all file names differ, and each can be rendered. -/
def HaveFiles (render : SchemaType → Except Failure String) (types : List SchemaType) : Prop :=
  (types.map lowerName).Nodup ∧ ∀ t ∈ types, ∃ text, render t = .ok text

theorem haveTexts_resultsOf_iff : HaveTexts (resultsOf render types) ↔ HaveFiles render types := by
  unfold HaveTexts HaveFiles resultsOf
  rw [List.map_map]
  exact and_congr_right fun _ => List.forall_mem_map

/-- A table has an entry for each type, in order: its file name and what it comes to. -/
theorem fileWork_ok {done : List SchemaType} {table : Table String}
    (h : g.fileWork render done types = .ok table) :
    HaveFiles render types ∧ (∀ t ∈ types, ∀ u ∈ done, lowerName u ≠ lowerName t) ∧
      List.Forall₂ (fun entry t => entry.1 = g.fileName t.name ∧ render t = .ok entry.2) table
        types := by
  rw [fileWork_eq] at h
  obtain ⟨hhave, hdone, hentries⟩ := resultWork_ok h
  exact ⟨haveTexts_resultsOf_iff.mp hhave, List.forall_mem_map.mp hdone,
    List.forall₂_map_right_iff.mp hentries⟩

/-- The failure of types is that of the first one at which something goes wrong: its file is taken
by one before it, or it cannot be rendered. -/
def FailsFirst (g : Generator) (render : SchemaType → Except Failure String)
    (types : List SchemaType) (failure : Failure) : Prop :=
  ∃ before t after, types = before ++ t :: after ∧ HaveFiles render before ∧
    ((∃ owner ∈ before, lowerName owner = lowerName t ∧ failure = g.collisionFailure owner t) ∨
      (∀ u ∈ before, lowerName u ≠ lowerName t) ∧ render t = .error failure)

theorem failsFirst_of_firstWrong (h : g.FirstWrong (resultsOf render types) failure) :
    g.FailsFirst render types failure := by
  obtain ⟨results, u, result, later, hresults, hhave, hwrong⟩ := h
  obtain ⟨before, rest, rfl, rfl, hrest⟩ := List.map_eq_append_iff.mp hresults
  obtain ⟨t, after, rfl, ht, -⟩ := List.map_eq_cons_iff.mp hrest
  obtain ⟨rfl, rfl⟩ := Prod.mk.inj ht
  refine ⟨before, t, after, rfl, haveTexts_resultsOf_iff.mp hhave, ?_⟩
  simpa using hwrong

theorem failsFirst_of_fileWork (h : g.fileWork render [] types = .error failure) :
    g.FailsFirst render types failure := by
  rw [fileWork_eq] at h
  exact failsFirst_of_firstWrong (firstWrong_of_resultWork h)

theorem HaveFiles.exists_fileWork (h : HaveFiles render types) :
    ∃ table, g.fileWork render [] types = .ok table := by
  simp only [fileWork_eq]
  exact exists_resultWork_iff.mpr (haveTexts_resultsOf_iff.mpr h)

end

/-! ## The states of a run -/

/-- What each type that gets a file comes to in a run from a state. It is rendered in the state that
is left by the types before it and by what was recorded of them. -/
def results (g : Generator) (files : Files) (programs : Programs) :
    RunState → List SchemaType → List (SchemaType × Except Failure String)
  | _, [] => []
  | s, t :: rest =>
    if g.isSilent t then g.results files programs s rest
    else if t.kind ∈ unsupportedKinds then
      g.results files programs
        { s with
          log := s.log ++
            [⟨.info, t.kind.label ++ " not supported yet, skipping " ++ t.name⟩] } rest
    else
      let rendering := (g.renderType files programs t).run
        { s with
          log := s.log ++ [⟨.info, "Generating Go code for " ++ t.kind.label ++ " " ++ t.name⟩] }
      (t, rendering.1) :: g.results files programs rendering.2 rest

section

variable (g : Generator) (files : Files) (programs : Programs)

/-- The types that a run renders are those that get a file, in order. -/
theorem map_results (types : List SchemaType) :
    ∀ s : RunState, (g.results files programs s types).map (·.1) = g.eligible types := by
  induction types with
  | nil => exact fun _ => rfl
  | cons t rest ih =>
    intro s
    rw [results]
    by_cases ht : g.IsEligible t
    · have hsilent := (isSilent_eq_false_iff g t).mpr ⟨ht.1, ht.2.1⟩
      have heligible : g.eligible (t :: rest) = t :: g.eligible rest :=
        List.filter_cons_of_pos (by simpa using ht)
      rw [hsilent, if_neg Bool.false_ne_true, if_neg ht.2.2, heligible]
      exact congrArg (t :: ·) (ih _)
    · have heligible : g.eligible (t :: rest) = g.eligible rest :=
        List.filter_cons_of_neg (by simpa using ht)
      rw [heligible]
      cases hsilent : g.isSilent t with
      | true =>
        rw [if_pos rfl]
        exact ih s
      | false =>
        rw [if_neg Bool.false_ne_true, if_pos (mem_unsupportedKinds_of hsilent ht)]
        exact ih _

/-- A run is the work on what the types come to in the states that it goes through. -/
theorem generateFrom_run (types : List SchemaType) :
    ∀ (done : List SchemaType) (s : RunState),
      ((g.generateFrom files programs (g.ownersOf done) types).run s).1 =
        g.resultWork done (g.results files programs s types) := by
  induction types with
  | nil => exact fun _ _ => rfl
  | cons t rest ih =>
    intro done s
    rw [generateFrom, results]
    by_cases hsilent : g.isSilent t = true
    · rw [if_pos hsilent, if_pos hsilent]
      exact ih done s
    rw [if_neg hsilent, if_neg hsilent]
    by_cases hkind : t.kind ∈ unsupportedKinds
    · rw [if_pos hkind, if_pos hkind]
      exact ih done _
    rw [if_neg hkind, if_neg hkind, resultWork]
    dsimp only
    rw [get?_ownersOf]
    cases hfind : done.find? fun u => lowerName u = lowerName t with
    | some owner => rfl
    | none =>
      rw [Option.map_none, put_ownersOf hfind, run_bind]
      change ((g.renderType files programs t >>= fun text => _).run
        { s with log := s.log ++ _ }).1 = _
      rw [run_bind]
      rcases hrender : (g.renderType files programs t).run { s with log := s.log ++ _ } with
        ⟨failure | text, after⟩
      · rfl
      · dsimp only
        rw [run_bind, ← ih (done ++ [t]) after]
        rcases (g.generateFrom files programs (g.ownersOf (done ++ [t])) rest).run after with
          ⟨failure | others, last⟩
        · rfl
        · rfl

end

/-! ## What a run comes to -/

section

variable {g : Generator} (hg : ∀ f ∈ g.store.ownFilters, f.IsSteady Faithful) (files : Files)
  (programs : Programs)

/-- What a type comes to by itself, from a state. -/
def rendered (g : Generator) (files : Files) (programs : Programs) (s : RunState) (t : SchemaType) :
    Except Failure String :=
  ((g.renderType files programs t).run s).1

include hg in
/-- A run is the work on the types that get a file, whatever was rendered before. -/
theorem generate_run (schema : Schema) {s s₀ : RunState} (hs : IsFaithful s)
    (hs₀ : IsFaithful s₀) :
    ((g.generate files programs schema).run s).1 =
      g.fileWork (g.rendered files programs s₀) [] (g.eligible schema.types) := by
  have hrender : ∀ t, Settles IsFaithful (g.renderType files programs t)
      (g.rendered files programs s₀ t) :=
    fun t => (steady_renderType hg files programs t).settles hs₀
  unfold generate
  exact (settles_generateFrom hrender schema.types []).result hs

/-- Two types whose names differ in case only, and an internal one. -/
def twinTypes : List SchemaType :=
  [{ kind := .object, name := "Post" }, { kind := .object, name := "__Post" },
    { kind := .object, name := "POST" }]

include hg in
/-- A run comes to a table if and only if the types that get a file come to files of their own in the
states in which the run renders them. The table holds these in order, and without it the run fails for
the first type that cannot have one. The same is said of what the types come to from any one state. -/
theorem generate_result (schema : Schema) {s s₀ : RunState} (hs : IsFaithful s)
    (hs₀ : IsFaithful s₀) :
    (g.results files programs s schema.types).map (·.1) = g.eligible schema.types ∧
    ((∃ table, ((g.generate files programs schema).run s).1 = .ok table) ↔
      HaveTexts (g.results files programs s schema.types)) ∧
    (∀ table, ((g.generate files programs schema).run s).1 = .ok table →
      List.Forall₂ (fun entry r => entry.1 = g.fileName r.1.name ∧ r.2 = .ok entry.2) table
        (g.results files programs s schema.types)) ∧
    (∀ failure, ((g.generate files programs schema).run s).1 = .error failure →
      g.FirstWrong (g.results files programs s schema.types) failure) ∧
    ((∃ table, ((g.generate files programs schema).run s).1 = .ok table) ↔
      HaveFiles (g.rendered files programs s₀) (g.eligible schema.types)) ∧
    (∀ table, ((g.generate files programs schema).run s).1 = .ok table →
      List.Forall₂ (fun entry t => entry.1 = g.fileName t.name ∧
        g.rendered files programs s₀ t = .ok entry.2) table (g.eligible schema.types)) ∧
    ∀ failure, ((g.generate files programs schema).run s).1 = .error failure →
      g.FailsFirst (g.rendered files programs s₀) (g.eligible schema.types) failure := by
  have hthreaded : ((g.generate files programs schema).run s).1 =
      g.resultWork [] (g.results files programs s schema.types) :=
    g.generateFrom_run files programs schema.types [] s
  have hsettled := generate_run hg files programs schema hs hs₀
  refine ⟨g.map_results files programs schema.types s, ?_, ?_, ?_, ?_, ?_, ?_⟩
  · rw [hthreaded]
    exact exists_resultWork_iff
  · intro table h
    exact (resultWork_ok (hthreaded.symm.trans h)).2.2
  · intro failure h
    exact firstWrong_of_resultWork (hthreaded.symm.trans h)
  · rw [hsettled, fileWork_eq, exists_resultWork_iff, haveTexts_resultsOf_iff]
  · intro table h
    exact (fileWork_ok (hsettled.symm.trans h)).2.2
  · intro failure h
    exact failsFirst_of_fileWork (hsettled.symm.trans h)

/-- Types whose names differ in case only come to no table. -/
theorem generate_twinTypes :
    ¬∃ table, (((make {} .passthrough).generate {} [] { types := twinTypes }).run
      (initialState [])).1 = .ok table := by
  have hnames : ¬(((make {} .passthrough).eligible twinTypes).map lowerName).Nodup := by
    decide +kernel
  rw [(generate_result (g := make {} .passthrough) isSteady_filters {} [] _
    (isFaithful_initialState []) (isFaithful_initialState [])).2.2.2.2.1]
  exact fun h => hnames h.1

end

end ResolverGen.Go.Generator
