import ResolverGen.Proofs.Steady
import ResolverGen.Template.Engine

/-!
# Rendering does not show what the sanitizer remembers

If no filter shows what the sanitizer remembers, then no expression, no statement and no template
does. The proof goes along the syntax; templates that include others are taken by how deep they
nest.
-/
namespace ResolverGen.Template

variable {I : Sanitizer → Prop}

/-- A filter that does not show what the sanitizer remembers. -/
def Filter.IsSteady (I : Sanitizer → Prop) (f : Filter) : Prop := ∀ args, Steady I (f.run args)

theorem steady_ofExcept {α : Type} (x : Except Fault α) : Steady I (Eval.ofExcept x) := by
  cases x with
  | ok a => exact steady_pure a
  | error fault => exact steady_throw fault

/-! ## Filters -/

theorem isSteady_textFilter (name function parameter : String) (f : String → String) :
    (textFilter name function parameter f).IsSteady I := by
  intro args
  unfold textFilter
  dsimp only
  split
  · exact (steady_ofExcept _).bind fun s => steady_pure _
  · exact steady_pure _

theorem isSteady_plainFilter (name : String) (signature : Signature)
    (f : List Value → Except Fault Value) : (plainFilter name signature f).IsSteady I :=
  fun args => steady_ofExcept (f args)

theorem isSteady_lengthFilter (name : String) : (lengthFilter name).IsSteady I := by
  intro args
  unfold lengthFilter
  dsimp only
  split
  · exact (steady_ofExcept _).bind fun n => steady_pure _
  · exact steady_pure _

/-- The filters that do not belong to a language never ask the sanitizer. -/
theorem isSteady_commonFilters : ∀ f ∈ commonFilters, f.IsSteady I := by
  intro f hf
  unfold commonFilters namingFilters generalFilters at hf
  simp only [List.cons_append, List.nil_append, List.mem_cons, List.not_mem_nil, or_false] at hf
  rcases hf with rfl | rfl | rfl | rfl | rfl | rfl | rfl | rfl | rfl | rfl | rfl | rfl | rfl | rfl |
    rfl | rfl | rfl | rfl
  · exact isSteady_textFilter _ _ _ _
  · exact isSteady_textFilter _ _ _ _
  · exact isSteady_textFilter _ _ _ _
  · exact isSteady_textFilter _ _ _ _
  · exact isSteady_textFilter _ _ _ _
  · exact isSteady_plainFilter _ _ _
  · exact isSteady_plainFilter _ _ _
  · exact isSteady_textFilter _ _ _ _
  · exact isSteady_textFilter _ _ _ _
  · exact isSteady_plainFilter _ _ _
  · exact isSteady_plainFilter _ _ _
  · exact isSteady_lengthFilter _
  · exact isSteady_lengthFilter _
  · exact isSteady_plainFilter _ _ _
  · exact isSteady_plainFilter _ _ _
  · exact isSteady_plainFilter _ _ _
  · exact isSteady_plainFilter _ _ _
  · exact isSteady_plainFilter _ _ _

/-- Surroundings whose filters and other templates do not show what the sanitizer remembers. -/
structure Surroundings.IsSteady (I : Sanitizer → Prop) (c : Surroundings) : Prop where
  filters : ∀ f ∈ c.filters, f.IsSteady I
  others : ∀ v mayBeMissing names, Steady I (c.renderOther v mayBeMissing names)

variable {c : Surroundings}

theorem Surroundings.IsSteady.applyFilter (hc : c.IsSteady I) (name : String) (input : Value)
    (args : List Value) (named : List (String × Value)) :
    Steady I (c.applyFilter name input args named) := by
  unfold Surroundings.applyFilter
  cases hf : findFilter? c.filters name with
  | none => exact steady_throw _
  | some f =>
    have hmem : f ∈ c.filters := List.mem_of_find?_eq_some hf
    unfold Filter.apply
    exact (steady_ofExcept _).bind fun values => hc.filters f hmem values

/-! ## Expressions -/

mutual

/-- The value of an expression does not show what the sanitizer remembers. -/
theorem Expr.steady (hc : c.IsSteady I) (s : Scope) : ∀ e : Expr, Steady I (e.eval c s)
  | .constant k => by
    rw [Expr.eval]
    exact steady_pure _
  | .name x => by
    rw [Expr.eval]
    exact steady_pure _
  | .captured => by
    rw [Expr.eval]
    exact steady_pure _
  | .tuple items => by
    rw [Expr.eval]
    exact (evalAll_steady hc s items).bind fun vs => steady_pure _
  | .list items => by
    rw [Expr.eval]
    exact (evalAll_steady hc s items).bind fun vs => steady_pure _
  | .dict entries => by
    rw [Expr.eval]
    exact (evalPairs_steady hc s entries).bind fun vs => steady_ofExcept _
  | .attribute object name => by
    rw [Expr.eval]
    exact (Expr.steady hc s object).bind fun v => steady_ofExcept _
  | .item object index => by
    rw [Expr.eval]
    refine (Expr.steady hc s object).bind fun v => ?_
    exact (Expr.steady hc s index).bind fun w => steady_ofExcept _
  | .slice object first last step => by
    rw [Expr.eval]
    refine (Expr.steady hc s object).bind fun v => ?_
    refine (Expr.steady hc s first).bind fun i => ?_
    refine (Expr.steady hc s last).bind fun j => ?_
    exact (Expr.steady hc s step).bind fun k => steady_ofExcept _
  | .call callee args named => by
    rw [Expr.eval]
    refine (Expr.steady hc s callee).bind fun f => ?_
    refine (evalAll_steady hc s args).bind fun vs => ?_
    exact (evalNamed_steady hc s named).bind fun ws => steady_ofExcept _
  | .filter input name args named => by
    rw [Expr.eval]
    refine (Expr.steady hc s input).bind fun v => ?_
    refine (evalAll_steady hc s args).bind fun vs => ?_
    exact (evalNamed_steady hc s named).bind fun ws => hc.applyFilter name v vs ws
  | .test input name args named => by
    rw [Expr.eval]
    refine (Expr.steady hc s input).bind fun v => ?_
    refine (evalAll_steady hc s args).bind fun vs => ?_
    exact (evalNamed_steady hc s named).bind fun ws => steady_ofExcept _
  | .neg e => by
    rw [Expr.eval]
    exact (Expr.steady hc s e).bind fun v => steady_ofExcept _
  | .pos e => by
    rw [Expr.eval]
    exact (Expr.steady hc s e).bind fun v => steady_ofExcept _
  | .not e => by
    rw [Expr.eval]
    refine (Expr.steady hc s e).bind fun v => ?_
    exact (steady_ofExcept _).bind fun b => steady_pure _
  | .binary op a b => by
    rw [Expr.eval]
    refine (Expr.steady hc s a).bind fun v => ?_
    exact (Expr.steady hc s b).bind fun w => steady_ofExcept _
  | .concat items => by
    rw [Expr.eval]
    refine (evalAll_steady hc s items).bind fun vs => ?_
    exact (steady_ofExcept _).bind fun texts => steady_pure _
  | .compare first rest => by
    rw [Expr.eval]
    exact (Expr.steady hc s first).bind fun v => evalCompared_steady hc s rest v
  | .and a b => by
    rw [Expr.eval]
    refine (Expr.steady hc s a).bind fun v => (steady_ofExcept _).bind fun r => ?_
    exact Steady.ite (Expr.steady hc s b) (steady_pure v)
  | .or a b => by
    rw [Expr.eval]
    refine (Expr.steady hc s a).bind fun v => (steady_ofExcept _).bind fun r => ?_
    exact Steady.ite (steady_pure v) (Expr.steady hc s b)
  | .choice test yes no => by
    rw [Expr.eval]
    refine (Expr.steady hc s test).bind fun v => (steady_ofExcept _).bind fun r => ?_
    exact Steady.ite (Expr.steady hc s yes) (Expr.steady hc s no)
  | .only test yes line => by
    rw [Expr.eval]
    refine (Expr.steady hc s test).bind fun v => (steady_ofExcept _).bind fun r => ?_
    exact Steady.ite (Expr.steady hc s yes) (steady_pure _)

theorem evalAll_steady (hc : c.IsSteady I) (s : Scope) :
    ∀ es : List Expr, Steady I (evalAll c s es)
  | [] => by
    rw [evalAll]
    exact steady_pure _
  | e :: rest => by
    rw [evalAll]
    refine (Expr.steady hc s e).bind fun v => ?_
    exact (evalAll_steady hc s rest).bind fun vs => steady_pure _

theorem evalPairs_steady (hc : c.IsSteady I) (s : Scope) :
    ∀ es : List (Expr × Expr), Steady I (evalPairs c s es)
  | [] => by
    rw [evalPairs]
    exact steady_pure _
  | (key, value) :: rest => by
    rw [evalPairs]
    refine (Expr.steady hc s key).bind fun k => (Expr.steady hc s value).bind fun v => ?_
    exact (evalPairs_steady hc s rest).bind fun vs => steady_pure _

theorem evalNamed_steady (hc : c.IsSteady I) (s : Scope) :
    ∀ es : List (String × Expr), Steady I (evalNamed c s es)
  | [] => by
    rw [evalNamed]
    exact steady_pure _
  | (name, e) :: rest => by
    rw [evalNamed]
    refine (Expr.steady hc s e).bind fun v => ?_
    exact (evalNamed_steady hc s rest).bind fun vs => steady_pure _

theorem evalCompared_steady (hc : c.IsSteady I) (s : Scope) :
    ∀ (es : List (CompareOp × Expr)) (left : Value), Steady I (evalCompared c s left es)
  | [], left => by
    rw [evalCompared]
    exact steady_pure _
  | (op, e) :: rest, left => by
    rw [evalCompared]
    refine (Expr.steady hc s e).bind fun right => (steady_ofExcept _).bind fun r => ?_
    exact Steady.ite (evalCompared_steady hc s rest right) (steady_pure _)

end

/-! ## Statements -/

theorem keepItems_run (condition : Value → Eval Bool) (item : Value) (rest : List Value)
    (s : Sanitizer) :
    (keepItems condition (item :: rest)).run s =
      match (condition item).run s with
      | (.ok true, s') => (keepItems condition rest >>= fun p => pure (item :: p.1, p.2)).run s'
      | (.ok false, s') => (keepItems condition rest).run s'
      | (.error fault, s') => (.ok ([], some fault), s') := rfl

/-- The choice of items stops at the first fault, and that fault does not depend on the state. -/
theorem keepItems_steady {condition : Value → Eval Bool} (h : ∀ v, Steady I (condition v)) :
    ∀ items : List Value, Steady I (keepItems condition items)
  | [] => steady_pure _
  | item :: rest => by
    obtain ⟨r, hr⟩ := h item
    have hrest := keepItems_steady h rest
    rcases r with fault | kept
    · refine ⟨.ok ([], some fault), fun s hs => ?_⟩
      obtain ⟨s', hs', hrun⟩ := hr s hs
      exact ⟨s', hs', by rw [keepItems_run, hrun]⟩
    · cases kept with
      | false =>
        obtain ⟨q, hq⟩ := hrest
        refine ⟨q, fun s hs => ?_⟩
        obtain ⟨s', hs', hrun⟩ := hr s hs
        rw [keepItems_run, hrun]
        exact hq s' hs'
      | true =>
        obtain ⟨q, hq⟩ := hrest.bind fun p : List Value × Option Fault =>
          (steady_pure (item :: p.1, p.2) : Steady I (pure _ : Eval _))
        refine ⟨q, fun s hs => ?_⟩
        obtain ⟨s', hs', hrun⟩ := hr s hs
        rw [keepItems_run, hrun]
        exact hq s' hs'

theorem repeatBody_steady {body : Value → Nat → Eval String} (h : ∀ v i, Steady I (body v i)) :
    ∀ (items : List Value) (i : Nat), Steady I (repeatBody body i items)
  | [], i => by
    rw [repeatBody]
    exact steady_pure _
  | item :: rest, i => by
    rw [repeatBody]
    refine (h item i).bind fun part => ?_
    exact (repeatBody_steady h rest (i + 1)).bind fun parts => steady_pure _

mutual

/-- What a statement writes does not show what the sanitizer remembers. -/
theorem Stmt.steady (hc : c.IsSteady I) (names : Table Value) :
    ∀ s : Stmt, Steady I (s.run c names)
  | .text s => by
    rw [Stmt.run]
    exact steady_pure _
  | .output e => by
    rw [Stmt.run]
    refine (Expr.steady hc _ e).bind fun v => ?_
    exact (steady_ofExcept _).bind fun text => steady_pure _
  | .branch test yes no => by
    rw [Stmt.run]
    refine (Expr.steady hc _ test).bind fun v => (steady_ofExcept _).bind fun r => ?_
    exact Steady.ite (runBody_steady hc names yes) (runBody_steady hc names no)
  | .loop target items condition? body otherwise => by
    rw [Stmt.run]
    refine (Expr.steady hc _ items).bind fun v => (steady_ofExcept _).bind fun all => ?_
    have hbody : ∀ kept : List Value, ∀ item : Value, ∀ i : Nat, Steady I (do
        let inner ← Eval.ofExcept (target.assign names item)
        let inner := if bodyMentions placeName body then
          inner.put placeName (loopRecord kept i) else inner
        return (← runBody c inner body).1) := fun kept item i =>
      (steady_ofExcept _).bind fun inner =>
        (runBody_steady hc _ body).bind fun p => steady_pure _
    have hrest : ∀ p : List Value × Option Fault, Steady I (do
        let parts ← repeatBody (fun item i => do
          let inner ← Eval.ofExcept (target.assign names item)
          let inner := if bodyMentions placeName body then
            inner.put placeName (loopRecord p.1 i) else inner
          return (← runBody c inner body).1) 0 p.1
        if let some fault := p.2 then
          throw fault
        if p.1.isEmpty then
          return ((← runBody c names otherwise).1, names)
        return (String.join parts, names)) := by
      intro p
      refine (repeatBody_steady (hbody p.1) p.1 0).bind fun parts => ?_
      rcases p.2 with _ | fault
      · refine Steady.ite ?_ (steady_pure _)
        exact (runBody_steady hc names otherwise).bind fun q => steady_pure _
      · exact (steady_throw fault).bind fun _ => Steady.ite
          ((runBody_steady hc names otherwise).bind fun q => steady_pure _) (steady_pure _)
    cases condition? with
    | none => exact (steady_pure (all, none)).bind hrest
    | some condition =>
      refine (keepItems_steady (fun item => ?_) all).bind hrest
      refine (steady_ofExcept _).bind fun inner => ?_
      exact (Expr.steady hc _ condition).bind fun v => steady_ofExcept _
  | .assign target value => by
    rw [Stmt.run]
    have hassign : Steady I (do
        let v ← value.eval c ⟨names, ""⟩
        return ("", ← Eval.ofExcept (target.assign names v))) :=
      (Expr.steady hc _ value).bind fun v => (steady_ofExcept _).bind fun names' => steady_pure _
    cases target.hasAttribute with
    | true => exact (steady_throw _).bind fun _ => hassign
    | false => exact hassign
  | .capture target value body => by
    rw [Stmt.run]
    refine (runBody_steady hc names body).bind fun p => ?_
    refine (Expr.steady hc _ value).bind fun v => ?_
    exact (steady_ofExcept _).bind fun names' => steady_pure _
  | .include name mayBeMissing withContext => by
    rw [Stmt.run]
    refine (Expr.steady hc _ name).bind fun v => ?_
    exact (hc.others v mayBeMissing _).bind fun text => steady_pure _

theorem runBody_steady (hc : c.IsSteady I) :
    ∀ (names : Table Value) (body : List Stmt), Steady I (runBody c names body)
  | names, [] => by
    rw [runBody]
    exact steady_pure _
  | names, s :: rest => by
    rw [runBody]
    refine (Stmt.steady hc names s).bind fun p => ?_
    exact (runBody_steady hc p.2 rest).bind fun q => steady_pure _

end

/-! ## Templates -/

/-- A template with all that it includes does not show what the sanitizer remembers. -/
theorem Engine.steady_renderNested {e : Engine} (he : ∀ f ∈ e.ownFilters, f.IsSteady I) :
    ∀ (depth : Nat) (templateName? : Option String) (source : String) (names : Table Value),
      Steady I (e.renderNested depth templateName? source names)
  | 0, _, _, _ => by
    rw [Engine.renderNested]
    exact steady_throw _
  | depth + 1, templateName?, source, names => by
    rw [Engine.renderNested]
    cases e.compile source with
    | error fault => exact steady_throw _
    | ok stmts =>
      refine (runBody_steady ⟨?_, ?_⟩ names stmts).bind fun p => steady_pure _
      · intro f hf
        rcases List.mem_append.mp hf with hf | hf
        · exact he f hf
        · exact isSteady_commonFilters f hf
      · intro v mayBeMissing names'
        dsimp only
        cases e.select v with
        | ok found => exact Engine.steady_renderNested he depth _ _ _
        | error fault => exact Steady.ite (steady_pure _) (steady_throw _)

theorem Engine.steady_render {e : Engine} (he : ∀ f ∈ e.ownFilters, f.IsSteady I)
    (source : String) (context : Table Value) : Steady I (e.render source context) := by
  unfold Engine.render
  cases e.compile source with
  | error fault => exact steady_throw _
  | ok stmts =>
    dsimp only
    split
    · exact (steady_throw _).bind fun _ => Engine.steady_renderNested he _ _ _ _
    · exact Engine.steady_renderNested he _ _ _ _

end ResolverGen.Template
