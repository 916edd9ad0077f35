import ResolverGen.Proofs.Parallel
import ResolverGen.Template.Engine

/-!
# Templates in scopes that are alike

Two scopes may differ in what a template does not show. A likeness tells how they may differ. It
admits expressions that are worth the same in alike scopes, and it fixes names, so that scopes stay
alike when any other name is set. A template that keeps to these writes the same in both. That is said
of statements first, along the syntax.
-/
namespace ResolverGen.Template

/-- Whether a condition holds. -/
def Expr.holds (c : Surroundings) (names : Table Value) (e : Expr) : Eval Bool := do
  Eval.ofExcept (truth (← e.eval c ⟨names, ""⟩))

/-- How scopes may differ, and what keeps to that. -/
structure Likeness where
  alike : Table Value → Table Value → Prop
  admits : Expr → Bool
  /-- Conditions that hold in neither of two scopes. -/
  skips : Expr → Bool
  /-- Names that are not set. -/
  fixed : List String
  eval_eq : ∀ {m n : Table Value} (c : Surroundings) {e : Expr}, alike m n → admits e = true →
    ∀ captured, e.eval c ⟨m, captured⟩ = e.eval c ⟨n, captured⟩
  fails : ∀ {m n : Table Value} (c : Surroundings) {e : Expr}, alike m n → skips e = true →
    Parallel (fun a b => a = false ∧ b = false) (e.holds c m) (e.holds c n)
  put : ∀ {m n : Table Value} {x : String}, alike m n → x ∉ fixed →
    ∀ w, alike (m.put x w) (n.put x w)
  place : placeName ∉ fixed

/-- Whether a target sets no name that is fixed. -/
def Likeness.spares (l : Likeness) (t : Target) : Bool := l.fixed.all fun x => !t.binds x

mutual

/-- Whether a statement keeps to a likeness. -/
def Stmt.keepsTo (l : Likeness) : Stmt → Bool
  | .text _ => true
  | .output e => l.admits e
  | .branch test yes no =>
    (l.skips test || (l.admits test && bodyKeepsTo l yes)) && bodyKeepsTo l no
  | .loop target items none body otherwise =>
    l.spares target && l.admits items && bodyKeepsTo l body && bodyKeepsTo l otherwise
  | .loop target items (some condition) body otherwise =>
    l.spares target && l.admits items && l.admits condition && bodyKeepsTo l body &&
      bodyKeepsTo l otherwise
  | .assign target value => l.spares target && l.admits value
  | .capture target value body => l.spares target && l.admits value && bodyKeepsTo l body
  | .include .. => false

def bodyKeepsTo (l : Likeness) : List Stmt → Bool
  | [] => true
  | s :: rest => s.keepsTo l && bodyKeepsTo l rest

end

/-! ## Assignment -/

mutual

/-- An assignment that sets no fixed name does the same in both scopes. -/
theorem Target.assign_matches {l : Likeness} {m n : Table Value} (h : l.alike m n) (w : Value) :
    ∀ t : Target, (∀ x ∈ l.fixed, t.binds x = false) →
      Matches l.alike (t.assign m w) (t.assign n w)
  | .name x, ht => by
    have hx : x ∉ l.fixed := by
      intro hmem
      have hfree := ht x hmem
      simp [Target.binds] at hfree
    rw [Target.assign, Target.assign]
    exact .ok (l.put h hx w)
  | .attribute .., _ => by
    rw [Target.assign, Target.assign]
    exact .error _
  | .tuple items, ht => by
    rw [Target.assign, Target.assign]
    refine (Matches.refl (unpack items.length w)).bind ?_
    rintro ws _ rfl
    exact assignAll_matches h ws items fun x hx => by simpa [Target.binds] using ht x hx

theorem assignAll_matches {l : Likeness} {m n : Table Value} (h : l.alike m n) :
    ∀ (ws : List Value) (ts : List Target), (∀ x ∈ l.fixed, anyBinds x ts = false) →
      Matches l.alike (assignAll m ws ts) (assignAll n ws ts)
  | w :: ws, t :: ts, ht => by
    have hparts : ∀ x ∈ l.fixed, t.binds x = false ∧ anyBinds x ts = false :=
      fun x hx => by simpa [anyBinds] using ht x hx
    rw [assignAll, assignAll]
    refine (Target.assign_matches h w t fun x hx => (hparts x hx).1).bind ?_
    intro m' n' h'
    exact assignAll_matches h' ws ts fun x hx => (hparts x hx).2
  | [], _, _ => by
    rw [assignAll, assignAll]
    · exact .ok h
    all_goals simp
  | _ :: _, [], _ => by
    rw [assignAll, assignAll]
    · exact .ok h
    all_goals simp

end

theorem parallel_ofExcept {α β : Type} {R : α → β → Prop} {x : Except Fault α}
    {y : Except Fault β} (h : Matches R x y) :
    Parallel R (Eval.ofExcept x) (Eval.ofExcept y) := by
  cases h with
  | error fault => exact parallel_throw fault
  | ok h => exact parallel_pure h

namespace Likeness

variable {l : Likeness} {m n : Table Value} {c : Surroundings}

theorem parallel_assign (h : l.alike m n) {t : Target} (ht : l.spares t = true) (w : Value) :
    Parallel l.alike (Eval.ofExcept (t.assign m w)) (Eval.ofExcept (t.assign n w)) := by
  refine parallel_ofExcept (t.assign_matches h w fun x hx => ?_)
  simpa using List.all_eq_true.mp ht x hx

/-! ## Statements -/

/-- The same text, and scopes that are alike. -/
def SameText (l : Likeness) (p q : String × Table Value) : Prop := p.1 = q.1 ∧ l.alike p.2 q.2

/-- Behind a condition that holds in neither scope, both go on as it does not hold. -/
theorem parallel_skip {α β : Type} {S : α → β → Prop} (h : l.alike m n) {e : Expr}
    (he : l.skips e = true) {k : Bool → Eval α} {k' : Bool → Eval β}
    (hk : Parallel S (k false) (k' false)) :
    Parallel S (e.eval c ⟨m, ""⟩ >>= fun r => Eval.ofExcept (truth r) >>= k)
      (e.eval c ⟨n, ""⟩ >>= fun r => Eval.ofExcept (truth r) >>= k') := by
  have hboth : Parallel S (e.holds c m >>= k) (e.holds c n >>= k') := by
    refine (l.fails c h he).bind ?_
    rintro _ _ ⟨rfl, rfl⟩
    exact hk
  simpa only [Expr.holds, bind_assoc] using hboth

/-- What a loop writes for an item is the same in both scopes if its body is. -/
theorem loop_item (h : l.alike m n) {target : Target} (ht : l.spares target = true)
    {body : List Stmt}
    (hbody : ∀ {m n}, l.alike m n → Parallel l.SameText (runBody c m body) (runBody c n body))
    (asksPlace : Bool) (kept : List Value) (item : Value) (i : Nat) :
    (do
      let inner ← Eval.ofExcept (target.assign m item)
      let inner := if asksPlace then inner.put placeName (loopRecord kept i) else inner
      return (← runBody c inner body).1 : Eval String) = do
      let inner ← Eval.ofExcept (target.assign n item)
      let inner := if asksPlace then inner.put placeName (loopRecord kept i) else inner
      return (← runBody c inner body).1 := by
  refine Parallel.eq ((parallel_assign h ht item).bind fun m' n' h' => ?_)
  have hplaced : l.alike (if asksPlace then m'.put placeName (loopRecord kept i) else m')
      (if asksPlace then n'.put placeName (loopRecord kept i) else n') := by
    split
    · exact l.put h' l.place _
    · exact h'
  exact (hbody hplaced).bind fun _ _ hp => parallel_pure hp.1

/-- Whether a loop lets an item through is the same in both scopes. -/
theorem loop_condition (h : l.alike m n) {target : Target} (ht : l.spares target = true)
    {condition : Expr} (hc : l.admits condition = true) (item : Value) :
    (do
      let inner ← Eval.ofExcept (target.assign m item)
      Eval.ofExcept (truth (← condition.eval c ⟨inner, ""⟩)) : Eval Bool) = (do
      let inner ← Eval.ofExcept (target.assign n item)
      Eval.ofExcept (truth (← condition.eval c ⟨inner, ""⟩))) := by
  refine Parallel.eq ((parallel_assign h ht item).bind fun m' n' h' => ?_)
  rw [l.eval_eq c h' hc]
  exact .refl _

/-- Once its items are there, a loop writes the same in both scopes if its bodies do. -/
theorem loop_rest (h : l.alike m n) {target : Target} (ht : l.spares target = true)
    {body otherwise : List Stmt}
    (hbody : ∀ {m n}, l.alike m n → Parallel l.SameText (runBody c m body) (runBody c n body))
    (hotherwise : Parallel l.SameText (runBody c m otherwise) (runBody c n otherwise))
    (kept : List Value × Option Fault) :
    Parallel l.SameText
      (do
        let parts ← repeatBody (fun item i => do
          let inner ← Eval.ofExcept (target.assign m item)
          let inner := if bodyMentions placeName body then
            inner.put placeName (loopRecord kept.1 i) else inner
          return (← runBody c inner body).1) 0 kept.1
        if let some fault := kept.2 then
          throw fault
        if kept.1.isEmpty then
          return ((← runBody c m otherwise).1, m)
        return (String.join parts, m))
      (do
        let parts ← repeatBody (fun item i => do
          let inner ← Eval.ofExcept (target.assign n item)
          let inner := if bodyMentions placeName body then
            inner.put placeName (loopRecord kept.1 i) else inner
          return (← runBody c inner body).1) 0 kept.1
        if let some fault := kept.2 then
          throw fault
        if kept.1.isEmpty then
          return ((← runBody c n otherwise).1, n)
        return (String.join parts, n)) := by
  simp only [loop_item h ht hbody]
  have hlast (parts : List String) : Parallel l.SameText
      (do
        if kept.1.isEmpty then
          return ((← runBody c m otherwise).1, m)
        return (String.join parts, m) : Eval (String × Table Value))
      (do
        if kept.1.isEmpty then
          return ((← runBody c n otherwise).1, n)
        return (String.join parts, n)) := by
    refine Parallel.ite ?_ (parallel_pure ⟨rfl, h⟩)
    exact hotherwise.bind fun _ _ hq => parallel_pure ⟨hq.1, h⟩
  refine .bind_same fun parts => ?_
  cases kept.2 with
  | none => exact hlast parts
  | some fault => exact .bind_same fun _ => hlast parts

end Likeness

section

open Likeness

variable {l : Likeness} {c : Surroundings}

mutual

/-- A statement that keeps to a likeness writes the same in alike scopes, and leaves them alike. -/
theorem Stmt.parallel {m n : Table Value} (h : l.alike m n) :
    ∀ s : Stmt, s.keepsTo l = true → Parallel l.SameText (s.run c m) (s.run c n)
  | .text s, _ => by
    rw [Stmt.run, Stmt.run]
    exact parallel_pure ⟨rfl, h⟩
  | .output e, hs => by
    rw [Stmt.keepsTo] at hs
    rw [Stmt.run, Stmt.run, l.eval_eq c h hs]
    exact .bind_same fun r => .bind_same fun text => parallel_pure ⟨rfl, h⟩
  | .branch test yes no, hs => by
    rw [Stmt.keepsTo, Bool.and_eq_true, Bool.or_eq_true, Bool.and_eq_true] at hs
    obtain ⟨htest, hno⟩ := hs
    have hnot := runBody_parallel h no hno
    rw [Stmt.run, Stmt.run]
    rcases htest with hskip | ⟨hplain, hyes⟩
    · exact parallel_skip h hskip hnot
    · rw [l.eval_eq c h hplain]
      exact .bind_same fun r => .bind_same fun b => (runBody_parallel h yes hyes).ite hnot
  | .loop target items condition? body otherwise, hs => by
    have hparts : l.spares target = true ∧ l.admits items = true ∧
        (∀ condition ∈ condition?, l.admits condition = true) ∧
        bodyKeepsTo l body = true ∧ bodyKeepsTo l otherwise = true := by
      cases condition? <;> simpa [Stmt.keepsTo, and_assoc] using hs
    obtain ⟨htarget, hitems, hcondition, hbody, hotherwise⟩ := hparts
    have hrest := loop_rest h htarget (fun h => runBody_parallel h body hbody)
      (runBody_parallel h otherwise hotherwise)
    rw [Stmt.run, Stmt.run, l.eval_eq c h hitems]
    refine .bind_same fun r => .bind_same fun all => ?_
    cases condition? with
    | none => exact .bind_same hrest
    | some condition =>
      simp only [loop_condition h htarget (hcondition condition rfl)]
      exact .bind_same hrest
  | .assign target value, hs => by
    rw [Stmt.keepsTo, Bool.and_eq_true] at hs
    rw [Stmt.run, Stmt.run, l.eval_eq c h hs.2]
    have hassign : Parallel l.SameText
        (do
          let w ← value.eval c ⟨n, ""⟩
          return ("", ← Eval.ofExcept (target.assign m w)))
        (do
          let w ← value.eval c ⟨n, ""⟩
          return ("", ← Eval.ofExcept (target.assign n w))) :=
      .bind_same fun w =>
        (parallel_assign h hs.1 w).bind fun _ _ h' => parallel_pure ⟨rfl, h'⟩
    cases target.hasAttribute with
    | true => exact .bind_same fun _ => hassign
    | false => exact hassign
  | .capture target value body, hs => by
    rw [Stmt.keepsTo, Bool.and_eq_true, Bool.and_eq_true] at hs
    obtain ⟨⟨htarget, hvalue⟩, hbody⟩ := hs
    rw [Stmt.run, Stmt.run]
    refine (runBody_parallel h body hbody).bind ?_
    rintro ⟨caught, m'⟩ ⟨caught', n'⟩ ⟨hcaught, h'⟩
    obtain rfl : caught = caught' := hcaught
    dsimp only
    rw [l.eval_eq c h' hvalue]
    exact .bind_same fun w =>
      (parallel_assign h htarget w).bind fun _ _ h' => parallel_pure ⟨rfl, h'⟩
  | .include .., hs => by
    rw [Stmt.keepsTo] at hs
    contradiction

theorem runBody_parallel {m n : Table Value} (h : l.alike m n) :
    ∀ body : List Stmt, bodyKeepsTo l body = true →
      Parallel l.SameText (runBody c m body) (runBody c n body)
  | [], _ => by
    rw [runBody, runBody]
    exact parallel_pure ⟨rfl, h⟩
  | s :: rest, hs => by
    rw [bodyKeepsTo, Bool.and_eq_true] at hs
    rw [runBody, runBody]
    refine (Stmt.parallel h s hs.1).bind ?_
    rintro ⟨first, m'⟩ ⟨first', n'⟩ ⟨hfirst, h'⟩
    obtain rfl : first = first' := hfirst
    exact (runBody_parallel h' rest hs.2).bind fun _ _ hq => parallel_pure ⟨by rw [hq.1], hq.2⟩

end

/-- A template that keeps to a likeness writes the same with contexts that are alike. -/
theorem Engine.render_eq_of_alike {e : Engine} {source : String}
    (hbody : ∀ body, e.compile source = .ok body → bodyKeepsTo l body = true)
    {m n : Table Value} (h : l.alike m n) (hself : m.has "self" = n.has "self") :
    e.render source m = e.render source n := by
  unfold Engine.render
  rw [hself]
  cases hcompile : e.compile source with
  | error fault => rfl
  | ok body =>
    have hnested : e.renderNested nestingLimit none source m =
        e.renderNested nestingLimit none source n := by
      unfold nestingLimit
      rw [Engine.renderNested, Engine.renderNested, hcompile]
      exact Parallel.eq ((runBody_parallel h body (hbody body hcompile)).bind fun _ _ hp =>
        parallel_pure hp.1)
    rw [hnested]

end

end ResolverGen.Template
