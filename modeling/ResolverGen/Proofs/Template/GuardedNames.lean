import ResolverGen.Proofs.Tables
import ResolverGen.Proofs.Template.AlikeScopes
import ResolverGen.Proofs.Template.NamesInSight

/-!
# Names behind a flag

A template keeps names behind a flag if it looks at them only under conditions that ask for the name
and for the flag. That is checked on its statements. While the flag is off, what such a template
writes does not depend on what these names stand for.
-/
namespace ResolverGen.Template

/-- Names that count while a flag is on only. The flag is an entry of a record in sight. -/
structure Veil where
  hidden : List String
  record : String
  flag : String
  visible : record ∉ hidden
  place : placeName ∉ record :: hidden

namespace Veil

/-- Whether an expression mentions no hidden name. -/
def avoids (v : Veil) (e : Expr) : Bool := v.hidden.all fun x => !e.mentions x

/-- Whether a target gives neither the record nor a hidden name a value. -/
def spares (v : Veil) (t : Target) : Bool := (v.record :: v.hidden).all fun x => !t.binds x

/-- Whether a condition asks for a hidden name and for the flag. -/
def isGuard (v : Veil) : Expr → Bool
  | .and (.name x) (.attribute (.name y) key) => x ∈ v.hidden && y = v.record && key = v.flag
  | _ => false

theorem exists_of_isGuard {v : Veil} {e : Expr} (h : v.isGuard e = true) :
    ∃ x ∈ v.hidden, e = .and (.name x) (.attribute (.name v.record) v.flag) := by
  unfold isGuard at h
  split at h
  · rename_i x y key
    simp only [Bool.and_eq_true, decide_eq_true_eq] at h
    obtain ⟨⟨hx, rfl⟩, rfl⟩ := h
    exact ⟨x, hx, rfl⟩
  · contradiction

end Veil

mutual

/-- Whether a statement keeps the hidden names behind the flag. -/
def Stmt.isGuarded (v : Veil) : Stmt → Bool
  | .text _ => true
  | .output e => v.avoids e
  | .branch test yes no =>
    (v.isGuard test || (v.avoids test && bodyIsGuarded v yes)) && bodyIsGuarded v no
  | .loop target items none body otherwise =>
    v.spares target && v.avoids items && bodyIsGuarded v body && bodyIsGuarded v otherwise
  | .loop target items (some condition) body otherwise =>
    v.spares target && v.avoids items && v.avoids condition && bodyIsGuarded v body &&
      bodyIsGuarded v otherwise
  | .assign target value => v.spares target && v.avoids value
  | .capture target value body => v.spares target && v.avoids value && bodyIsGuarded v body
  | .include .. => false

def bodyIsGuarded (v : Veil) : List Stmt → Bool
  | [] => true
  | s :: rest => s.isGuarded v && bodyIsGuarded v rest

end

/-! ## Names in sight -/

theorem lookupName_put (names : Table Value) (x y : String) (w : Value) :
    lookupName (names.put x w) y = if y = x then w else lookupName names y := by
  unfold lookupName
  rw [Table.get?_put]
  by_cases h : x = y
  · simp [h]
  · simp [h, Ne.symm h]

theorem lookupName_cons (x y : String) (w : Value) (rest : Table Value) :
    lookupName ((x, w) :: rest) y = if x = y then w else lookupName rest y := by
  unfold lookupName
  rw [Table.get?]
  by_cases h : x = y <;> simp [h]

/-- Names in sight that differ in what the hidden ones stand for, while the flag is off. Whether a
hidden name can be asked for is the same on both sides. -/
structure Veiled (v : Veil) (m n : Table Value) : Prop where
  agrees : ∀ x ∉ v.hidden, lookupName m x = lookupName n x
  asked : ∀ x ∈ v.hidden,
    Matches (fun _ _ => True) (truth (lookupName m x)) (truth (lookupName n x))
  off : ∃ w, attributeOf (lookupName m v.record) v.flag = .ok w ∧ truth w = .ok false

variable {v : Veil} {m n : Table Value} {c : Surroundings}

namespace Veiled

theorem put (h : Veiled v m n) {x : String} (hx : x ∉ v.record :: v.hidden) (w : Value) :
    Veiled v (m.put x w) (n.put x w) where
  agrees := by
    intro y hy
    rw [lookupName_put, lookupName_put, h.agrees y hy]
  asked := by
    intro y hy
    have hne : y ≠ x := by
      rintro rfl
      exact hx (List.mem_cons_of_mem _ hy)
    rw [lookupName_put, lookupName_put, if_neg hne, if_neg hne]
    exact h.asked y hy
  off := by
    have hne : v.record ≠ x := by
      rintro rfl
      exact hx List.mem_cons_self
    rw [lookupName_put, if_neg hne]
    exact h.off

/-- An expression that mentions no hidden name is worth the same on both sides. -/
theorem eval_eq (h : Veiled v m n) {e : Expr} (he : v.avoids e = true) (captured : String) :
    e.eval c ⟨m, captured⟩ = e.eval c ⟨n, captured⟩ := by
  apply Expr.eval_congr
  · rfl
  · intro x hx
    refine h.agrees x fun hhidden => ?_
    have hfree := List.all_eq_true.mp he x hhidden
    rw [hx] at hfree
    contradiction

end Veiled

/-! ## Conditions that ask for the flag -/

/-- A condition on a name and a flag that is off does not hold, if the name can be asked for. -/
theorem holds_guard_of_ok {names : Table Value} {x record flag : String} {w : Value} {b : Bool}
    (hx : truth (lookupName names x) = .ok b)
    (hoff : attributeOf (lookupName names record) flag = .ok w) (hw : truth w = .ok false) :
    Expr.holds c names (.and (.name x) (.attribute (.name record) flag)) = pure false := by
  cases b <;> simp [Expr.holds, Expr.eval, Eval.ofExcept, hx, hoff, hw]

theorem holds_guard_of_error {names : Table Value} {x record flag : String} {fault : Fault}
    (hx : truth (lookupName names x) = .error fault) :
    Expr.holds c names (.and (.name x) (.attribute (.name record) flag)) = throw fault := by
  simp [Expr.holds, Expr.eval, Eval.ofExcept, hx]

/-- A condition on a hidden name and the flag holds on neither side. -/
theorem Veiled.guard_fails (h : Veiled v m n) {e : Expr} (he : v.isGuard e = true) :
    Parallel (fun a b => a = false ∧ b = false) (e.holds c m) (e.holds c n) := by
  obtain ⟨x, hx, rfl⟩ := Veil.exists_of_isGuard he
  obtain ⟨w, hoff, hw⟩ := h.off
  have hoff' := hoff
  rw [h.agrees v.record v.visible] at hoff'
  have hasked := h.asked x hx
  generalize hb : truth (lookupName m x) = b, hb' : truth (lookupName n x) = b' at hasked
  cases hasked with
  | error fault =>
    rw [holds_guard_of_error hb, holds_guard_of_error hb']
    exact parallel_throw fault
  | ok =>
    rw [holds_guard_of_ok hb hoff hw, holds_guard_of_ok hb' hoff' hw]
    exact parallel_pure ⟨rfl, rfl⟩

/-! ## Templates -/

/-- Scopes that differ in what the hidden names stand for, while the flag is off. -/
def Veil.likeness (v : Veil) : Likeness where
  alike := Veiled v
  admits := v.avoids
  skips := v.isGuard
  fixed := v.record :: v.hidden
  eval_eq := fun _ _ h he captured => h.eval_eq he captured
  fails := fun _ _ h he => h.guard_fails he
  put := fun h hx w => h.put hx w
  place := v.place

mutual

theorem Stmt.keepsTo_likeness (v : Veil) : ∀ s : Stmt, s.keepsTo v.likeness = s.isGuarded v
  | .text _ | .include .. => by rw [Stmt.keepsTo, Stmt.isGuarded]
  | .output _ | .assign .. => by
    rw [Stmt.keepsTo, Stmt.isGuarded]
    rfl
  | .branch _ yes no => by
    simp only [Stmt.keepsTo, Stmt.isGuarded, bodyKeepsTo_likeness v yes, bodyKeepsTo_likeness v no]
    rfl
  | .loop _ _ none body otherwise | .loop _ _ (some _) body otherwise => by
    simp only [Stmt.keepsTo, Stmt.isGuarded, bodyKeepsTo_likeness v body,
      bodyKeepsTo_likeness v otherwise]
    rfl
  | .capture _ _ body => by
    simp only [Stmt.keepsTo, Stmt.isGuarded, bodyKeepsTo_likeness v body]
    rfl

theorem bodyKeepsTo_likeness (v : Veil) :
    ∀ body : List Stmt, bodyKeepsTo v.likeness body = bodyIsGuarded v body
  | [] => by rw [bodyKeepsTo, bodyIsGuarded]
  | s :: rest => by
    rw [bodyKeepsTo, bodyIsGuarded, Stmt.keepsTo_likeness v s, bodyKeepsTo_likeness v rest]

end

/-- A template that keeps the hidden names behind the flag writes the same in both contexts. -/
theorem Engine.render_veiled {e : Engine} {source : String}
    (hbody : ∀ body, e.compile source = .ok body → bodyIsGuarded v body = true)
    (h : Veiled v m n) (hself : m.has "self" = n.has "self") :
    e.render source m = e.render source n :=
  e.render_eq_of_alike (l := v.likeness)
    (fun body hcompile => (bodyKeepsTo_likeness v body).trans (hbody body hcompile)) h hself

end ResolverGen.Template
