import ResolverGen.Proofs.Template.GuardedNames

/-!
# Parts of a record that a template does not look at

A template that looks at a record for other parts only writes the same whatever stands in some parts of
it. That is checked on its statements: the name of the record stands nowhere but in front of a key of
another part.
-/
namespace ResolverGen.Template

/-- Parts of a record in sight. -/
structure RecordParts where
  record : String
  keys : List String
  place : record ≠ placeName

variable {p : RecordParts}

/-- Whether an expression looks at the record for other parts only, if at all. Behind operators that
are not listed it is not looked for. -/
def RecordParts.isUnseen (p : RecordParts) : Expr → Bool
  | .attribute (.name x) key => x ≠ p.record || key ∉ p.keys
  | .and a b | .or a b => p.isUnseen a && p.isUnseen b
  | .not e => p.isUnseen e
  | .compare first rest => p.isUnseen first && !mentionsCompared p.record rest
  | .filter input _ args named =>
    p.isUnseen input && !mentionsAny p.record args && !mentionsNamed p.record named
  | e => !e.mentions p.record

/-- Scopes that differ in parts of a record only. -/
structure AlikeBut (p : RecordParts) (m n : Table Value) : Prop where
  agrees : ∀ x ≠ p.record, lookupName m x = lookupName n x
  parts : ∀ key ∉ p.keys,
    attributeOf (lookupName m p.record) key = attributeOf (lookupName n p.record) key

variable {m n : Table Value} {c : Surroundings}

namespace AlikeBut

theorem put (h : AlikeBut p m n) {x : String} (hx : x ≠ p.record) (w : Value) :
    AlikeBut p (m.put x w) (n.put x w) where
  agrees := by
    intro y hy
    rw [lookupName_put, lookupName_put, h.agrees y hy]
  parts := by
    intro key hkey
    rw [lookupName_put, lookupName_put, if_neg (Ne.symm hx), if_neg (Ne.symm hx)]
    exact h.parts key hkey

/-- Names other than that of the record stand for the same. -/
theorem agrees_of (h : AlikeBut p m n) {mentioned : String → Bool}
    (hfree : mentioned p.record = false) (x : String) (hx : mentioned x = true) :
    lookupName m x = lookupName n x := by
  refine h.agrees x ?_
  rintro rfl
  rw [hfree] at hx
  contradiction

/-- An expression that does not look at the parts is worth the same in both scopes. -/
theorem eval_eq (h : AlikeBut p m n) {e : Expr} (he : p.isUnseen e = true) (captured : String) :
    e.eval c ⟨m, captured⟩ = e.eval c ⟨n, captured⟩ := by
  have hsame : (⟨m, captured⟩ : Scope).captured = (⟨n, captured⟩ : Scope).captured := rfl
  fun_induction RecordParts.isUnseen p e with
  | case1 x key =>
    simp only [Expr.eval]
    by_cases hx : x = p.record
    · have hkey : key ∉ p.keys := by simpa [hx] using he
      simp only [pure_bind, hx, h.parts key hkey]
    · rw [h.agrees x hx]
  | case2 a b iha ihb | case3 a b iha ihb =>
    rw [Bool.and_eq_true] at he
    simp only [Expr.eval, iha he.1, ihb he.2]
  | case4 e ih => simp only [Expr.eval, ih he]
  | case5 first rest ih =>
    rw [Bool.and_eq_true, Bool.not_eq_true'] at he
    have hrest : ∀ left, evalCompared c ⟨m, captured⟩ left rest =
        evalCompared c ⟨n, captured⟩ left rest :=
      fun left => evalCompared_congr c hsame rest left (h.agrees_of he.2)
    simp only [Expr.eval, ih he.1, hrest]
  | case6 input name args named ih =>
    simp only [Bool.and_eq_true, Bool.not_eq_true'] at he
    obtain ⟨⟨hinput, hargs⟩, hnamed⟩ := he
    simp only [Expr.eval, ih hinput, evalAll_congr c hsame args (h.agrees_of hargs),
      evalNamed_congr c hsame named (h.agrees_of hnamed)]
  | case7 e =>
    rw [Bool.not_eq_true'] at he
    exact Expr.eval_congr c hsame e (h.agrees_of he)

end AlikeBut

/-- Scopes that differ in parts of a record that are not looked at. -/
def RecordParts.likeness (p : RecordParts) : Likeness where
  alike := AlikeBut p
  admits := p.isUnseen
  skips := fun _ => false
  fixed := [p.record]
  eval_eq := fun _ _ h he captured => h.eval_eq he captured
  fails := fun _ _ _ he => absurd he Bool.false_ne_true
  put := fun h hx w => h.put (by simpa using hx) w
  place := by simpa using Ne.symm p.place

end ResolverGen.Template
