import ResolverGen.Proofs.Steady
import ResolverGen.Template.Engine

/-!
# Rules for what templates write

What an expression is worth and what statements write, whatever the sanitizer remembers. Each rule
goes with one form of expression or statement; a loop writes what its body writes for each item.
-/
namespace ResolverGen.Template

variable {I : Sanitizer → Prop} {c : Surroundings} {names : Table Value}

/-- An expression has a value in all states of the sanitizer that can be met. -/
def Evaluates (I : Sanitizer → Prop) (c : Surroundings) (names : Table Value) (e : Expr)
    (v : Value) : Prop :=
  Settles I (e.eval c ⟨names, ""⟩) (.ok v)

/-- Statements write a text in all states that can be met, and leave the names in sight alone. -/
def Writes (I : Sanitizer → Prop) (c : Surroundings) (names : Table Value) (body : List Stmt)
    (text : String) : Prop :=
  Settles I (runBody c names body) (.ok (text, names))

theorem settles_ofExcept {α : Type} {x : Except Fault α} {a : α} (h : x = .ok a) :
    Settles I (Eval.ofExcept x) (.ok a) := by
  subst h
  exact settles_pure a

/-! ## Expressions -/

theorem Evaluates.name {x : String} {v : Value} (h : lookupName names x = v) :
    Evaluates I c names (.name x) v := by
  unfold Evaluates
  rw [Expr.eval, h]
  exact settles_pure v

theorem Evaluates.constant (k : Constant) : Evaluates I c names (.constant k) k.value := by
  unfold Evaluates
  rw [Expr.eval]
  exact settles_pure _

theorem Evaluates.attribute {e : Expr} {x : String} {v w : Value} (he : Evaluates I c names e v)
    (h : attributeOf v x = .ok w) : Evaluates I c names (.attribute e x) w := by
  unfold Evaluates
  rw [Expr.eval]
  exact Settles.bind he (settles_ofExcept h)

theorem Evaluates.and_of_true {a b : Expr} {v w : Value} (ha : Evaluates I c names a v)
    (hv : truth v = .ok true) (hb : Evaluates I c names b w) :
    Evaluates I c names (.and a b) w := by
  unfold Evaluates
  rw [Expr.eval]
  exact Settles.bind ha (Settles.bind (settles_ofExcept hv) hb)

theorem Evaluates.and_of_false {a : Expr} {v : Value} (b : Expr) (ha : Evaluates I c names a v)
    (hv : truth v = .ok false) : Evaluates I c names (.and a b) v := by
  unfold Evaluates
  rw [Expr.eval]
  exact Settles.bind ha (Settles.bind (settles_ofExcept hv) (settles_pure v))

theorem Evaluates.or_of_true {a : Expr} {v : Value} (b : Expr) (ha : Evaluates I c names a v)
    (hv : truth v = .ok true) : Evaluates I c names (.or a b) v := by
  unfold Evaluates
  rw [Expr.eval]
  exact Settles.bind ha (Settles.bind (settles_ofExcept hv) (settles_pure v))

theorem Evaluates.or_of_false {a b : Expr} {v w : Value} (ha : Evaluates I c names a v)
    (hv : truth v = .ok false) (hb : Evaluates I c names b w) :
    Evaluates I c names (.or a b) w := by
  unfold Evaluates
  rw [Expr.eval]
  exact Settles.bind ha (Settles.bind (settles_ofExcept hv) hb)

/-- A call with one argument. -/
theorem Evaluates.call {callee a : Expr} {f v w : Value} (hf : Evaluates I c names callee f)
    (ha : Evaluates I c names a v) (h : callValue f [v] [] = .ok w) :
    Evaluates I c names (.call callee [a] []) w := by
  unfold Evaluates
  rw [Expr.eval, evalAll, evalAll, evalNamed]
  refine Settles.bind hf ?_
  refine Settles.bind (Settles.bind ha (Settles.bind (settles_pure []) (settles_pure _))) ?_
  exact Settles.bind (settles_pure []) (settles_ofExcept h)

/-- Two texts put together. -/
theorem Evaluates.concat {a b : Expr} {s t : String} (ha : Evaluates I c names a (.str s))
    (hb : Evaluates I c names b (.str t)) :
    Evaluates I c names (.concat [a, b]) (.str (s ++ t)) := by
  have hitems : Settles I (evalAll c ⟨names, ""⟩ [a, b]) (.ok [.str s, .str t]) := by
    rw [evalAll, evalAll, evalAll]
    refine Settles.bind ha (Settles.bind ?_ (settles_pure _))
    exact Settles.bind hb (Settles.bind (settles_pure []) (settles_pure _))
  have hjoin : String.join [s, t] = s ++ t := by simp [String.join]
  unfold Evaluates
  rw [Expr.eval, ← hjoin]
  refine Settles.bind hitems ?_
  exact Settles.bind (settles_ofExcept (a := [s, t]) rfl) (settles_pure _)

theorem Evaluates.compare {a b : Expr} {op : CompareOp} {v w : Value} {r : Bool}
    (ha : Evaluates I c names a v) (hb : Evaluates I c names b w)
    (h : comparison op v w = .ok r) : Evaluates I c names (.compare a [(op, b)]) (.bool r) := by
  unfold Evaluates
  rw [Expr.eval]
  refine Settles.bind ha ?_
  rw [evalCompared]
  refine Settles.bind hb (Settles.bind (settles_ofExcept h) ?_)
  cases r with
  | true =>
    rw [if_pos rfl, evalCompared]
    exact settles_pure _
  | false => exact settles_pure _

/-- A filter without arguments. -/
theorem Evaluates.filter {e : Expr} {x : String} {f : Filter} {v w : Value}
    (he : Evaluates I c names e v) (hf : findFilter? c.filters x = some f)
    (h : Settles I (f.apply v [] []) (.ok w)) : Evaluates I c names (.filter e x [] []) w := by
  unfold Evaluates
  rw [Expr.eval, evalAll, evalNamed]
  refine Settles.bind he (Settles.bind (settles_pure []) (Settles.bind (settles_pure []) ?_))
  unfold Surroundings.applyFilter
  rw [hf]
  exact h

/-- A filter with one named argument. -/
theorem Evaluates.filterNamed {e a : Expr} {x y : String} {f : Filter} {v u w : Value}
    (he : Evaluates I c names e v) (ha : Evaluates I c names a u)
    (hf : findFilter? c.filters x = some f) (h : Settles I (f.apply v [] [(y, u)]) (.ok w)) :
    Evaluates I c names (.filter e x [] [(y, a)]) w := by
  unfold Evaluates
  rw [Expr.eval, evalAll, evalNamed, evalNamed]
  refine Settles.bind he (Settles.bind (settles_pure []) ?_)
  refine Settles.bind (Settles.bind ha (Settles.bind (settles_pure []) (settles_pure _))) ?_
  unfold Surroundings.applyFilter
  rw [hf]
  exact h

/-- A filter that is a function of one text. -/
theorem settles_textFilter (name function parameter : String) (f : String → String) (s : String) :
    Settles I ((textFilter name function parameter f).apply (.str s) [] []) (.ok (.str (f s))) :=
  settles_pure _

/-! ## Statements -/

theorem Writes.of_eq {body : List Stmt} {s t : String} (h : Writes I c names body s)
    (hst : s = t) : Writes I c names body t := by
  rwa [← hst]

theorem Writes.nil : Writes I c names [] "" := by
  unfold Writes
  rw [runBody]
  exact settles_pure _

/-- A statement that leaves the names in sight alone, before others. -/
theorem Writes.cons {st : Stmt} {rest : List Stmt} {s t : String}
    (hs : Settles I (st.run c names) (.ok (s, names))) (h : Writes I c names rest t) :
    Writes I c names (st :: rest) (s ++ t) := by
  unfold Writes
  rw [runBody]
  exact Settles.bind hs (Settles.bind h (settles_pure _))

theorem Writes.text (s : String) {rest : List Stmt} {t : String} (h : Writes I c names rest t) :
    Writes I c names (.text s :: rest) (s ++ t) := by
  refine Writes.cons ?_ h
  rw [Stmt.run]
  exact settles_pure _

/-- The text of a value. -/
theorem Writes.output {e : Expr} {rest : List Stmt} {v : Value} {s t : String}
    (he : Evaluates I c names e v) (hv : textOf v = .ok s) (h : Writes I c names rest t) :
    Writes I c names (.output e :: rest) (s ++ t) := by
  refine Writes.cons ?_ h
  rw [Stmt.run]
  refine Settles.bind he (Settles.bind (settles_ofExcept hv) ?_)
  exact settles_pure _

theorem Writes.outputText {e : Expr} {rest : List Stmt} {s t : String}
    (he : Evaluates I c names e (.str s)) (h : Writes I c names rest t) :
    Writes I c names (.output e :: rest) (s ++ t) :=
  Writes.output he rfl h

/-- A branch on a condition writes what the body that it takes writes. -/
theorem Writes.branch {p : Prop} [Decidable p] {test : Expr} {yes no rest : List Stmt} {v : Value}
    {s s' t : String} (he : Evaluates I c names test v) (hv : truth v = .ok (decide p))
    (hyes : p → Writes I c names yes s) (hno : ¬p → Writes I c names no s')
    (h : Writes I c names rest t) :
    Writes I c names (.branch test yes no :: rest) ((if p then s else s') ++ t) := by
  refine Writes.cons ?_ h
  rw [Stmt.run]
  refine Settles.bind he (Settles.bind (settles_ofExcept hv) ?_)
  by_cases hp : p
  · rw [if_pos (decide_eq_true hp), if_pos hp]
    exact hyes hp
  · rw [if_neg (by simpa using hp), if_neg hp]
    exact hno hp

/-- What a loop writes for each item, one after another. -/
theorem settles_repeatBody {α : Type} {value : α → Value} {body : Value → Nat → Eval String}
    {f : α → String} :
    ∀ {items : List α} (i : Nat),
      (∀ a ∈ items, ∀ i, Settles I (body (value a) i) (.ok (f a))) →
        Settles I (repeatBody body i (items.map value)) (.ok (items.map f))
  | [], i, _ => by
    rw [List.map_nil, repeatBody]
    exact settles_pure _
  | a :: rest, i, h => by
    rw [List.map_cons, repeatBody]
    refine Settles.bind (h a List.mem_cons_self i) ?_
    have hrest := settles_repeatBody (i + 1) fun b hb => h b (List.mem_cons_of_mem a hb)
    exact Settles.bind hrest (settles_pure _)

/-- A loop that does not ask for its place and has no condition. -/
theorem Writes.loop {α : Type} {v : α → Value} {x : String} {e : Expr} {b rest : List Stmt}
    {items : List α} {f : α → String} {t : String}
    (he : Evaluates I c names e (.list (items.map v))) (hp : bodyMentions placeName b = false)
    (hb : ∀ a ∈ items, Writes I c (names.put x (v a)) b (f a)) (h : Writes I c names rest t) :
    Writes I c names (.loop (.name x) e none b [] :: rest) (String.join (items.map f) ++ t) := by
  refine Writes.cons ?_ h
  rw [Stmt.run, hp]
  refine Settles.bind he (Settles.bind (settles_pure (items.map v)) ?_)
  refine Settles.bind (settles_pure (items.map v, none)) ?_
  refine Settles.bind (settles_repeatBody (f := f) 0 ?_) ?_
  · intro a ha i
    refine Settles.bind (settles_pure (names.put x (v a))) ?_
    exact Settles.bind (hb a ha) (settles_pure _)
  · cases items with
    | nil => exact Settles.bind Writes.nil (settles_pure _)
    | cons a items => exact settles_pure _

/-- What follows an assignment is written with the name in sight. -/
theorem settles_assign {e : Expr} {v : Value} {x text : String} {rest : List Stmt}
    (he : Evaluates I c names e v) (h : Writes I c (names.put x v) rest text) :
    Settles I (runBody c names (.assign (.name x) e :: rest)) (.ok (text, names.put x v)) := by
  rw [runBody, Stmt.run]
  refine Settles.bind (a := ("", names.put x v)) ?_ (Settles.bind h ?_)
  · exact Settles.bind he (settles_pure _)
  · have hout : Settles I (pure ("" ++ text, names.put x v) : Eval (String × Table Value)) _ :=
      settles_pure _
    rwa [String.empty_append] at hout

/-! ## Templates -/

/-- What a template writes, given the statements that it is read as; the names that they set end
with it. -/
theorem settles_render_of_runBody {e : Engine} {source text : String} {body : List Stmt}
    {context : Table Value} (hc : e.compile source = .ok body) (hself : context.has "self" = false)
    (hw : ∀ other, ∃ names, Settles I (runBody ⟨e.filters, none, other⟩ context body)
      (.ok (text, names))) :
    Settles I (e.render source context) (.ok text) := by
  unfold Engine.render
  rw [hc, hself]
  change Settles I (e.renderNested (899 + 1) none source context) (.ok text)
  rw [Engine.renderNested, hc]
  obtain ⟨names, hnames⟩ := hw _
  exact Settles.bind hnames (settles_pure _)

/-- What a template writes, given the statements that it is read as. -/
theorem settles_render {e : Engine} {source text : String} {body : List Stmt}
    {context : Table Value} (hc : e.compile source = .ok body) (hself : context.has "self" = false)
    (hw : ∀ other, Writes I ⟨e.filters, none, other⟩ context body text) :
    Settles I (e.render source context) (.ok text) :=
  settles_render_of_runBody hc hself fun other => ⟨context, hw other⟩

end ResolverGen.Template
