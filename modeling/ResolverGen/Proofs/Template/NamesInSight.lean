import ResolverGen.Template.Eval

/-!
# Names that an expression looks at

What an expression is worth depends on the names that it mentions only, and on the text that was
caught. The proof goes along the syntax.
-/
namespace ResolverGen.Template

variable (c : Surroundings) {s s' : Scope}

mutual

/-- An expression is worth the same where the names that it mentions are. -/
theorem Expr.eval_congr (hcaptured : s.captured = s'.captured) :
    ∀ e : Expr, (∀ x, e.mentions x = true → lookupName s.names x = lookupName s'.names x) →
      e.eval c s = e.eval c s'
  | .constant k, _ => by simp only [Expr.eval]
  | .name x, h => by
    simp only [Expr.eval]
    rw [h x (by simp [Expr.mentions])]
  | .captured, _ => by simp only [Expr.eval, hcaptured]
  | .tuple items, h => by
    simp only [Expr.eval]
    rw [evalAll_congr hcaptured items fun x hx => h x (by simp [Expr.mentions, hx])]
  | .list items, h => by
    simp only [Expr.eval]
    rw [evalAll_congr hcaptured items fun x hx => h x (by simp [Expr.mentions, hx])]
  | .dict entries, h => by
    simp only [Expr.eval]
    rw [evalPairs_congr hcaptured entries fun x hx => h x (by simp [Expr.mentions, hx])]
  | .attribute object name, h => by
    simp only [Expr.eval]
    rw [Expr.eval_congr hcaptured object fun x hx => h x (by simp [Expr.mentions, hx])]
  | .item object index, h => by
    simp only [Expr.eval]
    rw [Expr.eval_congr hcaptured object fun x hx => h x (by simp [Expr.mentions, hx]),
      Expr.eval_congr hcaptured index fun x hx => h x (by simp [Expr.mentions, hx])]
  | .slice object first last step, h => by
    simp only [Expr.eval]
    rw [Expr.eval_congr hcaptured object fun x hx => h x (by simp [Expr.mentions, hx]),
      Expr.eval_congr hcaptured first fun x hx => h x (by simp [Expr.mentions, hx]),
      Expr.eval_congr hcaptured last fun x hx => h x (by simp [Expr.mentions, hx]),
      Expr.eval_congr hcaptured step fun x hx => h x (by simp [Expr.mentions, hx])]
  | .call callee args named, h => by
    simp only [Expr.eval]
    rw [Expr.eval_congr hcaptured callee fun x hx => h x (by simp [Expr.mentions, hx]),
      evalAll_congr hcaptured args fun x hx => h x (by simp [Expr.mentions, hx]),
      evalNamed_congr hcaptured named fun x hx => h x (by simp [Expr.mentions, hx])]
  | .filter input name args named, h => by
    simp only [Expr.eval]
    rw [Expr.eval_congr hcaptured input fun x hx => h x (by simp [Expr.mentions, hx]),
      evalAll_congr hcaptured args fun x hx => h x (by simp [Expr.mentions, hx]),
      evalNamed_congr hcaptured named fun x hx => h x (by simp [Expr.mentions, hx])]
  | .test input name args named, h => by
    simp only [Expr.eval]
    rw [Expr.eval_congr hcaptured input fun x hx => h x (by simp [Expr.mentions, hx]),
      evalAll_congr hcaptured args fun x hx => h x (by simp [Expr.mentions, hx]),
      evalNamed_congr hcaptured named fun x hx => h x (by simp [Expr.mentions, hx])]
  | .neg e, h => by
    simp only [Expr.eval]
    rw [Expr.eval_congr hcaptured e fun x hx => h x (by simp [Expr.mentions, hx])]
  | .pos e, h => by
    simp only [Expr.eval]
    rw [Expr.eval_congr hcaptured e fun x hx => h x (by simp [Expr.mentions, hx])]
  | .not e, h => by
    simp only [Expr.eval]
    rw [Expr.eval_congr hcaptured e fun x hx => h x (by simp [Expr.mentions, hx])]
  | .binary op a b, h => by
    simp only [Expr.eval]
    rw [Expr.eval_congr hcaptured a fun x hx => h x (by simp [Expr.mentions, hx]),
      Expr.eval_congr hcaptured b fun x hx => h x (by simp [Expr.mentions, hx])]
  | .concat items, h => by
    simp only [Expr.eval]
    rw [evalAll_congr hcaptured items fun x hx => h x (by simp [Expr.mentions, hx])]
  | .compare first rest, h => by
    simp only [Expr.eval]
    rw [Expr.eval_congr hcaptured first fun x hx => h x (by simp [Expr.mentions, hx])]
    congr 1
    funext left
    exact evalCompared_congr hcaptured rest left fun x hx => h x (by simp [Expr.mentions, hx])
  | .and a b, h => by
    simp only [Expr.eval]
    rw [Expr.eval_congr hcaptured a fun x hx => h x (by simp [Expr.mentions, hx]),
      Expr.eval_congr hcaptured b fun x hx => h x (by simp [Expr.mentions, hx])]
  | .or a b, h => by
    simp only [Expr.eval]
    rw [Expr.eval_congr hcaptured a fun x hx => h x (by simp [Expr.mentions, hx]),
      Expr.eval_congr hcaptured b fun x hx => h x (by simp [Expr.mentions, hx])]
  | .choice test yes no, h => by
    simp only [Expr.eval]
    rw [Expr.eval_congr hcaptured test fun x hx => h x (by simp [Expr.mentions, hx]),
      Expr.eval_congr hcaptured yes fun x hx => h x (by simp [Expr.mentions, hx]),
      Expr.eval_congr hcaptured no fun x hx => h x (by simp [Expr.mentions, hx])]
  | .only test yes line, h => by
    simp only [Expr.eval]
    rw [Expr.eval_congr hcaptured test fun x hx => h x (by simp [Expr.mentions, hx]),
      Expr.eval_congr hcaptured yes fun x hx => h x (by simp [Expr.mentions, hx])]

theorem evalAll_congr (hcaptured : s.captured = s'.captured) :
    ∀ es : List Expr,
      (∀ x, mentionsAny x es = true → lookupName s.names x = lookupName s'.names x) →
      evalAll c s es = evalAll c s' es
  | [], _ => by simp only [evalAll]
  | e :: rest, h => by
    simp only [evalAll]
    rw [Expr.eval_congr hcaptured e fun x hx => h x (by simp [mentionsAny, hx]),
      evalAll_congr hcaptured rest fun x hx => h x (by simp [mentionsAny, hx])]

theorem evalPairs_congr (hcaptured : s.captured = s'.captured) :
    ∀ es : List (Expr × Expr),
      (∀ x, mentionsPairs x es = true → lookupName s.names x = lookupName s'.names x) →
      evalPairs c s es = evalPairs c s' es
  | [], _ => by simp only [evalPairs]
  | (key, value) :: rest, h => by
    simp only [evalPairs]
    rw [Expr.eval_congr hcaptured key fun x hx => h x (by simp [mentionsPairs, hx]),
      Expr.eval_congr hcaptured value fun x hx => h x (by simp [mentionsPairs, hx]),
      evalPairs_congr hcaptured rest fun x hx => h x (by simp [mentionsPairs, hx])]

theorem evalNamed_congr (hcaptured : s.captured = s'.captured) :
    ∀ es : List (String × Expr),
      (∀ x, mentionsNamed x es = true → lookupName s.names x = lookupName s'.names x) →
      evalNamed c s es = evalNamed c s' es
  | [], _ => by simp only [evalNamed]
  | (name, e) :: rest, h => by
    simp only [evalNamed]
    rw [Expr.eval_congr hcaptured e fun x hx => h x (by simp [mentionsNamed, hx]),
      evalNamed_congr hcaptured rest fun x hx => h x (by simp [mentionsNamed, hx])]

theorem evalCompared_congr (hcaptured : s.captured = s'.captured) :
    ∀ (es : List (CompareOp × Expr)) (left : Value),
      (∀ x, mentionsCompared x es = true → lookupName s.names x = lookupName s'.names x) →
      evalCompared c s left es = evalCompared c s' left es
  | [], left, _ => by simp only [evalCompared]
  | (op, e) :: rest, left, h => by
    simp only [evalCompared]
    rw [Expr.eval_congr hcaptured e fun x hx => h x (by simp [mentionsCompared, hx])]
    congr 1
    funext right
    rw [evalCompared_congr hcaptured rest right fun x hx => h x (by simp [mentionsCompared, hx])]

end

end ResolverGen.Template
