import ResolverGen.Template.Engine

/-!
# Equality of template syntax by evaluation

Statements and expressions are compared part by part, so that the statements which a template is
read as can be checked by evaluation. The reading itself is put on the characters of the template,
since the characters of a long text are slow to take out of it.
-/
namespace ResolverGen.Template

mutual

/-- Whether two expressions are built alike. -/
def Expr.same : Expr → Expr → Bool
  | .constant a, e => match e with
    | .constant b => a = b
    | _ => false
  | .name a, e => match e with
    | .name b => a = b
    | _ => false
  | .captured, e => match e with
    | .captured => true
    | _ => false
  | .tuple a, e => match e with
    | .tuple b => sameExprs a b
    | _ => false
  | .list a, e => match e with
    | .list b => sameExprs a b
    | _ => false
  | .dict a, e => match e with
    | .dict b => samePairs a b
    | _ => false
  | .attribute a m, e => match e with
    | .attribute b n => a.same b && m = n
    | _ => false
  | .item a i, e => match e with
    | .item b j => a.same b && i.same j
    | _ => false
  | .slice a i j k, e => match e with
    | .slice b l m n => a.same b && i.same l && j.same m && k.same n
    | _ => false
  | .call f a m, e => match e with
    | .call g b n => f.same g && sameExprs a b && sameNamed m n
    | _ => false
  | .filter f s a m, e => match e with
    | .filter g t b n => f.same g && s = t && sameExprs a b && sameNamed m n
    | _ => false
  | .test f s a m, e => match e with
    | .test g t b n => f.same g && s = t && sameExprs a b && sameNamed m n
    | _ => false
  | .neg a, e => match e with
    | .neg b => a.same b
    | _ => false
  | .pos a, e => match e with
    | .pos b => a.same b
    | _ => false
  | .not a, e => match e with
    | .not b => a.same b
    | _ => false
  | .binary o a b, e => match e with
    | .binary p c d => o = p && a.same c && b.same d
    | _ => false
  | .concat a, e => match e with
    | .concat b => sameExprs a b
    | _ => false
  | .compare a m, e => match e with
    | .compare b n => a.same b && sameCompared m n
    | _ => false
  | .and a b, e => match e with
    | .and c d => a.same c && b.same d
    | _ => false
  | .or a b, e => match e with
    | .or c d => a.same c && b.same d
    | _ => false
  | .choice a b c, e => match e with
    | .choice d f g => a.same d && b.same f && c.same g
    | _ => false
  | .only a b m, e => match e with
    | .only c d n => a.same c && b.same d && m = n
    | _ => false

def sameExprs : List Expr → List Expr → Bool
  | [], [] => true
  | a :: as, b :: bs => a.same b && sameExprs as bs
  | _, _ => false

def samePairs : List (Expr × Expr) → List (Expr × Expr) → Bool
  | [], [] => true
  | (a, b) :: as, (c, d) :: bs => a.same c && b.same d && samePairs as bs
  | _, _ => false

def sameNamed : List (String × Expr) → List (String × Expr) → Bool
  | [], [] => true
  | (m, a) :: as, (n, b) :: bs => m = n && a.same b && sameNamed as bs
  | _, _ => false

def sameCompared : List (CompareOp × Expr) → List (CompareOp × Expr) → Bool
  | [], [] => true
  | (m, a) :: as, (n, b) :: bs => m = n && a.same b && sameCompared as bs
  | _, _ => false

end

mutual

/-- Expressions that are built alike are equal. -/
theorem Expr.eq_of_same : ∀ {a b : Expr}, a.same b = true → a = b
  | .constant a, b, h => by
    unfold Expr.same at h
    split at h
    · rw [decide_eq_true_eq.mp h]
    · cases h
  | .name a, b, h => by
    unfold Expr.same at h
    split at h
    · rw [decide_eq_true_eq.mp h]
    · cases h
  | .captured, b, h => by
    unfold Expr.same at h
    split at h
    · rfl
    · cases h
  | .tuple a, b, h => by
    unfold Expr.same at h
    split at h
    · rw [eq_of_sameExprs h]
    · cases h
  | .list a, b, h => by
    unfold Expr.same at h
    split at h
    · rw [eq_of_sameExprs h]
    · cases h
  | .dict a, b, h => by
    unfold Expr.same at h
    split at h
    · rw [eq_of_samePairs h]
    · cases h
  | .attribute a m, b, h => by
    unfold Expr.same at h
    split at h
    · simp only [Bool.and_eq_true, decide_eq_true_eq] at h
      rw [Expr.eq_of_same h.1, h.2]
    · cases h
  | .item a i, b, h => by
    unfold Expr.same at h
    split at h
    · simp only [Bool.and_eq_true] at h
      rw [Expr.eq_of_same h.1, Expr.eq_of_same h.2]
    · cases h
  | .slice a i j k, b, h => by
    unfold Expr.same at h
    split at h
    · simp only [Bool.and_eq_true] at h
      rw [Expr.eq_of_same h.1.1.1, Expr.eq_of_same h.1.1.2, Expr.eq_of_same h.1.2,
        Expr.eq_of_same h.2]
    · cases h
  | .call f a m, b, h => by
    unfold Expr.same at h
    split at h
    · simp only [Bool.and_eq_true] at h
      rw [Expr.eq_of_same h.1.1, eq_of_sameExprs h.1.2, eq_of_sameNamed h.2]
    · cases h
  | .filter f s a m, b, h => by
    unfold Expr.same at h
    split at h
    · simp only [Bool.and_eq_true, decide_eq_true_eq] at h
      rw [Expr.eq_of_same h.1.1.1, h.1.1.2, eq_of_sameExprs h.1.2, eq_of_sameNamed h.2]
    · cases h
  | .test f s a m, b, h => by
    unfold Expr.same at h
    split at h
    · simp only [Bool.and_eq_true, decide_eq_true_eq] at h
      rw [Expr.eq_of_same h.1.1.1, h.1.1.2, eq_of_sameExprs h.1.2, eq_of_sameNamed h.2]
    · cases h
  | .neg a, b, h => by
    unfold Expr.same at h
    split at h
    · rw [Expr.eq_of_same h]
    · cases h
  | .pos a, b, h => by
    unfold Expr.same at h
    split at h
    · rw [Expr.eq_of_same h]
    · cases h
  | .not a, b, h => by
    unfold Expr.same at h
    split at h
    · rw [Expr.eq_of_same h]
    · cases h
  | .binary o a c, b, h => by
    unfold Expr.same at h
    split at h
    · simp only [Bool.and_eq_true, decide_eq_true_eq] at h
      rw [h.1.1, Expr.eq_of_same h.1.2, Expr.eq_of_same h.2]
    · cases h
  | .concat a, b, h => by
    unfold Expr.same at h
    split at h
    · rw [eq_of_sameExprs h]
    · cases h
  | .compare a m, b, h => by
    unfold Expr.same at h
    split at h
    · simp only [Bool.and_eq_true] at h
      rw [Expr.eq_of_same h.1, eq_of_sameCompared h.2]
    · cases h
  | .and a c, b, h => by
    unfold Expr.same at h
    split at h
    · simp only [Bool.and_eq_true] at h
      rw [Expr.eq_of_same h.1, Expr.eq_of_same h.2]
    · cases h
  | .or a c, b, h => by
    unfold Expr.same at h
    split at h
    · simp only [Bool.and_eq_true] at h
      rw [Expr.eq_of_same h.1, Expr.eq_of_same h.2]
    · cases h
  | .choice a c d, b, h => by
    unfold Expr.same at h
    split at h
    · simp only [Bool.and_eq_true] at h
      rw [Expr.eq_of_same h.1.1, Expr.eq_of_same h.1.2, Expr.eq_of_same h.2]
    · cases h
  | .only a c m, b, h => by
    unfold Expr.same at h
    split at h
    · simp only [Bool.and_eq_true, decide_eq_true_eq] at h
      rw [Expr.eq_of_same h.1.1, Expr.eq_of_same h.1.2, h.2]
    · cases h

theorem eq_of_sameExprs : ∀ {as bs : List Expr}, sameExprs as bs = true → as = bs
  | [], [], _ => rfl
  | [], _ :: _, h => by simp [sameExprs] at h
  | _ :: _, [], h => by simp [sameExprs] at h
  | a :: as, b :: bs, h => by
    simp only [sameExprs, Bool.and_eq_true] at h
    rw [Expr.eq_of_same h.1, eq_of_sameExprs h.2]

theorem eq_of_samePairs : ∀ {as bs : List (Expr × Expr)}, samePairs as bs = true → as = bs
  | [], [], _ => rfl
  | [], _ :: _, h => by simp [samePairs] at h
  | _ :: _, [], h => by simp [samePairs] at h
  | (a, c) :: as, (b, d) :: bs, h => by
    simp only [samePairs, Bool.and_eq_true] at h
    rw [Expr.eq_of_same h.1.1, Expr.eq_of_same h.1.2, eq_of_samePairs h.2]

theorem eq_of_sameNamed : ∀ {as bs : List (String × Expr)}, sameNamed as bs = true → as = bs
  | [], [], _ => rfl
  | [], _ :: _, h => by simp [sameNamed] at h
  | _ :: _, [], h => by simp [sameNamed] at h
  | (m, a) :: as, (n, b) :: bs, h => by
    simp only [sameNamed, Bool.and_eq_true, decide_eq_true_eq] at h
    rw [h.1.1, Expr.eq_of_same h.1.2, eq_of_sameNamed h.2]

theorem eq_of_sameCompared :
    ∀ {as bs : List (CompareOp × Expr)}, sameCompared as bs = true → as = bs
  | [], [], _ => rfl
  | [], _ :: _, h => by simp [sameCompared] at h
  | _ :: _, [], h => by simp [sameCompared] at h
  | (m, a) :: as, (n, b) :: bs, h => by
    simp only [sameCompared, Bool.and_eq_true, decide_eq_true_eq] at h
    rw [h.1.1, Expr.eq_of_same h.1.2, eq_of_sameCompared h.2]

end

mutual

/-- Whether two targets are built alike. -/
def Target.same : Target → Target → Bool
  | .name a, t => match t with
    | .name b => a = b
    | _ => false
  | .attribute a k, t => match t with
    | .attribute b l => a = b && k = l
    | _ => false
  | .tuple a, t => match t with
    | .tuple b => sameTargets a b
    | _ => false

def sameTargets : List Target → List Target → Bool
  | [], [] => true
  | a :: as, b :: bs => a.same b && sameTargets as bs
  | _, _ => false

end

mutual

theorem Target.eq_of_same : ∀ {a b : Target}, a.same b = true → a = b
  | .name a, b, h => by
    unfold Target.same at h
    split at h
    · rw [decide_eq_true_eq.mp h]
    · cases h
  | .attribute a k, b, h => by
    unfold Target.same at h
    split at h
    · simp only [Bool.and_eq_true, decide_eq_true_eq] at h
      rw [h.1, h.2]
    · cases h
  | .tuple a, b, h => by
    unfold Target.same at h
    split at h
    · rw [eq_of_sameTargets h]
    · cases h

theorem eq_of_sameTargets : ∀ {as bs : List Target}, sameTargets as bs = true → as = bs
  | [], [], _ => rfl
  | [], _ :: _, h => by simp [sameTargets] at h
  | _ :: _, [], h => by simp [sameTargets] at h
  | a :: as, b :: bs, h => by
    simp only [sameTargets, Bool.and_eq_true] at h
    rw [Target.eq_of_same h.1, eq_of_sameTargets h.2]

end

/-- Whether two conditions of loops are built alike. -/
def sameCondition : Option Expr → Option Expr → Bool
  | none, none => true
  | some a, some b => a.same b
  | _, _ => false

theorem eq_of_sameCondition :
    ∀ {a? b? : Option Expr}, sameCondition a? b? = true → a? = b?
  | none, none, _ => rfl
  | none, some _, h => by simp [sameCondition] at h
  | some _, none, h => by simp [sameCondition] at h
  | some a, some b, h => by
    unfold sameCondition at h
    rw [Expr.eq_of_same h]

mutual

/-- Whether two statements are built alike. -/
def Stmt.same : Stmt → Stmt → Bool
  | .text a, s => match s with
    | .text b => a = b
    | _ => false
  | .output a, s => match s with
    | .output b => a.same b
    | _ => false
  | .branch a m n, s => match s with
    | .branch b k l => a.same b && sameBody m k && sameBody n l
    | _ => false
  | .loop t a c? m n, s => match s with
    | .loop u b d? k l =>
      t.same u && a.same b && sameCondition c? d? && sameBody m k && sameBody n l
    | _ => false
  | .assign t a, s => match s with
    | .assign u b => t.same u && a.same b
    | _ => false
  | .capture t a m, s => match s with
    | .capture u b k => t.same u && a.same b && sameBody m k
    | _ => false
  | .include a i j, s => match s with
    | .include b k l => a.same b && i = k && j = l
    | _ => false

def sameBody : List Stmt → List Stmt → Bool
  | [], [] => true
  | a :: as, b :: bs => a.same b && sameBody as bs
  | _, _ => false

end

mutual

/-- Statements that are built alike are equal. -/
theorem Stmt.eq_of_same : ∀ {a b : Stmt}, a.same b = true → a = b
  | .text a, b, h => by
    unfold Stmt.same at h
    split at h
    · rw [decide_eq_true_eq.mp h]
    · cases h
  | .output a, b, h => by
    unfold Stmt.same at h
    split at h
    · rw [Expr.eq_of_same h]
    · cases h
  | .branch a m n, b, h => by
    unfold Stmt.same at h
    split at h
    · simp only [Bool.and_eq_true] at h
      rw [Expr.eq_of_same h.1.1, eq_of_sameBody h.1.2, eq_of_sameBody h.2]
    · cases h
  | .loop t a c? m n, b, h => by
    unfold Stmt.same at h
    split at h
    · simp only [Bool.and_eq_true] at h
      rw [Target.eq_of_same h.1.1.1.1, Expr.eq_of_same h.1.1.1.2, eq_of_sameCondition h.1.1.2,
        eq_of_sameBody h.1.2, eq_of_sameBody h.2]
    · cases h
  | .assign t a, b, h => by
    unfold Stmt.same at h
    split at h
    · simp only [Bool.and_eq_true] at h
      rw [Target.eq_of_same h.1, Expr.eq_of_same h.2]
    · cases h
  | .capture t a m, b, h => by
    unfold Stmt.same at h
    split at h
    · simp only [Bool.and_eq_true] at h
      rw [Target.eq_of_same h.1.1, Expr.eq_of_same h.1.2, eq_of_sameBody h.2]
    · cases h
  | .include a i j, b, h => by
    unfold Stmt.same at h
    split at h
    · simp only [Bool.and_eq_true, decide_eq_true_eq] at h
      rw [Expr.eq_of_same h.1.1, h.1.2, h.2]
    · cases h

theorem eq_of_sameBody : ∀ {as bs : List Stmt}, sameBody as bs = true → as = bs
  | [], [], _ => rfl
  | [], _ :: _, h => by simp [sameBody] at h
  | _ :: _, [], h => by simp [sameBody] at h
  | a :: as, b :: bs, h => by
    simp only [sameBody, Bool.and_eq_true] at h
    rw [Stmt.eq_of_same h.1, eq_of_sameBody h.2]

end

/-! ## Reading from characters -/

/-- The statements that the characters of a template are read as. -/
def parseChars (cs : List Char) : Except SyntaxFault (List Stmt) :=
  let s := Text.newlines cs
  let ls := lexemesFrom s.length (s.length + 1) (.text true) 1 s
  (Reader.statements [] (20 * ls.length + 20) { rest := ls }).map (·.1)

theorem parse_eq_parseChars (source : String) : parse source = parseChars source.toList := rfl

/-- Whether characters are read as given statements, whose filters and tests are known. -/
def readsAs (v : Vocabulary) (cs : List Char) (stmts : List Stmt) : Bool :=
  match parseChars cs with
  | .ok read => sameBody read stmts && (checkBody v false stmts matches .ok _)
  | .error _ => false

/-- What an engine compiles a template to, from an evaluation on its characters. -/
theorem compile_of_readsAs {e : Engine} {source : String} {cs : List Char} {stmts : List Stmt}
    (hs : source.toList = cs) (h : readsAs e.vocabulary cs stmts = true) :
    e.compile source = .ok stmts := by
  unfold readsAs at h
  unfold Engine.compile
  rw [parse_eq_parseChars, hs]
  split at h
  · rename_i read hread
    rw [Bool.and_eq_true] at h
    rw [hread, eq_of_sameBody h.1]
    split at h
    · rename_i hcheck
      change (checkBody e.vocabulary false stmts >>= fun _ => pure stmts) = _
      rw [hcheck]
      rfl
    · cases h.2
  · cases h

/-- The characters of a text put together out of two, before others. What was read last stands
innermost, so each character is passed over once. -/
theorem toList_append_before {a b : String} {x y z : List Char} (hb : b.toList ++ x = y)
    (ha : a.toList ++ y = z) : (a ++ b).toList ++ x = z := by
  rw [String.toList_append, List.append_assoc, hb, ha]

theorem toList_ofList_before (l x : List Char) : (String.ofList l).toList ++ x = l ++ x := by
  rw [String.toList_ofList]

theorem toList_of_before {s : String} {x : List Char} (h : s.toList ++ [] = x) : s.toList = x := by
  rw [← h, List.append_nil]

end ResolverGen.Template
