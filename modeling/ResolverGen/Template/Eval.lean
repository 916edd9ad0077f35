import ResolverGen.Table
import ResolverGen.Template.Call

/-!
# Rendering of statements

What expressions are worth and what statements write. A scope holds the names in sight. Names set in
a loop or in a capture end with it; those set under a condition stay.
-/
namespace ResolverGen.Template

structure Scope where
  names : Table Value
  /-- The text that the capture being finished has caught. -/
  captured : String := ""

/-- What rendering depends on beside the scope. -/
structure Surroundings where
  filters : List Filter
  /-- The name of the template, if it was loaded by one. -/
  templateName? : Option String
  /-- Renders another template: what names it, whether it may be missing, and its names in sight. -/
  renderOther : Value → Bool → Table Value → Eval String

/-- The value of a name: what is in sight, or else a function. -/
def lookupName (names : Table Value) (name : String) : Value :=
  match names.get? name with
  | some v => v
  | none =>
    if name ∈ functions then .function name
    else .undefined false (quotedName name ++ " is undefined")

def Constant.value : Constant → Value
  | none => .null
  | bool b => .bool b
  | int n => .int n
  | float x => .float x
  | str s => .str s

/-- What a choice without alternative is worth if its condition is false. -/
def noAlternative (line : Nat) (templateName? : Option String) : Value :=
  .undefined true
    ("the inline if-expression on line " ++ toString line ++
      (match templateName? with
        | none => ""
        | some name => " in " ++ quotedName name) ++
      " evaluated to false and no else section was defined.")

def makeDict (entries : List (Value × Value)) : Except Fault Value := do
  for (key, _) in entries do
    match key with
    | .undefined false message => throw (.missing message)
    | key => if !key.isHashable then throw (.unhashable key.kindName)
  return .dict (entries.foldl (fun acc e => Value.putEntry acc e.1 e.2) [])

def Surroundings.applyFilter (c : Surroundings) (name : String) (input : Value) (args : List Value)
    (named : List (String × Value)) : Eval Value :=
  match findFilter? c.filters name with
  | some f => f.apply input args named
  | none => throw (.noFilter name)

def applyTest (name : String) (input : Value) (args : List Value) (named : List (String × Value)) :
    Except Fault Value :=
  match findTest? name with
  | some t => (t.apply input args named).map .bool
  | none => .error (.noTest name)

mutual

/-- The value of an expression. -/
def Expr.eval (c : Surroundings) (s : Scope) : Expr → Eval Value
  | .constant k => return k.value
  | .name x => return lookupName s.names x
  | .captured => return .str s.captured
  | .tuple items => return .tuple (← evalAll c s items)
  | .list items => return .list (← evalAll c s items)
  | .dict entries => do Eval.ofExcept (makeDict (← evalPairs c s entries))
  | .attribute object name => do Eval.ofExcept (attributeOf (← object.eval c s) name)
  | .item object index => do
    let v ← object.eval c s
    Eval.ofExcept (itemOf v (← index.eval c s))
  | .slice object first last step => do
    let v ← object.eval c s
    let first ← first.eval c s
    let last ← last.eval c s
    Eval.ofExcept (slice v first last (← step.eval c s))
  | .call callee args named => do
    let f ← callee.eval c s
    let args ← evalAll c s args
    Eval.ofExcept (callValue f args (← evalNamed c s named))
  | .filter input name args named => do
    let v ← input.eval c s
    let args ← evalAll c s args
    c.applyFilter name v args (← evalNamed c s named)
  | .test input name args named => do
    let v ← input.eval c s
    let args ← evalAll c s args
    Eval.ofExcept (applyTest name v args (← evalNamed c s named))
  | .neg e => do Eval.ofExcept (negation (← e.eval c s))
  | .pos e => do Eval.ofExcept (identity (← e.eval c s))
  | .not e => do return .bool !(← Eval.ofExcept (truth (← e.eval c s)))
  | .binary op a b => do
    let v ← a.eval c s
    Eval.ofExcept (binaryOperation op v (← b.eval c s))
  | .concat items => do
    let texts ← Eval.ofExcept ((← evalAll c s items).mapM textOf)
    return .str (String.join texts)
  | .compare first rest => do evalCompared c s (← first.eval c s) rest
  | .and a b => do
    let v ← a.eval c s
    if ← Eval.ofExcept (truth v) then b.eval c s else return v
  | .or a b => do
    let v ← a.eval c s
    if ← Eval.ofExcept (truth v) then return v else b.eval c s
  | .choice test yes no => do
    if ← Eval.ofExcept (truth (← test.eval c s)) then yes.eval c s else no.eval c s
  | .only test yes line => do
    if ← Eval.ofExcept (truth (← test.eval c s)) then yes.eval c s
    else return noAlternative line c.templateName?

def evalAll (c : Surroundings) (s : Scope) : List Expr → Eval (List Value)
  | [] => return []
  | e :: rest => do
    let v ← e.eval c s
    return v :: (← evalAll c s rest)

def evalPairs (c : Surroundings) (s : Scope) : List (Expr × Expr) → Eval (List (Value × Value))
  | [] => return []
  | (key, value) :: rest => do
    let k ← key.eval c s
    let v ← value.eval c s
    return (k, v) :: (← evalPairs c s rest)

def evalNamed (c : Surroundings) (s : Scope) : List (String × Expr) → Eval (List (String × Value))
  | [] => return []
  | (name, e) :: rest => do
    let v ← e.eval c s
    return (name, v) :: (← evalNamed c s rest)

/-- A chain of comparisons holds if each does; the first that fails ends it. -/
def evalCompared (c : Surroundings) (s : Scope) (left : Value) :
    List (CompareOp × Expr) → Eval Value
  | [] => return .bool true
  | (op, e) :: rest => do
    let right ← e.eval c s
    if ← Eval.ofExcept (comparison op left right) then evalCompared c s right rest
    else return .bool false

end

/-! ## Assignment -/

mutual

/-- Whether a target has a part that is an attribute. -/
def Target.hasAttribute : Target → Bool
  | .name _ => false
  | .attribute .. => true
  | .tuple items => anyAttribute items

def anyAttribute : List Target → Bool
  | [] => false
  | t :: rest => t.hasAttribute || anyAttribute rest

end

/-- The members of a value that is taken apart into as many. -/
def unpack (wanted : Nat) (v : Value) : Except Fault (List Value) :=
  match members v with
  | .error (.notIterable kind) => .error (.notUnpackable kind)
  | .error f => .error f
  | .ok items =>
    if items.length < wanted then .error (.tooFewValues wanted items.length)
    else if wanted < items.length then .error (.tooManyValues wanted)
    else .ok items

mutual

/-- The names in sight after an assignment. -/
def Target.assign (names : Table Value) (v : Value) : Target → Except Fault (Table Value)
  | .name x => .ok (names.put x v)
  | .attribute .. => .error .notNamespace
  | .tuple items => do assignAll names (← unpack items.length v) items

def assignAll (names : Table Value) : List Value → List Target → Except Fault (Table Value)
  | v :: rest, t :: ts => do assignAll (← t.assign names v) rest ts
  | _, _ => .ok names

end

/-! ## Loops -/

/-- What a loop knows about its place at the item of an index. -/
def loopRecord (items : List Value) (i : Nat) : Value :=
  let n := items.length
  .record .loop
    [("index", .int (i + 1)), ("index0", .int i), ("first", .bool (i = 0)),
      ("last", .bool (i + 1 = n)), ("length", .int n), ("revindex", .int (n - i : Nat)),
      ("revindex0", .int (n - i - 1 : Nat)), ("depth", .int 1), ("depth0", .int 0),
      ("previtem",
        if i = 0 then .undefined false "there is no previous item" else items.getD (i - 1) .null),
      ("nextitem",
        match items[i + 1]? with
        | some item => item
        | none => .undefined false "there is no next item")]

/-- The items that a condition lets through, up to a fault. -/
def keepItems (condition : Value → Eval Bool) : List Value → Eval (List Value × Option Fault)
  | [] => return ([], none)
  | item :: rest => fun sanitizer =>
    match condition item sanitizer with
    | (.ok true, next) =>
      (do
        let (kept, fault?) ← keepItems condition rest
        return (item :: kept, fault?) : Eval (List Value × Option Fault)) next
    | (.ok false, next) => keepItems condition rest next
    | (.error fault, next) => (.ok ([], some fault), next)

/-- What the body of a loop writes for each item in turn. -/
def repeatBody (body : Value → Nat → Eval String) (i : Nat) : List Value → Eval (List String)
  | [] => return []
  | item :: rest => do
    let part ← body item i
    return part :: (← repeatBody body (i + 1) rest)

mutual

/-- What a statement writes, and the names in sight after it. -/
def Stmt.run (c : Surroundings) (names : Table Value) : Stmt → Eval (String × Table Value)
  | .text s => return (s, names)
  | .output e => do return (← Eval.ofExcept (textOf (← e.eval c ⟨names, ""⟩)), names)
  | .branch test yes no => do
    if ← Eval.ofExcept (truth (← test.eval c ⟨names, ""⟩)) then runBody c names yes
    else runBody c names no
  | .loop target items condition? body otherwise => do
    let all ← Eval.ofExcept (members (← items.eval c ⟨names, ""⟩))
    let (kept, fault?) ←
      match condition? with
      | none => pure (all, none)
      | some condition =>
        keepItems (fun item => do
          let inner ← Eval.ofExcept (target.assign names item)
          Eval.ofExcept (truth (← condition.eval c ⟨inner, ""⟩))) all
    let asksPlace := bodyMentions placeName body
    let parts ← repeatBody (fun item i => do
      let inner ← Eval.ofExcept (target.assign names item)
      let inner := if asksPlace then inner.put placeName (loopRecord kept i) else inner
      return (← runBody c inner body).1) 0 kept
    if let some fault := fault? then
      throw fault
    if kept.isEmpty then
      return ((← runBody c names otherwise).1, names)
    return (String.join parts, names)
  | .assign target value => do
    if target.hasAttribute then
      throw .notNamespace
    let v ← value.eval c ⟨names, ""⟩
    return ("", ← Eval.ofExcept (target.assign names v))
  | .capture target value body => do
    let (caught, inner) ← runBody c names body
    let v ← value.eval c ⟨inner, caught⟩
    return ("", ← Eval.ofExcept (target.assign names v))
  | .include name mayBeMissing withContext => do
    let v ← name.eval c ⟨names, ""⟩
    return (← c.renderOther v mayBeMissing (if withContext then names else []), names)

/-- What statements write one after another, and the names in sight after them. -/
def runBody (c : Surroundings) (names : Table Value) : List Stmt → Eval (String × Table Value)
  | [] => return ("", names)
  | s :: rest => do
    let (first, names) ← s.run c names
    let (others, names) ← runBody c names rest
    return (first ++ others, names)

end

end ResolverGen.Template
