import ResolverGen.Template.Syntax

/-!
# Checks before rendering

A template that names an unknown filter or test is refused before anything is rendered, except where
the name stands under a condition: there it is a fault only when it is reached. What a loop knows about
its place cannot be assigned to.
-/
namespace ResolverGen.Template

/-- The filters and tests that templates may use. -/
structure Vocabulary where
  hasFilter : String → Bool
  hasTest : String → Bool

def Vocabulary.checkFilter (v : Vocabulary) (conditional : Bool) (name : String) :
    Except SyntaxFault Unit :=
  if conditional || v.hasFilter name then .ok () else .error (.unknownFilter name)

def Vocabulary.checkTest (v : Vocabulary) (conditional : Bool) (name : String) :
    Except SyntaxFault Unit :=
  if conditional || v.hasTest name then .ok () else .error (.unknownTest name)

mutual

/-- The first unknown filter or test of an expression. Choices are conditions of their own. -/
def Expr.check (v : Vocabulary) (conditional : Bool) : Expr → Except SyntaxFault Unit
  | .constant _ | .name _ | .captured | .choice .. | .only .. => .ok ()
  | .tuple items | .list items | .concat items => checkAll v conditional items
  | .dict entries => checkPairs v conditional entries
  | .attribute e _ | .neg e | .pos e | .not e => e.check v conditional
  | .item a b | .binary _ a b | .and a b | .or a b => do
    a.check v conditional
    b.check v conditional
  | .slice object first last step => do
    object.check v conditional
    first.check v conditional
    last.check v conditional
    step.check v conditional
  | .call callee args named => do
    callee.check v conditional
    checkAll v conditional args
    checkNamed v conditional named
  | .filter input name args named => do
    v.checkFilter conditional name
    input.check v conditional
    checkAll v conditional args
    checkNamed v conditional named
  | .test input name args named => do
    v.checkTest conditional name
    input.check v conditional
    checkAll v conditional args
    checkNamed v conditional named
  | .compare first rest => do
    first.check v conditional
    checkCompared v conditional rest

def checkAll (v : Vocabulary) (conditional : Bool) : List Expr → Except SyntaxFault Unit
  | [] => .ok ()
  | e :: rest => do
    e.check v conditional
    checkAll v conditional rest

def checkPairs (v : Vocabulary) (conditional : Bool) : List (Expr × Expr) → Except SyntaxFault Unit
  | [] => .ok ()
  | (key, value) :: rest => do
    key.check v conditional
    value.check v conditional
    checkPairs v conditional rest

def checkNamed (v : Vocabulary) (conditional : Bool) :
    List (String × Expr) → Except SyntaxFault Unit
  | [] => .ok ()
  | (_, e) :: rest => do
    e.check v conditional
    checkNamed v conditional rest

def checkCompared (v : Vocabulary) (conditional : Bool) :
    List (CompareOp × Expr) → Except SyntaxFault Unit
  | [] => .ok ()
  | (_, e) :: rest => do
    e.check v conditional
    checkCompared v conditional rest

end

mutual

/-- The first unknown filter or test of a statement. The bodies of loops and captures begin anew. -/
def Stmt.check (v : Vocabulary) (conditional : Bool) : Stmt → Except SyntaxFault Unit
  | .text _ => .ok ()
  | .output e => e.check v conditional
  | .branch test yes no => do
    test.check v true
    checkBody v true yes
    checkBody v true no
  | .loop target items condition? body otherwise => do
    match condition? with
    | none => pure ()
    | some condition => condition.check v false
    if target.binds placeName || bodyBinds placeName body || bodyBinds placeName otherwise then
      throw .placeAssigned
    items.check v conditional
    checkBody v false body
    checkBody v false otherwise
  | .assign _ value => value.check v conditional
  | .capture _ value body => do
    checkBody v false body
    value.check v false
  | .include name _ _ => name.check v conditional

/-- The first unknown filter or test of a body. -/
def checkBody (v : Vocabulary) (conditional : Bool) : List Stmt → Except SyntaxFault Unit
  | [] => .ok ()
  | s :: rest => do
    s.check v conditional
    checkBody v conditional rest

end

end ResolverGen.Template
