import ResolverGen.Template.Arithmetic
import ResolverGen.Text.Blank
import ResolverGen.Text.Case

/-!
# Access to values

Truth, text, members, attributes, parts and comparisons of values. Using a missing value is a fault,
except that a lenient one counts as empty.
-/
namespace ResolverGen.Template

open Value

/-- Whether a value counts as true. -/
def truth (v : Value) : Except Fault Bool :=
  match v with
  | .undefined false message => .error (.missing message)
  | v => .ok v.isTrue

/-- The text of a value. -/
def textOf (v : Value) : Except Fault String :=
  match v with
  | .undefined false message => .error (.missing message)
  | v => if v.holdsLong then .error (.tooManyDigits digitLimit) else .ok v.plainText

def characters (s : String) : List Value := s.toList.map fun c => .str c.toString

/-- The members that a loop goes through. -/
def members (v : Value) : Except Fault (List Value) :=
  match v with
  | .undefined false message => .error (.missing message)
  | .undefined true _ => .ok []
  | .str s => .ok (characters s)
  | .list items | .tuple items | .view _ items => .ok items
  | .dict entries | .frozen entries => .ok (entries.map (·.1))
  | .range first stop step => .ok ((rangeMembers first stop step).map .int)
  | v => .error (.notIterable v.kindName)

def lengthOf (v : Value) : Except Fault Nat :=
  match v with
  | .undefined false message => .error (.missing message)
  | .undefined true _ => .ok 0
  | .str s => .ok s.length
  | .list items | .tuple items | .view _ items => .ok items.length
  | .dict entries | .frozen entries => .ok entries.length
  | .range first stop step => .ok (rangeMembers first stop step).length
  | v => .error (.noLength v.kindName)

/-! ## Attributes and items -/

/-- Names of the methods that values have. -/
def methodNames : Value → List String
  | .str _ =>
    ["upper", "lower", "strip", "lstrip", "rstrip", "startswith", "endswith", "replace", "split",
      "join", "capitalize"]
  | .dict _ | .frozen _ => ["get", "items", "keys", "values"]
  | .record .settings _ => ["type_config"]
  | .record .typeSettings _ => ["field_config"]
  | _ => []

/-- A part that the kind of a value gives it, apart from what the value holds. -/
def ownAttribute? (v : Value) (name : String) : Option Value :=
  match v with
  | .record _ fields =>
    match fields.lookup name with
    | some value => some value
    | none => if name ∈ methodNames v then some (.method v name) else none
  | v => if name ∈ methodNames v then some (.method v name) else none

def noAttribute (v : Value) (name : String) : Value :=
  .undefined false
    (quotedName v.ownerName ++ " has no attribute " ++ quotedName name)

def noElement (v index : Value) : Value :=
  match index with
  | .str name => noAttribute v name
  | index => .undefined false (v.ownerName ++ " has no element " ++ String.ofList index.shown)

/-- A position counted from the end if it is negative. -/
def position? (length : Nat) (i : Int) : Option Nat :=
  let i := if i < 0 then i + length else i
  if 0 ≤ i ∧ i < length then some i.toNat else none

/-- What a value holds under an index or key. -/
def held? (v index : Value) : Option Value :=
  match v with
  | .dict entries | .frozen entries => if index.isHashable then valueAt? entries index else none
  | .list items | .tuple items => do items[← position? items.length (← asInt? index)]?
  | .str s => do
    let cs := s.toList
    return .str (← cs[← position? cs.length (← asInt? index)]?).toString
  | .range first stop step => do
    let all := rangeMembers first stop step
    return .int (← all[← position? all.length (← asInt? index)]?)
  | _ => none

/-- The attribute of a value: what its kind gives it, or else what it holds under the name. -/
def attributeOf (v : Value) (name : String) : Except Fault Value :=
  match v with
  | .undefined _ message => .error (.missing message)
  | v =>
    match ownAttribute? v name with
    | some value => .ok value
    | none => .ok ((held? v (.str name)).getD (noAttribute v name))

/-- The item of a value: what it holds under the index, or else its attribute of that name. -/
def itemOf (v index : Value) : Except Fault Value :=
  match v, index with
  | .undefined _ message, _ => .error (.missing message)
  | .dict _, .undefined false message | .frozen _, .undefined false message =>
    .error (.missing message)
  | v, index =>
    match held? v index with
    | some value => .ok value
    | none =>
      match index with
      | .str name => .ok ((ownAttribute? v name).getD (noAttribute v name))
      | index => .ok (noElement v index)

/-! ## Slices -/

/-- A bound of a slice, none where it is not given. -/
def sliceIndex (v : Value) : Except Fault (Option Int) :=
  match v with
  | .null => .ok none
  | .undefined false message => .error (.missing message)
  | v =>
    match asInt? v with
    | some n => .ok (some n)
    | none => .error .sliceBound

/-- A bound brought into the range from `low` to `high`. -/
def clampBound (length : Nat) (low high : Int) (i : Int) : Int :=
  let i := if i < 0 then i + length else i
  if i < low then low else if high < i then high else i

/-- The positions that a slice takes from a sequence. -/
def slicePositions (length : Nat) (first? last? : Option Int) (step : Int) : List Nat :=
  let n : Int := length
  let bounds : Int × Int :=
    if 0 < step then
      ((first?.map (clampBound length 0 n)).getD 0, (last?.map (clampBound length 0 n)).getD n)
    else
      ((first?.map (clampBound length (-1) (n - 1))).getD (n - 1),
        (last?.map (clampBound length (-1) (n - 1))).getD (-1))
  (rangeMembers bounds.1 bounds.2 step).map Int.toNat

def takePositions {α : Type} (xs : List α) (positions : List Nat) : List α :=
  let array := xs.toArray
  positions.filterMap fun i => array[i]?

/-- A part of a sequence. -/
def slice (v first last step : Value) : Except Fault Value := do
  match v with
  | .undefined _ message => throw (.missing message)
  | .dict _ | .frozen _ => throw (.unhashable "slice")
  | .str _ | .list _ | .tuple _ | .range .. =>
    let step := (← sliceIndex step).getD 1
    if step = 0 then throw .sliceStep
    let first? ← sliceIndex first
    let last? ← sliceIndex last
    match v with
    | .str s =>
      let cs := s.toList
      return .str (String.ofList (takePositions cs (slicePositions cs.length first? last? step)))
    | .list items =>
      return .list (takePositions items (slicePositions items.length first? last? step))
    | .tuple items =>
      return .tuple (takePositions items (slicePositions items.length first? last? step))
    | v =>
      let items ← members v
      return .list (takePositions items (slicePositions items.length first? last? step))
  | v => throw (.notSubscriptable v.kindName)

/-! ## Comparisons -/

/-- Equality; a missing value on either side is a fault unless it is lenient. -/
def equal (a b : Value) : Except Fault Bool :=
  match a, b with
  | .undefined false message, _ => .error (.missing message)
  | _, .undefined false message => .error (.missing message)
  | a, b => .ok (same a b)

def compareTexts (s t : String) : Ordering := compare (s.toList.map Char.toNat) (t.toList.map Char.toNat)

mutual

/-- Order of two values of a kind; none for numbers without order. -/
def order (op : String) (a b : Value) : Except Fault (Option Ordering) :=
  match a, b with
  | .undefined _ message, _ => .error (.missing message)
  | _, .undefined _ message => .error (.missing message)
  | .str s, .str t => .ok (some (compareTexts s t))
  | .list s, .list t => orderItems op s t
  | .tuple s, .tuple t => orderItems op s t
  | a, b =>
    match asNumber? a, asNumber? b with
    | some m, some n => .ok (m.compare? n)
    | _, _ => .error (.order op a.kindName b.kindName)

/-- Sequences are ordered by their first members that differ. -/
def orderItems (op : String) : List Value → List Value → Except Fault (Option Ordering)
  | [], [] => .ok (some .eq)
  | [], _ :: _ => .ok (some .lt)
  | _ :: _, [] => .ok (some .gt)
  | a :: as, b :: bs => if same a b then orderItems op as bs else order op a b

end

/-- Whether a text stands in another. -/
def isInfix (part : List Char) : List Char → Bool
  | [] => part.isEmpty
  | c :: rest => part.isPrefixOf (c :: rest) || isInfix part rest

/-- Whether a value is among the members of another. -/
def contains (container v : Value) : Except Fault Bool :=
  match container with
  | .undefined false message => .error (.missing message)
  | .undefined true _ => .ok false
  | .str s =>
    match v with
    | .str part => .ok (isInfix part.toList s.toList)
    | v => .error (.notTextMember v.kindName)
  | .dict entries | .frozen entries =>
    match v with
    | .undefined false message => .error (.missing message)
    | v =>
      if v.isHashable then .ok (valueAt? entries v).isSome else .error (.unhashable v.kindName)
  | .list items | .tuple items | .view _ items => items.anyM fun x => equal x v
  | .range first stop step => .ok ((rangeMembers first stop step).any fun n => same (.int n) v)
  | container => .error (.notContainer container.kindName)

def comparison (op : CompareOp) (a b : Value) : Except Fault Bool :=
  match op with
  | .eq => equal a b
  | .ne => (equal a b).map (!·)
  | .lt => (order "<" a b).map (· = some .lt)
  | .le => (order "<=" a b).map fun o => o = some .lt || o = some .eq
  | .gt => (order ">" a b).map (· = some .gt)
  | .ge => (order ">=" a b).map fun o => o = some .gt || o = some .eq
  | .isIn => contains b a
  | .notIn => (contains b a).map (!·)

end ResolverGen.Template
