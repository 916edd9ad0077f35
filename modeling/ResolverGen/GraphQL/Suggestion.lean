import ResolverGen.Text.Case

/-!
# Suggestions

Known names that look like a misspelt one: those within a small edit distance, nearest first.
-/
namespace ResolverGen.GraphQL

/-- One row of the distance table. `left` and `diagonal` are the cells beside and above to the left,
`above` the rest of the row above and `far` what stands two rows above and two cells to the left. -/
def distanceCells (c : Char) (before? : Option Char) :
    Option Char → Nat → Nat → List Char → List Nat → List Nat → List Nat
  | previous?, left, diagonal, b :: bs, up :: above, far =>
    let cost := if c = b then 0 else 1
    let plain := min (min (up + 1) (left + 1)) (diagonal + cost)
    let swapped := previous? = some c && before? = some b
    let cell := match previous?, far with
      | some _, f :: _ => if swapped then min plain (f + 1) else plain
      | _, _ => plain
    let far := match previous? with
      | some _ => far.tail
      | none => far
    cell :: distanceCells c before? (some b) cell up bs above far
  | _, _, _, _, _, _ => []

/-- The rows of the distance table, of which the last is returned. -/
def distanceRows (target : List Char) :
    Nat → Option Char → List Nat → List Nat → List Char → List Nat
  | _, _, _, row, [] => row
  | i, before?, farRow, row, c :: rest =>
    let next := match row with
      | [] => []
      | diagonal :: above =>
        (i + 1) :: distanceCells c before? none (i + 1) diagonal target above farRow
    distanceRows target (i + 1) (some c) row next rest

/-- The least number of insertions, deletions, replacements and swaps of neighbours that lead from
one text to the other, where no part is edited twice. -/
def editDistance (source target : List Char) : Nat :=
  (distanceRows target 0 none [] (List.range (target.length + 1)) source).getLast?.getD 0

/-- Distance as suggestions count it: a mere change of case is one edit. -/
def nameDistance (input option : List Char) : Nat :=
  if input = option then 0
  else if Text.lower input = Text.lower option then 1
  else editDistance (Text.lower option) (Text.lower input)

/-- The largest distance of a suggestion. -/
def distanceLimit (input : List Char) : Nat := input.length * 4 / 10 + 1

/-- A name as runs of digits and of other characters, the latter first. -/
def naturalParts : Nat → Bool → List Char → List (List Char)
  | 0, _, _ => []
  | fuel + 1, inDigits, s =>
    let run := s.takeWhile fun c => c.isDigit == inDigits
    let rest := s.dropWhile fun c => c.isDigit == inDigits
    if rest.isEmpty then [run] else run :: naturalParts fuel (!inDigits) rest

def digitsToNat (s : List Char) : Nat := s.foldl (fun n c => n * 10 + (c.toNat - 48)) 0

/-- Order of part lists in which digit runs compare as numbers. -/
def compareParts : Bool → List (List Char) → List (List Char) → Ordering
  | _, [], [] => .eq
  | _, [], _ => .lt
  | _, _, [] => .gt
  | inDigits, x :: xs, y :: ys =>
    let first := if inDigits
      then compare (digitsToNat x) (digitsToNat y)
      else compare (x.map Char.toNat) (y.map Char.toNat)
    match first with
    | .eq => compareParts (!inDigits) xs ys
    | other => other

def compareNatural (a b : String) : Ordering :=
  compareParts false (naturalParts (a.length + 2) false a.toList)
    (naturalParts (b.length + 2) false b.toList)

/-- The options within the limit, by distance and then by name. -/
def suggestions (input : String) (options : List String) : List String :=
  let distance (option : String) := nameDistance input.toList option.toList
  let near := options.eraseDups.filter (distance · ≤ distanceLimit input.toList)
  near.mergeSort fun a b =>
    match compare (distance a) (distance b) with
    | .lt => true
    | .gt => false
    | .eq => compareNatural a b != .gt

def quoteName (name : String) : String := "'" ++ name ++ "'"

/-- The sentence that offers suggestions, five at most; empty when there is none. -/
def didYouMean (options : List String) : String :=
  match options.take 5 with
  | [] => ""
  | [a] => " Did you mean " ++ quoteName a ++ "?"
  | [a, b] => " Did you mean " ++ quoteName a ++ " or " ++ quoteName b ++ "?"
  | names =>
    let most := names.dropLast.map quoteName
    " Did you mean " ++ ", ".intercalate most ++ ", or " ++
      quoteName (names.getLast?.getD "") ++ "?"

end ResolverGen.GraphQL
