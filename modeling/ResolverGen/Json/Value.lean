import ResolverGen.Decimal.Shortest
import ResolverGen.Table
import ResolverGen.Text.Quoted

/-!
# JSON values

JSON values as configuration and template parameters hold them: integers of any size beside
floating point numbers, and objects in document order. `Json.display` writes a value for a message.
-/
namespace ResolverGen

inductive Json where
  | null
  | bool (value : Bool)
  | int (value : Int)
  | float (value : Binary64)
  | str (value : String)
  | arr (items : List Json)
  | obj (entries : List (String × Json))
deriving Repr, BEq, Inhabited

namespace Json

/-- Whether a value counts as given: null, false, zero and empty values do not. -/
def isGiven : Json → Bool
  | null => false
  | bool b => b
  | int n => n ≠ 0
  | float x => !x.isZero
  | str s => s ≠ ""
  | arr items => !items.isEmpty
  | obj entries => !entries.isEmpty

def boolText (b : Bool) : List Char := if b then "True".toList else "False".toList

def nullText : List Char := "None".toList

def intText (n : Int) : List Char :=
  if n < 0 then '-' :: Nat.toDigits 10 n.natAbs else Nat.toDigits 10 n.natAbs

mutual

/-- A value as messages show it: texts quoted, null as `None`. -/
def displayChars : Json → List Char
  | null => nullText
  | bool b => boolText b
  | int n => intText n
  | float x => Decimal.text x
  | str s => Text.quoted s.toList
  | arr items => '[' :: displayItems items ++ [']']
  | obj entries => '\x7b' :: displayEntries entries ++ ['\x7d']

/-- Items with a comma and a blank between them. -/
def displayItems : List Json → List Char
  | [] => []
  | [item] => displayChars item
  | item :: next :: rest => displayChars item ++ ", ".toList ++ displayItems (next :: rest)

def displayEntries : List (String × Json) → List Char
  | [] => []
  | [(key, value)] => Text.quoted key.toList ++ ": ".toList ++ displayChars value
  | (key, value) :: next :: rest =>
    Text.quoted key.toList ++ ": ".toList ++ displayChars value ++ ", ".toList ++
      displayEntries (next :: rest)

end

/-- A value in a message, quoted where it is a text. -/
def display (value : Json) : String := String.ofList value.displayChars

/-- A value in a message, where a text stands for itself. -/
def plain : Json → String
  | str s => s
  | value => value.display

/-- The entry of an object; none for a missing key. -/
def valueAt? (entries : Table Json) (key : String) : Option Json := entries.get? key

/-- The value at a key, where an absent key counts as null. -/
def entryOrNull (entries : Table Json) (key : String) : Json := (entries.get? key).getD null

end Json

end ResolverGen
