import ResolverGen.Text.Basic
import ResolverGen.Text.Blank
import ResolverGen.Text.Case
import ResolverGen.Text.Lines

/-!
# Naming cases

Conversions of names between the usual styles. Every style is built on snake case: separators
become underscores, a capital after a lower-case letter or digit opens a new part, and parts are
lower case.
-/
namespace ResolverGen.Naming

open Text

/-- Runs of hyphens and blanks, each made one underscore. `inRun` tells that one is going on. -/
def joinSeparators (inRun : Bool) : List Char → List Char
  | [] => []
  | c :: rest =>
    if c = '-' || isBlank c then
      if inRun then joinSeparators true rest else '_' :: joinSeparators true rest
    else c :: joinSeparators false rest

/-- A lower-case ASCII letter or a digit: what a capital may follow to open a new part. -/
def closesPart (c : Char) : Bool := c.isLower || c.isDigit

/-- An underscore before each ASCII capital that follows a lower-case letter or digit. -/
def markBoundaries : List Char → List Char
  | [] => []
  | [c] => [c]
  | c :: d :: rest =>
    if closesPart c && d.isUpper then c :: '_' :: markBoundaries (d :: rest)
    else c :: markBoundaries (d :: rest)

/-- Runs of underscores, each made one. -/
def joinUnderscores : List Char → List Char
  | [] => []
  | [c] => [c]
  | c :: d :: rest =>
    if c = '_' && d = '_' then joinUnderscores (d :: rest) else c :: joinUnderscores (d :: rest)

def snakeChars (name : List Char) : List Char :=
  trim (· = '_') (joinUnderscores (lower (markBoundaries (joinSeparators false name))))

/-- The parts of a name, as the underscores of its snake case divide it. -/
def nameParts (name : List Char) : List (List Char) := splitAt '_' (snakeChars name)

def camelChars (name : List Char) : List Char :=
  match nameParts name with
  | [] => name
  | first :: others => lower first ++ others.flatMap titleWord

def pascalChars (name : List Char) : List Char := (nameParts name).flatMap titleWord

def kebabChars (name : List Char) : List Char :=
  (snakeChars name).map fun c => if c = '_' then '-' else c

/-- A name with its first character in upper case; `id` in any case is the initialism `ID`. -/
def capitalizeChars (name : List Char) : List Char :=
  if lower name = ['i', 'd'] then ['I', 'D']
  else match name with
    | [] => []
    | c :: rest => upperChar c ++ rest

/-- A name with its first character in lower case. -/
def uncapitalizeChars : List Char → List Char
  | [] => []
  | c :: rest => lower [c] ++ rest

def snakeCase (name : String) : String := onChars snakeChars name

def camelCase (name : String) : String := onChars camelChars name

def pascalCase (name : String) : String := onChars pascalChars name

def kebabCase (name : String) : String := onChars kebabChars name

def capitalize (name : String) : String := onChars capitalizeChars name

def uncapitalize (name : String) : String := onChars uncapitalizeChars name

end ResolverGen.Naming

namespace ResolverGen

/-- The styles a name can be put into. -/
inductive NameCase where
  | snake
  | camel
  | pascal
  | kebab
  | screamingSnake
  | original
deriving DecidableEq, Repr

namespace NameCase

/-- The word a style is called by. -/
def label : NameCase → String
  | snake => "snake"
  | camel => "camel"
  | pascal => "pascal"
  | kebab => "kebab"
  | screamingSnake => "screaming_snake"
  | original => "original"

def all : List NameCase := [snake, camel, pascal, kebab, screamingSnake, original]

def ofLabel? (label : String) : Option NameCase := all.find? (·.label = label)

def convertChars : NameCase → List Char → List Char
  | snake, name => Naming.snakeChars name
  | camel, name => Naming.camelChars name
  | pascal, name => Naming.pascalChars name
  | kebab, name => Naming.kebabChars name
  | screamingSnake, name => Text.upper (Naming.snakeChars name)
  | original, name => name

/-- A name put into a style. -/
def convert (style : NameCase) (name : String) : String :=
  Text.onChars style.convertChars name

@[simp] theorem ofLabel?_label (style : NameCase) : ofLabel? style.label = some style := by
  cases style <;> decide

end NameCase

end ResolverGen
