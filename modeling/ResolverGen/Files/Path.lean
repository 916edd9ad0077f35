import ResolverGen.Text.Lines

/-!
# Paths

Paths as a root and the names below it. Empty names and single dots are dropped when a path is read;
double dots stay, since what they lead to depends on the files.
-/
namespace ResolverGen

structure Path where
  /-- Empty for a relative path. -/
  root : String
  parts : List String
deriving DecidableEq, Repr

namespace Path

/-- The root that leading slashes stand for: two of them are kept apart from one. -/
def rootOf (s : List Char) : String :=
  match (s.takeWhile (· = '/')).length with
  | 0 => ""
  | 2 => "//"
  | _ => "/"

def namesOf (s : List Char) : List String :=
  ((Text.splitAt '/' s).filter fun name => name ≠ [] && name ≠ ['.']).map String.ofList

def ofText (s : String) : Path := ⟨rootOf s.toList, namesOf s.toList⟩

/-- The path in normal form. -/
def text (p : Path) : String :=
  match p.root ++ "/".intercalate p.parts with
  | "" => "."
  | s => s

/-- A path below another; one with a root stands by itself. -/
def join (p q : Path) : Path :=
  if q.root = "" then ⟨p.root, p.parts ++ q.parts⟩ else q

/-- The ending of a name from its last dot on, if there is something before and behind the dot. -/
def nameSuffix (name : List Char) : List Char :=
  let after := (name.reverse.takeWhile (· ≠ '.')).reverse
  if after = [] || name.length ≤ after.length + 1 then [] else '.' :: after

def suffix (p : Path) : String :=
  match p.parts.getLast? with
  | none => ""
  | some name => String.ofList (nameSuffix name.toList)

def parent (p : Path) : Path := { p with parts := p.parts.dropLast }

@[simp] theorem join_relative (p : Path) (parts : List String) :
    p.join ⟨"", parts⟩ = ⟨p.root, p.parts ++ parts⟩ := rfl

end Path

end ResolverGen
