import ResolverGen.Files.Path
import ResolverGen.Text.Utf8

/-!
# Files

The files and directories that a run can see, and what goes wrong with them. A place is the list of
names that leads to it from the working directory; a place above begins with double dots, and one
below the root with a slash. There are no links: every place has a file or a directory of its own.
-/
namespace ResolverGen

inductive Node where
  | file (content : Text.Bytes)
  | directory
deriving DecidableEq, Repr

abbrev Place := List String

structure Files where
  nodes : List (Place × Node) := []
deriving DecidableEq, Repr

inductive FileCause where
  | missing
  | exists
  | notDirectory
  | isDirectory
  | nameTooLong
  /-- The path holds a null character. -/
  | nullCharacter
deriving DecidableEq, Repr

namespace FileCause

/-- The number and the words of a cause that systems report. -/
def report? : FileCause → Option (Nat × String)
  | missing => some (2, "No such file or directory")
  | .exists => some (17, "File exists")
  | notDirectory => some (20, "Not a directory")
  | isDirectory => some (21, "Is a directory")
  | nameTooLong => some (36, "File name too long")
  | nullCharacter => none

end FileCause

structure FileFault where
  cause : FileCause
  path : String
deriving DecidableEq, Repr

def FileFault.message (f : FileFault) : String :=
  match f.cause.report? with
  | some (number, words) =>
    "[Errno " ++ toString number ++ "] " ++ words ++ ": " ++
      String.ofList (Text.quoted f.path.toList)
  | none => "embedded null byte"

namespace Files

/-- Places that are directories without being held: the working directory, what is above it, and the
root. -/
def isBase (place : Place) : Bool := place = ["/"] || place.all (· = "..")

def node? (files : Files) (place : Place) : Option Node :=
  if isBase place then some .directory else files.nodes.lookup place

/-- The place above. -/
def above (place : Place) : Place :=
  if place = ["/"] then place
  else if place.all (· = "..") then place ++ [".."]
  else place.dropLast

def start (p : Path) : Place := if p.root = "" then [] else ["/"]

/-- Longest name that systems take, in bytes. -/
def nameLimit : Nat := 255

def checkName (name : String) : Except FileCause Unit :=
  if nameLimit < name.utf8ByteSize then .error .nameTooLong else .ok ()

/-- Names that a system can be asked about: a null character in any of them comes before all else. -/
def checkCharacters (names : List String) : Except FileCause Unit :=
  if names.any ('\x00' ∈ ·.toList) then .error .nullCharacter else .ok ()

/-- Where names lead from a place; each must be there. -/
def walk (files : Files) : Place → List String → Except FileCause Place
  | place, [] => .ok place
  | place, name :: rest => do
    checkName name
    match files.node? place with
    | some .directory =>
      let next := if name = ".." then above place else place ++ [name]
      match files.node? next with
      | some _ => files.walk next rest
      | none => throw .missing
    | some (.file _) => throw .notDirectory
    | none => throw .missing

/-- What stands at a path. -/
def find (files : Files) (p : Path) : Except FileCause Node := do
  checkCharacters p.parts
  let place ← files.walk (start p) p.parts
  match files.node? place with
  | some node => return node
  | none => throw .missing

/-- A question about what stands at a path. That there is nothing is no fault, but a name too long
is. -/
def ask (files : Files) (p : Path) (question : Node → Bool) : Except FileFault Bool :=
  match files.find p with
  | .ok node => .ok (question node)
  | .error .nameTooLong => .error ⟨.nameTooLong, p.text⟩
  | .error _ => .ok false

def pathExists (files : Files) (p : Path) : Except FileFault Bool := files.ask p fun _ => true

def isDirectory (files : Files) (p : Path) : Except FileFault Bool :=
  files.ask p fun node => node = .directory

/-- The bytes of the file at a path. -/
def read (files : Files) (p : Path) : Except FileFault Text.Bytes :=
  match files.find p with
  | .ok (.file content) => .ok content
  | .ok .directory => .error ⟨.isDirectory, p.text⟩
  | .error cause => .error ⟨cause, p.text⟩

/-- The bytes of the file at a path, if there is one. -/
def file? (files : Files) (p : Path) : Option Text.Bytes :=
  match files.read p with
  | .ok content => some content
  | .error _ => none

/-- Names from a directory to each file in or below it. -/
def below (files : Files) (p : Path) : List (List String) :=
  match files.walk (start p) p.parts with
  | .ok place =>
    files.nodes.filterMap fun entry =>
      match entry.2 with
      | .file _ => if place.isPrefixOf entry.1 then some (entry.1.drop place.length) else none
      | .directory => none
  | .error _ => []

/-! ## Changes -/

/-- A node put at a place, over what was there. -/
def put (files : Files) (place : Place) (node : Node) : Files :=
  if files.nodes.any (·.1 = place) then
    ⟨files.nodes.map fun entry => if entry.1 = place then (place, node) else entry⟩
  else ⟨files.nodes ++ [(place, node)]⟩

/-- A node put at a place, with the directories that lead to it. -/
def establish (files : Files) (place : Place) (node : Node) : Files :=
  let parents := (List.range place.length).map (place.take ·)
  let files := parents.foldl (fun files parent =>
    match files.node? parent with
    | some _ => files
    | none => files.put parent .directory) files
  files.put place node

/-- The place of a name in a directory. -/
def placeIn (files : Files) (directory : Path) (name : String) : Except FileCause Place := do
  checkCharacters (directory.parts ++ [name])
  let place ← files.walk (start directory) directory.parts
  checkName name
  match files.node? place with
  | some .directory => return if name = ".." then above place else place ++ [name]
  | some (.file _) => throw .notDirectory
  | none => throw .missing

def makeDirectory (files : Files) (parent : Path) (name : String) : Except FileCause Files := do
  let place ← files.placeIn parent name
  match files.node? place with
  | some _ => throw .exists
  | none => return files.put place .directory

/-- Makes a directory and those above it; one that is there already is kept. The names are given from
the last one up. -/
def makeDirectories (files : Files) (root : String) : List String → Except FileFault Files
  | [] => .ok files
  | name :: upper =>
    let parent : Path := ⟨root, upper.reverse⟩
    let path : Path := ⟨root, (name :: upper).reverse⟩
    let keep (files : Files) (cause : FileCause) : Except FileFault Files :=
      match files.find path with
      | .ok .directory => .ok files
      | _ => .error ⟨cause, path.text⟩
    match files.makeDirectory parent name with
    | .ok files => .ok files
    | .error .missing => do
      let files ← files.makeDirectories root upper
      match files.makeDirectory parent name with
      | .ok files => return files
      | .error cause => keep files cause
    | .error cause => keep files cause

/-- Writes a file; its directory has to be there. -/
def write (files : Files) (p : Path) (content : Text.Bytes) : Except FileFault Files :=
  match p.parts.getLast? with
  | none => .error ⟨.isDirectory, p.text⟩
  | some name =>
    match files.placeIn p.parent name with
    | .error cause => .error ⟨cause, p.text⟩
    | .ok place =>
      match files.node? place with
      | some .directory => .error ⟨.isDirectory, p.text⟩
      | _ => .ok (files.put place (.file content))

/-- Whether a place is in or below the working directory. -/
def isWithin (place : Place) : Bool := place.head? ≠ some ".." && place.head? ≠ some "/"

/-- The files that differ from those of `earlier`. -/
def changedSince (files earlier : Files) : List (Place × Text.Bytes) :=
  files.nodes.filterMap fun entry =>
    match entry.2 with
    | .file content =>
      if earlier.nodes.lookup entry.1 = some (.file content) then none
      else some (entry.1, content)
    | .directory => none

end Files

/-- Why a text file cannot be read. -/
inductive ReadFault where
  | file (fault : FileFault)
  | undecodable (cause : Text.Undecodable)
deriving DecidableEq, Repr

/-- A text as it is read from a file: UTF-8, with every line ending a newline. -/
def Text.ofFile (content : Text.Bytes) : Except Text.Undecodable String :=
  (Text.decodeUtf8 content).map fun cs => String.ofList (Text.newlines cs)

/-- A text as it is written to a file. -/
def Text.toFile (s : String) : Text.Bytes := Text.encodeUtf8 s.toList

def Files.readText (files : Files) (p : Path) : Except ReadFault String := do
  match files.read p with
  | .error fault => throw (.file fault)
  | .ok content =>
    match Text.ofFile content with
    | .ok s => return s
    | .error cause => throw (.undecodable cause)

end ResolverGen
