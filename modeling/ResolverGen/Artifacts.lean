import ResolverGen.Files.Tree
import ResolverGen.Log
import ResolverGen.Table

/-!
# Artifacts

Writing generated files into a directory.
-/
namespace ResolverGen

/-- What came of writing: the files as they are now, the paths written, and the records. -/
structure Writing where
  files : Files
  written : List Path := []
  log : Log := []

/-- Writes texts below a directory one after another, up to a fault. -/
def writeEach (directory : Path) : Writing → Table String → Writing × Except FileFault Unit
  | w, [] => (w, .ok ())
  | w, (name, text) :: rest =>
    let path := directory.join (Path.ofText name)
    match w.files.write path (Text.toFile text) with
    | .error fault => (w, .error fault)
    | .ok files =>
      writeEach directory
        { files
          written := w.written ++ [path]
          log := w.log ++ [⟨.debug, "Wrote " ++ path.text⟩] } rest

/-- Writes files into a directory, which is made if it is not there. -/
def writeArtifacts (files : Files) (artifacts : Table String) (directory : String) :
    Writing × Except FileFault Unit :=
  let path := Path.ofText directory
  match files.makeDirectories path.root path.parts.reverse with
  | .error fault => ({ files }, .error fault)
  | .ok files => writeEach path { files } artifacts

end ResolverGen
