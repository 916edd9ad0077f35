import ResolverGen.Registry
import ResolverGen.SchemaSource

/-!
# Direct calls

The files for a schema in one call, without a command line: from its text, or from the file that
holds it. The first failure ends the call. A schema file is read before the configuration, and the
configuration before the schema is looked at.
-/
namespace ResolverGen

/-- Why a call gives no files. -/
inductive CallFailure where
  | source (failure : SourceFailure)
  | refusal (refusal : Registry.Refusal)
  | generation (failure : Failure)

namespace Registry

/-- The files for a schema text, and the records of the call. -/
def filesFor (r : Registry) (surface : Surface) (language : String) (source : ConfigSource)
    (text : String) : Except CallFailure (Table String) × Log :=
  match r.create surface.files language source with
  | (.error refusal, log) => (.error (.refusal refusal), log)
  | (.ok g, _) =>
    match (g.generateText surface text).run g.start with
    | (.ok (_, artifacts), s) => (.ok artifacts, s.log)
    | (.error failure, s) => (.error (.generation failure), s.log)

/-- The files for the schema in a file, and the records of the call. -/
def filesForFile (r : Registry) (surface : Surface) (language : String) (source : ConfigSource)
    (path : String) : Except CallFailure (Table String) × Log :=
  match loadFile surface.files path with
  | (.error failure, log) => (.error (.source failure), log)
  | (.ok loaded, log) =>
    let (result, more) := r.filesFor surface language source loaded.text
    (result, log ++ more)

end Registry

end ResolverGen
