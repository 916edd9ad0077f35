import ResolverGen.Failure.Breakdown
import ResolverGen.Log
import ResolverGen.Text.Basic
import ResolverGen.Text.Case
import ResolverGen.Url

/-!
# Schema sources

Schema texts from files and from the web, with the name of their source.
-/
namespace ResolverGen

/-- What a fetch comes to. -/
inductive Fetch where
  | response (status : Int) (text : String)
  | timeout
  | noConnection (reason : String)
  /-- A refusal by status that brings no response. -/
  | noResponse
  | failed (reason : String)
deriving DecidableEq, Repr

inductive SourceFault where
  | noSource
  | twoSources
  | unreadable (path : String) (fault : FileFault)
  | invalidUrl (url : String)
  | timeout (url : String)
  | noConnection (url : String)
  | status (code : Int) (url : String)
  | request (url reason : String)
deriving DecidableEq, Repr

def SourceFault.message : SourceFault → String
  | noSource => "Either file_path or url must be provided"
  | twoSources => "Cannot specify both file_path and url"
  | unreadable path fault => "Error reading file " ++ path ++ ": " ++ fault.message
  | invalidUrl url => "Invalid URL: " ++ url
  | timeout url => "Request timeout for URL: " ++ url
  | noConnection url => "Connection error for URL: " ++ url
  | status code url => "HTTP error " ++ toString code ++ " for URL: " ++ url
  | request url reason => "Request error for URL " ++ url ++ ": " ++ reason

/-- Why no schema text is there. -/
inductive SourceFailure where
  | source (fault : SourceFault)
  /-- There is no file at the path. -/
  | fileMissing (path : String)
  | breakdown (cause : Breakdown)
deriving DecidableEq, Repr

def missingText (path : String) : String := "File not found: " ++ path

/-- A schema text with the name of its source. -/
structure LoadedSchema where
  source : String
  text : String
deriving DecidableEq, Repr

/-- What loading comes to, and the records of it. -/
abbrev Loading := Except SourceFailure LoadedSchema × Log

def schemaSuffixes : List String := [".graphql", ".graphqls", ".gql"]

/-- A refusal with a record of its own. -/
def refused (log : Log) (fault : SourceFault) (report : String) : Loading :=
  (.error (.source fault), log ++ [⟨.error, report⟩])

/-- The schema text in a file. -/
def loadFile (files : Files) (file : String) : Loading :=
  let path := Path.ofText file
  let log : Log := [⟨.debug, "Attempting to load schema from file: " ++ path.text⟩]
  match files.pathExists path with
  | .error fault => (.error (.breakdown (.file fault)), log)
  | .ok false => (.error (.fileMissing path.text), log ++ [⟨.error, missingText path.text⟩])
  | .ok true =>
    let log :=
      if Text.onChars Text.lower path.suffix ∈ schemaSuffixes then log
      else log ++ [⟨.warning, "File does not have a GraphQL extension: " ++ path.text⟩]
    match files.readText path with
    | .error (.file fault) =>
      let refusal := SourceFault.unreadable path.text fault
      refused log refusal refusal.message
    | .error (.undecodable cause) => (.error (.breakdown (.undecodable cause)), log)
    | .ok text =>
      (.ok ⟨path.text, text⟩, log ++ [⟨.info, "Loaded schema from " ++ path.text⟩])

/-- The schema text at an address, given what fetching it comes to. -/
def loadUrl (fetch : Fetch) (url : String) : Loading :=
  let log : Log := [⟨.debug, "Attempting to load schema from URL: " ++ url⟩]
  match Url.read? url with
  | none => (.error (.breakdown .wrongValue), log)
  | some address =>
    if address.scheme = "" || address.host = "" then
      refused log (.invalidUrl url) ("Invalid URL format: " ++ url)
    else match fetch with
      | .timeout => refused log (.timeout url) (SourceFault.timeout url).message
      | .noConnection reason =>
        refused log (.noConnection url)
          ("Connection error for URL " ++ url ++ ": " ++ reason)
      | .noResponse => (.error (.breakdown .noSuchPart), log)
      | .failed reason =>
        refused log (.request url reason) (SourceFault.request url reason).message
      | .response code text =>
        if 400 ≤ code && code < 600 then
          refused log (.status code url) (SourceFault.status code url).message
        else (.ok ⟨url, text⟩, log ++ [⟨.info, "Loaded schema from " ++ url⟩])

/-- The schema text from a file or from an address; exactly one has to be given. -/
def loadSchema (files : Files) (fetch : Fetch) (file url : String) : Loading :=
  match file, url with
  | "", "" => (.error (.source .noSource), [])
  | "", url => loadUrl fetch url
  | file, "" => loadFile files file
  | _, _ => (.error (.source .twoSources), [])

end ResolverGen
