import ResolverGen.Json.Value
import ResolverGen.Log
import ResolverGen.Text.Basic
import ResolverGen.Text.Lines

/-!
# Formatters

What is done to generated source text at the end: nothing, tidying of blanks, or a run through a
program. A program gets the text and gives one back, or complains.
-/
namespace ResolverGen

/-- What a program did with the text that it was given. -/
structure ProgramRun where
  accepted : Bool
  output : String := ""
  complaint : String := ""
deriving DecidableEq, Repr

/-- The programs that can be run, by name. -/
abbrev Programs := Table (String → ProgramRun)

/-- Seconds that a program may take. -/
inductive Timeout where
  | seconds (n : Int)
  | fraction (x : Binary64)
deriving DecidableEq, Repr

namespace Timeout

def text : Timeout → String
  | seconds n => String.ofList (Json.intText n)
  | fraction x => String.ofList (Decimal.text x)

/-- Whether the time is up before it begins. -/
def isOver : Timeout → Bool
  | seconds n => n ≤ 0
  | fraction x => x.isZero || x.isNegative

end Timeout

inductive Formatter where
  | passthrough
  /-- Blanks at line ends go, and of blank lines together no more stay than given. -/
  | basic (maxBlankLines : Int)
  | program (name : String) (timeout? : Option Timeout)
deriving DecidableEq, Repr

/-- Why a formatter refuses. -/
inductive FormatFault where
  | unknown (name : String)
  | notFound (program : String)
  | timedOut (program : String) (timeout : Timeout)
  | rejected (program complaint : String)
deriving DecidableEq, Repr

def FormatFault.message : FormatFault → String
  | unknown name => "Unknown formatter: " ++ name
  | notFound program => program ++ " not found; install Go or use the basic formatter"
  | timedOut program timeout =>
    "Error running " ++ program ++ ": Command '[" ++
      String.ofList (Text.quoted program.toList) ++ "]' timed out after " ++ timeout.text ++
      " seconds"
  | rejected program complaint => program ++ " rejected generated code: " ++ complaint

namespace Formatter

def defaultMaxBlankLines : Int := 1

def goProgram : String := "gofmt"

def defaultTimeout : Timeout := .seconds 30

/-- The formatters by name. -/
def known : Table Formatter :=
  [("basic", basic defaultMaxBlankLines), ("gofmt", program goProgram (some defaultTimeout)),
    ("none", passthrough)]

/-- The formatter that a configuration names. -/
def ofName (name : Json) : Except FormatFault Formatter :=
  match name with
  | .str s =>
    match known.get? s with
    | some f => .ok f
    | none => .error (.unknown s)
  | other => .error (.unknown other.plain)

/-- Lines without the blanks at their ends; of blank lines between others at most `max` stay, and none
before the first. `blanks` counts the blank lines just passed and `started` tells that a line was kept. -/
def tidyLines (max : Int) (blanks : Nat) (started : Bool) : List (List Char) → List (List Char)
  | [] => []
  | line :: rest =>
    match Text.stripRight line with
    | [] =>
      if started && ((blanks + 1 : Nat) : Int) ≤ max then
        [] :: tidyLines max (blanks + 1) started rest
      else tidyLines max (blanks + 1) started rest
    | kept => kept :: tidyLines max 0 true rest

/-- Lines without the empty ones at the end. -/
def dropLastEmpty (ls : List (List Char)) : List (List Char) :=
  (ls.reverse.dropWhile List.isEmpty).reverse

/-- A text with tidy lines, no empty lines at its end, and one newline there. -/
def tidyChars (max : Int) (s : List Char) : List Char :=
  Text.unlines (dropLastEmpty (tidyLines max 0 false (Text.lines s))) ++ ['\n']

/-- What a program makes of a text, unless it is not there or has no time. -/
def runProgram (programs : Programs) (name : String) (timeout? : Option Timeout) (code : String) :
    Except FormatFault String :=
  match programs.get? name with
  | none => .error (.notFound name)
  | some command =>
    match timeout?.filter Timeout.isOver with
    | some timeout => .error (.timedOut name timeout)
    | none =>
      let run := command code
      if run.accepted then .ok (Text.onChars Text.newlines run.output)
      else .error (.rejected name (Text.onChars (Text.strip ∘ Text.newlines) run.complaint))

/-- The final form of a source text. -/
def format (programs : Programs) (f : Formatter) (code : String) : Except FormatFault String :=
  match f with
  | passthrough => .ok code
  | basic max => .ok (Text.onChars (tidyChars max) code)
  | program name timeout? => runProgram programs name timeout? code

end Formatter

/-- What is recorded of a source text that was refused. -/
def FormatFault.records (code : String) : FormatFault → Log
  | rejected .. => [⟨.debug, "Rejected source:\n" ++ code⟩]
  | _ => []

end ResolverGen
