import ResolverGen.Text.Basic
import ResolverGen.Text.Case

/-!
# Log records

What a run reports besides its result. A record is kept when its level reaches the threshold.
-/
namespace ResolverGen

inductive LogLevel where
  | debug
  | info
  | warning
  | error
deriving DecidableEq, Repr

namespace LogLevel

def rank : LogLevel → Nat
  | debug => 10
  | info => 20
  | warning => 30
  | error => 40

def label : LogLevel → String
  | debug => "DEBUG"
  | info => "INFO"
  | warning => "WARNING"
  | error => "ERROR"

/-- Names of thresholds with their ranks. -/
def thresholds : List (String × Nat) :=
  [("CRITICAL", 50), ("FATAL", 50), ("ERROR", 40), ("WARN", 30), ("WARNING", 30), ("INFO", 20),
    ("DEBUG", 10), ("NOTSET", 0)]

/-- The rank of a threshold, its name in any case, or what is said of an unknown one. -/
def named (level : String) : Except String Nat :=
  let name := Text.onChars Text.upper level
  match thresholds.lookup name with
  | some rank => .ok rank
  | none => .error ("Unknown log level: Level " ++ name)

end LogLevel

structure LogRecord where
  level : LogLevel
  text : String
deriving DecidableEq, Repr

abbrev Log := List LogRecord

def LogRecord.line (r : LogRecord) : String := r.level.label ++ " " ++ r.text

/-- The records that reach a threshold, in order. -/
def Log.atLeast (threshold : Nat) (log : Log) : Log := log.filter (threshold ≤ ·.level.rank)

/-- The root of all logger names. -/
def rootLogger : String := "graphql_codegen"

/-- A logger name placed below the root, unless it stands there already. -/
def loggerName (name : String) : String :=
  if name = rootLogger ∨ (rootLogger ++ ".").toList.isPrefixOf name.toList then name
  else rootLogger ++ "." ++ name

end ResolverGen
