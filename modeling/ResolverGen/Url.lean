import ResolverGen.Json.Parser
import ResolverGen.Text.Lines

/-!
# Addresses on the web

The two parts of an address that a fetch needs: a scheme and a host. An address with brackets in its
host is malformed unless they hold an IP address of version six or later.
-/
namespace ResolverGen.Url

/-- A scheme, empty where there is none, and a host, which may be empty too. -/
structure Address where
  scheme : String
  host : String
deriving DecidableEq, Repr

/-- Characters that do not count: controls and blanks in front, tabs and line ends anywhere. -/
def cleaned (s : List Char) : List Char :=
  (s.dropWhile fun c => c.toNat ≤ 0x20).filter fun c => c ≠ '\t' && c ≠ '\n' && c ≠ '\r'

def isSchemeChar (c : Char) : Bool := c.isAlphanum || c = '+' || c = '-' || c = '.'

/-- A scheme and what follows its colon. -/
def splitScheme (s : List Char) : List Char × List Char :=
  let before := s.takeWhile (· ≠ ':')
  match before, s.drop before.length with
  | first :: _, _ :: rest =>
    if first.isAlpha && before.all isSchemeChar then (before, rest) else ([], s)
  | _, _ => ([], s)

/-- The host that two slashes open. -/
def hostOf : List Char → List Char
  | '/' :: '/' :: rest => rest.takeWhile fun c => c ≠ '/' && c ≠ '?' && c ≠ '#'
  | _ => []

/-! ## Hosts in brackets -/

def isHexDigit (c : Char) : Bool := (Json.hexValue? c).isSome

/-- One to four hexadecimal digits. -/
def isGroup (s : List Char) : Bool := s ≠ [] && s.length ≤ 4 && s.all isHexDigit

/-- A number up to 255 without leading zeros. -/
def isOctet (s : List Char) : Bool :=
  s ≠ [] && s.length ≤ 3 && s.all Char.isDigit && (s = ['0'] || s.head? ≠ some '0') &&
    Json.digitsValue s ≤ 255

def isDottedQuad (s : List Char) : Bool :=
  let octets := Text.splitAt '.' s
  octets.length = 4 && octets.all isOctet

/-- How many groups parts stand for; the last part may be a dotted quad, which stands for two. -/
def groupCount? : List (List Char) → Option Nat
  | [] => some 0
  | [part] => if isGroup part then some 1 else if isDottedQuad part then some 2 else none
  | part :: rest => if isGroup part then (groupCount? rest).map (· + 1) else none

/-- Groups between colons, of which there may be none. -/
def sideCount? (s : List Char) : Option Nat :=
  if s = [] then some 0 else groupCount? (Text.splitAt ':' s)

/-- What stands before and behind the first two colons in a row. -/
def splitGap? : List Char → Option (List Char × List Char)
  | ':' :: ':' :: rest => some ([], rest)
  | c :: rest => (splitGap? rest).map fun (before, behind) => (c :: before, behind)
  | [] => none

/-- Eight groups, or fewer with a gap that stands for the others. -/
def isAddress (s : List Char) : Bool :=
  match splitGap? s with
  | none => groupCount? (Text.splitAt ':' s) = some 8
  | some (before, behind) =>
    if before.all (fun c => c = ':' || isHexDigit c) then
      match sideCount? before, sideCount? behind with
      | some m, some n => m + n ≤ 7
      | _, _ => false
    else false

/-- An address with a zone behind a percent sign, if there is one. -/
def isZonedAddress (s : List Char) : Bool :=
  match Text.splitAt '%' s with
  | [address] => isAddress address
  | [address, zone] => zone ≠ [] && isAddress address
  | _ => false

/-- A version in hexadecimal digits, a dot and something. -/
def isLaterVersion : List Char → Bool
  | 'v' :: rest =>
    let digits := rest.takeWhile isHexDigit
    digits ≠ [] &&
      (match rest.drop digits.length with
        | '.' :: _ :: _ => true
        | _ => false)
  | _ => false

def hasSoundBrackets (host : List Char) : Bool :=
  if '[' ∈ host then
    ']' ∈ host &&
      (let inner := ((host.dropWhile (· ≠ '[')).drop 1).takeWhile (· ≠ ']')
       if inner.head? = some 'v' then isLaterVersion inner else isZonedAddress inner)
  else ']' ∉ host

/-- Characters that stand for texts with a separator of addresses in them. -/
def separatorLike : List Nat :=
  [0x2047, 0x2048, 0x2049, 0x2100, 0x2101, 0x2105, 0x2106, 0x2A74, 0xFE13, 0xFE16, 0xFE55, 0xFE56,
    0xFE5F, 0xFE6B, 0xFF03, 0xFF0F, 0xFF1A, 0xFF1F, 0xFF20]

/-- The parts of a text that is read as an address; none if its host is malformed. -/
def read? (text : String) : Option Address :=
  let (scheme, rest) := splitScheme (cleaned text.toList)
  let host := hostOf rest
  if hasSoundBrackets host && host.all (·.toNat ∉ separatorLike) then
    some ⟨String.ofList scheme, String.ofList host⟩
  else none

end ResolverGen.Url
