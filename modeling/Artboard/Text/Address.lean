import Artboard.Text.HostNumber
import Artboard.Text.Quoted

/-!
# Addresses of files

An address is understood without the control characters and spaces in front of it
and without tabs and line breaks inside. Its host is what stands between two
slashes and the next mark. A host in brackets must be numeric or of a later form,
and no character of a host may stand for one of the marks that end it.
-/
namespace Artboard.Text

/-- Why an address cannot be taken apart. -/
inductive AddressError where
  | unmatchedBracket
  | laterForm
  | shortNumber
  | unknownNumber (host : String)
  | disguisedMark (host : String)
deriving DecidableEq, Repr

def AddressError.message : AddressError → String
  | unmatchedBracket => "Invalid IPv6 URL"
  | laterForm => "IPvFuture address is invalid"
  | shortNumber => "An IPv4 address cannot be in brackets"
  | unknownNumber host => s!"{quotedText host} does not appear to be an IPv4 or IPv6 address"
  | disguisedMark host =>
    s!"netloc '{host}' contains invalid characters under NFKC normalization"

namespace Address

def isSchemeChar (c : Char) : Bool := c.isAlphanum || c = '+' || c = '.' || c = '-'

/-- An address as it is understood. -/
def clean (text : List Char) : List Char :=
  (text.dropWhile fun c => decide (c.toNat ≤ 0x20)).filter fun c =>
    c != '\t' && c != '\n' && c != '\r'

/-- The scheme, which is empty if there is none, and what follows it. -/
def splitScheme (text : List Char) : List Char × List Char :=
  let scheme := text.takeWhile (· != ':')
  match scheme, text.drop scheme.length with
  | first :: _, _ :: rest =>
    if first.isAlpha && scheme.all isSchemeChar then (scheme.map Char.toLower, rest) else ([], text)
  | _, _ => ([], text)

/-- The host of what follows the scheme, which is empty if there is none. -/
def hostOf : List Char → List Char
  | '/' :: '/' :: rest => rest.takeWhile fun c => c != '/' && c != '?' && c != '#'
  | _ => []

/-- A host of a later form: its version in hexadecimal and some text after a point. -/
def isLaterForm (host : List Char) : Bool :=
  match host with
  | 'v' :: rest =>
    let version := rest.takeWhile isHexDigit
    !version.isEmpty && (match rest.drop version.length with
      | '.' :: _ :: _ => true
      | _ => false)
  | _ => false

/-- Checks what stands between brackets. -/
def checkBracketed (host : List Char) : Except AddressError Unit :=
  if host.head? = some 'v' then if isLaterForm host then .ok () else .error .laterForm
  else if HostNumber.isShort host then .error .shortNumber
  else if HostNumber.isLong host then .ok ()
  else .error (.unknownNumber (String.ofList host))

def checkBrackets (host : List Char) : Except AddressError Unit :=
  match host.contains '[', host.contains ']' with
  | false, false => .ok ()
  | true, true =>
    checkBracketed (((host.dropWhile (· != '[')).drop 1).takeWhile (· != ']'))
  | _, _ => .error .unmatchedBracket

/-- The codes of characters that stand for a mark: slash, question mark, number sign, at sign or
colon. -/
def disguisedMarks : List Nat :=
  [0x2047, 0x2048, 0x2049, 0x2100, 0x2101, 0x2105, 0x2106, 0x2A74, 0xFE13, 0xFE16, 0xFE55, 0xFE56,
   0xFE5F, 0xFE6B, 0xFF03, 0xFF0F, 0xFF1A, 0xFF1F, 0xFF20]

def checkMarks (host : List Char) : Except AddressError Unit :=
  if host.any fun c => disguisedMarks.contains c.toNat then
    .error (.disguisedMark (String.ofList host))
  else .ok ()

/-- The scheme and the host of an address, when it has both. -/
def origin (address : String) : Except AddressError (Option String) := do
  let (scheme, rest) := splitScheme (clean address.toList)
  let host := hostOf rest
  checkBrackets host
  checkMarks host
  return if scheme.isEmpty || host.isEmpty then none
    else some (String.ofList (scheme ++ "://".toList ++ host))

end Address

end Artboard.Text
