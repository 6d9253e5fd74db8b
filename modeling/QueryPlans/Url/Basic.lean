import QueryPlans.Number.Numeral
import QueryPlans.Text.Blank
import QueryPlans.Text.Case
import QueryPlans.Text.Quoted
import QueryPlans.Text.Search
import QueryPlans.Url.Address

/-!
# URLs taken apart

A URL is cut where its marks stand and hardly checked; only an authority with brackets, or with
characters that could be taken for marks, is refused.

* `Url` — scheme, authority and path; `Url.split` cuts a text.
* `Url.userInfo?`, `Url.user?`, `Url.password?`, `Url.host?`, `Url.port` — the authority taken
  apart.
-/

namespace QueryPlans

/-- A URL in parts; each part stands there as it was written, but the scheme in lower case. -/
structure Url where
  scheme : String
  authority : List Char
  path : String
  deriving DecidableEq, Repr, Inhabited

namespace Url

/-- Why a text is not taken apart. -/
inductive SplitError where
  | brackets
  | futureAddress
  | bracketedIpv4
  | notAnAddress (host : String)
  | unsafeCharacters (authority : String)
  deriving DecidableEq, Repr

def SplitError.message : SplitError → String
  | brackets => "Invalid IPv6 URL"
  | futureAddress => "IPvFuture address is invalid"
  | bracketedIpv4 => "An IPv4 address cannot be in brackets"
  | notAnAddress host => Text.quote host ++ " does not appear to be an IPv4 or IPv6 address"
  | unsafeCharacters authority =>
    "netloc '" ++ authority ++ "' contains invalid characters under NFKC normalization"

/-- Controls and the space, which are dropped in front of a URL. -/
def isLeading (c : Char) : Bool := c.toNat ≤ 0x20

/-- Tabs and line ends, which are dropped anywhere in a URL. -/
def isDropped (c : Char) : Bool := c == '\t' || c == '\r' || c == '\n'

/-- A character of a scheme after its first letter. -/
def isSchemeChar (c : Char) : Bool := c.isAlphanum || c == '+' || c == '-' || c == '.'

/-- The scheme in front of the first colon, in lower case, and the rest. -/
def cutScheme (text : List Char) : String × List Char :=
  match Text.cut ':' text with
  | (c :: cs, some rest) =>
    if c.isAlpha && cs.all isSchemeChar then
      (String.ofList ((c :: cs).map Char.toLower), rest)
    else ("", text)
  | _ => ("", text)

/-- A mark that ends an authority. -/
def endsAuthority (c : Char) : Bool := c == '/' || c == '?' || c == '#'

/-- A mark that ends a path. -/
def endsPath (c : Char) : Bool := c == '?' || c == '#'

/-- The authority after two slashes, and the rest. -/
def cutAuthority : List Char → List Char × List Char
  | '/' :: '/' :: rest => Text.spanUntil endsAuthority rest
  | text => ([], text)

/-- Characters whose compatibility form holds a mark of an authority. -/
def isUnsafe (c : Char) : Bool :=
  [0x2047, 0x2048, 0x2049, 0x2100, 0x2101, 0x2105, 0x2106, 0x2A74, 0xFE13, 0xFE16, 0xFE55, 0xFE56,
    0xFE5F, 0xFE6B, 0xFF03, 0xFF0F, 0xFF1A, 0xFF1F, 0xFF20].contains c.toNat

/-- Host and port of an authority: what follows the last `@`. -/
def hostPart (authority : List Char) : List Char := (Text.cutLast '@' authority).2

/-- An address of a future version: `v`, a hexadecimal version, a point, and something. -/
def isFutureAddress : List Char → Bool
  | 'v' :: rest =>
    let (version, tail) := Text.spanUntil (fun c => (Text.hexDigitValue? c).isNone) rest
    !version.isEmpty && (match tail with
      | '.' :: _ :: _ => true
      | _ => false)
  | _ => false

def checkAddress (host : List Char) : Except SplitError Unit :=
  if host.head? = some 'v' then
    if isFutureAddress host then .ok () else .error .futureAddress
  else if (ipv4? host).isSome then .error .bracketedIpv4
  else if isZonedIpv6 host then .ok ()
  else .error (.notAnAddress (String.ofList host))

/-- The text between the first opening bracket and the next closing one. -/
def bracketed (authority : List Char) : List Char :=
  (Text.cut ']' ((Text.cut '[' authority).2.getD [])).1

def checkAuthority (authority : List Char) : Except SplitError Unit := do
  let opened := authority.contains '['
  let closed := authority.contains ']'
  if opened != closed then throw .brackets
  if opened && closed then checkAddress (bracketed authority)
  if authority.any isUnsafe then throw (.unsafeCharacters (String.ofList authority))

/-- Take a URL apart. -/
def split (text : String) : Except SplitError Url := do
  let cs := (Text.trimStart isLeading text.toList).filter (!isDropped ·)
  let (scheme, rest) := cutScheme cs
  let (authority, rest) := cutAuthority rest
  checkAuthority authority
  return { scheme, authority, path := String.ofList (Text.spanUntil endsPath rest).1 }

/-- The user and the password before the last `@` of the authority. -/
def userInfo? (u : Url) : Option (List Char) := (Text.cutLast '@' u.authority).1

def user? (u : Url) : Option String :=
  u.userInfo?.map fun info => String.ofList (Text.cut ':' info).1

/-- The password: what follows the first colon of the user information. -/
def password? (u : Url) : Option String :=
  u.userInfo?.bind fun info => (Text.cut ':' info).2.map String.ofList

/-- Host and port as they are written, without brackets. -/
def hostAndPort (u : Url) : List Char × List Char :=
  match Text.cut '[' (hostPart u.authority) with
  | (_, some bracketed) =>
    let (host, after) := Text.cut ']' bracketed
    (host, (Text.cut ':' (after.getD [])).2.getD [])
  | (host, none) =>
    let (host, port) := Text.cut ':' host
    (host, port.getD [])

/-- The host in lower case, but its zone as it is written. -/
def host? (u : Url) : Option String :=
  match u.hostAndPort.1 with
  | [] => none
  | host =>
    let (name, zone) := Text.spanUntil (· == '%') host
    some (Text.lower (String.ofList name) ++ String.ofList zone)

/-- Why a port has no number. -/
inductive PortError where
  | notANumber (text : String)
  | tooLarge
  | numeral (e : Numeral.Error)
  deriving DecidableEq, Repr

def PortError.message : PortError → String
  | notANumber text => "Port could not be cast to integer value as " ++ Text.quote text
  | tooLarge => "Port out of range 0-65535"
  | numeral e => e.message

def greatestPort : Nat := 65535

/-- The port, if one is written. -/
def port (u : Url) : Except PortError (Option Nat) :=
  match u.hostAndPort.2 with
  | [] => .ok none
  | ds =>
    if !ds.all Char.isDigit then .error (.notANumber (String.ofList ds))
    else if Numeral.digitLimit < ds.length then .error (.numeral (.tooLongToRead ds.length))
    else
      let n := Numeral.ofDigits (ds.map fun c => c.toNat - 0x30)
      if n ≤ greatestPort then .ok (some n) else .error .tooLarge

end Url

end QueryPlans
