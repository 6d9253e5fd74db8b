import QueryPlans.Url.Address
import QueryPlans.Url.Basic
import QueryPlans.Url.Percent

/-!
# URLs in normal form

A text is a URL when it starts with a scheme and its host and port are well formed.  In its normal
form the scheme is in lower case, empty user information and an empty port are left out, dots among
the segments of the path are resolved, and characters that cannot stand in a part are escaped.

* `NormalUrl` — a URL with its parts escaped; `NormalUrl.read` reads one.
* `NormalUrl.text` — its written form.
-/

namespace QueryPlans

/-- Who and where: user information, host and port. -/
structure Authority where
  user : String
  password : String
  host : String
  port : Option Nat
  deriving DecidableEq, Repr, Inhabited

/-- A URL with its parts escaped. -/
structure NormalUrl where
  scheme : String
  authority : Option Authority
  path : String
  query : Option String
  fragment : Option String
  deriving DecidableEq, Repr, Inhabited

namespace NormalUrl

/-- Why a text is not a URL. -/
inductive Error where
  | empty
  | noScheme
  | emptyHost
  | badPort
  | badAddress
  | badHostCharacter
  deriving DecidableEq, Repr

def Error.message : Error → String
  | empty => "input is empty"
  | noScheme => "relative URL without a base"
  | emptyHost => "empty host"
  | badPort => "invalid port number"
  | badAddress => "invalid IPv6 address"
  | badHostCharacter => "invalid domain character"

/-! ## What each part keeps -/

/-- Characters that stand in a host or an opaque path as they are. -/
def keptInHost (c : Char) : Bool := Url.isPlain c

/-- Characters that stand in a fragment as they are. -/
def keptInFragment (c : Char) : Bool := Url.isPlain c && !" \"<>`".toList.contains c

/-- Characters that stand in a path as they are. -/
def keptInPath (c : Char) : Bool := keptInFragment c && !"#?\x7b\x7d".toList.contains c

/-- Characters that stand in a user or a password as they are. -/
def keptInUserInfo (c : Char) : Bool := keptInPath c && !"/:;=@[\\]^|".toList.contains c

/-- Characters that stand in a query as they are. -/
def keptInQuery (c : Char) : Bool := Url.isPlain c && !" \"#<>".toList.contains c

/-- Characters that no host may have. -/
def isForbiddenInHost (c : Char) : Bool :=
  c.toNat = 0 || " #/:<>?@[\\]^|".toList.contains c

def escaped (keep : Char → Bool) (part : List Char) : String :=
  Url.escape keep (String.ofList part)

/-! ## The authority -/

/-- Schemes of the web, which need a host and take backslashes for slashes. -/
def isWebScheme (scheme : String) : Bool := ["http", "https", "ws", "wss", "ftp"].contains scheme

def readHost (host : List Char) : Except Error String :=
  if host.head? = some '[' then
    if host.getLast? = some ']' then
      match Url.ipv6? (host.drop 1).dropLast with
      | some groups => .ok ("[" ++ Url.ipv6Text groups ++ "]")
      | none => .error .badAddress
    else .error .badAddress
  else if host.any isForbiddenInHost then .error .badHostCharacter
  else .ok (escaped keptInHost host)

/-- The host in front of the first colon outside of brackets, and the rest. -/
def cutHost : (inBrackets : Bool) → List Char → List Char × List Char
  | _, [] => ([], [])
  | inBrackets, c :: cs =>
    if c = ':' ∧ inBrackets = false then ([], c :: cs)
    else
      let (host, rest) := cutHost (if c = '[' then true else if c = ']' then false else inBrackets) cs
      (c :: host, rest)

/-- Read the port after a colon; what follows its digits is the start of the path. -/
def readPort (text : List Char) : Except Error (Option Nat × List Char) :=
  match text with
  | ':' :: rest =>
    let (ds, after) := Text.spanUntil (!Char.isDigit ·) rest
    let n := Numeral.ofDigits (ds.map fun c => c.toNat - 0x30)
    if after.head?.any (· != '\\') then .error .badPort
    else if Url.greatestPort < n then .error .badPort
    else .ok (if ds.isEmpty then none else some n, after)
  | _ => .ok (none, text)

def readUserInfo (info : Option (List Char)) : String × String :=
  match info with
  | none => ("", "")
  | some info =>
    let (user, password) := Text.cut ':' info
    (escaped keptInUserInfo user, escaped keptInUserInfo (password.getD []))

/-- Read an authority; also gives what stands between its port and the path. -/
def readAuthority (web : Bool) (authority rest : List Char) :
    Except Error (Authority × List Char) := do
  let (info, hostPart) := Text.cutLast '@' authority
  if info = some [] ∧ hostPart = [] ∧ rest ≠ [] then throw .emptyHost
  let (user, password) := readUserInfo info
  let (hostChars, portPart) := cutHost false hostPart
  if hostChars = [] ∧ web then throw .emptyHost
  let host ← readHost hostChars
  if hostChars = [] ∧ portPart ≠ [] then throw .emptyHost
  let (port, extra) ← readPort portPart
  if hostChars = [] ∧ ¬(user = "" ∧ password = "") then throw .emptyHost
  return ({ user, password, host, port }, extra)

/-! ## The path -/

/-- The segment stands for the one that holds it. -/
def isSingleDot (segment : String) : Bool := [".", "%2e"].contains segment.toLower

/-- The segment stands for the one above. -/
def isDoubleDot (segment : String) : Bool :=
  ["..", "%2e%2e", "%2e.", ".%2e"].contains segment.toLower

/-- Resolve dots among segments; `before` are the segments so far, last first. -/
def resolveDots (before : List String) : List String → List String
  | [] => before.reverse
  | s :: rest =>
    if isDoubleDot s then
      resolveDots (if rest = [] then "" :: before.drop 1 else before.drop 1) rest
    else if isSingleDot s then resolveDots (if rest = [] then "" :: before else before) rest
    else resolveDots (s :: before) rest

def readPath (path : List Char) : String :=
  if path = [] then ""
  else
    let segments := Text.splitOn '/' (if path.head? = some '/' then path.drop 1 else path)
    "/" ++ Text.joined "/" (resolveDots [] (segments.map (escaped keptInPath)))

/-! ## The whole -/

/-- Path, query and fragment: what stands before `?`, between `?` and `#`, and after `#`. -/
def cutTail (rest : List Char) : List Char × Option (List Char) × Option (List Char) :=
  let (front, fragment) := Text.cut '#' rest
  let (path, query) := Text.cut '?' front
  (path, query, fragment)

/-- Read a text as a URL. -/
def read (text : String) : Except Error NormalUrl := do
  if text = "" then throw .empty
  let cs := (Text.trim Url.isLeading text.toList).filter (!Url.isDropped ·)
  let (scheme, rest) := Url.cutScheme cs
  if scheme = "" then throw .noScheme
  let web := isWebScheme scheme
  let ends (c : Char) : Bool := Url.endsAuthority c || (web && c == '\\')
  let parts? : Option (List Char × List Char) :=
    if web then some (Text.spanUntil ends (rest.dropWhile fun c => c == '/' || c == '\\'))
    else match rest with
      | '/' :: '/' :: rest => some (Text.spanUntil ends rest)
      | _ => none
  match parts? with
  | some (authority, rest) =>
    let (authority, extra) ← readAuthority web authority rest
    let (path, query, fragment) := cutTail (extra ++ rest)
    return {
      scheme, authority := some authority, path := readPath path
      query := query.map (escaped keptInQuery), fragment := fragment.map (escaped keptInFragment) }
  | none =>
    let (path, query, fragment) := cutTail rest
    return {
      scheme, authority := none, path := escaped keptInHost path
      query := query.map (escaped keptInQuery), fragment := fragment.map (escaped keptInFragment) }

end NormalUrl

/-- The written form of an authority. -/
def Authority.text (a : Authority) : String :=
  let password := if a.password = "" then "" else ":" ++ a.password
  let info := if a.user = "" ∧ a.password = "" then "" else a.user ++ password ++ "@"
  info ++ a.host ++ a.port.elim "" fun n => ":" ++ Nat.repr n

/-- The written form of a URL. -/
def NormalUrl.text (u : NormalUrl) : String :=
  u.scheme ++ ":" ++ u.authority.elim "" (fun a => "//" ++ a.text) ++ u.path ++
    u.query.elim "" ("?" ++ ·) ++ u.fragment.elim "" ("#" ++ ·)

end QueryPlans
