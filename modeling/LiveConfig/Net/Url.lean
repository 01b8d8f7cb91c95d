import LiveConfig.Net.Address
import LiveConfig.Net.Domain
import LiveConfig.Text.Blank
import LiveConfig.Text.Cut

/-!
Uniform resource locators: parsing with normalisation, and the local path of a file locator.

Schemes of the web and `file` are special: a backslash counts as a slash there, a host is a domain
name or an address, and a path is never empty.  All other schemes keep their host and opaque path
mostly as written.
-/
namespace LiveConfig.Net

inductive UrlError where
  | relative
  | emptyHost
  | invalidPort
  | invalidIPv4
  | invalidIPv6
  | invalidDomain
  | invalidHostCharacter
  deriving DecidableEq, Repr

def UrlError.message : UrlError → String
  | .relative => "relative URL without a base"
  | .emptyHost => "empty host"
  | .invalidPort => "invalid port number"
  | .invalidIPv4 => "invalid IPv4 address"
  | .invalidIPv6 => "invalid IPv6 address"
  | .invalidDomain => "invalid international domain name"
  | .invalidHostCharacter => "invalid domain character"

inductive SchemeClass where
  | file
  | web
  | other
  deriving DecidableEq, Repr

def SchemeClass.ofScheme (scheme : List Char) : SchemeClass :=
  if scheme = "file".toList then .file
  else if ["http", "https", "ws", "wss", "ftp"].contains (String.ofList scheme) then .web
  else .other

def SchemeClass.isSpecial (c : SchemeClass) : Bool := c ≠ .other

def defaultPort? (scheme : List Char) : Option Nat :=
  match String.ofList scheme with
  | "http" | "ws" => some 80
  | "https" | "wss" => some 443
  | "ftp" => some 21
  | _ => none

structure Url where
  scheme : List Char
  authority : Option (List Char)
  host : Bool
  path : List Char
  query : Option (List Char)
  fragment : Option (List Char)
  deriving DecidableEq

namespace Url

def chars (u : Url) : List Char :=
  u.scheme ++ [':'] ++
    (match u.authority with
      | some a => '/' :: '/' :: a
      | none => if u.path.take 2 = ['/', '/'] then ['/', '.'] else []) ++
    u.path ++
    (match u.query with
      | some q => '?' :: q
      | none => []) ++
    (match u.fragment with
      | some f => '#' :: f
      | none => [])

def text (u : Url) : String := String.ofList u.chars

end Url

namespace UrlText

def isSlash (c : Char) : Bool := c = '/' || c = '\\'

def escapesControl (c : Char) : Bool := c.toNat < 0x20 || c.toNat = 0x7F

def escapesFragment (c : Char) : Bool := escapesControl c || " \"<>`".toList.contains c

def escapesPath (c : Char) : Bool := escapesFragment c || "#?\x7b\x7d".toList.contains c

def escapesUserInfo (c : Char) : Bool := escapesPath c || "/:;=@[\\]^|".toList.contains c

def escapesQuery (special : Bool) (c : Char) : Bool :=
  escapesControl c || " \"#<>".toList.contains c || (special && c = '\'')

def splitScheme (cs : List Char) : Option (List Char × List Char) :=
  match Text.cutAt (· = ':') cs with
  | none => none
  | some (scheme, rest) =>
    match scheme with
    | [] => none
    | c :: more =>
      if c.isAlpha && more.all fun c => c.isAlphanum || c = '+' || c = '-' || c = '.' then
        some (scheme.map Char.toLower, rest)
      else none

def spanAuthority (special : Bool) (cs : List Char) : List Char × List Char :=
  cs.span fun c => !(c = '/' || c = '?' || c = '#' || (special && c = '\\'))

def userInfo (cs : List Char) : List Char :=
  let (name, password) := match Text.cutAt (· = ':') cs with
    | some (n, p) => (n, p)
    | none => (cs, [])
  let encoded := Text.percentEncode escapesUserInfo
  if name.isEmpty && password.isEmpty then []
  else encoded name ++ (if password.isEmpty then [] else ':' :: encoded password) ++ ['@']

def hostNumber? (cs : List Char) : Option (Option Nat) :=
  -- `none` for no number, `some none` for one that is too large.
  let (radix, digits) := match cs with
    | '0' :: 'x' :: r => (16, r)
    | '0' :: 'X' :: r => (16, r)
    | '0' :: d :: r => (8, d :: r)
    | r => (10, r)
  if cs.isEmpty then none
  else if digits.isEmpty then some (some 0)
  else if digits.all fun c => (Number.digitOf? radix c).isSome then
    let n := digits.foldl (fun n c => n * radix + (Number.digitOf? radix c).getD 0) 0
    some (if n < Nat.pow 2 32 then some n else none)
  else none

def endsInNumber (name : List Char) : Bool :=
  let parts := Domain.labels name
  let parts := if 1 < parts.length && parts.getLast? = some [] then parts.dropLast else parts
  match parts.getLast? with
  | some last => (!last.isEmpty && last.all Char.isDigit) || (hostNumber? last).isSome
  | none => false

def hostIPv4 (name : List Char) : Except UrlError IPv4 :=
  let parts := Domain.labels name
  let parts := if parts.getLast? = some [] then parts.dropLast else parts
  if 4 < parts.length then .error .invalidIPv4
  else
    match parts.mapM fun p => (hostNumber? p).bind id with
    | none => .error .invalidIPv4
    | some numbers =>
      let leading := numbers.dropLast
      let last := numbers.getLast?.getD 0
      if Nat.pow 256 (4 - leading.length) ≤ last || leading.any fun n => 255 < n then .error .invalidIPv4
      else
        let places := 4 - leading.length
        let rest := (List.range places).map fun i => last / Nat.pow 256 (places - 1 - i) % 256
        .ok ⟨leading ++ rest⟩

def bracketedHost (cs : List Char) : Except UrlError (List Char) :=
  if cs.getLast? ≠ some ']' then .error .invalidIPv6
  else match IPv6.parse (cs.drop 1).dropLast with
    | .ok a => .ok (('[' :: a.hexText.toList) ++ [']'])
    | .error _ => .error .invalidIPv6

def specialHost (cs : List Char) : Except UrlError (List Char) :=
  if cs.head? = some '[' then bracketedHost cs
  else match Domain.ofBytes? (Text.percentDecode cs) with
    | none => .error .invalidDomain
    | some name =>
      if name.isEmpty then .error .emptyHost
      else if endsInNumber name then (fun a => a.text.toList) <$> hostIPv4 name
      else .ok name

def opaqueHost (cs : List Char) : Except UrlError (List Char) :=
  if cs.head? = some '[' then bracketedHost cs
  else if cs.any fun c => c.toNat = 0 || "\t\n\r #/:<>?@[\\]^|".toList.contains c then
    .error .invalidHostCharacter
  else .ok (Text.percentEncode escapesControl cs)

def splitPort : Bool → List Char → List Char × Option (List Char)
  | _, [] => ([], none)
  | bracketed, c :: cs =>
    if c = ':' && !bracketed then ([], some cs)
    else
      let inside := if c = '[' then true else if c = ']' then false else bracketed
      let (host, port) := splitPort inside cs
      (c :: host, port)

def readPort (scheme digits : List Char) : Except UrlError (List Char) :=
  if digits.all Char.isDigit then
    let n := digits.foldl (fun n c => min 65536 (10 * n + (c.toNat - 0x30))) 0
    if 65535 < n then .error .invalidPort
    else if digits.isEmpty || defaultPort? scheme = some n then .ok []
    else .ok (':' :: (toString n).toList)
  else .error .invalidPort

def authority (kind : SchemeClass) (scheme cs : List Char) (followed : Bool) :
    Except UrlError (List Char × Bool × List Char) := do
  let (user, rest) := (Text.cutAtLast (· = '@') cs).getD ([], cs)
  if rest.isEmpty && user.isEmpty && !cs.isEmpty && followed then throw .emptyHost
  let shown := userInfo user
  let (host, port) := splitPort false rest
  if kind = .web && host.isEmpty then throw .emptyHost
  let written ← if kind.isSpecial then specialHost host else opaqueHost host
  if written.isEmpty && (port.isSome || !shown.isEmpty) then throw .emptyHost
  let (digits, rest) := (port.getD []).span (· ≠ '\\')
  let portText ← readPort scheme digits
  return (shown ++ written ++ portText, !written.isEmpty, rest)

def isDriveLetter : List Char → Bool
  | [c, d] => c.isAlpha && (d = ':' || d = '|')
  | _ => false

def isSingleDot (cs : List Char) : Bool :=
  [".", "%2e"].contains (String.ofList (cs.map Char.toLower))

def isDoubleDot (cs : List Char) : Bool :=
  ["..", "%2e.", ".%2e", "%2e%2e"].contains (String.ofList (cs.map Char.toLower))

def endSegment (kind : SchemeClass) (finished : List (List Char)) (segment : List Char)
    (slash : Bool) : List (List Char) × List Char :=
  -- The finished segments stand last first; `slash` tells whether a slash follows.
  if isDoubleDot segment then
    match finished with
    | [] => ([], [])
    | last :: before => (if isDriveLetter last then last :: before else before, [])
  else if isSingleDot segment then (finished, [])
  else
    let segment := if kind = .file && finished.isEmpty && isDriveLetter segment then
      segment.take 1 ++ [':'] else segment
    if slash then (segment :: finished, []) else (finished, segment)

def readPath (kind : SchemeClass) (finished : List (List Char)) (segment : List Char) :
    List Char → List Char
  -- `finished` and the characters of `segment` stand last first.
  | [] =>
    let (finished, last) := endSegment kind finished segment.reverse false
    finished.reverse.flatMap (fun s => '/' :: s) ++ '/' :: last
  | c :: cs =>
    if c = '/' || (kind.isSpecial && c = '\\') then
      readPath kind (endSegment kind finished segment.reverse true).1 [] cs
    else readPath kind finished ((Text.percentEncodeChar escapesPath c).reverse ++ segment) cs

def rawPath (kind : SchemeClass) (cs : List Char) : List Char :=
  readPath kind [] [] (match cs with
    | c :: rest => if c = '/' || (kind.isSpecial && c = '\\') then rest else cs
    | [] => [])

def pathOf (kind : SchemeClass) (cs : List Char) : List Char :=
  match kind, cs with
  | .other, [] => []
  | .file, _ => '/' :: (rawPath .file cs).dropWhile (· = '/')
  | _, _ => rawPath kind cs

def beginsWithDrive (cs : List Char) : Bool :=
  isDriveLetter (((rawPath .file cs).drop 1).takeWhile (· ≠ '/'))

def splitTail (cs : List Char) : List Char × Option (List Char) × Option (List Char) :=
  let (front, fragment) := match Text.cutAt (· = '#') cs with
    | some (a, b) => (a, some b)
    | none => (cs, none)
  let (path, query) := match Text.cutAt (· = '?') front with
    | some (a, b) => (a, some b)
    | none => (front, none)
  (path, query, fragment)

def finish (kind : SchemeClass) (scheme : List Char) (auth : Option (List Char)) (host : Bool)
    (path : List Char → List Char) (cs : List Char) : Url :=
  let (front, query, fragment) := splitTail cs
  { scheme
    authority := auth
    host
    path := path front
    query := query.map (Text.percentEncode (escapesQuery kind.isSpecial))
    fragment := fragment.map (Text.percentEncode escapesFragment) }

def parseFile (cs : List Char) : Except UrlError Url :=
  let scheme := "file".toList
  match cs with
  | a :: b :: rest =>
    if isSlash a && isSlash b then
      let (host, after) := spanAuthority true rest
      if isDriveLetter host then .ok (finish .file scheme (some []) false (pathOf .file) rest)
      else if host.isEmpty then .ok (finish .file scheme (some []) false (pathOf .file) after)
      else match specialHost host with
        | .error e => .error e
        | .ok written =>
          let isLocal := written = "localhost".toList
          let u := finish .file scheme (some (if isLocal then [] else written)) (!isLocal)
            (pathOf .file) after
          if beginsWithDrive (splitTail after).1 then
            .ok { u with authority := some [], host := false }
          else .ok u
    else .ok (finish .file scheme (some []) false (pathOf .file) cs)
  | _ => .ok (finish .file scheme (some []) false (pathOf .file) cs)

def parseRest (kind : SchemeClass) (scheme cs : List Char) : Except UrlError Url := do
  match kind with
  | .file => parseFile cs
  | .web =>
    let (auth, rest) := spanAuthority true (cs.dropWhile isSlash)
    let (written, host, _) ← authority .web scheme auth !rest.isEmpty
    return finish .web scheme (some written) host (pathOf .web) rest
  | .other =>
    match cs with
    | '/' :: '/' :: body =>
      let (auth, rest) := spanAuthority false body
      let (written, host, more) ← authority .other scheme auth !rest.isEmpty
      return finish .other scheme (some written) host (pathOf .other) (more ++ rest)
    | '/' :: _ => return finish .other scheme none false (pathOf .other) cs
    | _ => return finish .other scheme none false (Text.percentEncode escapesControl) cs

end UrlText

def Url.parse (cs : List Char) : Except UrlError Url :=
  let isEdge (c : Char) : Bool := c.toNat ≤ 0x20
  let body := (Text.dropEndWhile isEdge (cs.dropWhile isEdge)).filter fun c =>
    !(c = '\t' || c = '\n' || c = '\r')
  match UrlText.splitScheme body with
  | none => .error .relative
  | some (scheme, rest) => UrlText.parseRest (SchemeClass.ofScheme scheme) scheme rest

def Url.localPath? (u : Url) : Option (List Char) :=
  if u.host || u.authority.isNone && u.path.head? ≠ some '/' then none
  else
    let body := match u.path with
      | '/' :: rest => rest
      | p => p
    let bytes := (Text.splitOn ['/'] body).flatMap fun s => 0x2F :: Text.percentDecode s
    let ending := bytes.reverse.take 2
    let isDrive := match ending with
      | [d, c] => 2 < bytes.length && (d = 0x3A || d = 0x7C) && (Char.ofNat c.toNat).isAlpha
      | _ => false
    some (Text.decodeLossy (if isDrive then bytes ++ [0x2F] else bytes))

end LiveConfig.Net
