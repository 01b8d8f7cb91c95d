import LiveConfig.Error

/-!
Source locators: texts of the form `scheme:path` that say where properties come from.

A file path has slashes only and may hold blanks; with `//` at its front it is read as a locator of
the web and has to name a file on this machine.  Web locators have to be well formed, but their path
is kept as written.
-/
namespace LiveConfig

open Text (isBlank isControl)

inductive Scheme where
  | file
  | resource
  | env
  | system
  | memory
  | http
  | https
  | other (name : String)
  deriving DecidableEq

namespace Scheme

def ofName : String → Scheme
  | "file" => .file
  | "resource" => .resource
  | "env" => .env
  | "system" => .system
  | "mem" => .memory
  | "http" => .http
  | "https" => .https
  | name => .other name

def name : Scheme → String
  | .file => "file"
  | .resource => "resource"
  | .env => "env"
  | .system => "system"
  | .memory => "mem"
  | .http => "http"
  | .https => "https"
  | .other name => name

def listing : Scheme → String
  | .file => "File"
  | .resource => "Resource"
  | .env => "Env"
  | .system => "System"
  | .memory => "Memory"
  | .http => "Http"
  | .https => "Https"
  | .other name => "Other(" ++ Text.quoted name ++ ")"

theorem ofName_name (n : String) : (ofName n).name = n := by
  unfold ofName
  split <;> rfl

end Scheme

structure Locator where
  scheme : Scheme
  path : String
  deriving DecidableEq

namespace Locator

def text (l : Locator) : String := l.scheme.name ++ ":" ++ l.path

def filePath? (l : Locator) : Option String :=
  if l.scheme = .file then some l.path else none

def extension? (l : Locator) : Option String :=
  let parts := Text.splitOn ['/'] l.path.toList
  ((parts.getLast?.bind fun name => Text.cutAtLast (· = '.') name)).map fun (_, extension) =>
    String.ofList (extension.map Char.toLower)

def isSchemeName : List Char → Bool
  | [] => false
  | c :: cs => c.isAlpha && cs.all fun c => c.isAlphanum || c = '+' || c = '-' || c = '.'

def isIllegal (c : Char) : Bool :=
  isBlank c || isControl c || "<>\"\x7b\x7d|\\^`".toList.contains c

def checkChars (cs : List Char) : Except LocatorFault Unit :=
  match cs.find? isIllegal with
  | some c => .error (.illegalCharacter c)
  | none => .ok ()

def parseFilePath (rest : List Char) : Except LocatorFault (List Char) := do
  let slashed := rest.map fun c => if c = '\\' then '/' else c
  let encoded := slashed.flatMap fun c => if c = ' ' then ['%', '2', '0'] else [c]
  checkChars encoded
  if slashed.take 2 ≠ ['/', '/'] then return slashed
  match Net.Url.parse ("file:".toList ++ encoded) with
  | .error e => throw (.url e)
  | .ok u =>
    match u.localPath? with
    | some path => return path
    | none => throw .notLocal

def parsePath (scheme : Scheme) (text rest : List Char) : Except LocatorFault (List Char) := do
  match scheme with
  | .file => parseFilePath rest
  | .http | .https =>
    checkChars rest
    match Net.Url.parse text with
    | .error e => throw (.url e)
    | .ok _ => return rest
  | _ =>
    checkChars rest
    return rest

def parseTrimmed (text : List Char) : Except LocatorFault Locator := do
  if text.isEmpty then throw .empty
  match Text.cutAt (· = ':') text with
  | none => throw .missingScheme
  | some (name, rest) =>
    if !isSchemeName name then throw (.malformedScheme (String.ofList name))
    if rest.isEmpty then throw .emptyPath
    let scheme := Scheme.ofName (String.ofList (name.map Char.toLower))
    let path ← parsePath scheme text rest
    return ⟨scheme, String.ofList path⟩

def parse (raw : String) : Except ConfigError Locator :=
  let text := Text.trim raw.toList
  (parseTrimmed text).mapError (.invalidLocator (String.ofList text))

end Locator
end LiveConfig
