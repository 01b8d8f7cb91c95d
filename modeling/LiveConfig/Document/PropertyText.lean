import LiveConfig.Number.Integer
import LiveConfig.Text.Blank
import LiveConfig.TextMap

/-!
The line notation for property maps: `key=value`, comments, continued lines and escapes.

The stages are physical lines, logical lines, raw entries and unescaped entries; each is a function on
its own.  `write` is the notation in which every map can be written.
-/
namespace LiveConfig.PropertyText

open Text (isBlank trimStart)

def linesFrom (line : List Char) : List Char → List (List Char)
  | [] => if line.isEmpty then [] else [line.reverse]
  | c :: cs =>
    if c = '\n' then
      (match line with
        | '\r' :: before => before.reverse
        | _ => line.reverse) :: linesFrom [] cs
    else linesFrom (c :: line) cs

def physicalLines (cs : List Char) : List (List Char) := linesFrom [] cs

def isContinued (line : List Char) : Bool :=
  (line.reverse.takeWhile (· = '\\')).length % 2 = 1

def isIgnored (line : List Char) : Bool :=
  match line with
  | [] => true
  | c :: _ => c = '#' || c = '!'

def joinLines : Option (List Char) → List (List Char) → List (List Char)
  -- The first argument is a line that waits for its continuation, the backslash at its end already dropped.
  | none, [] => []
  | some line, [] => [line]
  | open?, next :: rest =>
    let body := trimStart next
    match open? with
    | none =>
      if isIgnored body then joinLines none rest
      else if isContinued body then joinLines (some body.dropLast) rest
      else body :: joinLines none rest
    | some line =>
      let line := line ++ body
      if isContinued line then joinLines (some line.dropLast) rest
      else line :: joinLines none rest

def logicalLines (cs : List Char) : List (List Char) := joinLines none (physicalLines cs)

def isGap (c : Char) : Bool := c = ' ' || c = '\t' || c = '\x0c'

def isSeparator (c : Char) : Bool := c = '=' || c = ':'

def splitKey : List Char → List Char × List Char
  | [] => ([], [])
  | ['\\'] => (['\\'], [])
  | '\\' :: c :: cs =>
    let (key, rest) := splitKey cs
    ('\\' :: c :: key, rest)
  | c :: cs =>
    if isSeparator c || isGap c then ([], c :: cs)
    else
      let (key, rest) := splitKey cs
      (c :: key, rest)

def splitEntry (line : List Char) : List Char × List Char :=
  let (key, rest) := splitKey line
  match rest.dropWhile isGap with
  | [] => (key, [])
  | c :: cs => if isSeparator c then (key, cs.dropWhile isGap) else (key, c :: cs)

def decodeUnicode (digits : List Char) : List Char :=
  match Number.parseInteger ⟨false, 32⟩ 16 digits with
  | .ok n =>
    if n.toNat.isValidChar then [Char.ofNat n.toNat] else '\\' :: 'u' :: digits
  | .error _ => '\\' :: 'u' :: digits

def decodeLetter (c : Char) : Char :=
  if c = 't' then '\t'
  else if c = 'n' then '\n'
  else if c = 'r' then '\r'
  else if c = 'f' then '\x0c'
  else c

def unescape : List Char → List Char
  | [] => []
  | '\\' :: 'u' :: a :: b :: c :: d :: rest => decodeUnicode [a, b, c, d] ++ unescape rest
  | '\\' :: 'u' :: digits => decodeUnicode digits
  | '\\' :: c :: rest => decodeLetter c :: unescape rest
  | ['\\'] => []
  | c :: rest => c :: unescape rest

def entryOf (line : List Char) : String × String :=
  let (key, value) := splitEntry line
  (String.ofList (unescape key), String.ofList (unescape value))

def parse (text : String) : PropertyMap :=
  TextMap.ofList ((logicalLines text.toList).map entryOf)

def escapeChar (c : Char) : List Char :=
  if c = '\n' then ['\\', 'n']
  else if c = '\r' then ['\\', 'r']
  else if c = '\t' then ['\\', 't']
  else if c = '\x0c' then ['\\', 'f']
  else if isBlank c || c = '\\' || c = '=' || c = ':' || c = '#' || c = '!' then ['\\', c]
  else [c]

def escape (s : String) : List Char := s.toList.flatMap escapeChar

def line (key value : String) : List Char := escape key ++ '=' :: escape value

def write (m : PropertyMap) : String :=
  String.ofList (List.intercalate ['\n'] (m.entries.map fun (k, v) => line k v))

end LiveConfig.PropertyText
