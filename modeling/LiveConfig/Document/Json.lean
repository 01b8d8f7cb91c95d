import LiveConfig.Document.Basic
import LiveConfig.Text.Bytes

/-!
The JSON notation for documents.

Reading goes in three steps: characters are grouped into tokens, the tokens drive a machine with a
stack of open lists and tables, and what is built so, the value as it is written, is taken for a
document.  Only the last step asks whether texts are made of characters, numbers are finite and no
more than 127 lists and tables are open at once, so a value that is passed over need not be a document.
A number without fraction and exponent that fits sixty-four bits is an integer; any other is a double,
computed from as many leading digits as fit sixty-four bits and one power of ten.
-/
namespace LiveConfig.Document.Json

open Number

inductive Token where
  | openList
  | closeList
  | openTable
  | closeTable
  | comma
  | colon
  | text (codes : List Nat)
  | word (letters : List Char)

def scaleDouble (bits powerBits : Nat) (up : Bool) : Nat :=
  let (m, q) := decodeDouble bits
  let (n, r) := decodeDouble powerBits
  let e := if up then q + r else q - r
  let num := (if up then m * n else m) * Nat.pow 2 e.toNat
  let den := (if up then 1 else n) * Nat.pow 2 (-e).toNat
  if num = 0 then 0 else nearestPattern .double num den

def powerOfTen (k : Nat) : Nat := nearestPattern .double (Nat.pow 10 k) 1

def scaleByTen : Nat → Nat → Int → Option Nat
  | 0, bits, _ => some bits
  | steps + 1, bits, e =>
    if e.natAbs ≤ 308 then
      let scaled := scaleDouble bits (powerOfTen e.natAbs) (0 ≤ e)
      if BinaryFormat.double.infinity ≤ scaled then none else some scaled
    else if bits = 0 then some 0
    else if 0 ≤ e then none
    else scaleByTen steps (scaleDouble bits (powerOfTen 308) false) (e + 308)

def takeDigits : Nat → List Char → Nat × List Char
  | n, [] => (n, [])
  | n, c :: cs =>
    let next := 10 * n + (c.toNat - 0x30)
    if next < Nat.pow 2 64 then takeDigits next cs else (n, c :: cs)

def signedDouble (negative : Bool) (bits : Nat) : Document :=
  .double (if negative then BinaryFormat.double.signBit + bits else bits)

def numberOf (negative : Bool) (whole fraction : List Char) (exponent : Option Int) :
    Option Document :=
  let (n, dropped) := takeDigits 0 whole
  if fraction.isEmpty && exponent.isNone && dropped.isEmpty then
    if !negative then some (.integer n)
    else if n = 0 || Nat.pow 2 63 < n then some (signedDouble true (nearestPatternOrZero n))
    else some (.integer (-(n : Int)))
  else
    let (m, unused) := takeDigits n fraction
    let shift : Int := (dropped.length : Int) - (fraction.length - unused.length : Nat)
    let e := exponent.getD 0
    let limit : Int := Nat.pow 2 31 - 1
    if limit < e.natAbs then
      if m ≠ 0 && 0 ≤ e then none else some (signedDouble negative 0)
    else (scaleByTen 8 (nearestPatternOrZero m) (shift + e)).map (signedDouble negative)
where
  nearestPatternOrZero (n : Nat) : Nat := if n = 0 then 0 else nearestPattern .double n 1

def exponent? : List Char → Option (Option Int)
  | [] => some none
  | cs => (exponentPart? cs).map some

structure Numeral where
  negative : Bool
  whole : List Char
  fraction : List Char
  exponent : Option Int

def readNumeral? (cs : List Char) : Option Numeral :=
  let (negative, body) := match cs with
    | '-' :: r => (true, r)
    | r => (false, r)
  let (whole, rest) := spanDigits body
  if whole.isEmpty || (1 < whole.length && whole.head? = some '0') then none
  else
    match rest with
    | '.' :: r =>
      let (fraction, rest) := spanDigits r
      if fraction.isEmpty then none
      else (exponent? rest).map fun e => ⟨negative, whole, fraction, e⟩
    | _ => (exponent? rest).map fun e => ⟨negative, whole, [], e⟩

def wordValue? (word : List Char) : Option Document :=
  match String.ofList word with
  | "null" => some .null
  | "true" => some (.bool true)
  | "false" => some (.bool false)
  | _ => (readNumeral? word).bind fun n => numberOf n.negative n.whole n.fraction n.exponent

def isWord (word : List Char) : Bool :=
  ["null", "true", "false"].contains (String.ofList word) || (readNumeral? word).isSome

inductive Place where
  | between
  | word (letters : List Char)
  | quoted (codes : List Nat)
  | escape (codes : List Nat)
  -- After `\u` and `digits` hexadecimal digits of the value `code`.
  | unicode (codes : List Nat) (digits code : Nat)

def isSpace (c : Char) : Bool := c = ' ' || c = '\n' || c = '\t' || c = '\r'

def mark? (c : Char) : Option Token :=
  match c with
  | '[' => some .openList
  | ']' => some .closeList
  | '\x7b' => some .openTable
  | '\x7d' => some .closeTable
  | ',' => some .comma
  | ':' => some .colon
  | _ => none

def escaped? (c : Char) : Option Char :=
  match c with
  | '"' => some '"'
  | '\\' => some '\\'
  | '/' => some '/'
  | 'b' => some '\x08'
  | 'f' => some '\x0c'
  | 'n' => some '\n'
  | 'r' => some '\r'
  | 't' => some '\t'
  | _ => none

def readTokens (done : List Token) : Place → List Char → Option (List Token)
  | .between, [] => some done
  | .word letters, [] => if isWord letters.reverse then some (.word letters.reverse :: done) else none
  | _, [] => none
  | .between, c :: cs =>
    if isSpace c then readTokens done .between cs
    else if c = '"' then readTokens done (.quoted []) cs
    else match mark? c with
      | some t => readTokens (t :: done) .between cs
      | none => readTokens done (.word [c]) cs
  | .word letters, c :: cs =>
    if isSpace c || c = '"' || (mark? c).isSome then
      if isWord letters.reverse then
        let done := .word letters.reverse :: done
        if isSpace c then readTokens done .between cs
        else if c = '"' then readTokens done (.quoted []) cs
        else match mark? c with
          | some t => readTokens (t :: done) .between cs
          | none => none
      else none
    else readTokens done (.word (c :: letters)) cs
  | .quoted codes, c :: cs =>
    if c = '\\' then readTokens done (.escape codes) cs
    else if c = '"' then readTokens (.text codes.reverse :: done) .between cs
    else if c.toNat < 0x20 then none
    else readTokens done (.quoted (c.toNat :: codes)) cs
  | .escape codes, c :: cs =>
    if c = 'u' then readTokens done (.unicode codes 0 0) cs
    else match escaped? c with
      | some e => readTokens done (.quoted (e.toNat :: codes)) cs
      | none => none
  | .unicode codes digits code, c :: cs =>
    match Text.hexDigit? c with
    | none => none
    | some d =>
      if digits < 3 then readTokens done (.unicode codes (digits + 1) (16 * code + d)) cs
      else readTokens done (.quoted ((16 * code + d) :: codes)) cs

inductive Written where
  | word (letters : List Char)
  | text (codes : List Nat)
  | list (items : List Written)
  | table (entries : List (List Nat × Written))

inductive Frame where
  | list (items : List Written)
  | table (entries : List (List Nat × Written)) (key : List Nat)

inductive Expected where
  | value (orEnd : Bool)
  | key (entries : List (List Nat × Written)) (orEnd : Bool)
  | colon (entries : List (List Nat × Written)) (key : List Nat)
  | next (value : Written)

structure Machine where
  frames : List Frame
  depth : Nat
  deepest : Nat
  expected : Expected

def Machine.enter (m : Machine) (frames : List Frame) (expected : Expected) : Machine :=
  ⟨frames, m.depth + 1, max m.deepest (m.depth + 1), expected⟩

def Machine.leave (m : Machine) (frames : List Frame) (value : Written) : Machine :=
  { m with frames, depth := m.depth - 1, expected := .next value }

def Machine.step (m : Machine) (t : Token) : Option Machine :=
  match m.expected, t with
  | .value _, .word letters => some { m with expected := .next (.word letters) }
  | .value _, .text codes => some { m with expected := .next (.text codes) }
  | .value _, .openList => some (m.enter (.list [] :: m.frames) (.value true))
  | .value _, .openTable => some (m.enter m.frames (.key [] true))
  | .value true, .closeList =>
    match m.frames with
    | .list [] :: frames => some (m.leave frames (.list []))
    | _ => none
  | .key entries _, .text key => some { m with expected := .colon entries key }
  | .key entries true, .closeTable => some (m.leave m.frames (.table entries.reverse))
  | .colon entries key, .colon =>
    some { m with frames := .table entries key :: m.frames, expected := .value false }
  | .next w, .comma =>
    match m.frames with
    | .list items :: frames =>
      some { m with frames := .list (w :: items) :: frames, expected := .value false }
    | .table entries key :: frames =>
      some { m with frames, expected := .key ((key, w) :: entries) false }
    | [] => none
  | .next w, .closeList =>
    match m.frames with
    | .list items :: frames => some (m.leave frames (.list (w :: items).reverse))
    | _ => none
  | .next w, .closeTable =>
    match m.frames with
    | .table entries key :: frames => some (m.leave frames (.table ((key, w) :: entries).reverse))
    | _ => none
  | _, _ => none

def written? (cs : List Char) : Option (Written × Nat) := do
  let tokens ← readTokens [] .between cs
  let m ← tokens.reverse.foldlM Machine.step ⟨[], 0, 0, .value false⟩
  match m.frames, m.expected with
  | [], .next w => some (w, m.deepest)
  | _, _ => none

def charsOf? : List Nat → Option (List Char)
  | [] => some []
  | code :: codes =>
    if 0xD800 ≤ code && code < 0xDC00 then
      match codes with
      | low :: codes =>
        if 0xDC00 ≤ low && low < 0xE000 then
          (charsOf? codes).map fun cs =>
            Char.ofNat (0x10000 + (code - 0xD800) * 0x400 + (low - 0xDC00)) :: cs
        else none
      | [] => none
    else if 0xDC00 ≤ code && code < 0xE000 then none
    else (charsOf? codes).map fun cs => Char.ofNat code :: cs

def textOf? (codes : List Nat) : Option String := (charsOf? codes).map String.ofList

def entriesOf (entries : List (String × Document)) : List (String × Document) :=
  entries.foldl (fun m (k, v) => insertEntry k v m) []

mutual
def Written.document? (hold : List (String × Document) → Option (List (String × Document))) :
    Written → Option Document
  | .word letters => wordValue? letters
  | .text codes => (textOf? codes).map .text
  | .list items => (documentsOf? hold items).map .list
  | .table entries => (fieldsOf? hold entries).bind fun fields => (hold fields).map .table

def documentsOf? (hold : List (String × Document) → Option (List (String × Document))) :
    List Written → Option (List Document)
  | [] => some []
  | w :: rest => do
    let d ← w.document? hold
    some (d :: (← documentsOf? hold rest))

def fieldsOf? (hold : List (String × Document) → Option (List (String × Document))) :
    List (List Nat × Written) → Option (List (String × Document))
  | [] => some []
  | (key, w) :: rest => do
    let key ← textOf? key
    let d ← w.document? hold
    some ((key, d) :: (← fieldsOf? hold rest))
end

def depthLimit : Nat := 127

def parse? (cs : List Char) : Option Document := do
  let (w, depth) ← written? cs
  if depthLimit < depth then none else w.document? fun entries => some (entriesOf entries)

def Written.plain? (w : Written) : Option Document :=
  w.document? fun entries =>
    let keys := entries.map (·.1)
    if keys.eraseDups.length = keys.length then some (entriesOf entries) else none

def writtenChar (c : Char) : List Char :=
  if c = '"' then ['\\', '"']
  else if c = '\\' then ['\\', '\\']
  else if c = '\n' then ['\\', 'n']
  else if c = '\r' then ['\\', 'r']
  else if c = '\t' then ['\\', 't']
  else if c = '\x08' then ['\\', 'b']
  else if c = '\x0c' then ['\\', 'f']
  else if c.toNat < 0x20 then ['\\', 'u'] ++ (hex 4 c.toNat).toList
  else [c]

def writtenText (s : String) : String :=
  "\"" ++ String.ofList (s.toList.flatMap writtenChar) ++ "\""

mutual
def writeBehind (out : String) : Document → String
  | .null => out ++ "null"
  | .bool b => out ++ (if b then "true" else "false")
  | .integer n => out ++ toString n
  | .double bits => out ++ documentText bits
  | .text s => out ++ writtenText s
  | .list items => writeItems (out ++ "[") items ++ "]"
  | .table entries => writeEntries (out ++ "\x7b") entries ++ "\x7d"

def writeItems (out : String) : List Document → String
  | [] => out
  | [d] => writeBehind out d
  | d :: rest => writeItems (writeBehind out d ++ ",") rest

def writeEntries (out : String) : List (String × Document) → String
  | [] => out
  | [(k, d)] => writeBehind (out ++ writtenText k ++ ":") d
  | (k, d) :: rest => writeEntries (writeBehind (out ++ writtenText k ++ ":") d ++ ",") rest
end

def write (d : Document) : String := writeBehind "" d

end LiveConfig.Document.Json
