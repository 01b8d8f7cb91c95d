import LiveConfig.Document.Basic
import LiveConfig.Text.Blank
import LiveConfig.Text.Bytes
import LiveConfig.Text.Cut

/-!
The TOML notation for documents.

Characters are grouped into tokens, and the tokens drive a machine that keeps the tables defined so
far, the header that applies, and the lists and inline tables that are open.  A table remembers how it
came about, since that decides what may still be added to it: a header defines a table once, a table
that only stands on the way to another may still get a header, and a dotted key adds to no table that
has a header.
-/
namespace LiveConfig.Document.Toml

open Number

inductive Token where
  -- `[`, and whether another one stands immediately before it.
  | openBracket (glued : Bool)
  | closeBracket (glued : Bool)
  | openBrace
  | closeBrace
  | comma
  | equals
  | newline
  | word (letters : List Char)
  | text (s : String) (manyLines : Bool)

structure Quotation where
  mark : Char
  manyLines : Bool

def Quotation.isPlain (q : Quotation) : Bool := q.mark = '\''

inductive Place where
  | between (last : Char)
  | comment
  | word (letters : List Char)
  | opening (mark : Char) (count : Nat)
  -- Right after the marks that open a text of many lines; a line end here is left out.
  | fresh (q : Quotation)
  | quoted (q : Quotation) (letters : List Char)
  | closing (q : Quotation) (letters : List Char) (count : Nat)
  | escape (q : Quotation) (letters : List Char)
  | code (q : Quotation) (letters : List Char) (left value : Nat)
  | skipping (q : Quotation) (letters : List Char) (ended : Bool)

def isWordChar (c : Char) : Bool :=
  c.isAlphanum || c = '_' || c = '-' || c = '+' || c = '.' || c = ':'

def isSpace (c : Char) : Bool := c = ' ' || c = '\t'

def isForbidden (c : Char) : Bool := (c.toNat < 0x20 && c ≠ '\t') || c.toNat = 0x7F

def charOf? (n : Nat) : Option Char := if n.isValidChar then some (Char.ofNat n) else none

def escaped? (c : Char) : Option Char :=
  match c with
  | 'b' => some '\x08'
  | 't' => some '\t'
  | 'n' => some '\n'
  | 'f' => some '\x0c'
  | 'r' => some '\r'
  | 'e' => some '\x1b'
  | '"' => some '"'
  | '\\' => some '\\'
  | _ => none

def codeLength? (c : Char) : Option Nat :=
  match c with
  | 'x' => some 2
  | 'u' => some 4
  | 'U' => some 8
  | _ => none

def isDate (letters : List Char) : Bool :=
  match letters with
  | [a, b, c, d, '-', e, f, '-', g, h] => [a, b, c, d, e, f, g, h].all Char.isDigit
  | _ => false

def mark? (last c : Char) : Option Token :=
  match c with
  | '[' => some (.openBracket (last = '['))
  | ']' => some (.closeBracket (last = ']'))
  | '\x7b' => some .openBrace
  | '\x7d' => some .closeBrace
  | ',' => some .comma
  | '=' => some .equals
  | _ => none

def fromBetween (done : List Token) (last c : Char) (next : Option Char) :
    Option (List Token × Place) :=
  if isSpace c then some (done, .between c)
  else if c = '\n' then some (.newline :: done, .between c)
  else if c = '\r' then if next = some '\n' then some (done, .between c) else none
  else if c = '#' then some (done, .comment)
  else if c = '"' || c = '\'' then some (done, .opening c 1)
  else if isWordChar c then some (done, .word [c])
  else (mark? last c).map fun t => (t :: done, .between c)

def textOf (letters : List Char) (manyLines : Bool) : Token :=
  .text (String.ofList letters.reverse) manyLines

def inText? (q : Quotation) (letters : List Char) (c : Char) (next : Option Char) : Option Place :=
  if c = '\\' && !q.isPlain then some (.escape q letters)
  else if q.manyLines && c = '\n' then some (.quoted q (c :: letters))
  else if q.manyLines && c = '\r' && next = some '\n' then some (.quoted q (c :: letters))
  else if isForbidden c then none
  else some (.quoted q (c :: letters))

def readTokens (done : List Token) : Place → List Char → Option (List Token)
  | .between _, [] => some done
  | .comment, [] => some done
  | .word letters, [] => some (.word letters.reverse :: done)
  | .opening _ 2, [] => some (.text "" false :: done)
  | .closing q letters count, [] => if 3 ≤ count then
      some (textOf (List.replicate (count - 3) q.mark ++ letters) true :: done) else none
  | _, [] => none
  | .between last, c :: cs =>
    match fromBetween done last c cs.head? with
    | some (done, place) => readTokens done place cs
    | none => none
  | .comment, c :: cs =>
    if c = '\n' then readTokens (.newline :: done) (.between c) cs
    else if c = '\r' && cs.head? = some '\n' then readTokens done .comment cs
    else if isForbidden c then none
    else readTokens done .comment cs
  | .word letters, c :: cs =>
    if isWordChar c || (c = ' ' && isDate letters.reverse && (cs.head?.map Char.isDigit).getD false) then
      readTokens done (.word (c :: letters)) cs
    else match fromBetween (.word letters.reverse :: done) 'a' c cs.head? with
      | some (done, place) => readTokens done place cs
      | none => none
  | .opening mark count, c :: cs =>
    if c = mark then
      if count = 1 then readTokens done (.opening mark 2) cs
      else readTokens done (.fresh ⟨mark, true⟩) cs
    else if count = 1 then
      match inText? ⟨mark, false⟩ [] c cs.head? with
      | some place => readTokens done place cs
      | none => none
    else match fromBetween (.text "" false :: done) 'a' c cs.head? with
      | some (done, place) => readTokens done place cs
      | none => none
  | .fresh q, c :: cs =>
    if c = '\n' then readTokens done (.quoted q []) cs
    else if c = '\r' && cs.head? = some '\n' then readTokens done (.fresh q) cs
    else if c = q.mark then readTokens done (.closing q [] 1) cs
    else match inText? q [] c cs.head? with
      | some place => readTokens done place cs
      | none => none
  | .quoted q letters, c :: cs =>
    if c = q.mark then
      if q.manyLines then readTokens done (.closing q letters 1) cs
      else readTokens (textOf letters false :: done) (.between 'a') cs
    else match inText? q letters c cs.head? with
      | some place => readTokens done place cs
      | none => none
  | .closing q letters count, c :: cs =>
    if c = q.mark && count < 5 then readTokens done (.closing q letters (count + 1)) cs
    else if 3 ≤ count then
      let token := textOf (List.replicate (count - 3) q.mark ++ letters) true
      match fromBetween (token :: done) 'a' c cs.head? with
      | some (done, place) => readTokens done place cs
      | none => none
    else match inText? q (List.replicate count q.mark ++ letters) c cs.head? with
      | some place => readTokens done place cs
      | none => none
  | .escape q letters, c :: cs =>
    match escaped? c with
    | some e => readTokens done (.quoted q (e :: letters)) cs
    | none =>
      match codeLength? c with
      | some n => readTokens done (.code q letters n 0) cs
      | none =>
        if q.manyLines && isSpace c then readTokens done (.skipping q letters false) cs
        else if q.manyLines && c = '\n' then readTokens done (.skipping q letters true) cs
        else if q.manyLines && c = '\r' && cs.head? = some '\n' then
          readTokens done (.skipping q letters false) cs
        else none
  | .code q letters left value, c :: cs =>
    match Text.hexDigit? c with
    | none => none
    | some d =>
      if left ≤ 1 then
        match charOf? (16 * value + d) with
        | some e => readTokens done (.quoted q (e :: letters)) cs
        | none => none
      else readTokens done (.code q letters (left - 1) (16 * value + d)) cs
  | .skipping q letters ended, c :: cs =>
    if c = '\n' then readTokens done (.skipping q letters true) cs
    else if c = '\r' && cs.head? = some '\n' then readTokens done (.skipping q letters ended) cs
    else if isSpace c then readTokens done (.skipping q letters ended) cs
    else if !ended then none
    else if c = q.mark then readTokens done (.closing q letters 1) cs
    else match inText? q letters c cs.head? with
      | some place => readTokens done place cs
      | none => none

def digitsOf? (radix : Nat) (cs : List Char) : Option (List Char) :=
  let digits := cs.filter (· ≠ '_')
  let parts := Text.splitOn ['_'] cs
  if parts.any List.isEmpty || !digits.all fun c => (digitOf? radix c).isSome then none
  else some digits

def valueOf (radix : Nat) (digits : List Char) : Nat :=
  digits.foldl (fun n c => n * radix + (digitOf? radix c).getD 0) 0

def splitSign : List Char → Bool × Bool × List Char
  | '+' :: r => (true, false, r)
  | '-' :: r => (true, true, r)
  | r => (false, false, r)

def integerOf? (negative : Bool) (n : Nat) : Option Document :=
  if negative then if n ≤ Nat.pow 2 63 then some (.integer (-(n : Int))) else none
  else if n < Nat.pow 2 64 then some (.integer n) else none

def hasSuperfluousZero (digits : List Char) : Bool := 1 < digits.length && digits.head? = some '0'

def readInteger? (cs : List Char) : Option Document :=
  match cs with
  | '0' :: 'x' :: r => (digitsOf? 16 r).bind fun d => integerOf? false (valueOf 16 d)
  | '0' :: 'o' :: r => (digitsOf? 8 r).bind fun d => integerOf? false (valueOf 8 d)
  | '0' :: 'b' :: r => (digitsOf? 2 r).bind fun d => integerOf? false (valueOf 2 d)
  | _ =>
    let (_, negative, body) := splitSign cs
    (digitsOf? 10 body).bind fun d =>
      if hasSuperfluousZero d then none else integerOf? negative (valueOf 10 d)

def doubleOf (bits : Nat) : Document :=
  if BinaryFormat.double.infinity ≤ bits % BinaryFormat.double.signBit then .null else .double bits

def isExponentMark (c : Char) : Bool := c = 'e' || c = 'E'

def readDouble? (cs : List Char) : Option Document :=
  let (_, negative, body) := splitSign cs
  if body = "inf".toList || body = "nan".toList then some .null
  else
    let (mantissa, exponent) := match Text.cutAt isExponentMark body with
      | some (m, e) => (m, some e)
      | none => (body, none)
    let (whole, fraction) := match Text.cutAt (· = '.') mantissa with
      | some (w, f) => (w, some f)
      | none => (mantissa, none)
    if fraction.isNone && exponent.isNone then none
    else do
      let w ← digitsOf? 10 whole
      if hasSuperfluousZero w then none
      let f ← match fraction with
        | some f => digitsOf? 10 f
        | none => some []
      let e ← match exponent with
        | some e =>
          let (_, below, digits) := splitSign e
          (digitsOf? 10 digits).map fun d =>
            let n : Int := digitsValue d
            if below then -n else n
        | none => some 0
      let bits := patternOfDecimal .double (digitsValue (w ++ f)) (e - f.length)
      if BinaryFormat.double.infinity ≤ bits then none
      else some (.double (if negative then BinaryFormat.double.signBit + bits else bits))

def isLeapYear (y : Nat) : Bool := (y % 4 = 0 && y % 100 ≠ 0) || y % 400 = 0

def daysOf (year month : Nat) : Nat :=
  if month = 2 then if isLeapYear year then 29 else 28
  else if [4, 6, 9, 11].contains month then 30 else 31

def isRealDate (cs : List Char) : Bool :=
  isDate cs &&
    let y := digitsValue (cs.take 4)
    let m := digitsValue ((cs.drop 5).take 2)
    let d := digitsValue (cs.drop 8)
    1 ≤ m && m ≤ 12 && 1 ≤ d && d ≤ daysOf y m

def twoDigits? (most : Nat) : List Char → Option (List Char × List Char)
  | a :: b :: rest =>
    if a.isDigit && b.isDigit && digitsValue [a, b] ≤ most then some ([a, b], rest) else none
  | _ => none

def readTime? (cs : List Char) : Option (List Char × List Char) := do
  let (hour, cs) ← twoDigits? 23 cs
  let cs ← match cs with
    | ':' :: r => some r
    | _ => none
  let (minute, cs) ← twoDigits? 59 cs
  let clock := hour ++ ':' :: minute
  match cs with
  | ':' :: r =>
    let (second, cs) ← twoDigits? 60 r
    let clock := clock ++ ':' :: second
    match cs with
    | '.' :: r =>
      let (digits, rest) := spanDigits r
      if digits.isEmpty then none
      let shown := Text.dropEndWhile (· = '0') (digits.take 9)
      some (clock ++ (if shown.isEmpty then [] else '.' :: shown), rest)
    | _ => some (clock, cs)
  | _ => some (clock, cs)

def readOffset? : List Char → Option (List Char)
  -- No offset from universal time at all has the sign `+`.
  | [] => some []
  | ['Z'] | ['z'] => some ['Z']
  | sign :: cs =>
    if sign = '+' || sign = '-' then do
      let (hour, cs) ← twoDigits? 23 cs
      match cs with
      | ':' :: r =>
        let (minute, rest) ← twoDigits? 59 r
        let sign := if digitsValue hour = 0 && digitsValue minute = 0 then '+' else sign
        if rest.isEmpty then some (sign :: hour ++ ':' :: minute) else none
      | _ => none
    else none

def readMoment? (cs : List Char) : Option (List Char) :=
  if isRealDate (cs.take 10) then
    match cs.drop 10 with
    | [] => some cs
    | separator :: rest =>
      if separator = 'T' || separator = 't' || separator = ' ' then do
        let (clock, rest) ← readTime? rest
        let offset ← readOffset? rest
        some (cs.take 10 ++ 'T' :: clock ++ offset)
      else none
  else
    match readTime? cs with
    | some (clock, []) => some clock
    | _ => none

def momentKey : String := "$__toml_private_datetime"

def wordValue? (word : List Char) : Option Document :=
  if word = "true".toList then some (.bool true)
  else if word = "false".toList then some (.bool false)
  else match readMoment? word with
    | some moment => some (.table [(momentKey, .text (String.ofList moment))])
    | none =>
      match readInteger? word with
      | some d => some d
      | none => (readDouble? word).map fun d =>
        match d with
        | .double bits => doubleOf bits
        | other => other

inductive Origin where
  | header
  | passage
  | dotted
  deriving DecidableEq

inductive Node where
  | value (d : Document)
  | table (origin : Origin) (entries : List (String × Node))
  -- A list of tables, the last one first.
  | tables (later : List (List (String × Node)))

abbrev Entries := List (String × Node)

def descend (dotted : Bool) (change : Entries → Option Entries) :
    List String → Entries → Option Entries
  -- The path of a dotted key leads into no table that has a header, and does not end in one of a list.
  | [], entries => change entries
  | key :: path, entries =>
    match entryOf? key entries with
    | none =>
      (descend dotted change path []).map fun inner =>
        insertEntry key (.table (if dotted then .dotted else .passage) inner) entries
    | some (.table origin inner) =>
      if dotted && origin = .header then none
      else (descend dotted change path inner).map fun inner =>
        insertEntry key (.table origin inner) entries
    | some (.tables (last :: before)) =>
      if dotted && path.isEmpty then none
      else (descend dotted change path last).map fun last =>
        insertEntry key (.tables (last :: before)) entries
    | some _ => none

def define (path : List String) (value : Document) (entries : Entries) : Option Entries :=
  match path.getLast? with
  | none => none
  | some key =>
    descend true (fun entries =>
      if (entryOf? key entries).isSome then none
      else some (insertEntry key (.value value) entries)) path.dropLast entries

def openTable (path : List String) (entries : Entries) : Option Entries :=
  match path.getLast? with
  | none => none
  | some key =>
    descend false (fun entries =>
      match entryOf? key entries with
      | none => some (insertEntry key (.table .header []) entries)
      | some (.table .passage inner) => some (insertEntry key (.table .header inner) entries)
      | some _ => none) path.dropLast entries

def appendTable (path : List String) (entries : Entries) : Option Entries :=
  match path.getLast? with
  | none => none
  | some key =>
    descend false (fun entries =>
      match entryOf? key entries with
      | none => some (insertEntry key (.tables [[]]) entries)
      | some (.tables later) => some (insertEntry key (.tables ([] :: later)) entries)
      | some _ => none) path.dropLast entries

mutual
def Node.document : Node → Document
  | .value d => d
  | .table _ entries => .table (documentsOf entries)
  | .tables later => .list (tablesOf later #[]).toList

def documentsOf : List (String × Node) → List (String × Document)
  | [] => []
  | (k, n) :: rest => (k, n.document) :: documentsOf rest

def tablesOf : List (List (String × Node)) → Array Document → Array Document
  | [], done => done
  | t :: before, done => (tablesOf before done).push (.table (documentsOf t))
end

structure Key where
  parts : List String
  wanting : Bool

def isBareKeyChar (c : Char) : Bool := c.isAlphanum || c = '_' || c = '-'

def Key.start : Key := ⟨[], true⟩

def Key.addPart? (k : Key) (part : List Char) : Option Key :=
  if k.wanting then some ⟨String.ofList part :: k.parts, false⟩ else none

def Key.addWord? (k : Key) (word : List Char) : Option Key :=
  let take (k : Key) (part : List Char) : Option Key :=
    if part.isEmpty then some k
    else if part.all isBareKeyChar then k.addPart? part
    else none
  match Text.splitOn ['.'] word with
  | [] => none
  | first :: more => do
    let k ← take k first
    more.foldlM (fun k part =>
      if k.wanting then none else take { k with wanting := true } part) k

def partLimit : Nat := 80

def Key.path? (k : Key) : Option (List String) :=
  if k.wanting || partLimit < k.parts.length then none else some k.parts.reverse

inductive Frame where
  | entry (path : List String)
  | list (items : List Document)
  | inlineTable (entries : Entries) (path : List String)

inductive Expected where
  | line
  | lineEnd
  | header (many : Bool) (key : Key)
  | headerEnd (path : List String)
  | key (key : Key)
  | value
  | item
  | inlineKey (entries : Entries)
  | inlineKeyMore (entries : Entries) (key : Key)
  -- The equals sign of an inline table, after a key and a line end.
  | inlineEquals (entries : Entries) (path : List String)
  | next (value : Document)

structure Machine where
  root : Entries
  path : List String
  frames : List Frame
  depth : Nat
  expected : Expected

def depthLimit : Nat := 80

def Machine.beginValue (m : Machine) (t : Token) : Option Machine :=
  match t with
  | .word w => (wordValue? w).map fun d => { m with expected := .next d }
  | .text s _ => some { m with expected := .next (.text s) }
  | .openBracket _ =>
    if m.depth < depthLimit then
      some { m with frames := .list [] :: m.frames, depth := m.depth + 1, expected := .item }
    else none
  | .openBrace =>
    if m.depth < depthLimit then
      some { m with depth := m.depth + 1, expected := .inlineKey [] }
    else none
  | _ => none

def closedTable (entries : Entries) : Document := .table (documentsOf entries)

def Machine.step (m : Machine) (t : Token) : Option Machine :=
  match m.expected, t with
  | .line, .newline => some m
  | .line, .openBracket _ => some { m with expected := .header false .start }
  | .line, .word w => (Key.start.addWord? w).map fun k => { m with expected := .key k }
  | .line, .text s false => (Key.start.addPart? s.toList).map fun k => { m with expected := .key k }
  | .lineEnd, .newline => some { m with expected := .line }
  | .header false ⟨[], true⟩, .openBracket true => some { m with expected := .header true .start }
  | .header many k, .word w => (k.addWord? w).map fun k => { m with expected := .header many k }
  | .header many k, .text s false =>
    (k.addPart? s.toList).map fun k => { m with expected := .header many k }
  | .header false k, .closeBracket _ => do
    let path ← k.path?
    let root ← openTable path m.root
    some { m with root, path, expected := .lineEnd }
  | .header true k, .closeBracket _ => k.path?.map fun path => { m with expected := .headerEnd path }
  | .headerEnd path, .closeBracket true =>
    (appendTable path m.root).map fun root => { m with root, path, expected := .lineEnd }
  | .key k, .word w => (k.addWord? w).map fun k => { m with expected := .key k }
  | .key k, .text s false => (k.addPart? s.toList).map fun k => { m with expected := .key k }
  | .key k, .equals =>
    k.path?.map fun path => { m with frames := [.entry path], expected := .value }
  | .value, .newline =>
    match m.frames with
    | .inlineTable _ _ :: _ => some m
    | _ => none
  | .value, t => m.beginValue t
  | .item, .newline => some m
  | .item, .closeBracket _ =>
    match m.frames with
    | .list items :: frames =>
      some { m with frames, depth := m.depth - 1, expected := .next (.list items.reverse) }
    | _ => none
  | .item, t => m.beginValue t
  | .inlineKey _, .newline => some m
  | .inlineKey entries, .closeBrace =>
    some { m with depth := m.depth - 1, expected := .next (closedTable entries) }
  | .inlineKey entries, .word w =>
    (Key.start.addWord? w).map fun k => { m with expected := .inlineKeyMore entries k }
  | .inlineKey entries, .text s false =>
    (Key.start.addPart? s.toList).map fun k => { m with expected := .inlineKeyMore entries k }
  | .inlineKeyMore entries k, .word w =>
    (k.addWord? w).map fun k => { m with expected := .inlineKeyMore entries k }
  | .inlineKeyMore entries k, .text s false =>
    (k.addPart? s.toList).map fun k => { m with expected := .inlineKeyMore entries k }
  | .inlineKeyMore entries k, .newline =>
    k.path?.map fun path => { m with expected := .inlineEquals entries path }
  | .inlineKeyMore entries k, .equals =>
    k.path?.map fun path =>
      { m with frames := .inlineTable entries path :: m.frames, expected := .value }
  | .inlineEquals _ _, .newline => some m
  | .inlineEquals entries path, .equals =>
    some { m with frames := .inlineTable entries path :: m.frames, expected := .value }
  | .next d, t =>
    match m.frames, t with
    | .entry path :: _, .newline =>
      (descend false (define path d) m.path m.root).map fun root =>
        { m with root, frames := [], expected := .line }
    | .list items :: frames, .comma =>
      some { m with frames := .list (d :: items) :: frames, expected := .item }
    | .list items :: frames, .closeBracket _ =>
      some { m with frames, depth := m.depth - 1, expected := .next (.list (d :: items).reverse) }
    | .inlineTable entries path :: frames, .comma =>
      (define path d entries).map fun entries =>
        { m with frames, expected := .inlineKey entries }
    | .inlineTable entries path :: frames, .closeBrace =>
      (define path d entries).map fun entries =>
        { m with frames, depth := m.depth - 1, expected := .next (closedTable entries) }
    | _ :: _, .newline => some m
    | _, _ => none
  | _, _ => none

def parse? (cs : List Char) : Option Document := do
  let body := match cs with
    | c :: rest => if c.toNat = 0xFEFF then rest else cs
    | [] => []
  let tokens ← readTokens [] (.between '\n') body
  let m ← (.newline :: tokens).reverse.foldlM Machine.step ⟨[], [], [], 0, .line⟩
  match m.expected with
  | .line => some (.table (documentsOf m.root))
  | _ => none

end LiveConfig.Document.Toml
