import LiveConfig.Number.Integer
import LiveConfig.Text.Blank
import LiveConfig.Text.Quoted

/-!
Spans of time and the texts that write them.

A bare number counts milliseconds.  Otherwise a text is a sequence of numbers with units, as in
`1h 30min`: white space may stand before and inside a number, a fraction may follow a point, and the
parts are added up.  Numbers have sixty-four bits, and a fraction has to come out even: to nanoseconds
for units below the hour, to seconds from the hour on.
-/
namespace LiveConfig.Time

structure Duration where
  seconds : Nat
  nanos : Nat
  deriving DecidableEq, Repr

namespace Duration

def ofMillis (ms : Nat) : Duration := ⟨ms / 1000, ms % 1000 * 1000000⟩

def wholeMillis (d : Duration) : Nat := d.seconds * 1000 + d.nanos / 1000000

def inNanos (d : Duration) : Nat := d.seconds * 1000000000 + d.nanos

theorem inNanos_ofMillis (ms : Nat) : (ofMillis ms).inNanos = ms * 1000000 := by
  simp only [inNanos, ofMillis]
  omega

def text (d : Duration) : String := toString d.seconds ++ "." ++ Number.padded 9 d.nanos ++ "s"

end Duration

inductive DurationError where
  | invalidCharacter (offset : Nat)
  | numberExpected (offset : Nat)
  | unitNeeded (number : Nat)
  | unknownUnit (unit : String)
  | overflow
  -- The nanoseconds make up one more second, which the greatest number of seconds cannot take.
  | carry
  | empty
  deriving DecidableEq, Repr

def DurationError.message : DurationError → String
  | .invalidCharacter n => "invalid character at " ++ toString n
  | .numberExpected n => "expected number at " ++ toString n
  | .unitNeeded n =>
    "time unit needed, for example " ++ toString n ++ "sec or " ++ toString n ++ "ms"
  | .unknownUnit u =>
    "unknown time unit " ++ Text.quoted u ++ ", supported units: ns, us/µs, ms, sec, min, hours, " ++
      "days, weeks, months, years (and few variations)"
  | .overflow =>
    "number is too large or cannot be represented without a lack of precision " ++
      "(values below 1ns are not supported)"
  | .carry => "overflow in Duration::new"
  | .empty => "value was empty"

inductive TimeUnit where
  | ofNanos (n : Nat)
  | ofSeconds (n : Nat)

def TimeUnit.ofName? (name : String) : Option TimeUnit :=
  match name with
  | "nanos" | "nsec" | "ns" => some (.ofNanos 1)
  | "usec" | "us" | "µs" => some (.ofNanos 1000)
  | "millis" | "msec" | "ms" => some (.ofNanos 1000000)
  | "seconds" | "second" | "secs" | "sec" | "s" => some (.ofSeconds 1)
  | "minutes" | "minute" | "min" | "mins" | "m" => some (.ofSeconds 60)
  | "hours" | "hour" | "hr" | "hrs" | "h" => some (.ofSeconds 3600)
  | "days" | "day" | "d" => some (.ofSeconds 86400)
  | "weeks" | "week" | "wk" | "wks" | "w" => some (.ofSeconds 604800)
  | "months" | "month" | "M" => some (.ofSeconds 2630016)
  | "years" | "year" | "yr" | "yrs" | "y" => some (.ofSeconds 31557600)
  | _ => none

def checked (n : Nat) : Except DurationError Nat :=
  if n < Nat.pow 2 64 then .ok n else .error .overflow

def exactQuotient (n d : Nat) : Except DurationError Nat :=
  if n % d = 0 then .ok (n / d) else .error .overflow

def addTo (total : Duration) (seconds nanos : Nat) : Except DurationError Duration := do
  -- Exactly one second of nanoseconds is carried after the seconds are added up, more of them before that.
  let nanos ← checked (total.nanos + nanos)
  if nanos = 1000000000 then
    let seconds ← checked (total.seconds + seconds)
    (checked (seconds + 1)).mapError (fun _ => .carry) |>.map fun seconds => ⟨seconds, 0⟩
  else
    let seconds ← checked (seconds + nanos / 1000000000)
    let seconds ← checked (total.seconds + seconds)
    return ⟨seconds, nanos % 1000000000⟩

structure Amount where
  whole : Nat
  fraction : Option (Nat × Nat)

def addAmount (total : Duration) (amount : Amount) (unit : String) :
    Except DurationError Duration := do
  match TimeUnit.ofName? unit with
  | none => throw (if unit.isEmpty then .unitNeeded amount.whole else .unknownUnit unit)
  | some (.ofNanos size) =>
    let total ← addTo total 0 (← checked (amount.whole * size))
    match amount.fraction with
    | none => return total
    | some (n, d) =>
      if size = 1 then throw .overflow
      addTo total 0 (← exactQuotient (← checked (n * size)) d)
  | some (.ofSeconds size) =>
    let total ← addTo total (← checked (amount.whole * size)) 0
    match amount.fraction with
    | none => return total
    | some (n, d) =>
      if size < 3600 then addTo total 0 (← exactQuotient (← checked (n * (size * 1000000000))) d)
      else addTo total (← exactQuotient (← checked (n * size)) d) 0

inductive Place where
  | before (fresh : Bool) (since : Nat)
  | whole (n : Nat)
  -- After a point at the offset `point`, which a mistake in the next character is blamed on.
  | fraction (whole digits scale : Nat) (point : Option Nat)
  | unit (amount : Amount) (letters : List Char)

def isUnitLetter (c : Char) : Bool := c.isAlpha || c = 'µ'

def readDuration (total : Duration) (offset : Nat) :
    Place → List Char → Except DurationError Duration
  | .before fresh _, [] => if fresh then .error .empty else .ok total
  | .whole n, [] => addAmount total ⟨n, none⟩ ""
  | .fraction n digits scale point, [] =>
    if scale = 1 then .error (.invalidCharacter (point.getD offset))
    else addAmount total ⟨n, some (digits, scale)⟩ ""
  | .unit amount letters, [] => addAmount total amount (String.ofList letters.reverse)
  | .before fresh since, c :: cs =>
    if c.isDigit then readDuration total (offset + 1) (.whole (c.toNat - 0x30)) cs
    else if Text.isBlank c then readDuration total (offset + c.utf8Size) (.before fresh since) cs
    else .error (.numberExpected since)
  | .whole n, c :: cs =>
    if c.isDigit then
      if 10 * n + (c.toNat - 0x30) < Nat.pow 2 64 then
        readDuration total (offset + 1) (.whole (10 * n + (c.toNat - 0x30))) cs
      else .error .overflow
    else if Text.isBlank c then readDuration total (offset + c.utf8Size) (.whole n) cs
    else if isUnitLetter c then readDuration total (offset + c.utf8Size) (.unit ⟨n, none⟩ [c]) cs
    else if c = '.' then readDuration total (offset + 1) (.fraction n 0 1 (some offset)) cs
    else .error (.invalidCharacter offset)
  | .fraction n digits scale point, c :: cs =>
    if c.isDigit then
      let digits := 10 * digits + (c.toNat - 0x30)
      if digits < Nat.pow 2 64 && scale * 10 < Nat.pow 2 64 then
        readDuration total (offset + 1) (.fraction n digits (scale * 10) none) cs
      else .error .overflow
    else if Text.isBlank c then
      readDuration total (offset + c.utf8Size) (.fraction n digits scale none) cs
    else if isUnitLetter c then
      if scale = 1 then .error (.invalidCharacter (point.getD offset))
      else readDuration total (offset + c.utf8Size) (.unit ⟨n, some (digits, scale)⟩ [c]) cs
    else .error (.invalidCharacter (point.getD offset))
  | .unit amount letters, c :: cs =>
    if isUnitLetter c then readDuration total (offset + c.utf8Size) (.unit amount (c :: letters)) cs
    else if c.isDigit || Text.isBlank c then
      match addAmount total amount (String.ofList letters.reverse) with
      | .error e => .error e
      | .ok total =>
        let offset := offset + c.utf8Size
        readDuration total offset
          (if c.isDigit then .whole (c.toNat - 0x30) else .before false offset) cs
    else .error (.invalidCharacter offset)

def parseDuration (cs : List Char) : Except DurationError Duration :=
  let body := Text.trim cs
  match Number.parseInteger Number.word64 10 body with
  | .ok ms => .ok (Duration.ofMillis ms.toNat)
  | .error _ => readDuration ⟨0, 0⟩ 0 (.before true 0) body

def durationMessage (cs : List Char) (e : DurationError) : String :=
  "'" ++ String.ofList (Text.trim cs) ++ "' is not a duration: " ++ e.message

end LiveConfig.Time
