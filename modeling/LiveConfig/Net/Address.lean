import LiveConfig.Number.Integer

/-!
Internet addresses and socket addresses: their text forms, read and written.

A reader takes the front of a text and gives its value with the rest; the whole text is an address
when nothing is left.  Addresses of version 6 are written with the longest run of zero groups
shortened, the first of several.
-/
namespace LiveConfig.Net

open Number (digitOf?)

structure IPv4 where
  octets : List Nat
  deriving DecidableEq, Repr

structure IPv6 where
  groups : List Nat
  deriving DecidableEq, Repr

inductive IPAddress where
  | v4 (address : IPv4)
  | v6 (address : IPv6)
  deriving DecidableEq, Repr

inductive SocketAddress where
  | v4 (address : IPv4) (port : Nat)
  | v6 (address : IPv6) (scope port : Nat)
  deriving DecidableEq, Repr

inductive AddressError where
  | address
  | v4
  | v6
  | socket
  deriving DecidableEq, Repr

def AddressError.message : AddressError → String
  | .address => "invalid IP address syntax"
  | .v4 => "invalid IPv4 address syntax"
  | .v6 => "invalid IPv6 address syntax"
  | .socket => "invalid socket address syntax"

def leadingNumber (radix : Nat) : List Char → Nat → Nat → Nat × Nat × List Char
  | [], n, count => (n, count, [])
  | c :: cs, n, count =>
    match digitOf? radix c with
    | some d => leadingNumber radix cs (n * radix + d) (count + 1)
    | none => (n, count, c :: cs)

def octet? (cs : List Char) : Option (Nat × List Char) :=
  let (n, count, rest) := leadingNumber 10 cs 0 0
  if count = 0 || 3 < count || 255 < n || (1 < count && cs.head? = some '0') then none
  else some (n, rest)

def group? (cs : List Char) : Option (Nat × List Char) :=
  let (n, count, rest) := leadingNumber 16 cs 0 0
  if count = 0 || 4 < count then none else some (n, rest)

def port? (cs : List Char) : Option (Nat × List Char) :=
  let (n, count, rest) := leadingNumber 10 cs 0 0
  if count = 0 || 65535 < n then none else some (n, rest)

def after? (c : Char) : List Char → Option (List Char)
  | [] => none
  | x :: rest => if x = c then some rest else none

def readIPv4 (cs : List Char) : Option (IPv4 × List Char) := do
  let (a, cs) ← octet? cs
  let cs ← after? '.' cs
  let (b, cs) ← octet? cs
  let cs ← after? '.' cs
  let (c, cs) ← octet? cs
  let cs ← after? '.' cs
  let (d, cs) ← octet? cs
  some (⟨[a, b, c, d]⟩, cs)

def readGroups : Nat → Bool → List Char → List Nat × Bool × List Char
  -- An address of version 4 may stand for the last two groups; the second result tells whether it does.
  | 0, _, cs => ([], false, cs)
  | limit + 1, first, cs =>
    match (if first then some cs else after? ':' cs) with
    | none => ([], false, cs)
    | some body =>
      match (if limit = 0 then none else readIPv4 body) with
      | some (⟨[a, b, c, d]⟩, rest) => ([a * 256 + b, c * 256 + d], true, rest)
      | _ =>
        match group? body with
        | none => ([], false, cs)
        | some (g, rest) =>
          let (more, embedded, rest) := readGroups limit false rest
          (g :: more, embedded, rest)

def readIPv6 (cs : List Char) : Option (IPv6 × List Char) :=
  let (head, embedded, rest) := readGroups 8 true cs
  if head.length = 8 then some (⟨head⟩, rest)
  else if embedded then none
  else do
    let rest ← after? ':' rest
    let rest ← after? ':' rest
    let (tail, _, rest) := readGroups (7 - head.length) true rest
    some (⟨head ++ List.replicate (8 - head.length - tail.length) 0 ++ tail⟩, rest)

def whole? {α : Type} : Option (α × List Char) → Option α
  | some (a, []) => some a
  | _ => none

def IPv4.parse (cs : List Char) : Except AddressError IPv4 :=
  match whole? (readIPv4 cs) with
  | some a => .ok a
  | none => .error .v4

def IPv6.parse (cs : List Char) : Except AddressError IPv6 :=
  match whole? (readIPv6 cs) with
  | some a => .ok a
  | none => .error .v6

def IPAddress.parse (cs : List Char) : Except AddressError IPAddress :=
  match whole? (readIPv4 cs), whole? (readIPv6 cs) with
  | some a, _ => .ok (.v4 a)
  | none, some a => .ok (.v6 a)
  | none, none => .error .address

def readScope (cs : List Char) : Nat × List Char :=
  match after? '%' cs with
  | none => (0, cs)
  | some digits =>
    let (n, count, rest) := leadingNumber 10 digits 0 0
    if count = 0 || Nat.pow 2 32 ≤ n then (0, cs) else (n, rest)

def readSocketV4 (cs : List Char) : Option (SocketAddress × List Char) := do
  let (a, cs) ← readIPv4 cs
  let cs ← after? ':' cs
  let (p, cs) ← port? cs
  some (.v4 a p, cs)

def readSocketV6 (cs : List Char) : Option (SocketAddress × List Char) := do
  let cs ← after? '[' cs
  let (a, cs) ← readIPv6 cs
  let (scope, cs) := readScope cs
  let cs ← after? ']' cs
  let cs ← after? ':' cs
  let (p, cs) ← port? cs
  some (.v6 a scope p, cs)

def SocketAddress.parse (cs : List Char) : Except AddressError SocketAddress :=
  match whole? (readSocketV4 cs), whole? (readSocketV6 cs) with
  | some a, _ => .ok a
  | none, some a => .ok a
  | none, none => .error .socket

def IPv4.text (a : IPv4) : String :=
  String.intercalate "." (a.octets.map toString)

def IPv4.number (a : IPv4) : Nat := a.octets.foldl (fun n b => 256 * n + b) 0

def zerosAhead : List Nat → Nat
  | 0 :: rest => zerosAhead rest + 1
  | _ => 0

def longestZeroRun : Nat → List Nat → Nat × Nat
  | i, [] => (i, 0)
  | i, g :: rest =>
    let here := zerosAhead (g :: rest)
    let later := longestZeroRun (i + 1) rest
    if later.2 ≤ here then (i, here) else later

def groupsText (groups : List Nat) : String :=
  String.intercalate ":" (groups.map (Number.hex 1))

def IPv6.hexText (a : IPv6) : String :=
  let (start, length) := longestZeroRun 0 a.groups
  if length < 2 then groupsText a.groups
  else groupsText (a.groups.take start) ++ "::" ++ groupsText (a.groups.drop (start + length))

def IPv6.text (a : IPv6) : String :=
  match a.groups with
  | [0, 0, 0, 0, 0, 0xffff, x, y] =>
    "::ffff:" ++ IPv4.text ⟨[x / 256, x % 256, y / 256, y % 256]⟩
  | _ => a.hexText

def IPAddress.text : IPAddress → String
  | .v4 a => a.text
  | .v6 a => a.text

def SocketAddress.text : SocketAddress → String
  | .v4 a port => a.text ++ ":" ++ toString port
  | .v6 a scope port =>
    let zone := if scope = 0 then "" else "%" ++ toString scope
    "[" ++ a.text ++ zone ++ "]:" ++ toString port

end LiveConfig.Net
