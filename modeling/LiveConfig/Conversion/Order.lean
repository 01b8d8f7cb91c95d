import LiveConfig.Conversion.Target
import LiveConfig.Text.Cut

/-!
The order of the values of a type, and what collections make of a sequence of values.

`Target.compare` orders numbers and spans by size, texts by code points, paths part by part, and sequences
by their first difference; a value that is missing comes before one that is there.  Sorted sets are in this
order, and sets have no two values of which neither comes before the other.
-/
namespace LiveConfig

namespace Value

def rank : Value → Nat
  | .integer _ => 0
  | .single _ => 1
  | .double _ => 2
  | .boolean _ => 3
  | .character _ => 4
  | .text _ => 5
  | .address _ => 6
  | .socket _ => 7
  | .url _ => 8
  | .duration _ => 9
  | .absent => 10
  | .present _ => 11
  | .items _ => 12

def addressKey : Net.IPAddress → List Nat
  | .v4 a => 4 :: a.octets
  | .v6 a => 6 :: a.groups

def socketKey : Net.SocketAddress → List Nat
  | .v4 a port => 4 :: a.octets ++ [port]
  | .v6 a scope port => 6 :: a.groups ++ [port, scope]

def textKey (cs : List Char) : List Int := cs.map fun c => c.toNat

def plainKey : Value → List Int
  | .integer n => [n]
  | .single bits | .double bits => [bits]
  | .boolean b => [b.toNat]
  | .character c => [c.toNat]
  | .text s => textKey s.toList
  | .address a => (addressKey a).map Int.ofNat
  | .socket a => (socketKey a).map Int.ofNat
  | .url u => textKey u.chars
  | .duration d => [d.inNanos]
  | .absent | .present _ | .items _ => []

def pathKey (cs : List Char) : List (List Int) :=
  -- Nothing and a point are no parts, except that a slash or a point at the beginning counts.
  let pieces := Text.splitOn ['/'] cs
  let start : List (List Int) :=
    if cs.head? = some '/' then [[0]] else if pieces.head? = some ['.'] then [[1]] else []
  let parts := pieces.filter fun piece => piece ≠ [] && piece ≠ ['.']
  start ++ parts.map fun part => if part = ['.', '.'] then [2] else 3 :: textKey part

def scalarKey : Scalar → Value → List (List Int)
  | .path, .text s => pathKey s.toList
  | _, v => [v.rank :: v.plainKey]

def parts : Value → List Value
  | .present v => [v]
  | .items vs => vs
  | _ => []

def insertSorted (cmp : Value → Value → Ordering) (v : Value) : List Value → List Value
  | [] => [v]
  | w :: rest =>
    match cmp v w with
    | .lt => v :: w :: rest
    | .eq => v :: rest
    | .gt => w :: insertSorted cmp v rest

def withoutRepeats (cmp : Value → Value → Ordering) (vs : List Value) : List Value :=
  vs.foldl (fun done v => if done.any (fun w => cmp v w == .eq) then done else done ++ [v]) []

end Value

namespace Target

def compare : Target → Value → Value → Ordering
  | .scalar s => compareOn (Value.scalarKey s)
  | .edited t | .parsed t => t.compare
  | .option t | .collection _ t | .array _ t =>
    compareLex (compareOn Value.rank) fun a b => List.compareLex t.compare a.parts b.parts

def element : Target → Target
  | .collection _ t | .array _ t => t
  | t => t

end Target

def Collection.arrange (cmp : Value → Value → Ordering) : Collection → List Value → List Value
  | .vector, vs | .deque, vs | .boxed, vs => vs
  | .orderedSet, vs | .plainSet, vs => Value.withoutRepeats cmp vs
  | .sortedSet, vs => vs.foldl (fun done v => Value.insertSorted cmp v done) []

end LiveConfig
