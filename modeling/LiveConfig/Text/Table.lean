/-!
Tables of code points, written as text.

A table has rows, each ended by a semicolon; a row is a list of numbers in hexadecimal digits with
blanks between them.  Rows ascend by their first number, so that the row of a code point is found by
halving.  A table of characters has the first and the last one of a run of them in each row, and behind
these what is told of all of them.
-/
namespace LiveConfig.Text

structure TableReader where
  rows : Array (List Nat)
  row : List Nat
  number : Nat

def TableReader.step (r : TableReader) (c : Char) : TableReader :=
  let n := c.toNat
  if 0x30 ≤ n && n ≤ 0x39 then { r with number := 16 * r.number + (n - 0x30) }
  else if 0x41 ≤ n && n ≤ 0x46 then { r with number := 16 * r.number + (n - 0x37) }
  else if c = ';' then ⟨r.rows.push (r.number :: r.row).reverse, [], 0⟩
  else ⟨r.rows, r.number :: r.row, 0⟩

def readTable (lines : List String) : Array (List Nat) :=
  let start : TableReader := ⟨#[], [], 0⟩
  (lines.foldl (fun r (line : String) => line.toList.foldl TableReader.step r) start).rows

def lastUpTo? {α : Type} (place : α → Nat) (items : Array α) (n : Nat) :
    Nat → Nat → Nat → Option α
  | 0, _, _ => none
  | steps + 1, low, high =>
    if high ≤ low then none
    else
      let middle := (low + high) / 2
      match items[middle]? with
      | none => none
      | some item =>
        if n < place item then lastUpTo? place items n steps low middle
        else (lastUpTo? place items n steps (middle + 1) high).or (some item)

def rowOf? (table : Array (List Nat)) (n : Nat) : Option (List Nat) :=
  lastUpTo? (fun row => row.headD 0) table n table.size 0 table.size

def inTable (table : Array (List Nat)) (n : Nat) : Bool :=
  match rowOf? table n with
  | some [_, last] => n ≤ last
  | _ => false

end LiveConfig.Text
