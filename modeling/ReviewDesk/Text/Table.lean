-- Tables of code points as text: a row is a word, and its numbers are hexadecimal, with a
-- hyphen between one and the next.
import ReviewDesk.Text.Hex

namespace ReviewDesk.Table

/-! ## Rows -/

/-- What a reader of a table has: the rows that are done, the numbers of the row it is in, last
first, and the number it is in. -/
structure Reading where
  rows : Array (List Nat)
  row : List Nat
  number : Option Nat

namespace Reading

def endNumber (r : Reading) : Reading :=
  match r.number with
  | none => r
  | some n => { r with row := n :: r.row, number := none }

/-- Ends a row. A row without numbers does not count. -/
def endRow (r : Reading) : Reading :=
  let r := r.endNumber
  if r.row = [] then r else { r with rows := r.rows.push r.row.reverse, row := [] }

/-- Reads one character: a digit, a hyphen, or the end of a word. -/
def step (r : Reading) (c : Char) : Reading :=
  match Hex.value? c with
  | some v => { r with number := some (r.number.getD 0 * 16 + v) }
  | none => if c = '-' then r.endNumber else r.endRow

end Reading

/-- The rows of a table. -/
def rows (text : String) : Array (List Nat) :=
  (text.toList.foldl Reading.step ⟨#[], [], none⟩).endRow.rows

/-! ## Ranges -/

/-- The first and the last number that a row stands for. -/
def range? : List Nat → Option (Nat × Nat)
  | [n] => some (n, n)
  | [first, last] => some (first, last)
  | _ => none

/-- The ranges of a table. -/
def ranges (text : String) : Array (Nat × Nat) := (rows text).filterMap range?

/-- Whether one of the ranges holds a character. -/
def holds (ranges : Array (Nat × Nat)) (c : Char) : Bool :=
  ranges.any fun (first, last) => first ≤ c.toNat && c.toNat ≤ last

end ReviewDesk.Table
