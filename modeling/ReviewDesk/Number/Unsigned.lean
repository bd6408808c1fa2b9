-- Whole numbers as text: an optional plus and then digits, with a bound on the value.

namespace ReviewDesk.Unsigned

def isDigit (c : Char) : Bool := '0' ≤ c && c ≤ '9'

def digitValue (c : Char) : Nat := c.toNat - 48

/-- The value of a list of digits, the first being the highest. -/
def value (digits : List Char) : Nat := digits.foldl (fun n c => n * 10 + digitValue c) 0

/-- The digits of a number without its plus. -/
def unsigned : List Char → List Char
  | '+' :: rest => rest
  | cs => cs

/-- Reads a number that is at most the bound. Leading zeros may be any number. -/
def read? (bound : Nat) (text : String) : Option Nat :=
  let digits := unsigned text.toList
  if digits ≠ [] ∧ digits.all isDigit = true ∧ value digits ≤ bound then some (value digits)
  else none

end ReviewDesk.Unsigned
