-- Percent escapes, and the pairs of a form: `%` and two hexadecimal digits stand for
-- a byte, and anything else stands for itself.
import ReviewDesk.Text.Cut
import ReviewDesk.Text.Utf8

namespace ReviewDesk.Percent

/-- The value of a hexadecimal digit of either case. -/
def hexValue? (b : UInt8) : Option UInt8 :=
  if 0x30 ≤ b ∧ b ≤ 0x39 then some (b - 0x30)
  else if 0x41 ≤ b ∧ b ≤ 0x46 then some (b - 0x37)
  else if 0x61 ≤ b ∧ b ≤ 0x66 then some (b - 0x57)
  else none

/-- The byte that an escape stands for, if the two bytes after the `%` are digits. -/
def escaped? (high low : UInt8) : Option UInt8 :=
  match hexValue? high, hexValue? low with
  | some h, some l => some (h * 16 + l)
  | _, _ => none

/-- Replaces each escape by its byte. A `%` that begins no escape stays. -/
def decode : List UInt8 → List UInt8
  | [] => []
  | [a] => [a]
  | [a, b] => [a, b]
  | a :: b :: c :: rest =>
    if a = 0x25 then
      match escaped? b c with
      | some byte => byte :: decode rest
      | none => a :: decode (b :: c :: rest)
    else a :: decode (b :: c :: rest)

/-- The bytes of a text with its escapes replaced. -/
def decodeText (s : String) : List UInt8 := decode (Utf8.encode s)

/-! ## Forms -/

/-- One name or value of a form: `+` stands for a space. -/
def formText (bytes : List UInt8) : String :=
  Utf8.decodeLossy (decode (bytes.map fun b => if b = 0x2b then 0x20 else b))

/-- The name and the value of one part of a form. A part without `=` has the empty value. -/
def formPair (bytes : List UInt8) : String × String :=
  (formText (bytes.takeWhile (· ≠ 0x3d)), formText ((bytes.dropWhile (· ≠ 0x3d)).drop 1))

/-- The pairs of a form in order. Empty parts do not count. -/
def formPairs (s : String) : List (String × String) :=
  ((cutAt 0x26 (Utf8.encode s)).filter (· ≠ [])).map formPair

end ReviewDesk.Percent
