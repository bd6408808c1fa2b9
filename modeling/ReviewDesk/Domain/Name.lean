-- Domain names in ASCII. Each label is mapped and composed first. One that then holds other
-- characters is written in Punycode, after the letters `xn--`. Reading and writing Punycode take
-- time in the square of its length, so both have a longest label.
import ReviewDesk.Domain.Direction
import ReviewDesk.Domain.Joining
import ReviewDesk.Domain.Mapping
import ReviewDesk.Domain.Punycode
import ReviewDesk.Text.Cut

namespace ReviewDesk.Domain

/-! ## Labels -/

/-- A label as it is meant and as it is written in ASCII. -/
structure Label where
  meant : List Char
  written : List Char
  deriving DecidableEq, Repr

namespace Label

/-- What stands before Punycode. -/
def opening : List Char := "xn--".toList

/-- The most characters of a label that is written in Punycode. -/
def longest : Nat := 1000

/-- The most characters of Punycode that is read. -/
def longestCode : Nat := 2000

def isAscii (cs : List Char) : Bool := cs.all (·.toNat < 128)

/-- Whether a label begins with no mark and has its joiners in their places. -/
def isSound (cs : List Char) : Bool := !cs.head?.any isMark && areJoinersPlaced [] cs

/-- Whether a label is what mapping and composing would make of it. -/
def isSettled (cs : List Char) : Bool :=
  cs.all (fun c => image? c = some [c]) && composed cs = cs

/-- Whether Punycode may write a label. -/
def isWritable (cs : List Char) : Bool := isSound cs && cs.length ≤ longest

/-- What Punycode stands for, where it is short enough to be read. -/
def decoded? (code : List Char) : Option (List Char) :=
  if code.length ≤ longestCode then Punycode.decode? code else none

/-- Reads a label that is mapped and composed. -/
def read? (cs : List Char) : Option Label :=
  if opening.isPrefixOf cs then
    let code := cs.drop opening.length
    match decoded? code with
    | some meant =>
      if isAscii code ∧ code.getLast? ≠ some '-' ∧ meant ≠ [] ∧ isSettled meant ∧
          isWritable meant then some ⟨meant, cs⟩
      else none
    | none => none
  else if isAscii cs then some ⟨cs, cs⟩
  else if isWritable cs then some ⟨cs, opening ++ Punycode.encode cs⟩
  else none

end Label

/-! ## Names -/

/-- A domain name in ASCII. If a label has letters from right to left, then each label keeps
its direction. -/
def ascii? (cs : List Char) : Option (List Char) := do
  let images ← cs.mapM image?
  let labels ← (cutAt '.' (composed images.flatten)).mapM Label.read?
  if labels.any (hasRightToLeft ·.meant) ∧ !labels.all (keepsDirection ·.meant) then none
  return ['.'].intercalate (labels.map (·.written))

end ReviewDesk.Domain
