-- Internet addresses as text: four numbers with dots between them, or eight groups of
-- hexadecimal digits with colons between them, where one run of zeros may be left out.
import ReviewDesk.Number.Unsigned
import ReviewDesk.Text.Cut
import ReviewDesk.Text.Hex

namespace ReviewDesk

/-! ## Four numbers -/

namespace Ipv4

/-- One of the four numbers. It has no leading zeros and is at most 255. -/
def number? (cs : List Char) : Option Nat :=
  if cs = ['0'] then some 0
  else if cs ≠ [] ∧ cs.length ≤ 3 ∧ cs.all Unsigned.isDigit = true ∧ cs.head? ≠ some '0' ∧
      Unsigned.value cs ≤ 255 then some (Unsigned.value cs)
  else none

def read? (cs : List Char) : Option (List Nat) :=
  let parts := cutAt '.' cs
  if parts.length = 4 then parts.mapM number? else none

def text (numbers : List Nat) : List Char :=
  ['.'].intercalate (numbers.map (Nat.toDigits 10))

/-! ### Addresses as hosts

A host may write an address more freely: a number may be hexadecimal or octal, there may be
fewer than four of them, and a dot may stand at the end. -/

/-- The value of some digits. -/
def valueIn? (base : Nat) (digits : List Char) : Option Nat :=
  digits.foldlM (fun n c =>
    match Hex.value? c with
    | some v => if v < base then some (n * base + v) else none
    | none => none) 0

/-- One number of a host. It is hexadecimal after `0x` and octal after another `0`. -/
def hostNumber? : List Char → Option Nat
  | [] => none
  | ['0'] => some 0
  | '0' :: c :: digits =>
    if c = 'x' ∨ c = 'X' then valueIn? 16 digits else valueIn? 8 (c :: digits)
  | digits => valueIn? 10 digits

/-- The parts of a host. One empty part at the end does not count. -/
def hostParts (cs : List Char) : List (List Char) :=
  let parts := cutAt '.' cs
  if parts.getLast? = some [] then parts.dropLast else parts

/-- Whether a host can only be an address: its last part is a number or at least has digits
only. -/
def endsInNumber (cs : List Char) : Bool :=
  match (hostParts cs).getLast? with
  | none => false
  | some part => part ≠ [] && part.all Unsigned.isDigit || (hostNumber? part).isSome

/-- The lowest bytes of a number, as many as asked for, the highest first. -/
def bytes (count n : Nat) : List Nat :=
  (List.range count).reverse.map fun place => n / Nat.pow 256 place % 256

/-- Reads an address of a host. The last number stands for all that is left. -/
def ofHost? (cs : List Char) : Option (List Nat) := do
  let numbers ← (hostParts cs).mapM hostNumber?
  let last ← numbers.getLast?
  let front := numbers.dropLast
  if 3 < front.length ∨ front.any (255 < ·) ∨ Nat.pow 256 (4 - front.length) ≤ last then none
  return front ++ bytes (4 - front.length) last

end Ipv4

/-! ## Eight groups -/

namespace Ipv6

/-- Cuts a text at its first pair of colons. -/
def cutAtColons : List Char → Option (List Char × List Char)
  | ':' :: ':' :: rest => some ([], rest)
  | [] => none
  | c :: rest => (cutAtColons rest).map fun (front, back) => (c :: front, back)

/-- A group has one to four digits. -/
def group? (cs : List Char) : Option Nat :=
  if cs = [] ∨ 4 < cs.length then none
  else (cs.mapM Hex.value?).map fun values => values.foldl (fun n v => n * 16 + v) 0

/-- The parts of a run of groups. Four numbers with dots may stand for the last two groups. -/
def groupsOf? (dotted : Bool) : List (List Char) → Option (List Nat)
  | [] => some []
  | [part] =>
    match Ipv4.read? part with
    | some [a, b, c, d] => if dotted then some [a * 256 + b, c * 256 + d] else none
    | _ => (group? part).map ([·])
  | part :: rest => do
    let group ← group? part
    let groups ← groupsOf? dotted rest
    return group :: groups

/-- Reads a run of groups. -/
def run? (dotted : Bool) (cs : List Char) : Option (List Nat) :=
  if cs = [] then some [] else groupsOf? dotted (cutAt ':' cs)

/-- Reads an address. Two colons stand for at least one group of zero. -/
def read? (cs : List Char) : Option (List Nat) :=
  match cutAtColons cs with
  | none => do
    let groups ← run? true cs
    if groups.length = 8 then some groups else none
  | some (front, back) => do
    let front ← run? false front
    let back ← run? true back
    if front.length + back.length < 8 then
      some (front ++ List.replicate (8 - front.length - back.length) 0 ++ back)
    else none

/-- The length of the run of zeros in front of a list. -/
def zerosInFront (groups : List Nat) : Nat := (groups.takeWhile (· = 0)).length

/-- The first of the longest runs of zeros: how many groups stand before it, and how many
are in it. -/
def longestZeros : List Nat → Nat × Nat
  | [] => (0, 0)
  | g :: rest =>
    let here := zerosInFront (g :: rest)
    let (before, length) := longestZeros rest
    if length ≤ here then (0, here) else (before + 1, length)

def groupText (group : Nat) : List Char := Nat.toDigits 16 group

def runText (groups : List Nat) : List Char :=
  [':'].intercalate (groups.map groupText)

/-- The address as text. The first of the longest runs of zeros is left out if it is longer
than one group. -/
def text (groups : List Nat) : List Char :=
  let (before, length) := longestZeros groups
  if length < 2 then runText groups
  else runText (groups.take before) ++ [':', ':'] ++ runText (groups.drop (before + length))

end Ipv6

/-- Whether a text is an address of either form. -/
def isIpAddress (text : String) : Bool :=
  (Ipv4.read? text.toList).isSome || (Ipv6.read? text.toList).isSome

end ReviewDesk
