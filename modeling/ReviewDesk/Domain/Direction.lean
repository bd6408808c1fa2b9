-- The directions of writing in a domain name. Where letters are written from right to left,
-- each label has one direction, which its first character sets and its last one keeps.
import ReviewDesk.Domain.Mark

namespace ReviewDesk.Domain

/-! ## Tables -/

/-- The letters that are written from right to left. -/
def rightToLeftLetters : Array (Nat × Nat) := Table.ranges "
  5be 5c0 5c3 5c6 5d0-5f4 608 60b 60d 61b-64a 66d-66f 671-6d5 6e5-6e6 6ee-6ef 6fa-710 712-72f
  74d-7a5 7b1-7ea 7f4-7f5 7fa 7fe-815 81a 824 828 830-858 85e-88f 8a0-8c9 fbb2-fbc2 fe73
  10800-1091b 10920-10a00 10a10-10a35 10a40-10ae4 10aeb-10b35 10b40-10d23 10d4a-10d4f
  10d6f-10d8f 10e80-10ea9 10ead-10eee 10f00-10f45 10f51-10f81 10f86-10ff6 1e800-1e8cf
  1e922-1e943 1e94b-1ed3d"

/-- The digits that go with Arabic letters. -/
def arabicDigits : Array (Nat × Nat) := Table.ranges "
  660-669 66b-66c 10d30-10d49 10e60-10e7e"

/-- The digits of European numbers. -/
def europeanDigits : Array (Nat × Nat) := Table.ranges "
  30-39 6f0-6f9 102e1-102fb"

/-- The characters without a direction of their own. -/
def neutralCharacters : Array (Nat × Nat) := Table.ranges "
  0-8 e-1b 21-2f 3a-60 7b-d7 f7 2b9-2ba 2c2-2cf 2d2-2ed 2ef-2ff 375 3f6 58a-58f 606-607 609-60a
  60c 60e-60f 66a 6de 6e9 7f6-7f9 9f2-9f3 9fb af1 bf3-bfa c78-c7e e3f f3a-f3d 1390-1399 1400
  169b-169c 17db 17f0-180a 1940-1945 19de-19ff 200c-20c3 2104-214d 218a-2335 237b-2394 2396-26ab
  26ad-27ff 2900-2bff 2ce5-2cea 2cf9-2cff 2e00-3004 3008-3020 3030 3037 303d-303f 30a0 30fb
  31c0-31e5 4dc0-4dff a490-a4c6 a60d-a60f a673 a67e-a67f a700-a721 a788 a828-a82b a838-a839
  a874-a877 ab6a-ab6b fbc3-fdff fe45-fe46 10101 10140-1018c 10190-101a0 1091f 10b39-10b3f 10d6e
  11052-11065 11660-1166c 11fd5-11ff1 16fe2 1cc00-1cefd 1d1e9-1d241 1d245-1d281 1d300-1d356
  1db00-1db1c 1e2ff 1eef0-1f12f 1f16d-1f16f 1f1ad-1f1ae 1f260-1fbfa"

/-- The marks that count as letters although they have no width of their own. -/
def firmMarks : Array (Nat × Nat) := Table.ranges "cbf cc6 11a07-11a08 11c3f"

/-- What a character is for the direction of a text. -/
inductive Direction where
  | leftToRight
  | rightToLeft
  | arabicNumber
  | europeanNumber
  | neutral
  | mark
  deriving DecidableEq, Repr

def Direction.of (c : Char) : Direction :=
  if Table.holds rightToLeftLetters c then .rightToLeft
  else if Table.holds arabicDigits c then .arabicNumber
  else if Table.holds europeanDigits c then .europeanNumber
  else if Table.holds neutralCharacters c then .neutral
  else if isNonspacing c && !Table.holds firmMarks c then .mark
  else .leftToRight

/-! ## Labels -/

/-- Whether a label makes its domain name one of two directions. -/
def hasRightToLeft (label : List Char) : Bool :=
  label.any fun c => [Direction.rightToLeft, .arabicNumber].contains (Direction.of c)

/-- The last character of a label that is no mark. -/
def lastFirm? (label : List Direction) : Option Direction :=
  (label.reverse.dropWhile (· = .mark)).head?

/-- Whether a label from left to right keeps its direction. -/
def keepsLeftToRight (label : List Direction) : Bool :=
  label.all [.leftToRight, .europeanNumber, .neutral, .mark].contains &&
    (lastFirm? label).any [.leftToRight, .europeanNumber].contains

/-- Whether a label from right to left keeps its direction. It has numbers of one kind. -/
def keepsRightToLeft (label : List Direction) : Bool :=
  label.all (· ≠ .leftToRight) &&
    (lastFirm? label).any [.rightToLeft, .europeanNumber, .arabicNumber].contains &&
    !(label.contains .europeanNumber && label.contains .arabicNumber)

/-- Whether a label keeps the direction that its first character sets. -/
def keepsDirection (label : List Char) : Bool :=
  let directions := label.map Direction.of
  match directions with
  | [] => true
  | .leftToRight :: _ => keepsLeftToRight directions
  | .rightToLeft :: _ => keepsRightToLeft directions
  | _ => false

end ReviewDesk.Domain
