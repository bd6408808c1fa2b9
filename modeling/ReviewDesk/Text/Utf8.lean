-- Bytes as text. Bytes that are no UTF-8 do not stop the reading: each longest run
-- that could have begun a character, or else each single byte, counts as one damaged
-- place.

namespace ReviewDesk.Utf8

/-- A character that is partly read: the bits so far, how many more bytes are due, and
the bounds of the next one. -/
structure Begun where
  bits : Nat
  due : Nat
  low : Nat
  high : Nat
  deriving Repr

/-- What the reader has: the character it is in, and the places before it, last first. -/
structure State where
  begun : Option Begun
  done : List (Option Char)

/-- Reads the first byte of a character. -/
def start (b : Nat) (done : List (Option Char)) : State :=
  if b < 0x80 then ⟨none, some (Char.ofNat b) :: done⟩
  else if b < 0xc2 then ⟨none, none :: done⟩
  else if b < 0xe0 then ⟨some ⟨b - 0xc0, 1, 0x80, 0xbf⟩, done⟩
  else if b = 0xe0 then ⟨some ⟨0, 2, 0xa0, 0xbf⟩, done⟩
  else if b = 0xed then ⟨some ⟨0xd, 2, 0x80, 0x9f⟩, done⟩
  else if b < 0xf0 then ⟨some ⟨b - 0xe0, 2, 0x80, 0xbf⟩, done⟩
  else if b = 0xf0 then ⟨some ⟨0, 3, 0x90, 0xbf⟩, done⟩
  else if b < 0xf4 then ⟨some ⟨b - 0xf0, 3, 0x80, 0xbf⟩, done⟩
  else if b = 0xf4 then ⟨some ⟨4, 3, 0x80, 0x8f⟩, done⟩
  else ⟨none, none :: done⟩

/-- Reads one byte. A byte that does not fit ends the character before it as a damaged
place and begins anew. -/
def step (s : State) (byte : UInt8) : State :=
  let b := byte.toNat
  match s.begun with
  | none => start b s.done
  | some g =>
    if g.low ≤ b ∧ b ≤ g.high then
      let bits := g.bits * 64 + (b - 0x80)
      if g.due ≤ 1 then ⟨none, some (Char.ofNat bits) :: s.done⟩
      else ⟨some ⟨bits, g.due - 1, 0x80, 0xbf⟩, s.done⟩
    else start b (none :: s.done)

/-- The places of a text that is over, in order. -/
def State.finish (s : State) : List (Option Char) :=
  (match s.begun with
    | none => s.done
    | some _ => none :: s.done).reverse

/-- The characters of a list of bytes, `none` for each damaged place. -/
def decode (bytes : List UInt8) : List (Option Char) :=
  (bytes.foldl step ⟨none, []⟩).finish

/-- The text, if no place of it is damaged. -/
def decode? (bytes : List UInt8) : Option String :=
  ((decode bytes).mapM id).map String.ofList

/-- The text, with U+FFFD at each damaged place. -/
def decodeLossy (bytes : List UInt8) : String :=
  String.ofList ((decode bytes).map (·.getD '\uFFFD'))

/-- The bytes of a text. -/
def encode (s : String) : List UInt8 := s.toUTF8.toList

end ReviewDesk.Utf8
