-- Floating-point numbers of double precision that are not negative: the one nearest to
-- a ratio of two counts, its bits, and the shortest decimal that reads back as it.

namespace ReviewDesk

/-- The number `mantissa · 2 ^ exponent`. The mantissa of zero is zero, and that of any
other number has 53 bits: a ratio of two counts is never so small as to have fewer. -/
structure Binary64 where
  mantissa : Nat
  exponent : Int
  deriving DecidableEq, Repr

namespace Binary64

/-- The smallest mantissa of 53 bits, `2 ^ 52`. -/
def leastMantissa : Nat := 4503599627370496

/-! ## Rounding -/

/-- The whole number nearest to a quotient. A half goes to the even neighbour. -/
def roundDiv (num den : Nat) : Nat :=
  let q := num / den
  let r := num % den
  if 2 * r < den then q
  else if den < 2 * r then q + 1
  else if q % 2 = 0 then q else q + 1

/-- `num / den / 2 ^ exponent` as a quotient of whole numbers. -/
def scaled (num den : Nat) (exponent : Int) : Nat × Nat :=
  (num * Nat.pow 2 (-exponent).toNat, den * Nat.pow 2 exponent.toNat)

/-- The number nearest to `num / den`, and zero when one of the two is zero. -/
def ofRatio (num den : Nat) : Binary64 :=
  if num = 0 ∨ den = 0 then ⟨0, 0⟩
  else
    let guess : Int := (num.log2 : Int) - den.log2 - 52
    let (n, d) := scaled num den guess
    let exponent := if n / d < leastMantissa then guess - 1 else guess
    let (n, d) := scaled num den exponent
    let mantissa := roundDiv n d
    if mantissa = 2 * leastMantissa then ⟨leastMantissa, exponent + 1⟩ else ⟨mantissa, exponent⟩

/-- A whole number cut to the 53 bits that a double holds, as a whole number again. -/
def roundNat (n : Nat) : Nat :=
  let unit := Nat.pow 2 (n.log2 - 52)
  roundDiv n unit * unit

/-- Whether a whole number rounds to infinity. -/
def overflows (n : Nat) : Bool := Nat.pow 2 1024 - Nat.pow 2 970 ≤ n

/-- The 64 bits of the number. -/
def bits (x : Binary64) : Nat :=
  if x.mantissa = 0 then 0
  else (x.exponent + 1075).toNat * leastMantissa + (x.mantissa - leastMantissa)

/-! ## Shortest decimal -/

/-- Whether `digit · 10 ^ place` rounds to the number. The reals that do lie between the
middles to the two neighbours, and the middles belong to them when the mantissa is even. -/
def hits (x : Binary64) (place : Int) (digits : Nat) : Bool :=
  let below := if x.mantissa = leastMantissa then 1 else 2
  let unit := x.exponent - 2
  let scale := Nat.pow 2 (-unit).toNat * Nat.pow 10 place.toNat
  let grid := Nat.pow 2 unit.toNat * Nat.pow 10 (-place).toNat
  let low := (4 * x.mantissa - below) * grid
  let high := (4 * x.mantissa + 2) * grid
  let value := digits * scale
  if x.mantissa % 2 = 0 then low ≤ value && value ≤ high else low < value && value < high

/-- The number over `10 ^ place`, as a quotient of whole numbers. -/
def overPlace (x : Binary64) (place : Int) : Nat × Nat :=
  (x.mantissa * Nat.pow 2 x.exponent.toNat * Nat.pow 10 (-place).toNat,
    Nat.pow 2 (-x.exponent).toNat * Nat.pow 10 place.toNat)

/-- The neighbour of the number on the grid of `10 ^ place` that rounds to it, the nearer
of two. -/
def onGrid? (x : Binary64) (place : Int) : Option Nat :=
  let (n, d) := x.overPlace place
  let down := n / d
  match x.hits place down, x.hits place (down + 1) with
  | true, true => some (roundDiv n d)
  | true, false => some down
  | false, true => some (down + 1)
  | false, false => none

/-- The coarsest grid on which a neighbour rounds to the number, looking from one place
downward. -/
def coarsest (x : Binary64) : Nat → Int → Nat × Int
  | 0, place => (0, place)
  | fuel + 1, place =>
    match x.onGrid? place with
    | some digits => (digits, place)
    | none => x.coarsest fuel (place - 1)

/-- The digits and the place of the shortest decimal. Seventeen digits always suffice, and
the first place tried is at most two above the first digit. -/
def shortest (x : Binary64) : Nat × Int :=
  x.coarsest 24 ((x.exponent + 53) * 30103 / 100000 + 1)

/-- The shortest decimal as text. It is written out from `1e-5` on and below `1e16`, with a
digit on both sides of the point, and with an exponent elsewhere. -/
def text (x : Binary64) : String :=
  if x.mantissa = 0 then "0.0"
  else
    let (n, place) := x.shortest
    let digits := (toString n).toList
    let point := (digits.length : Int) + place
    let zeros (k : Int) : List Char := List.replicate k.toNat '0'
    String.ofList <|
      if 0 ≤ place ∧ point ≤ 16 then digits ++ zeros place ++ ['.', '0']
      else if 0 < point ∧ point ≤ 16 then
        digits.take point.toNat ++ '.' :: digits.drop point.toNat
      else if -5 < point ∧ point ≤ 0 then '0' :: '.' :: zeros (-point) ++ digits
      else
        digits.take 1 ++ (if digits.length = 1 then [] else '.' :: digits.drop 1) ++
          'e' :: (toString (point - 1)).toList

end Binary64

end ReviewDesk
