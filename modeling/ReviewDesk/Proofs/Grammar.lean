-- The grammar of JSON: what may be written, and what it stands for. A value can be written in many
-- ways, with blanks between its tokens and with escapes in its strings. No reader is mentioned here.

namespace ReviewDesk.Json

/-! ## Lists with commas -/

/-- The text of what follows the first of a list, a comma before each. -/
def afterFirst {α : Type} (text : α → List Char) (as : List α) : List Char :=
  as.flatMap fun a => ',' :: text a

/-- The text of a list, with commas between. -/
def joined {α : Type} (text : α → List Char) : List α → List Char
  | [] => []
  | a :: as => text a ++ afterFirst text as

/-! ## Strings -/

/-- A hexadecimal digit, of either case. -/
def HexDigit (c : Char) (n : Nat) : Prop :=
  n < 16 ∧ (c = Nat.digitChar n ∨ c = (Nat.digitChar n).toUpper)

inductive FourDigits : List Char → Nat → Prop where
  | intro {a b c d : Char} {p q r s : Nat} :
    HexDigit a p → HexDigit b q → HexDigit c r → HexDigit d s →
      FourDigits [a, b, c, d] (((p * 16 + q) * 16 + r) * 16 + s)

/-- The letters that stand for a character after a backslash. -/
def letters : List (Char × Char) :=
  [('"', '"'), ('\\', '\\'), ('/', '/'), ('b', '\x08'), ('f', '\x0c'), ('n', '\n'), ('r', '\r'),
    ('t', '\t')]

/-- The ways to write a character in a string. One beyond the first 65536 is numbered by a pair of
surrogates. -/
inductive CharText : List Char → Char → Prop where
  | plain {c : Char} : c ≠ '"' → c ≠ '\\' → 0x20 ≤ c.toNat → CharText [c] c
  | named {letter c : Char} : (letter, c) ∈ letters → CharText ['\\', letter] c
  | numbered {digits : List Char} {c : Char} :
    FourDigits digits c.toNat → CharText ('\\' :: 'u' :: digits) c
  | paired {digits more : List Char} {high low : Nat} {c : Char} :
    FourDigits digits (0xd800 + high) → FourDigits more (0xdc00 + low) → high < 0x400 → low < 0x400 →
      c.toNat = 0x10000 + high * 0x400 + low →
      CharText ('\\' :: 'u' :: digits ++ '\\' :: 'u' :: more) c

/-- The ways to write some characters, one after the other. -/
inductive CharsText : List Char → List Char → Prop where
  | nil : CharsText [] []
  | cons {text more cs : List Char} {c : Char} :
    CharText text c → CharsText more cs → CharsText (text ++ more) (c :: cs)

inductive StringText : List Char → String → Prop where
  | intro {text : List Char} {s : String} :
    CharsText text s.toList → StringText ('"' :: text ++ ['"']) s

/-! ## Numerals -/

def Digits (cs : List Char) : Prop := cs ≠ [] ∧ ∀ c ∈ cs, '0' ≤ c ∧ c ≤ '9'

/-- A zero in front stands alone. -/
def Whole (cs : List Char) : Prop := Digits cs ∧ (cs.head? = some '0' → cs = ['0'])

inductive Fraction : List Char → Prop where
  | absent : Fraction []
  | present {digits : List Char} : Digits digits → Fraction ('.' :: digits)

inductive Exponent : List Char → Prop where
  | absent : Exponent []
  | present {mark : Char} {sign digits : List Char} :
    mark ∈ ['e', 'E'] → sign ∈ [[], ['+'], ['-']] → Digits digits →
      Exponent (mark :: sign ++ digits)

inductive NumeralText : List Char → Prop where
  | intro {minus whole fraction exponent : List Char} :
    minus ∈ [[], ['-']] → Whole whole → Fraction fraction → Exponent exponent →
      NumeralText (minus ++ whole ++ fraction ++ exponent)

/-! ## Values -/

/-- What a text stands for. Of a number, its text is kept. -/
inductive Tree where
  | word (name : String)
  | numeral (text : List Char)
  | string (text : String)
  | array (items : List Tree)
  | object (members : List (String × Tree))

/-- The text that a value is, if it is one. -/
def Tree.string? : Tree → Option String
  | .string text => some text
  | _ => none

/-- What may stand between tokens. -/
def Blanks (cs : List Char) : Prop := ∀ c ∈ cs, c ∈ [' ', '\n', '\t', '\r']

instance (cs : List Char) : Decidable (Blanks cs) := List.decidableBAll _ cs

/-- Something that is written, with what stands before and behind it. -/
structure Padded where
  before : List Char
  core : List Char
  after : List Char

namespace Padded

def text (p : Padded) : List Char := p.before ++ p.core ++ p.after

def Sound (p : Padded) : Prop := Blanks p.before ∧ Blanks p.after

end Padded

/-- An item of an array, and how it is written. -/
structure Item where
  written : Padded
  tree : Tree

/-- A member of an object, and how its name and its value are written. -/
structure Member where
  name : String
  nameWritten : Padded
  tree : Tree
  valueWritten : Padded

namespace Member

def text (m : Member) : List Char := m.nameWritten.text ++ ':' :: m.valueWritten.text

/-- The member, however it is written. -/
def entry (m : Member) : String × Tree := (m.name, m.tree)

structure Sound (m : Member) : Prop where
  name : StringText m.nameWritten.core m.name
  aroundName : m.nameWritten.Sound
  aroundValue : m.valueWritten.Sound

end Member

/-- The ways to write a value. -/
inductive ValueText : List Char → Tree → Prop where
  | word {name : String} : name ∈ ["null", "true", "false"] → ValueText name.toList (.word name)
  | numeral {text : List Char} : NumeralText text → ValueText text (.numeral text)
  | string {text : List Char} {s : String} : StringText text s → ValueText text (.string s)
  | emptyArray {blanks : List Char} : Blanks blanks → ValueText ('[' :: blanks ++ [']']) (.array [])
  | array {items : List Item} :
    items ≠ [] → (∀ item ∈ items, item.written.Sound) →
      (∀ item ∈ items, ValueText item.written.core item.tree) →
      ValueText ('[' :: joined (·.written.text) items ++ [']']) (.array (items.map Item.tree))
  | emptyObject {blanks : List Char} :
    Blanks blanks → ValueText ('{' :: blanks ++ ['}']) (.object [])
  | object {members : List Member} :
    members ≠ [] → (∀ m ∈ members, m.Sound) →
      (∀ m ∈ members, ValueText m.valueWritten.core m.tree) →
      ValueText ('{' :: joined Member.text members ++ ['}']) (.object (members.map Member.entry))

/-- Whether a text is a value with blanks around it, and which value. -/
inductive Spells : String → Tree → Prop where
  | intro {written : Padded} {tree : Tree} :
    written.Sound → ValueText written.core tree → Spells (String.ofList written.text) tree

end ReviewDesk.Json
