-- JSON values and their compact text: members stand in the order given, nothing is
-- written between tokens, and a string escapes only what it must.
import ReviewDesk.Number.Binary64

namespace ReviewDesk

inductive Json where
  | string (text : String)
  | natural (n : Nat)
  | float (x : Binary64)
  | array (items : List Json)
  | object (members : List (String × Json))

namespace Json

/-! ## Strings -/

/-- A control character as `\u` and four lower-case hexadecimal digits. -/
def controlEscape (n : Nat) : List Char :=
  ['\\', 'u', '0', '0', Nat.digitChar (n / 16), Nat.digitChar (n % 16)]

/-- One character as it stands in a string. The quote, the backslash and the controls below
U+0020 are escaped, by a short name where there is one. -/
def escape (c : Char) : List Char :=
  if c = '"' then ['\\', '"']
  else if c = '\\' then ['\\', '\\']
  else if c = '\x08' then ['\\', 'b']
  else if c = '\x0c' then ['\\', 'f']
  else if c = '\n' then ['\\', 'n']
  else if c = '\r' then ['\\', 'r']
  else if c = '\t' then ['\\', 't']
  else if c.toNat < 0x20 then controlEscape c.toNat
  else [c]

/-- A string between quotes. -/
def stringText (s : String) : List Char := '"' :: s.toList.flatMap escape ++ ['"']

/-! ## Values -/

mutual

/-- The text of a value. -/
def chars : Json → List Char
  | string s => stringText s
  | natural n => (toString n).toList
  | float x => x.text.toList
  | array items => '[' :: itemsText items ++ [']']
  | object members => '{' :: membersText members ++ ['}']

/-- The items of an array, with commas between them. -/
def itemsText : List Json → List Char
  | [] => []
  | [item] => item.chars
  | item :: rest => item.chars ++ ',' :: itemsText rest

/-- The members of an object, with commas between them. -/
def membersText : List (String × Json) → List Char
  | [] => []
  | [(name, value)] => stringText name ++ ':' :: value.chars
  | (name, value) :: rest => stringText name ++ ':' :: value.chars ++ ',' :: membersText rest

end

/-- The compact text of a value. -/
def text (value : Json) : String := String.ofList value.chars

end Json

end ReviewDesk
