-- Schemes of URLs, and the characters that a URL is made of.
import ReviewDesk.Text.Utf8

namespace ReviewDesk.Url

/-! ## Characters -/

/-- One digit of an escape, upper case. -/
def hexDigit (n : Nat) : Char := (Nat.digitChar n).toUpper

/-- A byte as an escape. -/
def escapeByte (b : UInt8) : List Char :=
  ['%', hexDigit (b.toNat / 16), hexDigit (b.toNat % 16)]

def isControl (c : Char) : Bool := c.toNat < 0x20 || c.toNat = 0x7f

/-- Escapes the characters of a class and all that are not ASCII. -/
def escape (isSpecial : Char → Bool) (cs : List Char) : List Char :=
  cs.flatMap fun c =>
    if isSpecial c || 0x80 ≤ c.toNat then
      (Utf8.encode (String.ofList [c])).flatMap escapeByte
    else [c]

/-- The text without controls and spaces at its ends, and without tabs and line ends. -/
def clean (text : String) : List Char :=
  let isMargin (c : Char) : Bool := c.toNat ≤ 0x20
  let cs := ((text.toList.dropWhile isMargin).reverse.dropWhile isMargin).reverse
  cs.filter fun c => c ≠ '\t' && c ≠ '\n' && c ≠ '\r'

/-! ## Schemes -/

/-- How the rest of a URL is read: as a scheme of the web with its port, as the name of a
file, or plainly. -/
inductive Kind where
  | plain
  | web (port : Nat)
  | file
  deriving DecidableEq, Repr

namespace Kind

def ofScheme (scheme : String) : Kind :=
  if scheme = "http" ∨ scheme = "ws" then web 80
  else if scheme = "https" ∨ scheme = "wss" then web 443
  else if scheme = "ftp" then web 21
  else if scheme = "file" then file
  else plain

/-- Whether a character parts the segments of a path. -/
def isSlash (kind : Kind) (c : Char) : Bool := c = '/' || (c = '\\' && kind ≠ plain)

/-- The port that goes without saying. -/
def port? : Kind → Option Nat
  | web port => some port
  | _ => none

end Kind

def isSchemeChar (c : Char) : Bool := c.isAlphanum || c = '+' || c = '-' || c = '.'

/-- Cuts the scheme off, in lower case. It begins with a letter and ends with a colon. -/
def cutScheme? (cs : List Char) : Option (String × List Char) :=
  let scheme := cs.takeWhile isSchemeChar
  match cs.head?, cs.drop scheme.length with
  | some c, ':' :: rest =>
    if c.isAlpha then some (String.ofList (scheme.map Char.toLower), rest) else none
  | _, _ => none

end ReviewDesk.Url
