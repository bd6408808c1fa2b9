-- Media types of HTTP bodies: a type, a subtype and perhaps a suffix after a plus, then
-- parameters. Case does not matter. What is asked here is only whether a body is JSON.

namespace ReviewDesk

/-- A media type without its parameters, in lower case. -/
structure MediaType where
  type : List Char
  subtype : List Char
  suffix : Option (List Char)
  deriving DecidableEq, Repr

namespace MediaType

/-- The characters of a name in a media type. -/
def isToken (c : Char) : Bool :=
  c.isAlphanum || "!#$%&'*+-.^_`|~".toList.contains c

/-- The characters of a value in quotes. -/
def isQuotable (c : Char) : Bool := 0x20 ≤ c.toNat && c.toNat < 0x7f

/-! ## Parameters -/

/-- What is left after a value in quotes, if it ends and nothing but spaces stands between
it and the next parameter. The first character of the value may be a quote. -/
def afterQuoted : List Char → Option (List Char)
  | [] => none
  | first :: rest =>
    if !isQuotable first then none
    else
      let value := rest.takeWhile fun c => c ≠ '"' && isQuotable c
      match rest.drop value.length with
      | '"' :: rest =>
        match rest.dropWhile (· = ' ') with
        | [] => some []
        | c :: rest => if c = ';' then some rest else none
      | _ => none

/-- What is left after a value, if it is one. -/
def afterValue : List Char → Option (List Char)
  | '"' :: rest => afterQuoted rest
  | cs =>
    let value := cs.takeWhile isToken
    match cs.drop value.length with
    | [] => some []
    | c :: rest => if c = ';' ∧ value ≠ [] then some rest else none

/-- What is left after a parameter, if it is one. -/
def afterParameter (cs : List Char) : Option (List Char) :=
  let name := cs.takeWhile isToken
  match cs.drop name.length with
  | '=' :: rest => if name = [] then none else afterValue rest
  | _ => none

/-- Whether a list of parameters is well formed. There are no more parameters than
characters. -/
def areParameters : Nat → List Char → Bool
  | 0, _ => true
  | fuel + 1, cs =>
    match cs.dropWhile (· = ' ') with
    | [] => true
    | cs =>
      match afterParameter cs with
      | some rest => areParameters fuel rest
      | none => false

/-! ## Types -/

/-- A name and the suffix after its last plus. A plus in front belongs to the name. -/
def cutSuffix (name : List Char) : List Char × Option (List Char) :=
  let suffix := (name.reverse.takeWhile (· ≠ '+')).reverse
  let front := name.take (name.length - suffix.length - 1)
  if suffix.length < name.length ∧ front ≠ [] then (front, some suffix) else (name, none)

/-- Reads a media type with well-formed parameters. -/
def parse? (text : String) : Option MediaType :=
  let cs := text.toList
  let type := cs.takeWhile isToken
  match cs.drop type.length with
  | '/' :: rest =>
    let name := rest.takeWhile isToken
    let parameters := rest.drop name.length
    let sound :=
      match parameters with
      | [] => true
      | c :: more =>
        c = ';' && name ≠ [] && areParameters (more.length + 1) more
    if type ≠ [] ∧ sound = true then
      let (subtype, suffix) := cutSuffix (name.map Char.toLower)
      some { type := type.map Char.toLower, subtype, suffix }
    else none
  | _ => none

/-- Whether a body of the type is JSON. -/
def isJson (m : MediaType) : Bool :=
  m.type = "application".toList &&
    (m.subtype = "json".toList || m.suffix = some "json".toList)

end MediaType

end ReviewDesk
