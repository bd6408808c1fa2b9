-- Hosts of URLs: addresses, domain names, and for plain schemes whatever else is written.
import ReviewDesk.Domain.Name
import ReviewDesk.Text.Percent
import ReviewDesk.Url.Address
import ReviewDesk.Url.Scheme

namespace ReviewDesk.Url

/-- What cannot stand in a host. -/
def isForbiddenInHost (c : Char) : Bool :=
  ['\x00', '\t', '\n', '\r', ' ', '#', '/', ':', '<', '>', '?', '@', '[', '\\', ']', '^',
    '|'].contains c

/-- What cannot stand in a domain name. -/
def isForbiddenInName (c : Char) : Bool := isForbiddenInHost c || isControl c || c = '%'

/-- Cuts a text at its first colon outside brackets. -/
def cutHost : Bool → List Char → List Char × List Char
  | _, [] => ([], [])
  | inside, c :: rest =>
    if c = ':' && !inside then ([], c :: rest)
    else
      let inside := if c = '[' then true else if c = ']' then false else inside
      let (host, rest) := cutHost inside rest
      (c :: host, rest)

/-- The address between brackets, in the form that is always the same. -/
def bracketed? (cs : List Char) : Option (List Char) :=
  if cs.getLast? = some ']' then
    (Ipv6.read? cs.dropLast).map fun groups => '[' :: Ipv6.text groups ++ [']']
  else none

/-- A host of a plain scheme, kept as it is written. -/
def plainHost? (cs : List Char) : Option (List Char) :=
  match cs with
  | '[' :: rest => bracketed? rest
  | _ => if cs.any isForbiddenInHost then none else some (escape isControl cs)

/-- The domain name that a host spells with escapes. -/
def spelledName? (cs : List Char) : Option (List Char) := do
  let bytes := Percent.decodeText (String.ofList cs)
  let name ← Domain.ascii? (Utf8.decodeLossy bytes).toList
  if name = [] ∨ name.any isForbiddenInName then none
  return name

/-- A host of the web: an address, or a domain name. -/
def webHost? (cs : List Char) : Option (List Char) :=
  match cs with
  | '[' :: rest => bracketed? rest
  | _ => do
    let name ← spelledName? cs
    if Ipv4.endsInNumber name then (Ipv4.ofHost? name).map Ipv4.text else some name

def host? : Kind → List Char → Option (List Char)
  | .plain, cs => plainHost? cs
  | .web _, cs => webHost? cs
  | .file, cs => if cs = [] then some [] else webHost? cs

end ReviewDesk.Url
