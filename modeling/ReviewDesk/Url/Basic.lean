-- Absolute URLs: who connects, to which host and port, and the path and the query. The
-- schemes of the web have rules of their own: a host, a port by default, and backslashes
-- that count as slashes.
import ReviewDesk.Url.Host
import ReviewDesk.Url.Path

namespace ReviewDesk

/-- The parts of a URL. User and password are as they are written. The host, the path and the
query are without what cannot stand in a URL, which is escaped. -/
structure Url where
  user : List Char
  password : Option (List Char)
  host : Option (List Char)
  port : Option Nat
  path : List Char
  query : List Char
  deriving DecidableEq, Repr

namespace Url

/-! ## Authorities -/

/-- Reads a port. A backslash after it begins the path. -/
def port? : List Char → Option (Option Nat × List Char)
  | ':' :: cs =>
    let digits := cs.takeWhile Unsigned.isDigit
    let rest := cs.drop digits.length
    if Unsigned.value digits ≤ 65535 ∧ (rest = [] ∨ rest.head? = some '\\') then
      some (if digits = [] then none else some (Unsigned.value digits), rest)
    else none
  | cs => some (none, cs)

/-- Cuts a text at its last `@`. -/
def cutUser (cs : List Char) : Option (List Char × List Char) :=
  let back := (cs.reverse.takeWhile (· ≠ '@')).reverse
  if back.length < cs.length then some (cs.take (cs.length - back.length - 1), back) else none

/-- The user and the password, which is what follows the first colon. -/
def credentials (cs : List Char) : List Char × Option (List Char) :=
  let password := (cs.dropWhile (· ≠ ':')).drop 1
  (cs.takeWhile (· ≠ ':'), if password = [] then none else some password)

/-- Reads what follows two slashes, up to the query. Where there is a user there is a host, and
where there is a port as well. -/
def afterSlashes? (kind : Kind) (isLast : Bool) (cs query : List Char) : Option Url := do
  let authority := cs.takeWhile (!kind.isSlash ·)
  let path := cs.drop authority.length
  let (front, place) := (cutUser authority).getD ([], authority)
  if (cutUser authority).isSome ∧ front = [] ∧ place = [] ∧ (path ≠ [] ∨ isLast = false) then
    none
  let (user, password) := credentials front
  let (written, rest) := cutHost false place
  let host ← host? kind written
  if host = [] ∧ (user ≠ [] ∨ password.isSome ∨ rest ≠ []) then none
  let (port, rest) ← port? rest
  return {
    user, password, query
    host := if host = [] then none else some host
    port := if port = kind.port? then none else port
    path := pathAfterHost kind (rest ++ path) }

/-! ## URLs -/

/-- Reads a URL of a plain scheme. Without a host and without a slash in front, the path has no
segments. -/
def plain? (isLast : Bool) (query : List Char) : List Char → Option Url
  | '/' :: '/' :: cs => afterSlashes? .plain isLast cs query
  | cs =>
    let path :=
      match cs with
      | '/' :: rest => rootedPath .plain rest
      | _ => escape isControl cs
    some { user := [], password := none, host := none, port := none, path, query }

/-- The host of a file and the segments of its path, from what follows two slashes. A drive
stands in the place of a host, or takes its place from it. Where there is no host, the slash
after it begins a segment. -/
def fileAfterSlashes? (cs : List Char) : Option (List Char × List (List Char)) := do
  let written := cs.takeWhile (!Kind.file.isSlash ·)
  if isDrive written then return ([], fileSegments cs)
  let host ← host? .file written
  let path := cs.drop written.length
  if host = [] ∨ host = "localhost".toList then return ([], fileSegments path)
  let segments := fileSegments (path.drop 1)
  return (if segments.head?.any isDrive then [] else host, segments)

/-- Reads the name of a file, which has no user and no port. -/
def file? (query cs : List Char) : Option Url := do
  let slashes := (cs.takeWhile Kind.file.isSlash).length
  let (host, segments) ←
    if 2 ≤ slashes then fileAfterSlashes? (cs.drop 2)
    else some ([], fileSegments (cs.drop slashes))
  return {
    user := [], password := none, port := none, query
    host := if host = [] then none else some host
    path := filePath segments }

/-- Reads a URL. What follows the first `#` does not count. -/
def parse? (text : String) : Option Url := do
  let (scheme, rest) ← cutScheme? (clean text)
  let front := rest.takeWhile fun c => c ≠ '?' && c ≠ '#'
  let back := rest.drop front.length
  let query := if back.head? = some '?' then (back.drop 1).takeWhile (· ≠ '#') else []
  match Kind.ofScheme scheme with
  | .plain => plain? (back = []) query front
  | .web port =>
    afterSlashes? (.web port) (back = []) (front.dropWhile (Kind.web port).isSlash) query
  | .file => file? query front

end Url

end ReviewDesk
