-- Paths of URLs: segments between slashes, where one dot stands for the same place and two
-- dots for the place above. The path of a file may begin with the name of a drive.
import ReviewDesk.Text.Cut
import ReviewDesk.Url.Scheme

namespace ReviewDesk.Url

/-! ## Segments -/

/-- What is escaped in a path. -/
def isEscapedInPath (c : Char) : Bool :=
  isControl c || [' ', '"', '#', '<', '>', '?', '\x60', '\x7b', '\x7d'].contains c

/-- The segments of a path, with what cannot stand in them escaped. -/
def segmentsOf (kind : Kind) (cs : List Char) : List (List Char) :=
  (cutAt '/' (cs.map fun c => if kind.isSlash c then '/' else c)).map (escape isEscapedInPath)

def isOneDot (segment : List Char) : Bool :=
  [['.'], ['%', '2', 'e']].contains (segment.map Char.toLower)

def isTwoDots (segment : List Char) : Bool :=
  [['.', '.'], ['%', '2', 'e', '.'], ['.', '%', '2', 'e'],
    ['%', '2', 'e', '%', '2', 'e']].contains (segment.map Char.toLower)

/-- Whether a segment is the name of a drive. Two dots do not lead above it. -/
def isDrive : List Char → Bool
  | [letter, mark] => letter.isAlpha && (mark = ':' || mark = '|')
  | _ => false

/-! ## Dots -/

/-- The segments without the last one. -/
def parent : List (List Char) → List (List Char)
  | [] => []
  | last :: rest => if isDrive last then last :: rest else rest

/-- The segments with one more. The path of a file may begin with a drive, whose name then
ends with a colon. -/
def child (kind : Kind) (segment : List Char) : List (List Char) → List (List Char)
  | [] => if kind = .file ∧ isDrive segment then [segment.take 1 ++ [':']] else [segment]
  | done => segment :: done

/-- Resolves the dots among the segments that follow those done, which stand last first. -/
def resolve (kind : Kind) (done : List (List Char)) : List (List Char) → List (List Char)
  | [] => done.reverse
  | [segment] =>
    if isTwoDots segment then ([] :: parent done).reverse
    else if isOneDot segment then ([] :: done).reverse
    else (child kind segment done).reverse
  | segment :: rest =>
    if isTwoDots segment then resolve kind (parent done) rest
    else if isOneDot segment then resolve kind done rest
    else resolve kind (child kind segment done) rest

/-! ## Paths -/

/-- The path of some segments. -/
def pathOf (segments : List (List Char)) : List Char := '/' :: ['/'].intercalate segments

/-- The path that begins at the root, from what follows its first slash. -/
def rootedPath (kind : Kind) (cs : List Char) : List Char :=
  pathOf (resolve kind [] (segmentsOf kind cs))

/-- The path after a host. It may be empty, but not for a scheme of the web. -/
def pathAfterHost (kind : Kind) : List Char → List Char
  | [] => if kind = .plain then [] else ['/']
  | c :: rest =>
    if kind.isSlash c then rootedPath kind rest else rootedPath kind (c :: rest)

/-- The segments of the path of a file. -/
def fileSegments (cs : List Char) : List (List Char) := resolve .file [] (segmentsOf .file cs)

/-- The path of a file, which begins with one slash. -/
def filePath (segments : List (List Char)) : List Char :=
  '/' :: (pathOf segments).dropWhile (· = '/')

end ReviewDesk.Url
