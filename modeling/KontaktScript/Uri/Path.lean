import KontaktScript.Text.Split
import KontaktScript.Uri.Percent
import KontaktScript.Uri.Scheme

/-!
# Paths

A path is a list of segments.  The segment `.` stands for the directory itself
and `..` for the one above; both are resolved, also where their points are
percent-encoded.  A drive is never left, whatever the scheme, but only as the
first segment of a file's path is it brought into normal form.

Segments are read together with the tabs and line ends in them.  These are
dropped, but directly behind a drive they divide a segment in two.
-/

namespace KontaktScript.Uri

open Text

def isSingleDot (segment : List Char) : Bool :=
  [".", "%2e"].contains (String.ofList (segment.map Char.toLower))

def isDoubleDot (segment : List Char) : Bool :=
  ["..", ".%2e", "%2e.", "%2e%2e"].contains (String.ofList (segment.map Char.toLower))

/-- A letter and a colon or a bar. -/
def isDrive : List Char → Bool
  | [letter, mark] => letter.isAlpha && (mark == ':' || mark == '|')
  | _ => false

def normalDrive : List Char → List Char
  | letter :: _ => [letter, ':']
  | [] => []

/-- Whether a segment is a drive, perhaps with a path behind a backslash. -/
def startsWithDrive (segment : List Char) : Bool :=
  isDrive (segment.take 2) && (segment.drop 2).head?.all (· == '\\')

/-- What stands in the segment of a drive behind its colon, if layout follows
the colon. -/
def behindDrive? (segment : List Char) : Option (List Char) :=
  match segment.dropWhile isLayout with
  | letter :: rest =>
      match rest.dropWhile isLayout with
      | ':' :: rest =>
          let shown := withoutLayout rest
          if letter.isAlpha ∧ rest.head?.any isLayout ∧ shown ≠ [] then some shown else none
      | _ => none
  | [] => none

/-- A path that has been read up to a slash. -/
structure OpenPath where
  /-- The segments in reverse. -/
  segments : List (List Char)
  /-- Whether a drive takes the place of the host. -/
  replacesHost : Bool

namespace OpenPath

def root : OpenPath := ⟨[], false⟩

def parent (path : OpenPath) : OpenPath :=
  match path.segments with
  | [] => path
  | last :: others => if startsWithDrive last then path else { path with segments := others }

def push (path : OpenPath) (segment : List Char) : OpenPath :=
  { path with segments := segment :: path.segments }

/-- Adds the first segment of a file's path.  A drive takes the place of the
host; what layout divides from a drive is a segment of its own. -/
def pushFirst (path : OpenPath) (segment : List Char) : OpenPath :=
  let shown := withoutLayout segment
  if isDrive shown then ⟨[normalDrive shown], true⟩
  else
    match behindDrive? segment with
    | some rest => (path.push (shown.take 2)).push (percentEncode pathSet rest)
    | none => path.push (percentEncode pathSet shown)

def add (family : Family) (path : OpenPath) (segment : List Char) : OpenPath :=
  if family = .file ∧ path.segments = [] then path.pushFirst segment
  else path.push (percentEncode pathSet (withoutLayout segment))

/-- Adds segments, resolving dot segments.  A dot segment at the end leaves the
path of a directory. -/
def addAll (family : Family) (path : OpenPath) : List (List Char) → OpenPath
  | [] => path
  | segment :: rest =>
      let directory (path : OpenPath) := if rest = [] then path.push [] else path
      let shown := withoutLayout segment
      if isDoubleDot shown then addAll family (directory path.parent) rest
      else if isSingleDot shown then addAll family (directory path) rest
      else addAll family (path.add family segment) rest

end OpenPath

def readPath (family : Family) (text : List Char) : OpenPath :=
  OpenPath.root.addAll family (splitAt family.isSlash text)

/-- A path in normal form.  Slashes at the start of a file's path count as
one. -/
def OpenPath.text (family : Family) (path : OpenPath) : List Char :=
  let joined := ['/'].intercalate path.segments.reverse
  '/' :: if family = .file then joined.dropWhile (· == '/') else joined

def pathText (family : Family) (text : List Char) : List Char :=
  (readPath family text).text family

/-- What follows the slash a text starts with, layout aside. -/
def behindSlash? (family : Family) (text : List Char) : Option (List Char) :=
  match text.dropWhile isLayout with
  | c :: rest => if family.isSlash c then some rest else none
  | [] => none

def dropSlash (family : Family) (text : List Char) : List Char :=
  (behindSlash? family text).getD text

/-- The query and the fragment in normal form, with their marks. -/
def suffixText (family : Family) (text : List Char) : List Char :=
  let text := withoutLayout text
  let querySet := if family.isSpecial then specialQuerySet else querySet
  let beforeFragment := text.takeWhile (· != '#')
  let query := match beforeFragment with
    | '?' :: query => '?' :: percentEncode querySet query
    | _ => []
  let fragment := match text.dropWhile (· != '#') with
    | '#' :: fragment => '#' :: percentEncode fragmentSet fragment
    | _ => []
  query ++ fragment

/-- Whether a character belongs to the path rather than to what follows it. -/
def isPathChar (c : Char) : Bool :=
  c != '?' && c != '#'

end KontaktScript.Uri
