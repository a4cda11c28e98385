import KontaktScript.Uri.Authority
import KontaktScript.Uri.Path

/-!
# URIs

A document is identified by the normal form of its URI, which is what this
module computes: the scheme in lower case, the host as a name in ASCII or an
address, the dot segments of the path resolved, and each part percent-encoded.
A `file` URI leaves out the host `localhost`.
-/

namespace KontaktScript

/-- A URI in normal form. -/
structure Uri where
  text : String
  deriving DecidableEq, Repr, Inhabited

namespace Uri

def hostedFileText (host rest : List Char) : List Char :=
  let path := readPath .file (rest.takeWhile isPathChar)
  let host := if path.replacesHost then [] else host
  host ++ path.text .file ++ suffixText .file (rest.dropWhile isPathChar)

/-- What follows the scheme of a `file` URI.  A drive in the place of the host
belongs to the path, and so does the slash behind a host that is left out. -/
def fileText (text : List Char) : Except UriError (List Char) := do
  let family := Family.file
  let text := dropSlash family text
  let behind ← match behindSlash? family text with
    | some rest =>
        let host := rest.takeWhile fun c => !family.endsAuthority c
        let shown := withoutLayout host
        if shown = [] ∨ isDrive shown then pure (hostedFileText [] rest)
        else
          let rest := rest.drop host.length
          let name ← domainHost shown
          if name = "localhost".toList then pure (hostedFileText [] rest)
          else pure (hostedFileText name (dropSlash family rest))
    | none => pure (hostedFileText [] text)
  return "//".toList ++ behind

def authorityUriText (family : Family) (text : List Char) : Except UriError (List Char) := do
  let authority := text.takeWhile fun c => !family.endsAuthority c
  let rest := text.drop authority.length
  let (authority, behind) ← authorityText family authority rest.isEmpty
  let path := behind ++ rest.takeWhile isPathChar
  let path :=
    if path = [] ∧ ¬ family.isSpecial then [] else pathText family (dropSlash family path)
  return "//".toList ++ authority ++ path ++ suffixText family (rest.dropWhile isPathChar)

/-- What follows the scheme of a URI without an authority.  A path that does
not start with a slash has no segments. -/
def plainUriText (text : List Char) : List Char :=
  let path := text.takeWhile isPathChar
  let path := match path with
    | '/' :: rest =>
        match pathText .other rest with
        | '/' :: '/' :: rest => "/.//".toList ++ rest
        | path => path
    | path => percentEncode [] path
  path ++ suffixText .other (text.dropWhile isPathChar)

/-- Reads a URI and brings it into normal form.  Tabs and line ends count only
in the path of a `file` URI. -/
def parse (text : String) : Except UriError Uri := do
  match splitScheme? (trim text.toList) with
  | none => throw .relativeWithoutBase
  | some (scheme, rest) =>
      let family := Family.ofScheme scheme
      let shown := withoutLayout rest
      let body ← match family, shown with
        | .file, _ => fileText rest
        | .web _, shown => authorityUriText family (shown.dropWhile family.isSlash)
        | .other, '/' :: '/' :: shown => authorityUriText family shown
        | .other, shown => pure (plainUriText shown)
      return ⟨String.ofList (scheme ++ ':' :: body)⟩

/-- The last segment of the path; `none` if the path has no segments. -/
def fileName? (uri : Uri) : Option (List Char) :=
  let body := (uri.text.toList.dropWhile (· != ':')).drop 1
  let hierarchical := match body with
    | '/' :: '/' :: rest => rest.dropWhile fun c => !Family.other.endsAuthority c
    | body => body
  match hierarchical.takeWhile isPathChar with
  | '/' :: path => some (path.reverse.takeWhile (· != '/')).reverse
  | _ => none

end Uri

end KontaktScript
