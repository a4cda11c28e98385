import KontaktScript.Uri.Basic

/-!
# The language of a document

The editor's language id decides; failing that, the extension of the file.
-/

namespace KontaktScript

inductive Language where
  | unknown
  | ksp
  deriving DecidableEq, Repr

namespace Language

def isKspName (text : List Char) : Bool :=
  text.map Char.toLower = "ksp".toList

/-- What stands behind the last point of a file name. -/
def extension? (name : List Char) : Option (List Char) :=
  let extension := (name.reverse.takeWhile (· != '.')).reverse
  if extension.length < name.length then some extension else none

def detect (languageId : String) (uri : Uri) : Language :=
  if isKspName languageId.toList then ksp
  else if (uri.fileName?.bind extension?).any isKspName then ksp
  else unknown

end Language

end KontaktScript
