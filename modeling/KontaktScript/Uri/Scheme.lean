/-!
# Schemes

The schemes of the web and `file` have rules of their own: they take a
backslash for a slash and always have a path.
-/

namespace KontaktScript.Uri

inductive Family where
  | file
  /-- A scheme of the web with the number that goes without saying. -/
  | web (number : Nat)
  | other
  deriving DecidableEq, Repr

def Family.ofScheme (scheme : List Char) : Family :=
  match String.ofList scheme with
  | "file" => file
  | "http" => web 80
  | "https" => web 443
  | "ws" => web 80
  | "wss" => web 443
  | "ftp" => web 21
  | _ => other

/-- Whether the family has the rules of the web. -/
def Family.isSpecial : Family → Bool
  | other => false
  | file | web _ => true

def Family.isSlash (family : Family) (c : Char) : Bool :=
  c == '/' || (family.isSpecial && c == '\\')

def Family.endsAuthority (family : Family) (c : Char) : Bool :=
  family.isSlash c || c == '?' || c == '#'

/-- Removes controls and spaces at both ends. -/
def trim (text : List Char) : List Char :=
  let isPadding (c : Char) : Bool := c.toNat ≤ 0x20
  ((text.dropWhile isPadding).reverse.dropWhile isPadding).reverse

/-- Whether a character is a tab or a line end.  These lay out the text of a
URI and do not belong to it. -/
def isLayout (c : Char) : Bool :=
  c == '\t' || c == '\n' || c == '\r'

def withoutLayout (text : List Char) : List Char :=
  text.filter (!isLayout ·)

/-- The scheme in lower case and what follows its colon. -/
def splitScheme? (text : List Char) : Option (List Char × List Char) :=
  let isSchemeChar (c : Char) : Bool := c.isAlphanum || c == '+' || c == '-' || c == '.'
  let inScheme (c : Char) : Bool := isSchemeChar c || isLayout c
  let scheme := withoutLayout (text.takeWhile inScheme)
  match scheme, text.dropWhile inScheme with
  | c :: _, ':' :: rest => if c.isAlpha then some (scheme.map Char.toLower, rest) else none
  | _, _ => none

end KontaktScript.Uri
