import KontaktScript.Domain.Basic
import KontaktScript.Uri.Address
import KontaktScript.Uri.Percent
import KontaktScript.Uri.Scheme

/-!
# Authorities

The authority of a URI names a host, perhaps with a user in front of it and a
number behind it.  The hosts of the web and of files are domain names or
addresses, those of other schemes any text.
-/

namespace KontaktScript

inductive UriError where
  | relativeWithoutBase
  | emptyHost
  | invalidPort
  | invalidDomain
  | invalidHostCharacter
  | invalidAddress
  | invalidLongAddress
  deriving DecidableEq, Repr

def UriError.message : UriError → String
  | relativeWithoutBase => "relative URL without a base"
  | emptyHost => "empty host"
  | invalidPort => "invalid port number"
  | invalidDomain => "invalid international domain name"
  | invalidHostCharacter => "invalid domain character"
  | invalidAddress => "invalid IPv4 address"
  | invalidLongAddress => "invalid IPv6 address"

namespace Uri

def forbiddenInHost : List Char :=
  ['\x00', '\t', '\n', '\r', ' ', '#', '/', ':', '<', '>', '?', '@', '[', '\\', ']', '^', '|']

def bracketedHost (host : List Char) : Except UriError (List Char) :=
  match bracketedAddress? host with
  | some text => .ok text
  | none => .error .invalidLongAddress

/-- The host of a scheme without rules of its own. -/
def plainHost (host : List Char) : Except UriError (List Char) :=
  if host.head? = some '[' then bracketedHost host
  else if host.any (forbiddenInHost.contains ·) then .error .invalidHostCharacter
  else .ok (percentEncode [] host)

/-- The host of a web scheme or of `file`: a domain name, or an address if the
name ends in a number. -/
def domainHost (host : List Char) : Except UriError (List Char) :=
  if host.head? = some '[' then bracketedHost host
  else
    match (percentDecoded? host).bind Domain.toAscii? with
    | none => .error .invalidDomain
    | some [] => .error .emptyHost
    | some name =>
        if endsInNumber name then
          match readAddress? name with
          | some address => .ok (addressText address)
          | none => .error .invalidAddress
        else .ok name

/-- The user's name and password in front of the host, with the final `@`;
empty if there is neither. -/
def userText (user : List Char) : List Char :=
  let name := percentEncode userSet (user.takeWhile (· != ':'))
  let password := match user.dropWhile (· != ':') with
    | _ :: c :: rest => ':' :: percentEncode userSet (c :: rest)
    | _ => []
  if name = [] ∧ password = [] then [] else name ++ password ++ ['@']

def splitUser (authority : List Char) : Option (List Char) × List Char :=
  let host := (authority.reverse.takeWhile (· != '@')).reverse
  if host.length = authority.length then (none, authority)
  else (some (authority.take (authority.length - host.length - 1)), host)

/-- The number of characters before the colon that ends the host; colons in brackets
belong to an address. -/
def hostLength (inBrackets : Bool) : List Char → Nat
  | [] => 0
  | c :: rest =>
      if c = ':' ∧ ¬ inBrackets then 0
      else
        let inside := if c = '[' then true else if c = ']' then false else inBrackets
        hostLength inside rest + 1

/-- The number with its colon, and what follows it.  A default number is left
out. -/
def portText (family : Family) : List Char → Except UriError (List Char × List Char)
  | ':' :: rest =>
      let digits := rest.takeWhile Char.isDigit
      let number := digits.foldl (fun number c => number * 10 + (c.toNat - '0'.toNat)) 0
      let behind := rest.dropWhile Char.isDigit
      if 65535 < number then .error .invalidPort
      else if behind ≠ [] ∧ behind.head? ≠ some '\\' then .error .invalidPort
      else if digits = [] ∨ family = .web number then .ok ([], behind)
      else .ok (':' :: (toString number).toList, behind)
  | rest => .ok ([], rest)

/-- An authority in normal form, and what of it belongs to the path. -/
def authorityText (family : Family) (authority : List Char) (atEnd : Bool) :
    Except UriError (List Char × List Char) := do
  let (user, rest) := splitUser authority
  if user = some [] ∧ rest = [] ∧ ¬ atEnd then throw .emptyHost
  let user := userText (user.getD [])
  let length := hostLength false rest
  let host ←
    if family.isSpecial then
      if length = 0 then throw .emptyHost else domainHost (rest.take length)
    else plainHost (rest.take length)
  let rest := rest.drop length
  if host = [] ∧ rest.head? = some ':' then throw .emptyHost
  let (number, behind) ← portText family rest
  if host = [] ∧ user ≠ [] then throw .emptyHost
  return (user ++ host ++ number, behind)

end Uri

end KontaktScript
