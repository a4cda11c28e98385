import KontaktScript.Declaration.Scan
import KontaktScript.Token

/-!
# What a position refers to
-/

namespace KontaktScript

def identifierAt? (doc : Document) (position : Position) : Option Token :=
  (Token.at? doc (doc.pointOf position)).filter fun token => isIdentifier token.text

/-- The declaration that the identifier at an editor's position refers to. -/
def declarationAt? (doc : Document) (position : Position) : Option Declaration := do
  let token ← identifierAt? doc position
  resolve? (declarations doc none) token.text

/-- What an editor distinguishes among declared and builtin symbols. -/
inductive Role where
  | constant
  | var
  | routine
  deriving DecidableEq, Repr

def Declaration.role (declaration : Declaration) : Role :=
  if declaration.attributes.isConst then .constant
  else if declaration.isVariable then .var
  else .routine

end KontaktScript
