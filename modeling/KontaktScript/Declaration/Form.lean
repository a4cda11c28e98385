import KontaktScript.Text.Occurrence
import KontaktScript.Text.Pattern

/-!
# The forms of a declaration

A line declares a variable, a callback or a function.  Each form has a pattern that
starts with a keyword of its own, which only white space may precede:

* `declare`, an optional qualifier, a sigil and a name;
* `on`, a name and an optional argument in parentheses;
* `function` and a name.

What follows a form on its line is ignored.
-/

namespace KontaktScript

open Text

/-- A keyword, and white space around it. -/
def Text.Pattern.keyword (word : String) : Pattern :=
  seq (many .blank) (seq (group 1 (chars word.toList)) (oneOrMore .blank))

/-- The column at which a pattern captures the keyword of a line. -/
def Text.Pattern.keywordColumn (pattern : Pattern) (line : Line) : Nat :=
  (((pattern.match? line).bind (·.lookup 1)).map Capture.offset).getD 0

/-- What may stand between `declare` and a variable. -/
inductive Qualifier where
  | plain
  | const
  | polyphonic
  /-- The keyword of a control, which starts with `ui_` and goes on. -/
  | ui (keyword : String)
  deriving DecidableEq, Repr

def Qualifier.ofWord? (word : List Char) : Option Qualifier :=
  if word = [] then some plain
  else if word = "const".toList then some const
  else if word = "polyphonic".toList then some polyphonic
  else match after? "ui_".toList word with
    | some (_ :: _) => some (ui (String.ofList word))
    | _ => none

structure VariableForm where
  qualifier : Qualifier
  type : VarType
  name : String
  deriving DecidableEq, Repr

namespace VariableForm

open Text.Pattern

def qualifierPattern : Pattern :=
  either (seq (chars "ui_".toList) (oneOrMore .nameChar))
    (either (chars "const".toList) (chars "polyphonic".toList))

def pattern : Pattern :=
  seq (keyword "declare")
    (seq (optional (group 2 qualifierPattern))
      (seq (many .blank) (group 3 (seq (one .sigil) (oneOrMore .nameChar)))))

def read? (line : Line) : Option VariableForm := do
  let found ← pattern.match? line
  let qualifier ← Qualifier.ofWord? ((found.text? 2).getD [])
  match ← found.text? 3 with
  | [] => none
  | sigil :: name =>
      let type ← VarType.ofSigil? sigil
      some ⟨qualifier, type, String.ofList name⟩

end VariableForm

structure CallbackForm where
  name : String
  /-- The parentheses behind the name with what stands in them, and the white space
  before them. -/
  argument : Option (List Char)
  deriving DecidableEq, Repr

namespace CallbackForm

open Text.Pattern

def argumentPattern : Pattern :=
  seq (many .blank) (seq (one (.only '(')) (seq (many .blank)
    (seq (oneOrMore (.anyBut ')')) (seq (many .blank) (one (.only ')'))))))

def pattern : Pattern :=
  seq (keyword "on")
    (seq (group 2 (oneOrMore .nameChar)) (optional (group 3 argumentPattern)))

def read? (line : Line) : Option CallbackForm := do
  let found ← pattern.match? line
  let name ← found.text? 2
  some ⟨String.ofList name, found.text? 3⟩

/-- The control that a callback belongs to: the argument of a callback whose name
starts with `ui_`, without the first parenthesis of either kind and the white space
around. -/
def control? (form : CallbackForm) : Option (List Char) :=
  if (after? "ui_".toList form.name.toList).isSome then
    form.argument.map fun argument => trim ((argument.erase '(').erase ')')
  else none

end CallbackForm

structure FunctionForm where
  name : String
  deriving DecidableEq, Repr

namespace FunctionForm

open Text.Pattern

def pattern : Pattern :=
  seq (keyword "function") (group 2 (oneOrMore .nameChar))

def read? (line : Line) : Option FunctionForm := do
  let found ← pattern.match? line
  let name ← found.text? 2
  some ⟨String.ofList name⟩

end FunctionForm

end KontaktScript
