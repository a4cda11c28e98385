import KontaktScript.Declaration.Basic
import KontaktScript.Document

/-!
# The declarations of a document

Declarations are found line by line from the top.  An identifier resolves to
the first declaration it can refer to.
-/

namespace KontaktScript

open Text

/-- The declarations on consecutive lines, the first of which has the given
number. -/
def declarationsFrom (bindings : Bindings) (number : Nat) : List Line → List Declaration
  | [] => []
  | line :: lines =>
      let found := Declaration.ofLine bindings number.toUInt32 line
      found.1.toList ++ declarationsFrom found.2 (number + 1) lines

def scannedLines {σ : Type} [LineSource σ] (source : σ) (stop : Option Nat) : Nat :=
  match stop with
  | some stop => min stop (LineSource.lineCount source)
  | none => LineSource.lineCount source

/-- The declarations on the lines before `stop`, or on all lines, in the order
of the lines. -/
def declarations {σ : Type} [LineSource σ] (source : σ) (stop : Option Nat) :
    List Declaration :=
  declarationsFrom [] 0
    ((List.range (scannedLines source stop)).map (LineSource.lineText source))

/-- The index of the first declaration that an identifier refers to.  With a
sigil that is a variable of the sigil's type.  A bare name refers to a callback
or a function, and to a variable only if there is none. -/
def resolveIndex? (found : List Declaration) (identifier : String) : Option Nat :=
  match splitSigil? identifier with
  | some (type, name) => found.findIdx? fun d => d.kind = .var type && d.name = name
  | none =>
      match found.findIdx? fun d => !d.isVariable && d.name = identifier with
      | some i => some i
      | none => found.findIdx? fun d => d.isVariable && d.name = identifier

def resolve? (found : List Declaration) (identifier : String) : Option Declaration :=
  (resolveIndex? found identifier).bind (found[·]?)

end KontaktScript
