import KontaktScript.Declaration.Form
import KontaktScript.Position
import KontaktScript.Symbol.Attributes

/-!
# Declarations

A declaration is found on one line.  Only the type of a callback's control
comes from other lines: controls declared so far are kept as bindings from
their written names to their keywords.
-/

namespace KontaktScript

open Text

structure Declaration where
  /-- Without the sigil of a variable. -/
  name : String
  /-- The category, as shown to the user. -/
  container : String
  /-- Where the declared name starts. -/
  location : Point
  /-- From the keyword to the end of the line. -/
  range : Span
  /-- From the declared name to the end of the line. -/
  selection : Span
  attributes : Attributes
  deriving DecidableEq, Repr

/-- The keyword of each control declared so far, the latest first. -/
abbrev Bindings := List (String × String)

namespace Declaration

def kind (declaration : Declaration) : Kind :=
  declaration.attributes.kind

/-- The name as it is written where the symbol is used. -/
def written (declaration : Declaration) : String :=
  declaration.attributes.written

def isVariable (declaration : Declaration) : Bool :=
  declaration.kind.isVariable

def isCallback (declaration : Declaration) : Bool :=
  declaration.kind.isCallback

def isFunction (declaration : Declaration) : Bool :=
  declaration.kind.isFunction

/-- The declaration of a symbol on a line, with its keyword at column `start`.  The
symbol is located where its written name first occurs on the line. -/
def onLine (number : UInt32) (line : Line) (start : Nat) (attributes : Attributes) :
    Declaration :=
  let offset := (firstOccurrence? attributes.written.toList line).getD 0
  let name : Point := ⟨number, offset.toUInt32⟩
  let keyword : Point := ⟨number, start.toUInt32⟩
  let stop : Point := ⟨number, line.length.toUInt32⟩
  { name := attributes.name
    container := attributes.description
    location := name
    range := ⟨keyword, stop⟩
    selection := ⟨name, stop⟩
    attributes := { attributes with line := name.line, column := name.column } }

end Declaration

namespace VariableForm

def category : Qualifier → String
  | .plain => "Variable"
  | .const => "Constant Variable"
  | .polyphonic => "Polyphonic Variable"
  | .ui _ => "UI Variable"

def typeName (form : VariableForm) : String :=
  match form.qualifier with
  | .ui keyword => keyword
  | _ => form.type.label

def attributes (form : VariableForm) : Attributes where
  name := form.name
  kind := .var form.type
  typeName := form.typeName
  isConst := form.qualifier = .const
  isPolyphonic := form.qualifier = .polyphonic
  isUi := match form.qualifier with
    | .ui _ => true
    | _ => false
  description := category form.qualifier ++ " (" ++ form.typeName ++ ")"

/-- The bindings below the declaration: a control is bound to its keyword. -/
def bind (form : VariableForm) (bindings : Bindings) : Bindings :=
  match form.qualifier with
  | .ui keyword => (form.attributes.written, keyword) :: bindings
  | _ => bindings

end VariableForm

def CallbackForm.attributes (form : CallbackForm) (bindings : Bindings) : Attributes :=
  match form.control? with
  | some control =>
      { name := form.name
        kind := .callback
        isUi := true
        controlName := String.ofList (control.drop 1)
        controlType := (bindings.lookup (String.ofList control)).getD ""
        description := controlCallbackLead ++ String.ofList control }
  | none =>
      { name := form.name
        kind := .callback
        description := "Callback" }

def FunctionForm.attributes (form : FunctionForm) : Attributes where
  name := form.name
  kind := .function
  description := "Function"

/-- The declaration on a line, if there is one, and the bindings below it. -/
def Declaration.ofLine (bindings : Bindings) (number : UInt32) (line : Line) :
    Option Declaration × Bindings :=
  match VariableForm.read? line with
  | some form =>
      let start := VariableForm.pattern.keywordColumn line
      (some (onLine number line start form.attributes), form.bind bindings)
  | none =>
      match CallbackForm.read? line with
      | some form =>
          let start := CallbackForm.pattern.keywordColumn line
          (some (onLine number line start (form.attributes bindings)), bindings)
      | none =>
          let start := FunctionForm.pattern.keywordColumn line
          ((FunctionForm.read? line).map fun form =>
            onLine number line start form.attributes, bindings)

end KontaktScript
