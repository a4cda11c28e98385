import KontaktScript.Symbol.Kind
import KontaktScript.Text.Occurrence

/-!
# Attributes of a symbol

What a declaration says about a symbol, apart from where it stands in the text,
and two ways to write it down: as it is used, and as a line that declares it.
-/

namespace KontaktScript

open Text

structure Attributes where
  /-- Without the sigil of a variable. -/
  name : String
  kind : Kind
  /-- The label of a variable's type, or the keyword of a control. -/
  typeName : String := ""
  isConst : Bool := false
  isPolyphonic : Bool := false
  /-- A variable that is a control, or a callback of one. -/
  isUi : Bool := false
  /-- Of a control's callback: the control, without its first character. -/
  controlName : String := ""
  /-- Of a control's callback: the keyword with which the control was declared
  above it; empty if it was not. -/
  controlType : String := ""
  /-- The category of the declaration, as shown to the user. -/
  description : String := ""
  line : UInt32 := 0
  column : UInt32 := 0
  deriving DecidableEq, Repr, Inhabited

/-- How the description of a control's callback starts; the control follows. -/
def controlCallbackLead : String := "UI Callback for "

namespace Attributes

def written (attributes : Attributes) : String :=
  match attributes.kind.sigil? with
  | some sigil => String.ofList (sigil :: attributes.name.toList)
  | none => attributes.name

/-- The control as the description names it; without one there, the control's
name. -/
def controlText (attributes : Attributes) : String :=
  match after? controlCallbackLead.toList attributes.description.toList with
  | some (c :: control) => String.ofList (c :: control)
  | _ => attributes.controlName

/-- One line that declares the symbol. -/
def rendered (attributes : Attributes) : String :=
  match attributes.kind with
  | .callback =>
      if attributes.isUi && attributes.controlName != "" then
        "on " ++ attributes.name ++ "(" ++ attributes.controlText ++ ")"
      else "on " ++ attributes.name
  | .function => "function " ++ attributes.name
  | .unknown => attributes.name
  | .var _ =>
      if attributes.isUi then
        "declare " ++ attributes.typeName ++ " " ++ attributes.written
      else if attributes.isConst then "declare const " ++ attributes.written
      else if attributes.isPolyphonic then "declare polyphonic " ++ attributes.written
      else "declare " ++ attributes.written

end Attributes

end KontaktScript
