/-!
# Kinds of symbols

A variable's type is written as a sigil in front of its name.  Callbacks and
functions have none.
-/

namespace KontaktScript

inductive VarType where
  | integer
  | real
  | string
  | integerArray
  | realArray
  | stringArray
  deriving DecidableEq, Repr

namespace VarType

def all : List VarType :=
  [integer, real, string, integerArray, realArray, stringArray]

def sigil : VarType → Char
  | integer => '$'
  | real => '~'
  | string => '@'
  | integerArray => '%'
  | realArray => '?'
  | stringArray => '!'

def ofSigil? (c : Char) : Option VarType :=
  all.find? (·.sigil == c)

def label : VarType → String
  | integer => "Integer"
  | real => "Real"
  | string => "String"
  | integerArray => "Integer Array"
  | realArray => "Real Array"
  | stringArray => "String Array"

def isArray : VarType → Bool
  | integerArray | realArray | stringArray => true
  | integer | real | string => false

theorem ofSigil?_eq_some_iff {c : Char} {type : VarType} :
    ofSigil? c = some type ↔ type.sigil = c := by
  constructor
  · intro h
    simpa using List.find?_some h
  · rintro rfl
    cases type <;> rfl

@[simp]
theorem ofSigil?_sigil (type : VarType) : ofSigil? type.sigil = some type :=
  ofSigil?_eq_some_iff.mpr rfl

end VarType

inductive Kind where
  | unknown
  | var (type : VarType)
  | callback
  | function
  deriving DecidableEq, Repr, Inhabited

namespace Kind

/-- The kind of variable a sigil announces; `unknown` for any other
character. -/
def ofSigil (c : Char) : Kind :=
  match VarType.ofSigil? c with
  | some type => var type
  | none => unknown

def sigil? : Kind → Option Char
  | var type => some type.sigil
  | _ => none

def label : Kind → String
  | var type => type.label
  | _ => "Unknown"

def isVariable : Kind → Bool
  | var _ => true
  | _ => false

def isArray : Kind → Bool
  | var type => type.isArray
  | _ => false

def isCallback : Kind → Bool
  | callback => true
  | _ => false

def isFunction : Kind → Bool
  | function => true
  | _ => false

end Kind

/-- Splits a leading sigil off a name. -/
def splitSigil? (name : String) : Option (VarType × String) :=
  match name.toList with
  | [] => none
  | c :: rest => (VarType.ofSigil? c).map fun type => (type, String.ofList rest)

def startsWithSigil (name : String) : Bool :=
  match name.toList with
  | [] => false
  | c :: _ => (Kind.ofSigil c).isVariable

end KontaktScript
