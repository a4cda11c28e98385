import KontaktScript.Json.Number
import KontaktScript.Text.Hex

/-!
# Reading JSON text

Reading goes in two passes over lists, so that both end by construction.  The
first cuts the text into lexemes, one character at a time.  The second builds
the value from the lexemes and keeps the containers that are still open on a
stack.  At most 127 containers may be open at once.
-/

namespace KontaktScript.Json

open Text

inductive Lexeme where
  | openArray
  | closeArray
  | openObject
  | closeObject
  | comma
  | colon
  | text (value : String)
  | scalar (value : Json)

/-- Where in a lexeme the reading stands.  Characters already read are held in
reverse. -/
inductive Lexing where
  | outside
  /-- In a number or one of the words `null`, `true` and `false`. -/
  | word (seen : List Char)
  | quoted (seen : List Char)
  /-- Behind a backslash in a string. -/
  | escaped (seen : List Char)
  /-- In the four digits of an escaped code unit; `high` is a unit that opens a
  surrogate pair and waits for its partner. -/
  | unit (seen : List Char) (high : Option Nat) (count value : Nat)
  /-- Behind the first half of a surrogate pair; `slash` tells whether the
  backslash of the second half has come. -/
  | pair (seen : List Char) (high : Nat) (slash : Bool)

def escape? : Char → Option Char
  | '"' => some '"'
  | '\\' => some '\\'
  | '/' => some '/'
  | 'b' => some '\x08'
  | 'f' => some '\x0c'
  | 'n' => some '\n'
  | 'r' => some '\r'
  | 't' => some '\t'
  | _ => none

def wordValue? (word : List Char) : Option Json :=
  if word = "null".toList then some .null
  else if word = "true".toList then some (.bool true)
  else if word = "false".toList then some (.bool false)
  else readNumber? word

def isWordChar (c : Char) : Bool :=
  c.isAlphanum || c == '-' || c == '+' || c == '.'

/-- A character between lexemes: what it starts, and the lexeme it is if it is
one by itself. -/
def startLexeme? (c : Char) : Option (Lexing × List Lexeme) :=
  if c = ' ' ∨ c = '\t' ∨ c = '\n' ∨ c = '\r' then some (.outside, [])
  else if c = '[' then some (.outside, [.openArray])
  else if c = ']' then some (.outside, [.closeArray])
  else if c = '\x7b' then some (.outside, [.openObject])
  else if c = '\x7d' then some (.outside, [.closeObject])
  else if c = ',' then some (.outside, [.comma])
  else if c = ':' then some (.outside, [.colon])
  else if c = '"' then some (.quoted [], [])
  else if isWordChar c then some (.word [c], [])
  else none

/-- The state behind a complete escaped code unit. -/
def finishUnit? (seen : List Char) (high : Option Nat) (value : Nat) : Option Lexing :=
  match high with
  | some high =>
      if 0xDC00 ≤ value ∧ value < 0xE000 then
        let code := 0x10000 + (high - 0xD800) * 0x400 + (value - 0xDC00)
        some (.quoted (Char.ofNat code :: seen))
      else none
  | none =>
      if 0xD800 ≤ value ∧ value < 0xDC00 then some (.pair seen value false)
      else if 0xDC00 ≤ value ∧ value < 0xE000 then none
      else some (.quoted (Char.ofNat value :: seen))

/-- Takes in one character: the new state and the lexemes that end with it. -/
def Lexing.step? (state : Lexing) (c : Char) : Option (Lexing × List Lexeme) :=
  match state with
  | .outside => startLexeme? c
  | .word seen =>
      if isWordChar c then some (.word (c :: seen), [])
      else do
        let value ← wordValue? seen.reverse
        let (next, lexemes) ← startLexeme? c
        some (next, .scalar value :: lexemes)
  | .quoted seen =>
      if c = '"' then some (.outside, [.text (String.ofList seen.reverse)])
      else if c = '\\' then some (.escaped seen, [])
      else if c.toNat < 0x20 then none
      else some (.quoted (c :: seen), [])
  | .escaped seen =>
      if c = 'u' then some (.unit seen none 0 0, [])
      else (escape? c).map fun meant => (.quoted (meant :: seen), [])
  | .unit seen high count value => do
      let value := value * 16 + (← hexValue? c)
      if count < 3 then some (.unit seen high (count + 1) value, [])
      else (finishUnit? seen high value).map fun next => (next, [])
  | .pair seen high false => if c = '\\' then some (.pair seen high true, []) else none
  | .pair seen high true => if c = 'u' then some (.unit seen (some high) 0 0, []) else none

/-- The lexemes that the end of the text completes. -/
def Lexing.finish? : Lexing → Option (List Lexeme)
  | .outside => some []
  | .word seen => (wordValue? seen.reverse).map fun value => [.scalar value]
  | _ => none

/-- Cuts a text into lexemes; `found` holds those before it in reverse. -/
def lexemesFrom? (state : Lexing) (found : List Lexeme) : List Char → Option (List Lexeme)
  | [] => state.finish?.map fun rest => found.reverse ++ rest
  | c :: cs =>
      match state.step? c with
      | some (next, lexemes) => lexemesFrom? next (lexemes.reverse ++ found) cs
      | none => none

def lexemes? (cs : List Char) : Option (List Lexeme) :=
  lexemesFrom? .outside [] cs

/-- A container that waits for the value being read.  What it holds already is
in reverse. -/
inductive Container where
  | array (items : List Json)
  | object (fields : Fields) (name : String)

/-- What the reading expects next. -/
inductive Expecting where
  | value
  | firstItem
  /-- Behind an item of an array that holds the given items. -/
  | nextItem (items : List Json)
  | firstName
  /-- Behind the comma of an object that holds the given fields. -/
  | name (fields : Fields)
  | colon (fields : Fields) (name : String)
  /-- Behind a field of an object that holds the given fields. -/
  | nextField (fields : Fields)
  | nothing (value : Json)

structure Building where
  waiting : List Container
  expecting : Expecting

/-- Hands a complete value to the innermost container. -/
def Building.give (waiting : List Container) (value : Json) : Building :=
  match waiting with
  | [] => ⟨[], .nothing value⟩
  | .array items :: rest => ⟨rest, .nextItem (value :: items)⟩
  | .object fields name :: rest => ⟨rest, .nextField ((name, value) :: fields)⟩

/-- One more than the number of containers that may be open at once. -/
def depthLimit : Nat := 128

/-- Starts a value inside the waiting containers. -/
def Building.start? (waiting : List Container) : Lexeme → Option Building
  | .scalar value => some (.give waiting value)
  | .text value => some (.give waiting (.string value))
  | .openArray =>
      if waiting.length + 1 < depthLimit then some ⟨waiting, .firstItem⟩ else none
  | .openObject =>
      if waiting.length + 1 < depthLimit then some ⟨waiting, .firstName⟩ else none
  | _ => none

def Building.step? (building : Building) (lexeme : Lexeme) : Option Building :=
  let waiting := building.waiting
  match building.expecting, lexeme with
  | .value, lexeme => start? waiting lexeme
  | .firstItem, .closeArray => some (.give waiting (.array []))
  | .firstItem, lexeme => start? (.array [] :: waiting) lexeme
  | .nextItem items, .comma => some ⟨.array items :: waiting, .value⟩
  | .nextItem items, .closeArray => some (.give waiting (.array items.reverse))
  | .firstName, .closeObject => some (.give waiting (.object []))
  | .firstName, .text name => some ⟨waiting, .colon [] name⟩
  | .name fields, .text name => some ⟨waiting, .colon fields name⟩
  | .colon fields name, .colon => some ⟨.object fields name :: waiting, .value⟩
  | .nextField fields, .comma => some ⟨waiting, .name fields⟩
  | .nextField fields, .closeObject => some (.give waiting (.object fields.reverse))
  | _, _ => none

/-- The value that a sequence of lexemes spells. -/
def ofLexemes? (building : Building) : List Lexeme → Option Json
  | [] =>
      match building.expecting with
      | .nothing value => some value
      | _ => none
  | lexeme :: lexemes =>
      match building.step? lexeme with
      | some next => ofLexemes? next lexemes
      | none => none

/-- Reads a JSON text.  Fields of objects stay as they are written. -/
def parse? (text : String) : Option Json := do
  let lexemes ← lexemes? text.toList
  ofLexemes? ⟨[], .value⟩ lexemes

end KontaktScript.Json
