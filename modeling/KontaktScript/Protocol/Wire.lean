import KontaktScript.Json.Printer
import KontaktScript.Json.Reader
import KontaktScript.Protocol.Message

/-!
# Messages on the wire

A message is sent as header lines, an empty line and a body.  Every line ends
in a carriage return and a line feed, and the header `Content-Length` tells how
many bytes the body has.  The input may end wherever a header line could start.
-/

namespace KontaktScript.Wire

abbrev Bytes := List UInt8

def lineFeed : UInt8 := 10

def text? (bytes : Bytes) : Option String :=
  String.fromUTF8? ⟨bytes.toArray⟩

/-- Splits off the first line with its line feed. -/
def splitLine (input : Bytes) : Bytes × Bytes :=
  match input.dropWhile (· != lineFeed) with
  | [] => (input, [])
  | feed :: rest => (input.takeWhile (· != lineFeed) ++ [feed], rest)

/-- A number of bytes: digits, perhaps with a plus sign, below `2^64`. -/
def length? (text : List Char) : Option Nat :=
  let digits := match text with
    | '+' :: digits => digits
    | digits => digits
  if digits ≠ [] ∧ digits.all Char.isDigit then
    let value := digits.foldl (fun value c => value * 10 + (c.toNat - '0'.toNat)) 0
    if value < UInt64.size then some value else none
  else none

inductive Header where
  /-- The empty line behind the headers. -/
  | blank
  | contentLength (length : Nat)
  | other

/-- Splits a text at the first colon that a space follows. -/
def splitHeader? : List Char → Option (List Char × List Char)
  | ':' :: ' ' :: value => some ([], value)
  | c :: rest => (splitHeader? rest).map fun (name, value) => (c :: name, value)
  | [] => none

/-- Reads a header line, which must have the form `name: value`. -/
def header? (line : Bytes) : Option Header := do
  let text := (← text? line).toList
  match text.reverse with
  | '\n' :: '\r' :: reversed =>
      if reversed = [] then return .blank
      let (name, value) ← splitHeader? reversed.reverse
      if name.map Char.toLower = "content-length".toList then
        return .contentLength (← length? value)
      else return .other
  | _ => none

def message? (body : Bytes) : Option Incoming := do
  Incoming.read? (← Json.parse? (← text? body))

inductive Frame where
  | message (message : Incoming) (rest : Bytes)
  | finished
  | malformed

/-- Takes a body of a given length off the input. -/
def readBody (length : Option Nat) (input : Bytes) : Frame :=
  match length with
  | none => .malformed
  | some length =>
      if length ≤ input.length then
        match message? (input.take length) with
        | some message => .message message (input.drop length)
        | none => .malformed
      else .malformed

theorem splitLine_length_lt (byte : UInt8) (input : Bytes) :
    (splitLine (byte :: input)).2.length < (byte :: input).length := by
  have hdrop : ((byte :: input).dropWhile (· != lineFeed)).length ≤ (byte :: input).length :=
    (List.dropWhile_suffix _).length_le
  unfold splitLine
  split
  · simp
  · next feed rest heq =>
      rw [heq] at hdrop
      exact hdrop

/-- Reads the headers of a message and then its body; `length` is what the
headers so far say about the body.  Of several lengths the last counts. -/
def readFrame (length : Option Nat) (input : Bytes) : Frame :=
  match input with
  | [] => .finished
  | byte :: rest =>
      match header? (splitLine (byte :: rest)).1 with
      | none => .malformed
      | some .blank => readBody length (splitLine (byte :: rest)).2
      | some (.contentLength length) => readFrame (some length) (splitLine (byte :: rest)).2
      | some .other => readFrame length (splitLine (byte :: rest)).2
termination_by input.length
decreasing_by all_goals exact splitLine_length_lt byte rest

theorem readBody_rest_le {length : Option Nat} {input rest : Bytes} {message : Incoming}
    (h : readBody length input = .message message rest) : rest.length ≤ input.length := by
  unfold readBody at h
  split at h
  · cases h
  · split at h
    · split at h
      · cases h
        simp
      · cases h
    · cases h

theorem readFrame_rest_lt {length : Option Nat} {input rest : Bytes} {message : Incoming}
    (h : readFrame length input = .message message rest) : rest.length < input.length := by
  fun_induction readFrame length input with
  | case1 => cases h
  | case2 => cases h
  | case3 length byte tail _ =>
      exact Nat.lt_of_le_of_lt (readBody_rest_le h) (splitLine_length_lt byte tail)
  | case4 _ byte tail length _ ih => exact Nat.lt_trans (ih h) (splitLine_length_lt byte tail)
  | case5 length byte tail _ ih => exact Nat.lt_trans (ih h) (splitLine_length_lt byte tail)

/-- The messages of an input up to the notification `exit`, and whether all of
it up to there is well formed. -/
def readMessages (input : Bytes) : List Incoming × Bool :=
  match h : readFrame none input with
  | .finished => ([], true)
  | .malformed => ([], false)
  | .message message rest =>
      if message.isExit then ([message], true)
      else
        have : rest.length < input.length := readFrame_rest_lt h
        let (messages, wellFormed) := readMessages rest
        (message :: messages, wellFormed)
termination_by input.length

/-- A message as it is written, with the version of the protocol. -/
def envelope (message : Outgoing) : Json :=
  match message.toJson with
  | .object fields => .object (("jsonrpc", .string "2.0") :: fields)
  | json => json

def frame (body : String) : String :=
  "Content-Length: " ++ toString body.utf8ByteSize ++ "\r\n\r\n" ++ body

end KontaktScript.Wire
