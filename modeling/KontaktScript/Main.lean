import KontaktScript.Builtin.Bundled
import KontaktScript.Server.Process

/-!
# The command

The server reads messages from the standard input and writes its own to the
standard output, one at a time, until the conversation is over.
-/

namespace KontaktScript.Main

inductive Arrival where
  | message (message : Incoming)
  | finished
  | malformed

/-- Reads `count` more bytes, fewer only if the input ends. -/
partial def readBytes (stdin : IO.FS.Stream) (count : Nat) (found : ByteArray) : IO ByteArray := do
  if count = 0 then return found
  let chunk ← stdin.read (USize.ofNat count)
  if chunk.isEmpty then return found
  readBytes stdin (count - chunk.size) (found ++ chunk)

/-- Reads the headers of a message and then its body. -/
partial def next (stdin : IO.FS.Stream) (length : Option Nat) : IO Arrival := do
  let line ← stdin.getLine
  if line.isEmpty then return .finished
  match Wire.header? line.toUTF8.toList, length with
  | none, _ => return .malformed
  | some .other, _ => next stdin length
  | some (.contentLength length), _ => next stdin (some length)
  | some .blank, none => return .malformed
  | some .blank, some length =>
      let body ← readBytes stdin length .empty
      if body.size < length then return .malformed
      match Wire.message? body.toList with
      | some message => return .message message
      | none => return .malformed

/-- The exit status of a server that gets no more messages. -/
def status (life : Life) : UInt32 :=
  if life.atEnd.isNone then 0 else 1

partial def run (stdin stdout : IO.FS.Stream) (life : Life) : IO UInt32 := do
  match ← next stdin none with
  | .finished => return status life
  | .malformed => return 1
  | .message message =>
      let (life, sent) := life.step Bundled.tables message
      for reply in sent do
        stdout.putStr (Wire.frame (Wire.envelope reply).render)
      stdout.flush
      if life.isOver || message.isExit then return status life else run stdin stdout life

end KontaktScript.Main

def main : IO UInt32 := do
  KontaktScript.Main.run (← IO.getStdin) (← IO.getStdout) .awaited
