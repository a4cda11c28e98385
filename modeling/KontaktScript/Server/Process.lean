import KontaktScript.Protocol.Wire
import KontaktScript.Server.Lifecycle

/-!
# The server as a process

From all bytes of the standard input to all messages written and the exit
status.  The status is zero only if the conversation went well and the input
was well formed.
-/

namespace KontaktScript

structure ProcessResult where
  status : Nat
  written : List Json

/-- Runs a server on a whole input. -/
def runProcess (tables : Tables) (input : Wire.Bytes) : ProcessResult :=
  let (messages, wellFormed) := Wire.readMessages input
  let (sent, fault) := Life.run tables .awaited messages
  let fault := fault.or (if wellFormed then none else some (.stream "malformed input"))
  { status := if fault.isNone then 0 else 1
    written := sent.map Wire.envelope }

end KontaktScript
