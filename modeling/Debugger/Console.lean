import Debugger.Event
import Debugger.Text.Utf8

/-!
# The debug console

What the adapter itself writes, such as its own log, goes to the console of the client. Each piece of bytes is one
output, and bytes that are not text are replaced.
-/

namespace Debugger.Console

/-- The output for a piece of bytes. -/
def output (bytes : List UInt8) : Event := .output .console (String.ofList (Text.lossy bytes))

end Debugger.Console
