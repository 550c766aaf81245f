import NodeDeploy.Log.Filter
import NodeDeploy.Text.Lines
import NodeDeploy.Text.Numeral
import NodeDeploy.Text.Quoted

/-! # Lines of a log

A line of the log has a target and a message, its only field. Control characters that could steer a
terminal are shown by their code, so that no message can do so. Of a message with line endings in it
only what comes before the first one is a line of the log: the rest has no target.

* `LogLine.rendered` is what is shown of a line.
-/

namespace NodeDeploy

structure LogLine where
  target : String
  text : String
  deriving DecidableEq, Repr, Inhabited

namespace LogLine

def fields : List String := ["message"]

def shownChar (c : Char) : List Char :=
  let n := c.toNat
  if n = 0x07 || n = 0x08 || n = 0x0c || n = 0x1b || n = 0x7f then
    ['\\', 'x', Text.hexDigit (n / 16), Text.hexDigit (n % 16)]
  else if 0x80 ≤ n && n ≤ 0x9f then
    ['\\', 'u', '\x7b', Text.hexDigit (n / 16), Text.hexDigit (n % 16), '\x7d']
  else [c]

/-- What is shown of a line. A carriage return at its end belongs to the line ending. -/
def rendered (l : LogLine) : String :=
  String.ofList ((Text.dropReturn (Text.cutLine l.text.toList).1).flatMap shownChar)

end LogLine

end NodeDeploy
