import NodeDeploy.Text.Search

/-! # Targets of requests

The target of a request is a path and, behind a question mark, a query of parts between `&` signs.
Neither is ever escaped: a text with a blank or another character that may not stand there raw is
no target, and a name that holds a question mark or a number sign ends the path early. What follows
a number sign is not sent.

* `Target.read?` reads the text of a target.
-/

namespace NodeDeploy

structure Target where
  path : String
  query : List String
  deriving DecidableEq, Repr, Inhabited

namespace Target

def byteLimit : Nat := 65534

/-- Whether a character may stand both in a path and in a query. -/
def isPlain (c : Char) : Bool :=
  let n := c.toNat
  n = 0x21 || (0x24 ≤ n && n ≤ 0x3b) || n = 0x3d || (0x40 ≤ n && n ≤ 0x5f) ||
    (0x61 ≤ n && n ≤ 0x7e) || 0x80 ≤ n

/-- Whether a character may stand in a path; a double quote may. -/
def inPath (c : Char) : Bool := isPlain c || c = '"'

/-- Whether a character may stand in a query; a question mark and a backquote may. -/
def inQuery (c : Char) : Bool := isPlain c || c = '?' || c.toNat = 0x60

/-- Reads the text of a target, unless it is too long or has a character that may not stand where
it does. -/
def read? (text : String) : Option Target :=
  let sent := text.toList.takeWhile (· ≠ '#')
  let path := sent.takeWhile (· ≠ '?')
  let query := (sent.dropWhile (· ≠ '?')).drop 1
  if text.utf8ByteSize ≤ byteLimit && path.all inPath && query.all inQuery then
    some ⟨String.ofList path, (Text.pieces '&' query).map String.ofList⟩
  else none

end Target

end NodeDeploy
