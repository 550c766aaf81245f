import NodeDeploy.Text.Alphanumeric
import NodeDeploy.Text.Blank

/-! # Patterns

A pattern is a regular expression for the value of a field. A filter has to know which texts are
patterns and no more, since the lines of a log have no values to compare them with.

A pattern matches characters one by one, so it cannot look around, refer back or ask for the ends of
words, unless the words are of ASCII characters. Bytes are never matched where they could cut a
character. A count in braces has no closing brace here, because the brace would end the field. No
part of a pattern is nested more than 250 deep.

* `Pattern.isPattern` decides;
* `Pattern.Row.total` is the depth of a row of parts.
-/

namespace NodeDeploy.Pattern

structure Mode where
  /-- Blanks and comments are left out. -/
  spaced : Bool := false
  /-- What is matched are characters rather than bytes. -/
  unicode : Bool := true
  deriving DecidableEq, Repr, Inhabited

namespace Mode

def skipComment : List Char → List Char
  | [] => []
  | c :: rest => if c = '\n' then rest else skipComment rest

theorem length_skipComment_le (cs : List Char) : (skipComment cs).length ≤ cs.length := by
  induction cs with
  | nil => simp [skipComment]
  | cons c rest ih =>
    rw [skipComment]
    split
    · simp
    · exact Nat.le_succ_of_le ih

def skipSpace : List Char → List Char
  | [] => []
  | c :: rest =>
    if Text.isBlank c then skipSpace rest
    else if c = '#' then skipSpace (skipComment rest)
    else c :: rest
termination_by cs => cs.length
decreasing_by
  · simp
  · exact Nat.lt_succ_of_le (length_skipComment_le rest)

theorem length_skipSpace_le (cs : List Char) : (skipSpace cs).length ≤ cs.length := by
  fun_induction skipSpace cs with
  | case1 => exact Nat.le_refl _
  | case2 c rest _ ih => exact Nat.le_succ_of_le ih
  | case3 rest _ ih =>
    exact Nat.le_succ_of_le (Nat.le_trans ih (length_skipComment_le rest))
  | case4 => exact Nat.le_refl _

def skip (m : Mode) (cs : List Char) : List Char := if m.spaced then skipSpace cs else cs

theorem length_skip_le (m : Mode) (cs : List Char) : (m.skip cs).length ≤ cs.length := by
  rw [skip]
  split
  · exact length_skipSpace_le cs
  · exact Nat.le_refl _

/-- The character that a dash stands before. Of a comment only the mark is skipped. -/
def ahead? (m : Mode) (cs : List Char) : Option Char :=
  if m.spaced then
    let behind :=
      match Text.trimStart cs with
      | '#' :: rest => Text.trimStart rest
      | rest => rest
    behind.head?.or cs.head?
  else cs.head?

end Mode

/-! ## Depth -/

/-- A row of parts: how many they are and how deep the deepest one is. -/
structure Row where
  count : Nat := 0
  depth : Nat := 0
  deriving DecidableEq, Repr, Inhabited

namespace Row

def add (r : Row) (depth : Nat) : Row := ⟨r.count + 1, max r.depth depth⟩

def raise (r : Row) (depth : Nat) : Row := { r with depth := max r.depth depth }

/-- How deep a row is. Two or more parts are nested in it. -/
def total (r : Row) : Nat := if r.count ≤ 1 then r.depth else r.depth + 1

end Row

def depthLimit : Nat := 250

/-! ## Escapes -/

/-- What stands for one place of a pattern, behind a backslash or raw. -/
inductive Atom where
  /-- A character. -/
  | char (code : Nat)
  /-- A byte by its two digits. -/
  | byte (code : Nat)
  /-- A class of characters or of those outside it. -/
  | charClass (negated : Bool)
  /-- A class of characters that bytes have no counterpart of. -/
  | property
  /-- One of the ends of the text or of a word. -/
  | boundary
  deriving DecidableEq, Repr

namespace Atom

/-- Whether a pattern may have this at one of its places. -/
def fits (m : Mode) : Atom → Bool
  | .char _ => true
  | .byte n => m.unicode || n < 0x80
  | .charClass negated => m.unicode || !negated
  | .property => m.unicode
  | .boundary => true

/-- Whether a set may have this among its members. -/
def fitsSet (m : Mode) : Atom → Bool
  | .char n => m.unicode || n < 0x80
  | .boundary => false
  | atom => atom.fits m

def code? : Atom → Option Nat
  | .char n => some n
  | .byte n => some n
  | _ => none

end Atom

def hexDigit? (c : Char) : Option Nat :=
  if c.isDigit then some (c.toNat - 48)
  else if 97 ≤ c.toNat ∧ c.toNat ≤ 102 then some (c.toNat - 87)
  else if 65 ≤ c.toNat ∧ c.toNat ≤ 70 then some (c.toNat - 55)
  else none

/-- Reads so many hexadecimal digits behind digits of value `n`. -/
def hex? (m : Mode) (n : Nat) : Nat → List Char → Option (Nat × List Char)
  | 0, cs => some (n, cs)
  | count + 1, cs =>
    match m.skip cs with
    | [] => none
    | c :: rest => (hexDigit? c).bind fun d => hex? m (n * 16 + d) count rest

def code? (m : Mode) (count : Nat) (cs : List Char) : Option (Nat × List Char) :=
  (hex? m 0 count cs).filter fun (n, _) => n.isValidChar

/-- Whether a character stands for itself behind a backslash. -/
def isMark (c : Char) : Bool :=
  c.toNat < 0x80 && !c.isAlphanum && c ≠ '<' && c ≠ '>'

def control? (c : Char) : Option Nat :=
  if c = 'a' then some 7
  else if c = 't' then some 9
  else if c = 'n' then some 10
  else if c = 'v' then some 11
  else if c = 'f' then some 12
  else if c = 'r' then some 13
  else none

/-- Whether a letter names a kind of characters: letters, marks, numbers, punctuation, symbols,
separators or others. -/
def isKind (c : Char) : Bool := ['c', 'l', 'm', 'n', 'p', 's', 'z'].contains c.toLower

def escape? (m : Mode) : List Char → Option (Atom × List Char)
  | [] => none
  | c :: rest =>
    if isMark c then some (.char c.toNat, rest)
    else if c = 'x' then (code? m 2 rest).map fun (n, rest) => (.byte n, rest)
    else if c = 'u' then (code? m 4 rest).map fun (n, rest) => (.char n, rest)
    else if c = 'U' then (code? m 8 rest).map fun (n, rest) => (.char n, rest)
    else if c = 'p' ∨ c = 'P' then
      match m.skip rest with
      | [] => none
      | kind :: rest => if isKind kind then some (.property, rest) else none
    else if c = 'd' ∨ c = 's' ∨ c = 'w' then some (.charClass false, rest)
    else if c = 'D' ∨ c = 'S' ∨ c = 'W' then some (.charClass true, rest)
    else if c = 'A' ∨ c = 'z' then some (.boundary, rest)
    else if c = 'b' ∨ c = 'B' ∨ c = '<' ∨ c = '>' then
      if m.unicode then none else some (.boundary, rest)
    else (control? c).map fun n => (.char n, rest)

/-! ## Sets -/

def asciiClasses : List String := [
  "alnum", "alpha", "ascii", "blank", "cntrl", "digit", "graph", "lower", "print", "punct", "space",
  "upper", "word", "xdigit"]

/-- Reads a named class, behind its opening bracket; whether it is negated. -/
def namedClass? : List Char → Option (Bool × List Char)
  | ':' :: cs =>
    let (negated, cs) :=
      match cs with
      | '^' :: cs => (true, cs)
      | cs => (false, cs)
    let name := cs.takeWhile (· ≠ ':')
    match cs.dropWhile (· ≠ ':') with
    | ':' :: ']' :: rest =>
      if asciiClasses.contains (String.ofList name) then some (negated, rest) else none
    | _ => none
  | _ => none

def dashes (m : Mode) (row : Row) : List Char → Row × List Char
  | [] => (row, [])
  | c :: rest => if c = '-' then dashes m (row.add 0) (m.skip rest) else (row, c :: rest)
termination_by cs => cs.length
decreasing_by exact Nat.lt_succ_of_le (m.length_skip_le rest)

/-- Reads the start of a set, behind its opening bracket: a negation, and dashes or a closing
bracket that stand for themselves. A set of bytes is not negated. -/
def setStart? (m : Mode) (cs : List Char) : Option (Row × List Char) :=
  let cs := m.skip cs
  let (negated, cs) :=
    match cs with
    | '^' :: cs => (true, m.skip cs)
    | cs => (false, cs)
  if negated && !m.unicode then none
  else
    match cs with
    | ']' :: rest => some (({} : Row).add 0, rest)
    | cs => some (dashes m {} cs)

/-- Reads a member of a set: a character, an escape, or the first end of a range. -/
def member? (m : Mode) : List Char → Option (Atom × List Char)
  | [] => none
  | '\\' :: rest => escape? m rest
  | c :: rest => some (.char c.toNat, rest)

/-- Reads a member of a set or a range of them. A dash before a closing bracket or another dash
makes no range. -/
def range? (m : Mode) (cs : List Char) : Option (List Char) := do
  let (low, rest) ← member? m cs
  guard (low.fitsSet m)
  match m.skip rest with
  | '-' :: behind =>
    if m.ahead? behind = some ']' || m.ahead? behind = some '-' then some ('-' :: behind)
    else
      let (high, rest) ← member? m (m.skip behind)
      guard (high.fitsSet m)
      guard ((← low.code?) ≤ (← high.code?))
      some rest
  | rest => some rest

/-- A set that is being read: its members behind the last operator, and how deep what stands before
the operator is. -/
structure SetPart where
  members : Row := {}
  before : Option Nat := none
  deriving Repr, Inhabited

namespace SetPart

def depth (p : SetPart) : Nat :=
  match p.before with
  | none => p.members.total
  | some d => max d p.members.total + 1

def add (p : SetPart) (depth : Nat) : SetPart := { p with members := p.members.add depth }

def behindOperator (p : SetPart) : SetPart := ⟨{}, some p.depth⟩

end SetPart

/-- Reads a set up to its end, inside other ones; how deep its outermost set is. -/
def set? (m : Mode) (steps : Nat) (p : SetPart) (outer : List SetPart) (cs : List Char) :
    Option (Nat × List Char) :=
  match steps with
  | 0 => none
  | steps + 1 =>
    match m.skip cs with
    | [] => none
    | '[' :: rest =>
      match namedClass? rest with
      | some (negated, rest) =>
        if negated && !m.unicode then none else set? m steps (p.add 0) outer rest
      | none =>
        (setStart? m rest).bind fun (row, rest) => set? m steps ⟨row, none⟩ (p :: outer) rest
    | ']' :: rest =>
      match outer with
      | [] => some (p.depth + 1, rest)
      | q :: outer => set? m steps (q.add (p.depth + 1)) outer rest
    | '&' :: '&' :: rest => set? m steps p.behindOperator outer rest
    | '-' :: '-' :: rest => set? m steps p.behindOperator outer rest
    | '~' :: '~' :: rest => set? m steps p.behindOperator outer rest
    | cs => (range? m cs).bind fun rest => set? m steps (p.add 0) outer rest

/-! ## Groups -/

/-- Flags read so far: those set or cleared, and whether they are being cleared. -/
structure Flags where
  mode : Mode
  seen : List Char := []
  clearing : Bool := false

/-- Reads flags up to a colon or a closing parenthesis, which is left. -/
def flags? (f : Flags) : List Char → Option (Flags × List Char)
  | [] => none
  | c :: rest =>
    if c = ':' ∨ c = ')' then
      if f.seen.head? = some '-' then none else some (f, c :: rest)
    else if f.seen.contains c then none
    else
      let f := { f with seen := c :: f.seen }
      if c = '-' then flags? { f with clearing := true } rest
      else if c = 'x' then flags? { f with mode := { f.mode with spaced := !f.clearing } } rest
      else if c = 'u' then flags? { f with mode := { f.mode with unicode := !f.clearing } } rest
      else if c = 'i' ∨ c = 'm' ∨ c = 's' ∨ c = 'U' ∨ c = 'R' then flags? f rest
      else none

def isNameChar (c : Char) : Bool :=
  Text.isAlphanumeric c || c = '_' || c = '.' || c = '[' || c = ']'

def name? (cs : List Char) : Option (List Char × List Char) :=
  let name := cs.takeWhile (· ≠ '>')
  match name, cs.dropWhile (· ≠ '>') with
  | first :: others, _ :: rest =>
    if (Text.isAlphabetic first || first = '_') && others.all isNameChar then some (name, rest)
    else none
  | _, _ => none

structure Group where
  mode : Mode := {}
  /-- The alternatives that have ended. -/
  ended : Row := {}
  /-- The parts of the alternative that is being read. -/
  parts : Row := {}
  /-- How deep the part is that can be repeated here. -/
  last : Option Nat := none
  deriving Repr, Inhabited

namespace Group

/-- Adds a part of some depth, which can be repeated. -/
def add (g : Group) (depth : Nat) : Group :=
  { g with parts := g.parts.add depth, last := some depth }

def addFlags (g : Group) (mode : Mode) : Group :=
  { g with mode, parts := g.parts.add 0, last := none }

def repeated? (g : Group) : Option Group :=
  g.last.map fun d => { g with parts := g.parts.raise (d + 1), last := some (d + 1) }

def alternate (g : Group) : Group :=
  { g with ended := g.ended.add g.parts.total, parts := {}, last := none }

def depth (g : Group) : Nat := (g.ended.add g.parts.total).total

end Group

structure State where
  group : Group := {}
  /-- The groups around, from the innermost. -/
  outer : List Group := []
  names : List (List Char) := []

namespace State

def add (s : State) (depth : Nat) : State := { s with group := s.group.add depth }

def opened (s : State) (mode : Mode) : State :=
  { s with group := { mode }, outer := s.group :: s.outer }

def closed? (s : State) : Option State :=
  match s.outer with
  | [] => none
  | g :: outer => some { s with group := g.add (s.group.depth + 1), outer }

/-- Reads the start of a group, or flags for the rest of one, behind the opening parenthesis. -/
def group? (s : State) (cs : List Char) : Option (State × List Char) :=
  let mode := s.group.mode
  let named (cs : List Char) : Option (State × List Char) := do
    let (name, rest) ← name? cs
    guard (!s.names.contains name)
    some ({ s.opened mode with names := name :: s.names }, rest)
  match mode.skip cs with
  | '?' :: '=' :: _ => none
  | '?' :: '!' :: _ => none
  | '?' :: '<' :: '=' :: _ => none
  | '?' :: '<' :: '!' :: _ => none
  | '?' :: 'P' :: '<' :: rest => named rest
  | '?' :: '<' :: rest => named rest
  | '?' :: rest => do
    let (f, rest) ← flags? ⟨mode, [], false⟩ rest
    match rest with
    | ')' :: rest =>
      if f.seen.isEmpty then none else some ({ s with group := s.group.addFlags f.mode }, rest)
    | _ :: rest => some (s.opened f.mode, rest)
    | [] => none
  | rest => some (s.opened mode, rest)

def step? (s : State) (c : Char) (rest : List Char) : Option (State × List Char) :=
  let mode := s.group.mode
  if c = '(' then s.group? rest
  else if c = ')' then s.closed?.map fun s => (s, rest)
  else if c = '|' then some ({ s with group := s.group.alternate }, rest)
  else if c = '[' then do
    let (row, inside) ← setStart? mode rest
    let (depth, rest) ← set? mode (rest.length + 1) ⟨row, none⟩ [] inside
    some (s.add depth, rest)
  else if c = '?' ∨ c = '*' ∨ c = '+' then do
    let group ← s.group.repeated?
    match rest with
    | '?' :: rest => some ({ s with group }, rest)
    | rest => some ({ s with group }, rest)
  else if c = '\x7b' then none
  else if c = '\\' then do
    let (atom, rest) ← escape? mode rest
    guard (atom.fits mode)
    some (s.add 0, rest)
  else if c = '.' then if mode.unicode then some (s.add 0, rest) else none
  else some (s.add 0, rest)

def read (s : State) (steps : Nat) (cs : List Char) : Bool :=
  match steps with
  | 0 => false
  | steps + 1 =>
    match s.group.mode.skip cs with
    | [] => s.outer.isEmpty && s.group.depth ≤ depthLimit
    | c :: rest =>
      match s.step? c rest with
      | some (s, rest) => s.read steps rest
      | none => false

end State

def isPattern (cs : List Char) : Bool := State.read {} (cs.length + 1) cs

end NodeDeploy.Pattern
