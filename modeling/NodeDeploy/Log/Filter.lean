import NodeDeploy.Log.Pattern
import NodeDeploy.Settings
import NodeDeploy.Text.Real
import NodeDeploy.Text.Search

/-! # Log filters

A filter decides which lines of a log are shown. It is a list of directives between commas; each
names a level and may say which target it is for, and that lines must have some field or be written
inside some span. Of the directives for a line, the one that asks for most decides. No line of this
program is written inside a span.

* `LogDirective.parse?` reads a directive, part by part;
* `LogFilter.parse?` reads a filter;
* `LogFilter.shows` decides on a line.
-/

namespace NodeDeploy

inductive LogLevel where
  | off
  | error
  | warn
  | info
  | debug
  | trace
  deriving DecidableEq, Repr, Inhabited

namespace LogLevel

/-- The rank of a level: what it shows, all levels of lower rank show less of. -/
def rank : LogLevel → Nat
  | .off => 0
  | .error => 1
  | .warn => 2
  | .info => 3
  | .debug => 4
  | .trace => 5

def ofRank? : Nat → Option LogLevel
  | 0 => some .off
  | 1 => some .error
  | 2 => some .warn
  | 3 => some .info
  | 4 => some .debug
  | 5 => some .trace
  | _ => none

def ofWord? (s : String) : Option LogLevel :=
  if s = "off" then some .off
  else if s = "error" then some .error
  else if s = "warn" then some .warn
  else if s = "info" then some .info
  else if s = "debug" then some .debug
  else if s = "trace" then some .trace
  else none

/-- The level that a number or a word in any case names. -/
def read? (cs : List Char) : Option LogLevel :=
  match (Text.readUnsigned? cs).bind ofRank? with
  | some level => some level
  | none => ofWord? (Settings.lowered (String.ofList cs))

end LogLevel

structure LogDirective where
  /-- How the targets start that it is for. -/
  target : List Char := []
  /-- Whether it is for lines inside a span alone. -/
  inSpan : Bool := false
  /-- The field that lines must have. -/
  field : Option (List Char) := none
  /-- Whether the field must have some value, which no line says of its own. -/
  valued : Bool := false
  level : LogLevel := .trace
  deriving DecidableEq, Repr, Inhabited

/-- What is being read of a directive, and at which byte it starts. -/
inductive DirectivePart where
  | start
  /-- A level or a target. -/
  | word (first : Nat)
  | span (first : Nat)
  | field (first : Nat)
  /-- The end of the fields, where the span must end. -/
  | fieldEnd
  /-- The end of the span, where a level may follow. -/
  | spanEnd
  | level (first : Nat)
  deriving DecidableEq, Repr

namespace LogDirective

/-- Whether a directive may start with a character, if not with a span. -/
def mayStart (c : Char) : Bool := Text.isAlphanumeric c || c = '-' || c = ':' || c = '_'

/-- Whether a field can have the value that a text writes. -/
def isValue (cs : List Char) : Bool := Text.isReal cs || Pattern.isPattern cs

/-- Reads a field: its name and, behind an equals sign, its value. -/
def readField (d : LogDirective) (cs : List Char) : Option LogDirective :=
  match Text.split '=' cs with
  | name :: value :: _ =>
    if isValue value then some { d with field := some name, valued := true } else none
  | _ => if cs.isEmpty then none else some { d with field := some cs }

/-- Reads the character `c` at byte `i`; parts are cut out of `piece`. -/
def step? (piece : List Char) (d : LogDirective) (i : Nat) (c : Char) :
    DirectivePart → Option (LogDirective × DirectivePart)
  | .start =>
    if c = '[' then some (d, .span (i + 1)) else if mayStart c then some (d, .word i) else none
  | .word first =>
    let target := Text.between first i 0 piece
    if c = '=' then some ({ d with target }, .level (i + 1))
    else if c = '[' then some ({ d with target }, .span (i + 1))
    else some (d, .word first)
  | .span first =>
    if c = ']' then some ({ d with inSpan := true }, .spanEnd)
    else if c = '\x7b' then
      some ({ d with inSpan := !(Text.between first i 0 piece).isEmpty }, .field (i + 1))
    else some (d, .span first)
  | .field first =>
    if c = '\x7d' then (d.readField (Text.between first i 0 piece)).map fun d => (d, .fieldEnd)
    else some (d, .field first)
  | .fieldEnd => if c = ']' then some (d, .spanEnd) else none
  | .spanEnd => if c = '=' then some (d, .level (i + 1)) else none
  | .level first => some (d, .level first)

def run? (piece : List Char) (d : LogDirective) (part : DirectivePart) (i : Nat) :
    List Char → Option (LogDirective × DirectivePart)
  | [] => some (d, part)
  | c :: rest => do
    let (d, part) ← d.step? piece i c part
    d.run? piece part (i + c.utf8Size) rest

/-- The level that a text names; everything is shown if it is empty. -/
def level? (cs : List Char) : Option LogLevel :=
  if cs.isEmpty then some .trace else LogLevel.read? cs

/-- Ends the reading of a directive. A word alone is a level or else a target. -/
def finish? (piece : List Char) (d : LogDirective) : DirectivePart → Option LogDirective
  | .word first =>
    let word := Text.behind first piece
    match LogLevel.read? word with
    | some level => some { d with level }
    | none => some { d with target := word }
  | .level first => (level? (Text.behind first piece)).map fun level => { d with level }
  | .spanEnd => some d
  | _ => none

/-- Reads a directive. Its marks are looked for in the text without the blanks at its ends, but what
stands between them is cut out of the whole text as if no blanks came first: blanks in front shift
the parts of a directive against its marks. -/
def parse? (piece : List Char) : Option LogDirective := do
  let (d, part) ← run? piece {} .start 0 (Text.trim piece)
  d.finish? piece part

def isFor (d : LogDirective) (target : List Char) (fields : List (List Char)) : Bool :=
  !d.inSpan && !d.valued && Text.startsWith d.target target && d.field.all fields.contains

/-- How much a directive asks for: more of the target counts first, then a field. -/
def weight (d : LogDirective) : Nat := 2 * d.target.length + (if d.field.isSome then 1 else 0)

end LogDirective

structure LogFilter where
  directives : List LogDirective

namespace LogFilter

/-- Reads a filter; one without directives shows errors only. -/
def parse? (s : String) : Option LogFilter := do
  let directives ← (Text.pieces ',' s.toList).mapM LogDirective.parse?
  some ⟨if directives.isEmpty then [{ level := .error }] else directives⟩

def informative : LogFilter := ⟨[{ level := .info }]⟩

/-- The directive that decides on a line: it asks for most, and is the last to do so. -/
def deciding? (target : List Char) (fields : List (List Char)) :
    List LogDirective → Option LogDirective
  | [] => none
  | d :: rest =>
    match deciding? target fields rest with
    | some e => if d.isFor target fields && e.weight < d.weight then some d else some e
    | none => if d.isFor target fields then some d else none

def shows (f : LogFilter) (target : String) (fields : List String) (level : LogLevel) : Bool :=
  match deciding? target.toList (fields.map String.toList) f.directives with
  | some d => level.rank ≤ d.level.rank
  | none => false

end LogFilter

end NodeDeploy
