import NodeDeploy.Text.Blank
import NodeDeploy.Text.Lines
import NodeDeploy.Text.Search

/-! # Reading the output of a command line

What a device writes is scanned for three things: whether it waits at a prompt, whether it has
echoed a command, and whether it flagged an error.

* `endsWithPrompt` looks at the last line that is not blank;
* `echoes` looks for the characters of a command in order, since a terminal wraps and redraws;
* `errorLine?` is the first line that starts like an error.
-/

namespace NodeDeploy

namespace Prompt

/-- Whether a line, without the white space at its end, ends in a terminator. -/
def isPromptLine (terminators : List Char) (line : List Char) : Bool :=
  match (Text.trimEnd line).getLast? with
  | some c => terminators.contains c
  | none => false

/-- Whether the last line that is not blank is a prompt. -/
def endsWithPrompt (terminators cs : List Char) : Bool :=
  match (Text.lines cs).reverse.find? fun line => !Text.isBlankText line with
  | some line => isPromptLine terminators line
  | none => false

/-- Whether the wanted characters stand in the text in this order, with anything between them. -/
def inOrder : List Char → List Char → Bool
  | [], _ => true
  | _ :: _, [] => false
  | w :: ws, c :: cs => if c = w then inOrder ws cs else inOrder (w :: ws) cs

/-- Whether the text shows the characters of a command, white space left aside. -/
def echoes (cs command : List Char) : Bool := inOrder (command.filter fun c => !Text.isBlank c) cs

def errorWords : List (List Char) := ["Error".toList, "MINOR:".toList, "MAJOR:".toList]

/-- The first line, without the white space around it, that starts like an error. -/
def errorLine? (cs : List Char) : Option (List Char) :=
  ((Text.lines cs).map Text.trim).find? fun line => errorWords.any fun w => Text.startsWith w line

end Prompt

def endsWithPrompt (terminators : List Char) (output : String) : Bool :=
  Prompt.endsWithPrompt terminators output.toList

def echoes (output command : String) : Bool := Prompt.echoes output.toList command.toList

def errorLine? (output : String) : Option String :=
  (Prompt.errorLine? output.toList).map String.ofList

end NodeDeploy
