import NodeAgent.Text.Split

/-!
# Shell scripts

A small part of the language of the POSIX shell: simple commands one after the other, with quoting,
parameters and the redirection of their output.

## Main definitions

* `WordPiece`, `ShellCommand`, `Joint`: the parts of a script.
* `tokens?`: the words and operators of a text.
* `ShellScript.parse?`: the script in a text.
-/

namespace NodeAgent.Shell

/-- **A piece of a word.** -/
inductive WordPiece
  | text (text : String)
  /-- The value of a parameter.  Outside quotation marks it falls into fields. -/
  | parameter (name : String) (quoted : Bool)
deriving DecidableEq, Repr, Inhabited

/-- A word. -/
abbrev Word := List WordPiece

/-- Where a command writes to, instead of the output of the shell. -/
structure Redirection where
  target : Word
  /-- Whether it writes behind what is there. -/
  append : Bool
deriving DecidableEq, Repr, Inhabited

/-- **A simple command.** -/
structure ShellCommand where
  words : List Word := []
  output : Option Redirection := none
deriving DecidableEq, Repr, Inhabited

/-- When a command is run, given how the one before it ended. -/
inductive Joint
  | always
  | afterSuccess
  | afterFailure
deriving DecidableEq, Repr, Inhabited

/-- **A script**: commands, and when each is run. -/
abbrev ShellScript := List (Joint × ShellCommand)

/-! ## Words and operators -/

/-- A word or an operator. -/
inductive Token
  | word (word : Word)
  | operator (name : String)
deriving DecidableEq, Repr, Inhabited

/-- What the reader of words is in. -/
inductive Mode
  | plain
  | single
  | double
  /-- Behind a backslash. -/
  | escape (quoted : Bool)
  /-- Behind a dollar sign. -/
  | dollar (quoted : Bool)
  /-- In the name of a parameter. -/
  | name (quoted : Bool) (name : List Char)
  /-- In the name of a parameter in braces. -/
  | braced (quoted : Bool) (name : List Char)
deriving DecidableEq, Repr, Inhabited

/-- **The reader of words**: the tokens so far, the last first, the pieces of the open word, if there is
one, and the open operator. -/
structure Lexer where
  mode : Mode := .plain
  tokens : List Token := []
  openWord : Option Word := none
  openOperator : String := ""
  /-- Whether something came that is not part of the language. -/
  failed : Bool := false
deriving Repr, Inhabited

namespace Lexer

/-- Adds a piece to the open word. -/
def addPiece (l : Lexer) (piece : WordPiece) : Lexer :=
  { l with openWord := some ((l.openWord.getD []) ++ [piece]) }

/-- Adds a character to the open word. -/
def addChar (l : Lexer) (c : Char) : Lexer :=
  l.addPiece (.text c.toString)

/-- Ends the open word. -/
def endWord (l : Lexer) : Lexer :=
  match l.openWord with
  | some word => { l with tokens := .word word :: l.tokens, openWord := none }
  | none => l

/-- Ends the open operator. -/
def endOperator (l : Lexer) : Lexer :=
  if l.openOperator.isEmpty then l
  else { l with tokens := .operator l.openOperator :: l.tokens, openOperator := "" }

/-- Goes on in a mode, inside or outside quotation marks. -/
def back (l : Lexer) (quoted : Bool) : Lexer :=
  { l with mode := if quoted then .double else .plain }

/-- A character of an operator; the same character twice is one operator. -/
def addOperator (l : Lexer) (c : Char) : Lexer :=
  let l := l.endWord
  if l.openOperator = c.toString ∧ c ≠ ';' then
    { l with openOperator := l.openOperator.push c }.endOperator
  else { l.endOperator with openOperator := c.toString }

/-- A character outside quotation marks. -/
def plainChar (l : Lexer) (c : Char) : Lexer :=
  if c == ';' || c == '&' || c == '|' || c == '>' then l.addOperator c
  else
    let l := l.endOperator
    if c == ' ' || c == '\t' then l.endWord
    else if c == '\n' then { l.endWord with openOperator := ";" }
    else if c == '\'' then { l with mode := .single, openWord := some (l.openWord.getD []) }
    else if c == '"' then { l with mode := .double, openWord := some (l.openWord.getD []) }
    else if c == '\\' then { l with mode := .escape false }
    else if c == '$' then { l with mode := .dollar false }
    else if c == '(' || c == ')' || c == '<' || c.toNat == 0x60 then { l with failed := true }
    else l.addChar c

/-- A character between double quotation marks. -/
def doubleChar (l : Lexer) (c : Char) : Lexer :=
  if c == '"' then { l with mode := .plain }
  else if c == '\\' then { l with mode := .escape true }
  else if c == '$' then { l with mode := .dollar true }
  else if c.toNat == 0x60 then { l with failed := true }
  else l.addChar c

/-- A character where neither a name nor an escape is open. -/
def ordinaryChar (l : Lexer) (quoted : Bool) (c : Char) : Lexer :=
  if quoted then (l.back true).doubleChar c else (l.back false).plainChar c

/-- Whether a character can go on with a name. -/
def isNameChar (c : Char) : Bool :=
  c.isAlphanum || c == '_'

/-- Whether a character is the whole name of a parameter. -/
def isSpecialName (c : Char) : Bool :=
  c.isDigit || c == '@' || c == '*' || c == '#' || c == '?' || c == '$' || c == '!'

/-- Reads one character. -/
def step (l : Lexer) (c : Char) : Lexer :=
  match l.mode with
  | .plain => l.plainChar c
  | .double => l.doubleChar c
  | .single => if c == '\'' then { l with mode := .plain } else l.addChar c
  | .escape false => if c == '\n' then l.back false else (l.back false).addChar c
  | .escape true =>
    let l := l.back true
    if c == '$' || c == '"' || c == '\\' || c.toNat == 0x60 then l.addChar c
    else if c == '\n' then l
    else (l.addChar '\\').addChar c
  | .dollar quoted =>
    if c == '\x7b' then { l with mode := .braced quoted [] }
    else if isSpecialName c then (l.back quoted).addPiece (.parameter c.toString quoted)
    else if isNameChar c then { l with mode := .name quoted [c] }
    else if c == '(' then { l with failed := true }
    else (l.addChar '$').ordinaryChar quoted c
  | .name quoted name =>
    if isNameChar c then { l with mode := .name quoted (name ++ [c]) }
    else (l.addPiece (.parameter (String.ofList name) quoted)).ordinaryChar quoted c
  | .braced quoted name =>
    if c == '\x7d' then (l.back quoted).addPiece (.parameter (String.ofList name) quoted)
    else if isNameChar c || isSpecialName c then { l with mode := .braced quoted (name ++ [c]) }
    else { l with failed := true }

/-- The end of the text. -/
def finish (l : Lexer) : Option (List Token) :=
  let closed (l : Lexer) : Option (List Token) :=
    if l.failed then none else some l.endWord.endOperator.tokens.reverse
  match l.mode with
  | .plain => closed l
  | .name false name => closed (l.addPiece (.parameter (String.ofList name) false))
  | .dollar false => closed (l.addChar '$')
  | .escape false => closed (l.addChar '\\')
  | _ => none

end Lexer

/-- **The words and operators of a text**; `none` if it is not of the language. -/
def tokens? (text : String) : Option (List Token) :=
  (text.toList.foldl Lexer.step {}).finish

/-! ## Scripts -/

/-- Reads commands behind an open one. -/
def commands? (joint : Joint) (command : ShellCommand) : List Token → Option ShellScript
  | [] => some (if command = {} then [] else [(joint, command)])
  | .operator ">" :: .word target :: rest =>
    commands? joint { command with output := some ⟨target, false⟩ } rest
  | .operator ">>" :: .word target :: rest =>
    commands? joint { command with output := some ⟨target, true⟩ } rest
  | .word word :: rest => commands? joint { command with words := command.words ++ [word] } rest
  | .operator name :: rest =>
    if command = {} then
      if name = ";" ∧ joint = .always then commands? .always {} rest else none
    else
      match name with
      | ";" => (commands? .always {} rest).map ((joint, command) :: ·)
      | "&&" => (commands? .afterSuccess {} rest).map ((joint, command) :: ·)
      | "||" => (commands? .afterFailure {} rest).map ((joint, command) :: ·)
      | _ => none

/-- **The script in a text**; `none` if it is not of the language. -/
def ShellScript.parse? (text : String) : Option ShellScript :=
  (tokens? text).bind (commands? .always {})

end NodeAgent.Shell
