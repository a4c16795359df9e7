import NodeAgent.Files.Tree
import NodeAgent.Scenario.Shell
import NodeAgent.Text.Number
import NodeAgent.Transport.Command

/-!
# Programs

A scenario has a few programs that a connection can be kept with: one that succeeds, one that fails, and
a shell that runs small scripts.  A program may change the file tree before it ends.

## Main definitions

* `Program`, `FileTree.findProgram`: the programs, and where they are found.
* `ShellState`, `runScript`: a run of the shell.
* `Launch.run`: a run of a process, from the attempt to start it to its end.
-/

namespace NodeAgent

open Shell Text

/-- **The programs of a scenario.** -/
inductive Program
  | shell
  | success
  | failure
deriving DecidableEq, Repr, Inhabited

/-- The program of a name. -/
def Program.ofName? : String → Option Program
  | "sh" => some shell
  | "true" => some success
  | "false" => some failure
  | _ => none

/-- The program at a path, in one of the directories where programs are. -/
def Program.atPath? (path : String) : Option Program :=
  ["/bin/", "/usr/bin/"].findSome? fun directory =>
    if path.startsWith directory then ofName? (path.drop directory.length).toString else none

/-- **The program that a name or path leads to.** -/
def FileTree.findProgram (t : FileTree) (name : String) : Except SystemError Program :=
  match Program.ofName? name <|> Program.atPath? name with
  | some program => .ok program
  | none =>
    if !name.toList.contains '/' then .error .noSuchFile
    else
      match t.find name with
      | .error cause => .error cause
      | .ok (_, .file _ true) => .error .noProgram
      | .ok _ => .error .forbidden

/-! ## The shell -/

/-- **A run of the shell.** -/
structure ShellState where
  tree : FileTree
  /-- The name of the shell or script, and its arguments. -/
  parameters : List String
  environment : List (String × String) := []
  /-- The status of the last command. -/
  status : UInt8 := 0
  /-- How the shell ended, once it has. -/
  ended : Option ProcessEnd := none
deriving Repr, Inhabited

namespace ShellState

/-- The arguments of the script. -/
def arguments (s : ShellState) : List String :=
  s.parameters.drop 1

/-- The value of a parameter that is a single text.  The number of the shell stands for itself. -/
def value (s : ShellState) (name : String) : String :=
  match name with
  | "?" => toString s.status.toNat
  | "#" => toString s.arguments.length
  | "$" => "$$"
  | "@" => " ".intercalate s.arguments
  | "*" => " ".intercalate s.arguments
  | name =>
    match name.toNat? with
    | some n => s.parameters[n]?.getD ""
    | none => (s.environment.lookup name).getD ""

/-- The fields of a word so far: the ended ones, the last first, and the open one. -/
structure Fields where
  ended : List String := []
  openField : Option String := none

/-- Goes on with the open field. -/
def Fields.add (f : Fields) (text : String) : Fields :=
  { f with openField := some (f.openField.getD "" ++ text) }

/-- Ends the open field. -/
def Fields.close (f : Fields) : Fields :=
  ⟨f.openField.toList ++ f.ended, none⟩

/-- Adds texts that are fields of their own, but go on with the open field and leave the last one open. -/
def Fields.addAll (f : Fields) : List String → Fields
  | [] => f
  | [last] => f.add last
  | text :: rest => (f.add text).close.addAll rest

/-- Whether a character parts fields. -/
def isFieldBreak (c : Char) : Bool :=
  c == ' ' || c == '\t' || c == '\n'

/-- Adds a text that falls into fields. -/
def Fields.addSplit (f : Fields) (text : String) : Fields :=
  text.toList.foldl (fun f c => if isFieldBreak c then f.close else f.add c.toString) f

/-- Adds the value of a piece. -/
def addPiece (s : ShellState) (f : Fields) : WordPiece → Fields
  | .text text => f.add text
  | .parameter "@" true => f.addAll s.arguments
  | .parameter name true => f.add (s.value name)
  | .parameter name false => f.addSplit (s.value name)

/-- **The fields of a word.**  A word without pieces is a pair of quotation marks, and one empty field. -/
def expand (s : ShellState) (word : Word) : List String :=
  if word.isEmpty then [""] else (word.foldl s.addPiece {}).close.ended.reverse

end ShellState

/-- The end of an escape in a format: the character it stands for. -/
def formatEscape : Char → List Char
  | 'n' => ['\n']
  | 't' => ['\t']
  | 'r' => ['\r']
  | '\\' => ['\\']
  | c => ['\\', c]

/-- One pass over a format: the text, and the arguments that are left. -/
def formatOnce : List Char → List String → List Char × List String
  | '%' :: '%' :: rest, arguments =>
    let (text, left) := formatOnce rest arguments
    ('%' :: text, left)
  | '%' :: _ :: rest, arguments =>
    let (text, left) := formatOnce rest (arguments.drop 1)
    ((arguments.headD "").toList ++ text, left)
  | '\\' :: c :: rest, arguments =>
    let (text, left) := formatOnce rest arguments
    (formatEscape c ++ text, left)
  | c :: rest, arguments =>
    let (text, left) := formatOnce rest arguments
    (c :: text, left)
  | [], arguments => ([], arguments)

/-- Passes over a format until the arguments are used up. -/
def formatAll (format : List Char) : Nat → List String → List Char
  | 0, _ => []
  | passes + 1, arguments =>
    let (text, left) := formatOnce format arguments
    if left.isEmpty || left.length = arguments.length then text
    else text ++ formatAll format passes left

/-- What a command does: the text it writes, its status, and the end of the shell, if it ends it. -/
structure CommandEffect where
  output : String := ""
  status : UInt8 := 0
  ended : Option ProcessEnd := none

/-- The signals that end a process which does nothing about them, by number and name. -/
def endingSignals : List (Nat × String) :=
  [(1, "HUP"), (2, "INT"), (3, "QUIT"), (4, "ILL"), (5, "TRAP"), (6, "ABRT"), (7, "BUS"), (8, "FPE"),
    (9, "KILL"), (10, "USR1"), (11, "SEGV"), (12, "USR2"), (13, "PIPE"), (14, "ALRM"), (15, "TERM"),
    (24, "XCPU"), (25, "XFSZ"), (26, "VTALRM"), (27, "PROF"), (29, "IO"), (30, "PWR"), (31, "SYS")]

/-- Whether a number or name means a signal that ends a process. -/
def isEndingSignal (signal : String) : Bool :=
  endingSignals.any fun (number, name) =>
    signal == toString number || signal == name || signal == "SIG" ++ name

/-- A signal that the shell sends to itself. -/
def signalSelf (signal : String) : CommandEffect :=
  if isEndingSignal signal then { ended := some .signaled } else {}

/-- The status that a text names: a number, of which eight bits count. -/
def statusOf (text : String) : UInt8 :=
  match readUInt32 text with
  | .ok n => n.toNat.toUInt8
  | .error _ => 2

/-- Whether a test holds. -/
def testHolds : List String → Bool
  | [text] => text ≠ ""
  | ["-n", text] => text ≠ ""
  | ["-z", text] => text = ""
  | ["!", text] => text = ""
  | [a, "=", b] => a = b
  | [a, "!=", b] => a ≠ b
  | _ => false

/-- What a status says about a condition. -/
def conditionStatus (holds : Bool) : CommandEffect :=
  { status := if holds then 0 else 1 }

/-- **What a command does.** -/
def commandEffect (last : UInt8) : List String → CommandEffect
  | [] => { status := last }
  | "exit" :: [] => { ended := some (.exited last) }
  | "exit" :: status :: _ => { ended := some (.exited (statusOf status)) }
  | ["kill", "$$"] => signalSelf "TERM"
  | ["kill", "-s", signal, "$$"] => signalSelf signal
  | ["kill", option, "$$"] => signalSelf (option.drop 1).toString
  | "printf" :: format :: arguments =>
    { output := String.ofList (formatAll format.toList (arguments.length + 1) arguments) }
  | "echo" :: "-n" :: words => { output := " ".intercalate words }
  | "echo" :: words => { output := " ".intercalate words ++ "\n" }
  | "true" :: _ => {}
  | ":" :: _ => {}
  | "false" :: _ => { status := 1 }
  | "test" :: words => conditionStatus (testHolds words)
  | "[" :: words =>
    if words.getLast? = some "]" then conditionStatus (testHolds words.dropLast) else { status := 2 }
  | _ => { status := 127 }

/-- Writes a text where the output of a command goes; what goes nowhere else is not kept. -/
def writeOutput (s : ShellState) (output : String) : Option Redirection → Except SystemError FileTree
  | none => .ok s.tree
  | some redirection =>
    let path := "".intercalate (s.expand redirection.target)
    let before := if redirection.append then (s.tree.readBytes path).toOption.getD [] else []
    match (writeFile path (before ++ encodeUtf8 output)).run.run s.tree with
    | (.ok (), tree) => .ok tree
    | (.error cause, _) => .error cause

/-- Whether a command is run after one with the given status. -/
def Shell.Joint.applies (joint : Joint) (status : UInt8) : Bool :=
  match joint with
  | .always => true
  | .afterSuccess => status == 0
  | .afterFailure => status != 0

/-- Runs one command. -/
def runCommand (s : ShellState) (command : ShellCommand) : ShellState :=
  let effect := commandEffect s.status (command.words.flatMap s.expand)
  match writeOutput s effect.output command.output with
  | .ok tree => { s with tree := tree, status := effect.status, ended := effect.ended }
  | .error _ => { s with status := 2 }

/-- **Runs a script** until it ends the shell or is over. -/
def runScript (s : ShellState) (script : ShellScript) : ShellState :=
  script.foldl (fun s (joint, command) =>
    if s.ended.isNone && joint.applies s.status then runCommand s command else s) s

/-! ## Processes -/

/-- Runs the text of a script; one that cannot be understood ends the shell. -/
def runText (t : FileTree) (environment : List (String × String)) (parameters : List String)
    (text : String) : ProcessEnd × FileTree :=
  match ShellScript.parse? text with
  | none => (.exited 2, t)
  | some script =>
    let s := runScript { tree := t, parameters, environment } script
    (s.ended.getD (.exited s.status), s.tree)

/-- Runs the shell with its arguments: a text behind `-c`, or a file.  Without arguments it reads
nothing. -/
def runShell (t : FileTree) (environment : List (String × String)) :
    List String → ProcessEnd × FileTree
  | [] => (.exited 0, t)
  | ["-c", text] => runText t environment ["sh"] text
  | "-c" :: text :: parameters => runText t environment parameters text
  | path :: parameters =>
    if path.startsWith "-" then (.exited 2, t)
    else
      match t.readText path with
      | .ok text => runText t environment (path :: parameters) text
      | .error _ => (.exited 127, t)

/-- **A run of a process**: it cannot be started, or it ends. -/
def Launch.run (launch : Launch) (t : FileTree) : Except SystemError ProcessEnd × FileTree :=
  if !launch.isClean then (.error .nulInArgument, t)
  else
    match t.findProgram launch.program with
    | .error cause => (.error cause, t)
    | .ok .success => (.ok (.exited 0), t)
    | .ok .failure => (.ok (.exited 1), t)
    | .ok .shell =>
      let (ending, t) := runShell t launch.environment launch.arguments
      (.ok ending, t)

end NodeAgent
