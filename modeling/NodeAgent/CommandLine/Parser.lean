import NodeAgent.CommandLine.Options

/-!
# Reading the command line

The words of a command line are read from left to right.  A value that is a word of its own is looked
at only when the next option comes or the line ends, so that a word that cannot be understood is found
out before it.  Everything behind two hyphens is the transport command.

## Main definitions

* `Stop`: why a command line leads to no run.
* `Pending`: the option whose value is not read yet.
* `parseArguments`: what a command line sets.
-/

namespace NodeAgent

open Text

/-- **Why a command line leads to no run.** -/
inductive Stop
  | help
  | version
  | usage (error : UsageError)
deriving DecidableEq, Repr

/-- **The option whose value is not read yet.** -/
inductive Pending
  | none
  /-- The value has to come. -/
  | awaiting (option : CommandOption)
  /-- The value has come. -/
  | holding (option : CommandOption) (value : String)

/-- An option occurs. -/
def CommandOption.occur (o : CommandOption) (value : Option String) (a : Arguments) :
    Except Stop Arguments :=
  match o.effect, value with
  | .showHelp, _ => .error .help
  | .showVersion, _ => .error .version
  | .turnOn isOn set, _ => if isOn a then .error (.usage (.repeated o.shown)) else .ok (set a)
  | .take .., .none => .error (.usage (.missingValue o.shown))
  | .take _ isSet set, some text =>
    if isSet a then .error (.usage (.repeated o.shown))
    else
      (set text a).mapError fun
        | .missing => .usage (.missingValue o.shown)
        | .bad reason => .usage (.badValue o.shown text reason)

/-- **What is read so far.** -/
structure Reading where
  arguments : Arguments := {}
  pending : Pending := .none

namespace Reading

/-- Reads the value that is pending. -/
def resolve (r : Reading) : Except Stop Arguments :=
  match r.pending with
  | .none => .ok r.arguments
  | .awaiting option => option.occur .none r.arguments
  | .holding option value => option.occur (some value) r.arguments

/-- An option occurs, with a value that is attached to it, if one is. -/
def occur (r : Reading) (option : CommandOption) (attached : Option String) : Except Stop Reading := do
  let arguments ← r.resolve
  -- The value is looked at when the next option comes, or at the end.
  if option.takesValue && attached.isNone then return ⟨arguments, .awaiting option⟩
  return ⟨← option.occur attached arguments, .none⟩

/-- A word that is not understood. -/
def unexpected {α : Type} (argument : String) : Except Stop α :=
  .error (.usage (.unexpectedArgument argument))

/-- A long option: its name, and what follows an equals sign. -/
def readLong (r : Reading) (name : String) (attached : Option String) : Except Stop Reading :=
  match commandOptions.find? (·.long == name) with
  | none => unexpected ("--" ++ name)
  | some option =>
    match option.takesValue, attached with
    | false, some value => .error (.usage (.unwantedValue option.shown value))
    | _, _ => r.occur option attached

/-- Short options in one word; the first that takes a value takes the rest of the word. -/
def readShort (r : Reading) : List Char → Except Stop Reading
  | [] => .ok r
  | c :: rest =>
    match commandOptions.find? (·.short == some c) with
    | none => unexpected (String.ofList ['-', c])
    | some option =>
      if option.takesValue then
        match rest with
        | [] => r.occur option none
        | '=' :: value => r.occur option (some (String.ofList value))
        | value => r.occur option (some (String.ofList value))
      else do
        let r ← r.occur option none
        r.readShort rest

/-- A word that is no option. -/
def readWord (r : Reading) (word : String) : Except Stop Reading :=
  match r.pending with
  | .awaiting option => .ok { r with pending := .holding option word }
  | _ => unexpected word

/-- Whether the next word is a value whatever it looks like. -/
def takesAnything (r : Reading) : Bool :=
  match r.pending with
  | .awaiting option => option.takesAnything
  | _ => false

/-- A word in front of the two hyphens. -/
def read (r : Reading) (word : String) : Except Stop Reading :=
  if r.takesAnything then r.readWord word
  else
    match word.toList with
    | '-' :: '-' :: body =>
      match splitAtFirst (· == '=') body with
      | some (name, value) => r.readLong (String.ofList name) (some (String.ofList value))
      | none => r.readLong (String.ofList body) none
    | '-' :: c :: rest => r.readShort (c :: rest)
    | _ => r.readWord word

/-- Reads words. -/
def readAll (r : Reading) : List String → Except Stop Arguments
  | [] => r.resolve
  | word :: rest =>
    -- What follows two hyphens belongs to the transport command, options or not.
    if word = "--" ∧ !r.takesAnything then do
      let arguments ← r.resolve
      return { arguments with transportCommand := rest }
    else do
      let r ← r.read word
      r.readAll rest

end Reading

/-- **What a command line sets**, without its first word.  A password that is not given is taken from
the surroundings. -/
def parseArguments (passwordVariable : Option String) (words : List String) :
    Except Stop Arguments := do
  let arguments ← ({} : Reading).readAll words
  return { arguments with password := arguments.password <|> passwordVariable }

end NodeAgent
