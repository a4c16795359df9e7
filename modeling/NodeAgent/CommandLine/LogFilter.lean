import NodeAgent.Text.LowerCase
import NodeAgent.Text.Number
import NodeAgent.Text.Split

/-!
# Log filters

A log filter is a list of directives between commas.  A directive names a part of the agent, a span
between brackets, or both, and may end with an equals sign and a level; or it is a level alone.  A
directive that cannot be understood is reported and does not count.

## Main definitions

* `isLogLevel`: the names of levels.
* `FilterScan`, `FilterScan.step`: how far a directive is read, character by character.
* `isFilterDirective`: whether a directive can be understood.
* `filterComplaints`: what is said about a log filter.
-/

namespace NodeAgent

open Text

/-- The names of levels. -/
def logLevels : List String :=
  ["off", "error", "warn", "info", "debug", "trace"]

/-- Whether a text names a level, by its name in either case of letters or by its number. -/
def isLogLevel (text : String) : Bool :=
  logLevels.contains (toLowerAscii text) || (readNat 5 text).isOk

/-- **How far a directive is read.** -/
inductive FilterScan
  | start
  /-- In the name of a part, or of a level. -/
  | name
  /-- In the name of a span. -/
  | span
  /-- In a field of a span; it may still be empty. -/
  | field (isEmpty : Bool)
  /-- Behind the fields of a span. -/
  | fieldsDone
  /-- Behind a span. -/
  | spanDone
  /-- In a level, which is kept backwards. -/
  | level (reversed : List Char)
  | failed
deriving DecidableEq, Repr

namespace FilterScan

/-- Whether a name may begin with a character.  Beyond ASCII any character may. -/
def startsName (c : Char) : Bool :=
  c.isAlphanum || ['-', ':', '_'].contains c || 0x80 ≤ c.toNat

/-- Reads a character. -/
def step : FilterScan → Char → FilterScan
  | start, '[' => span
  | start, c => if startsName c then name else failed
  | name, '=' => level []
  | name, '[' => span
  | name, _ => name
  | span, ']' => spanDone
  | span, '\x7b' => field true
  | span, _ => span
  | field isEmpty, '\x7d' => if isEmpty then failed else fieldsDone
  | field _, _ => field false
  | fieldsDone, ']' => spanDone
  | fieldsDone, _ => failed
  | spanDone, '=' => level []
  | spanDone, _ => failed
  | level reversed, c => level (c :: reversed)
  | failed, _ => failed

/-- Whether a directive may end here.  A level that is left out stands for all levels. -/
def accepts : FilterScan → Bool
  | name | spanDone | level [] => true
  | level reversed => isLogLevel (String.ofList reversed.reverse)
  | _ => false

end FilterScan

/-- **Whether a directive can be understood.**  Blanks around it do not count. -/
def isFilterDirective (directive : String) : Bool :=
  ((trimChars directive.toList).foldl FilterScan.step .start).accepts

/-- The directives of a log filter. -/
def filterDirectives (filter : String) : List String :=
  ((splitOnChar ',' filter.toList).filter (·.length ≠ 0)).map String.ofList

/-- **What is said about a log filter**: one line for each directive that cannot be understood. -/
def filterComplaints (filter : String) : List String :=
  ((filterDirectives filter).filter (!isFilterDirective ·)).map fun directive =>
    "ignoring \x60" ++ directive ++ "\x60: invalid filter directive"

end NodeAgent
