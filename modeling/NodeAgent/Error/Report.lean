import NodeAgent.Error.Agent
import NodeAgent.Text.Split

/-!
# Reports

A failure that ends the agent is reported with everything that led to it.  The report is made of lines:
the failure itself, and below it its causes, which are numbered if there are several.

## Main definitions

* `Report`: a failure and its causes.
* `Report.lines`: the lines of a report.
* `Report.ofConfig`, `Report.ofAgent`, `Report.ofSystem`: the reports of the failures that may end the
  agent.
-/

namespace NodeAgent

open Text (splitOnChar)

/-- **A failure and its causes**, from the nearest to the farthest. -/
structure Report where
  failure : String
  causes : List String := []
deriving DecidableEq, Repr, Inhabited

/-- The pieces of a text between line feeds. -/
def textLines (text : String) : List String :=
  (splitOnChar '\n' text.toList).map String.ofList

/-- So many blanks. -/
def blanks (width : Nat) : String :=
  String.ofList (List.replicate width ' ')

/-- The lines of a text behind a label.  The lines below the first one are set in as far as the first
one. -/
def labelled (label text : String) : List String :=
  match textLines text with
  | [] => []
  | first :: rest => (label ++ first) :: rest.map (blanks label.length ++ ·)

/-- The label of a cause among several. -/
def causeLabel (index : Nat) : String :=
  let number := toString index
  blanks (5 - number.length) ++ number ++ ": "

/-- The lines of causes. -/
def causeLines : List String → List String
  | [] => []
  | [cause] => "" :: "Caused by:" :: labelled (blanks 4) cause
  | causes =>
    "" :: "Caused by:" ::
      causes.zipIdx.flatMap fun (cause, index) => labelled (causeLabel index) cause

namespace Report

/-- **The lines of a report.** -/
def lines (r : Report) : List String :=
  textLines ("Error: " ++ r.failure) ++ causeLines r.causes

/-- The report of what led to another failure. -/
def within (failure : String) (r : Report) : Report :=
  ⟨failure, r.failure :: r.causes⟩

/-- The report of a configuration that cannot work. -/
def ofConfig (e : ConfigError) : Report :=
  ⟨e.message, e.source?.toList⟩

/-- The report of a failure of the operating system. -/
def ofSystem (e : SystemError) : Report :=
  ⟨e.message, []⟩

/-- The report of a failure that ends a run. -/
def ofAgent (e : AgentError) : Report :=
  match e with
  | .protocol cause => ⟨e.message, cause.message :: cause.source?.toList⟩
  | .transport cause => ⟨e.message, cause.message :: cause.source?.toList⟩
  | .config cause => ⟨e.message, cause.message :: cause.source?.toList⟩

end Report

end NodeAgent
