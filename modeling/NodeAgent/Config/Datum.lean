import NodeAgent.Text.Sorted

/-!
# Plain data

Configurations are written as plain data: tables, lists and simple values.  This module says how typed
values are read from data.  Two formats carry data, and they differ in how they write a choice without
content and in whether a list may be longer than the record it stands for.

## Main definitions

* `Datum`: plain data.
* `DataFormat`: where data comes from.
* `Datum.text?`, `Datum.nat?`, `Datum.int?`, `Datum.texts?`, …: reading simple values.
* `Datum.choice?`: reading one of several names.
* `Datum.record?`: reading a record, from a table or from a list.
-/

namespace NodeAgent

open Text

/-- **Plain data.** -/
inductive Datum
  | null
  | bool (b : Bool)
  | int (n : Int)
  /-- A number with a fraction or an exponent, or one that does not count as whole for its size. -/
  | fraction
  | text (s : String)
  /-- A date, a time of day or both. -/
  | moment (s : String)
  | list (items : List Datum)
  /-- Entries with different keys. -/
  | table (entries : List (String × Datum))
deriving Repr, Inhabited

/-- **Where data comes from.** -/
inductive DataFormat
  | json
  | toml
deriving DecidableEq, Repr, Inhabited

namespace Datum

/-- A truth value. -/
def bool? : Datum → Option Bool
  | bool b => some b
  | _ => none

/-- A text. -/
def text? : Datum → Option String
  | text s => some s
  | _ => none

/-- A whole number from zero up to a bound, which does not belong to it. -/
def nat? (bound : Nat) : Datum → Option Nat
  | int n => if 0 ≤ n ∧ n < bound then some n.toNat else none
  | _ => none

/-- A whole number with a sign, of 64 bits. -/
def int? : Datum → Option Int64
  | int n => if Int64.minValue.toInt ≤ n ∧ n ≤ Int64.maxValue.toInt then some (Int64.ofInt n) else none
  | _ => none

/-- A list of texts. -/
def texts? : Datum → Option (List String)
  | list items => items.mapM text?
  | _ => none

/-- A value that may be missing. -/
def optional? {α : Type} (read : Datum → Option α) : Datum → Option (Option α)
  | null => some none
  | d => (read d).map some

/-- The key under which a moment appears where a table is wanted. -/
def momentKey : String := "$__toml_private_datetime"

/-- The entries of a table; a moment counts as a table with one entry. -/
def entries? : Datum → Option (List (String × Datum))
  | table entries => some entries
  | moment s => some [(momentKey, text s)]
  | _ => none

/-- A table of texts, with increasing keys. -/
def textTable? (d : Datum) : Option (List (String × String)) := do
  let entries ← d.entries?
  let read ← entries.mapM fun (k, v) => v.text?.map (k, ·)
  return sortedTable read

/-- Whether data stands for a choice without content. -/
def isUnit : DataFormat → Datum → Bool
  | .json, null => true
  | .toml, list [] => true
  | .toml, table [] => true
  | _, _ => false

/-- **One of several names**, as a text or as a table with that single key. -/
def choice? {α : Type} (format : DataFormat) (ofName? : String → Option α) : Datum → Option α
  | text s => ofName? s
  | table [(name, content)] => if content.isUnit format then ofName? name else none
  | _ => none

/-- A field of a record: its name, and how its value changes the record. -/
abbrev Field (α : Type) := String × (Datum → α → Option α)

/-- A field that takes values of one kind. -/
def Field.set {α β : Type} (name : String) (read : Datum → Option β) (change : α → β → α) :
    Field α :=
  (name, fun d record => (read d).map (change record))

/-- Reads the entries of a table into a record.  Entries that are no fields do not count. -/
def readEntries {α : Type} (fields : List (Field α)) : List (String × Datum) → α → Option α
  | [], record => some record
  | (name, d) :: rest, record =>
    match fields.lookup name with
    | none => readEntries fields rest record
    | some change => (change d record).bind (readEntries fields rest)

/-- Reads the items of a list into the fields of a record in their order. -/
def readItems {α : Type} (format : DataFormat) : List (Field α) → List Datum → α → Option α
  | _, [], record => some record
  | [], _ :: _, record =>
    match format with
    | .json => none
    | .toml => some record
  | (_, change) :: fields, d :: rest, record =>
    (change d record).bind (readItems format fields rest)

/-- **A record**, from a table or from a list.  Fields that are not given keep their value. -/
def record? {α : Type} (format : DataFormat) (fields : List (Field α)) (start : α) (d : Datum) :
    Option α :=
  match d with
  | list items => readItems format fields items start
  | d => d.entries?.bind (readEntries fields · start)

end Datum

end NodeAgent
