import NodeAgent.Config.Datum
import NodeAgent.Text.Number
import NodeAgent.Text.Reader

/-!
# Simple values in TOML

Texts in four kinds of quotes, whole numbers in four radices, numbers with fractions, and moments in
time.  Numbers may be grouped by underscores, each between two digits.

## Main definitions

* `TomlError`: why a text is no TOML document.
* `quotedText`: a text in quotes.
* `number`: a number or a moment.
-/

namespace NodeAgent.Toml

open Text

/-- **Why a text is no TOML document.** -/
inductive TomlError
  | badSyntax
  | badText
  | badNumber
  | badMoment
  | repeatedKey
  | tooDeep
deriving DecidableEq, Repr, Inhabited

/-- What is said about a text that is no document. -/
def TomlError.message : TomlError → String
  | badSyntax => "invalid syntax"
  | badText => "invalid string"
  | badNumber => "invalid number"
  | badMoment => "invalid date or time"
  | repeatedKey => "duplicate key"
  | tooDeep => "recursion limit"

/-- A reader of a part of a document. -/
abbrev TomlReader := Reader TomlError

open Reader

/-- Space within a line. -/
def isSpace (c : Char) : Bool :=
  c == ' ' || c == '\t'

/-- Whether a character may stand for itself in a comment or in quotes, the quotes aside. -/
def isPlain (c : Char) : Bool :=
  c == '\t' || (0x20 ≤ c.toNat && c.toNat ≠ 0x7F)

/-- Reads space within a line. -/
def spaces : TomlReader Unit := do
  let _ ← takeWhile isSpace

/-- Reads a line end if one comes next; tells whether it did. -/
def lineEnd? : TomlReader Bool := do
  if ← takeText? "\n" then return true
  takeText? "\r\n"

/-! ## Texts -/

/-- Reads the digits of a numbered character. -/
def numberedChar (count : Nat) : TomlReader Char := fun cs =>
  match (cs.take count).mapM hexValue? with
  | some digits =>
    let n := digits.foldl (fun n d => n * 16 + d) 0
    if digits.length = count ∧ n.isValidChar then .ok (Char.ofNat n, cs.drop count)
    else .error .badText
  | none => .error .badText

/-- Reads an escape behind its backslash. -/
def escaped : TomlReader Char := do
  match ← takeChar .badText with
  | 'b' => return '\x08'
  | 't' => return '\t'
  | 'n' => return '\n'
  | 'f' => return '\x0c'
  | 'r' => return '\r'
  | '"' => return '"'
  | '\\' => return '\\'
  | 'u' => numberedChar 4
  | 'U' => numberedChar 8
  | _ => throw .badText

/-- Reads the rest of a text on one line, up to its closing quote. -/
def lineText (quote : Char) : Nat → TomlReader (List Char)
  | 0 => throw .badText
  | fuel + 1 => do
    let c ← takeChar .badText
    if c = quote then return []
    else if c = '\\' && quote = '"' then return (← escaped) :: (← lineText quote fuel)
    else if isPlain c then return c :: (← lineText quote fuel)
    else throw .badText

/-- Reads space and line ends. -/
def blankLines : Nat → TomlReader Unit
  | 0 => pure ()
  | fuel + 1 => do
    spaces
    if ← lineEnd? then blankLines fuel

/-- Reads an escaped line end if one comes next, behind the backslash; tells whether it did. -/
def foldedLine? : TomlReader Bool := fun cs =>
  let rest := cs.dropWhile isSpace
  match rest with
  | '\n' :: _ | '\r' :: '\n' :: _ => ((blankLines (rest.length + 1)).run rest).map (true, ·.2)
  | _ => .ok (false, cs)

/-- The number of quotes that come next. -/
def quotesNext (quote : Char) : TomlReader Nat :=
  fun cs => .ok ((cs.takeWhile (· = quote)).length, cs)

/-- Reads the rest of a text on several lines, up to its three closing quotes.  One or two quotes may
stand right in front of them. -/
def blockText (quote : Char) : Nat → TomlReader (List Char)
  | 0 => throw .badText
  | fuel + 1 => do
    let quotes ← quotesNext quote
    if 3 ≤ quotes then
      let inside := min (quotes - 3) 2
      takeText (String.ofList (List.replicate (inside + 3) quote)) .badText
      return List.replicate inside quote
    else if ← lineEnd? then return '\n' :: (← blockText quote fuel)
    else
      let c ← takeChar .badText
      if c = '\\' && quote = '"' then
        if ← foldedLine? then blockText quote fuel
        else return (← escaped) :: (← blockText quote fuel)
      else if isPlain c then return c :: (← blockText quote fuel)
      else throw .badText

/-- Reads a text on one line in quotes. -/
def shortText (quote : Char) : TomlReader String := do
  takeText (String.singleton quote) .badText
  return String.ofList (← lineText quote ((← remaining) + 1))

/-- **Reads a text in quotes.**  A line end right behind three quotes does not count. -/
def quotedText (quote : Char) : TomlReader String := do
  if ← takeText? (String.ofList [quote, quote, quote]) then
    let _ ← lineEnd?
    return String.ofList (← blockText quote ((← remaining) + 1))
  else shortText quote

/-! ## Numbers -/

/-- Whether underscores stand between digits only. -/
def isGrouped : List Char → Bool
  | [] => false
  | ['_'] => false
  | [_] => true
  | '_' :: _ => false
  | _ :: '_' :: rest => isGrouped rest
  | _ :: rest => isGrouped rest

/-- Reads digits of a radix, grouped by underscores. -/
def digits (radix : Nat) : TomlReader (List Nat) := do
  let isDigit (c : Char) : Bool := ((hexValue? c).filter (· < radix)).isSome
  let cs ← takeWhile fun c => isDigit c || c == '_'
  if isGrouped cs then return cs.filterMap hexValue?
  else throw .badNumber

/-- The number that digits stand for. -/
def valueOf (radix : Nat) (ds : List Nat) : Nat :=
  ds.foldl (fun n d => n * radix + d) 0

/-- A whole number of 64 bits with a sign. -/
def wholeNumber (negative : Bool) (n : Nat) : TomlReader Datum :=
  if n < (1 <<< 63) ∨ (negative ∧ n = 1 <<< 63) then return .int (if negative then -n else n)
  else throw .badNumber

/-- Whether a number, as digits and an exponent of ten, is beyond the greatest fraction: half a step
above it counts as infinite. -/
def isBeyondRange (n : Nat) (exponent : Int) : Bool :=
  let size : Int := (Nat.toDigits 10 n).length + exponent
  if n = 0 || size < 300 then false
  else if 320 < size then true
  else if 0 ≤ exponent then (1 <<< 1024) - (1 <<< 970) ≤ n * Nat.pow 10 exponent.toNat
  else ((1 <<< 1024) - (1 <<< 970)) * Nat.pow 10 (-exponent).toNat ≤ n

/-- Reads the exponent of a number, behind its letter. -/
def exponentPart : TomlReader Int := do
  let negative ← takeText? "-"
  if !negative then
    let _ ← takeText? "+"
  let n := valueOf 10 (← digits 10)
  return if negative then -n else n

/-- Reads an exponent if one comes next. -/
def exponent? : TomlReader (Option Int) := do
  if ← charComesNext fun c => c == 'e' || c == 'E' then
    let _ ← takeChar .badNumber
    return some (← exponentPart)
  else return none

/-- Reads a decimal number behind its sign. -/
def decimal (negative : Bool) : TomlReader Datum := do
  let whole ← digits 10
  if whole.head? = some 0 && whole.length ≠ 1 then throw .badNumber
  let fraction ← if ← takeText? "." then some <$> digits 10 else pure none
  let exponent ← exponent?
  if fraction.isNone && exponent.isNone then wholeNumber negative (valueOf 10 whole)
  else
    let places := (fraction.getD []).length
    let n := valueOf 10 (whole ++ fraction.getD [])
    if !negative && isBeyondRange n (exponent.getD 0 - places) then throw .badNumber
    return .fraction

/-- Reads the name of a special number if one comes next; tells whether it did. -/
def specialNumber? : TomlReader Bool := do
  if ← takeText? "inf" then return true
  takeText? "nan"

/-- Reads a number of another radix behind its mark. -/
def marked (radix : Nat) : TomlReader Datum := do
  wholeNumber false (valueOf radix (← digits radix))

/-! ## Moments -/

/-- Reads a number of exactly so many digits, between two bounds. -/
def fixedDigits (count first last : Nat) : TomlReader String := do
  let ds ← takeWhile fun c => c.isDigit
  let n := valueOf 10 (ds.filterMap hexValue?)
  if ds.length = count ∧ first ≤ n ∧ n ≤ last then return String.ofList ds
  else throw .badMoment

/-- The number of days of a month. -/
def daysIn (year month : Nat) : Nat :=
  if month = 2 then
    if year % 4 = 0 ∧ (year % 100 ≠ 0 ∨ year % 400 = 0) then 29 else 28
  else if month = 4 ∨ month = 6 ∨ month = 9 ∨ month = 11 then 30 else 31

/-- Reads a date. -/
def date : TomlReader String := do
  let year ← fixedDigits 4 0 9999
  takeText "-" .badMoment
  let month ← fixedDigits 2 1 12
  takeText "-" .badMoment
  let day ← fixedDigits 2 1 (daysIn (year.toNat?.getD 0) (month.toNat?.getD 0))
  return year ++ "-" ++ month ++ "-" ++ day

/-- The fraction of a second, to nine places and without zeros at its end. -/
def secondFraction (ds : List Char) : String :=
  let kept := ((ds.take 9).reverse.dropWhile (· = '0')).reverse
  if kept.isEmpty then "" else "." ++ String.ofList kept

/-- Reads a time of day. -/
def timeOfDay : TomlReader String := do
  let hour ← fixedDigits 2 0 23
  takeText ":" .badMoment
  let minute ← fixedDigits 2 0 59
  takeText ":" .badMoment
  let second ← fixedDigits 2 0 60
  let start := hour ++ ":" ++ minute ++ ":" ++ second
  if ← takeText? "." then
    let ds ← takeWhile fun c => c.isDigit
    if ds.isEmpty then throw .badMoment
    return start ++ secondFraction ds
  else return start

/-- Reads the distance from universal time, if one comes next. -/
def offset : TomlReader String := do
  if ← charComesNext fun c => c == 'Z' || c == 'z' then
    let _ ← takeChar .badMoment
    return "Z"
  else if ← charComesNext fun c => c == '+' || c == '-' then
    let sign ← takeChar .badMoment
    let hour ← fixedDigits 2 0 23
    takeText ":" .badMoment
    let minute ← fixedDigits 2 0 59
    let distance := hour ++ ":" ++ minute
    return (if sign = '-' && distance ≠ "00:00" then "-" else "+") ++ distance
  else return ""

/-- Whether a time of day comes next. -/
def timeComesNext : TomlReader Bool := fun cs =>
  match cs with
  | a :: b :: ':' :: _ => .ok (a.isDigit && b.isDigit, cs)
  | _ => .ok (false, cs)

/-- Whether a date comes next. -/
def dateComesNext : TomlReader Bool := fun cs =>
  match cs with
  | a :: b :: c :: d :: '-' :: _ => .ok (a.isDigit && b.isDigit && c.isDigit && d.isDigit, cs)
  | _ => .ok (false, cs)

/-- Reads the letter or space between a date and a time of day, if both come next. -/
def timeMark? : TomlReader Bool := fun cs =>
  match cs with
  | mark :: a :: b :: ':' :: rest =>
    if (mark = 'T' ∨ mark = 't' ∨ mark = ' ') ∧ a.isDigit ∧ b.isDigit then
      .ok (true, a :: b :: ':' :: rest)
    else .ok (false, cs)
  | _ => .ok (false, cs)

/-- Reads a date with an optional time of day. -/
def moment : TomlReader Datum := do
  let day ← date
  if ← timeMark? then
    let time ← timeOfDay
    let distance ← offset
    return .moment (day ++ "T" ++ time ++ distance)
  else return .moment day

/-- **Reads a number or a moment.** -/
def number : TomlReader Datum := do
  if ← dateComesNext then moment
  else if ← timeComesNext then return .moment (← timeOfDay)
  else if ← takeText? "0x" then marked 16
  else if ← takeText? "0o" then marked 8
  else if ← takeText? "0b" then marked 2
  else
    let negative ← takeText? "-"
    if !negative then
      let _ ← takeText? "+"
    if ← specialNumber? then return .fraction
    decimal negative

end NodeAgent.Toml
