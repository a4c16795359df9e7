/-!
# Cutting texts

Texts are cut at separators: at the first one, at each one, at the ends of lines, or at blanks.  *Blanks*
are the characters with the Unicode property `White_Space`, and no others: a zero-width space is not a
blank, a no-break space is.

## Main definitions

* `isBlank`: the property.
* `trim`: a text without the blanks at its two ends.
* `words`: the maximal blank-free pieces of a text, in order.
* `splitAtFirst`: the parts around the first separator.
* `splitOnChar`: the pieces between separators.
* `lines`: the lines of a text.
-/

namespace NodeAgent.Text

/-! ## Blanks -/

/-- **The property `White_Space`**, as the code points that have it. -/
def isBlank (c : Char) : Bool :=
  let n := c.toNat
  (9 ≤ n && n ≤ 13) || n == 32 || n == 0x85 || n == 0xA0 || n == 0x1680
    || (0x2000 ≤ n && n ≤ 0x200A) || n == 0x2028 || n == 0x2029 || n == 0x202F
    || n == 0x205F || n == 0x3000

/-- Drops the blanks in front. -/
def trimStart (cs : List Char) : List Char :=
  cs.dropWhile isBlank

/-- Drops the blanks at the end. -/
def trimEnd (cs : List Char) : List Char :=
  (cs.reverse.dropWhile isBlank).reverse

/-- Drops the blanks at both ends. -/
def trimChars (cs : List Char) : List Char :=
  trimEnd (trimStart cs)

/-- Drops the blanks at both ends of a text. -/
def trim (s : String) : String :=
  String.ofList (trimChars s.toList)

/-- **The words of a text**: its maximal pieces without a blank.  A piece is never empty. -/
def wordsChars : List Char → List (List Char)
  | [] => []
  | c :: rest =>
    if isBlank c then wordsChars rest
    else match rest, wordsChars rest with
      | d :: _, w :: ws => if isBlank d then [c] :: w :: ws else (c :: w) :: ws
      | _, ws => [c] :: ws

/-- The words of a text, in order. -/
def words (s : String) : List String :=
  (wordsChars s.toList).map String.ofList

/-- Whether a text holds no character but blanks. -/
def isBlankText (s : String) : Bool :=
  s.toList.all isBlank

/-! ## Separators -/

/-- The two parts of a text around the first character that satisfies `p`, which belongs to
neither. -/
def splitAtFirst (p : Char → Bool) : List Char → Option (List Char × List Char)
  | [] => none
  | c :: rest =>
    if p c then some ([], rest)
    else (splitAtFirst p rest).map fun (before, after) => (c :: before, after)

/-- **The lines of a text.**  A line ends with a line feed, which is dropped together with a carriage
return right before it; what follows the last line feed is a line unless it is empty. -/
def lines : List Char → List (List Char)
  | [] => []
  | '\n' :: rest => [] :: lines rest
  | '\r' :: '\n' :: rest => [] :: lines rest
  | c :: rest =>
    match lines rest with
    | [] => [[c]]
    | line :: more => (c :: line) :: more

/-- The pieces of a text between occurrences of a separator. -/
def splitOnChar (separator : Char) : List Char → List (List Char)
  | [] => [[]]
  | c :: rest =>
    match splitOnChar separator rest with
    | [] => [[c]]
    | piece :: more => if c == separator then [] :: piece :: more else (c :: piece) :: more

end NodeAgent.Text
