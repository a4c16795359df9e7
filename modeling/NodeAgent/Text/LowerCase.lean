import NodeAgent.Text.CaseTable

/-!
# Lower case

The full lower-case mapping of Unicode on texts.  Two things make it more than a map over
characters: `İ` becomes two characters, and a capital sigma becomes a final sigma at the end of a
word.

## Main definitions

* `lowerChar`: the lower-case partner of one character.
* `isFinalSigma`: the condition under which a capital sigma is word-final.
* `toLower`: the lower-case form of a text.
-/

namespace NodeAgent.Text

/-- The code point at a distance from another. -/
def shift (n : Nat) (distance : Int) : Char :=
  Char.ofNat (Int.toNat (n + distance))

/-- The single lower-case partner of a character; the character itself if it has none. -/
def lowerChar (c : Char) : Char :=
  let n := c.toNat
  if n < 0x80 then c.toLower
  else
    match lowerRuns.find? fun (first, last, step, _) =>
        first ≤ n && n ≤ last && (n - first) % step == 0 with
    | some (_, _, _, distance) => shift n distance
    | none => c

/-- The property `Cased`. -/
def isCased (c : Char) : Bool :=
  inRanges casedRanges c.toNat

/-- The property `Case_Ignorable`. -/
def isCaseIgnorable (c : Char) : Bool :=
  inRanges caseIgnorableRanges c.toNat

/-- Whether the first character that is not ignorable is cased. -/
def startsCased (cs : List Char) : Bool :=
  match cs.dropWhile isCaseIgnorable with
  | [] => false
  | c :: _ => isCased c

/-- **The condition `Final_Sigma`**: a cased letter comes before, ignorable characters aside, and none
comes after.  `before` is reversed. -/
def isFinalSigma (before after : List Char) : Bool :=
  startsCased before && !startsCased after

/-- The lower-case form of what follows `before`, which is reversed. -/
def toLowerChars (before : List Char) : List Char → List Char
  | [] => []
  | c :: rest =>
    let lowered :=
      if c == 'Σ' then (if isFinalSigma before rest then ['ς'] else ['σ'])
      else if c == 'İ' then ['i', '\u0307']
      else [lowerChar c]
    lowered ++ toLowerChars (c :: before) rest

/-- **The lower-case form of a text.** -/
def toLower (s : String) : String :=
  String.ofList (toLowerChars [] s.toList)

/-- The lower-case form of the ASCII letters of a text; everything else stays. -/
def toLowerAscii (s : String) : String :=
  s.map fun c => if 'A' ≤ c ∧ c ≤ 'Z' then c.toLower else c

end NodeAgent.Text
